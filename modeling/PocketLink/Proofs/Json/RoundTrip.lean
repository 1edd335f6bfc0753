import Mathlib.Data.List.DropRight
import PocketLink.Json.Printer
import PocketLink.Json.Reader
import PocketLink.Json.Record

/-!
# Documents read back

A document that was written in the spread layout reads back as the value that it was written for.
Numbers are written as plain integers and strings for the texts that they stand for, so the
statement is about values that hold nothing else.

A value is read to its end and no further, whatever stands behind it, except that a number needs
something behind it that could not go on with it. The fuel of a reader is enough if there is some
for each character.
-/

namespace PocketLink.Json

/-! ## Strings -/

/-- A character is read as its units, whatever was read before it and whatever is behind it. -/
theorem unitsFrom?_escape (before : List UInt16) (c : Char) (rest : List Char) :
    unitsFrom? before (escape c ++ rest) =
      unitsFrom? ((Utf16.ofChar c).reverse ++ before) rest := by
  unfold escape
  split
  · rfl
  · rfl
  · rfl
  · rfl
  · rfl
  · rfl
  · rfl
  · next hquote hslash _ _ _ _ _ =>
    split
    · next hcontrol =>
      -- Four digits say the number of a control character, which is its only unit.
      obtain ⟨e, f, g, h, hfour⟩ : ∃ e f g h, Hex.fixed Hex.lower 4 c.toNat = [e, f, g, h] :=
        ⟨_, _, _, _, rfl⟩
      have hvalue : Hex.valueFrom? 0 [e, f, g, h] = some c.toNat := by
        rw [← hfour, Hex.valueFrom?_fixed fun n hn => Hex.value?_lower hn]
        simp only [Hex.span]
        congr 1
        omega
      have hunit : Utf16.ofChar c = [UInt16.ofNat c.toNat] := Utf16.ofChar_of_lt (by omega)
      rw [hfour, hunit]
      simp [unitsFrom?, hvalue]
    · next hplain =>
      have hallowed : ¬ (decide (c.toNat < 0x20) || decide (c = '\\')) = true := by
        rw [Bool.or_eq_true, decide_eq_true_eq, decide_eq_true_eq]
        exact fun hbad => hbad.elim hplain hslash
      rw [List.singleton_append, unitsFrom?, if_neg hallowed]
      · exact hquote
      · exact fun _ _ _ _ _ heq => absurd heq hslash
      · exact fun _ _ heq => absurd heq hslash

theorem unitsFrom?_flatMap (before : List UInt16) (text rest : List Char) :
    unitsFrom? before (text.flatMap escape ++ '"' :: rest) =
      some (before.reverse ++ text.flatMap Utf16.ofChar, rest) := by
  induction text generalizing before with
  | nil => simp [unitsFrom?]
  | cons c text ih =>
    rw [List.flatMap_cons, List.append_assoc, unitsFrom?_escape, ih]
    simp

/-- A string literal stands for the text that it was written for. -/
theorem literal?_flatMap (text : String) (rest : List Char) :
    literal? (text.toList.flatMap escape ++ '"' :: rest) = some (some text, rest) := by
  have hdecode : Utf16.decode? (text.toList.flatMap Utf16.ofChar) = some text :=
    Utf16.decode?_encode text
  simp [literal?, unitsFrom?_flatMap, hdecode]

/-! ## Numbers -/

/-- What can stand behind a number: nothing that would go on with it. -/
def EndsNumber (rest : List Char) : Prop :=
  ∀ c ∈ rest.head?, c.isDigit = false ∧ c ≠ '.' ∧ c ≠ 'e' ∧ c ≠ 'E'

theorem EndsNumber.span {rest : List Char} (h : EndsNumber rest) :
    rest.takeWhile Char.isDigit = [] ∧ rest.dropWhile Char.isDigit = rest := by
  cases rest with
  | nil => exact ⟨rfl, rfl⟩
  | cons c rest =>
    have hc : ¬ c.isDigit = true := by
      rw [(h c rfl).1]
      exact Bool.false_ne_true
    exact ⟨List.takeWhile_cons_of_neg hc, List.dropWhile_cons_of_neg hc⟩

theorem digits?_toDigits (n : Nat) {rest : List Char} (h : EndsNumber rest) :
    digits? (Nat.toDigits 10 n ++ rest) = some (Nat.toDigits 10 n, rest) := by
  have hdigits : ∀ c ∈ Nat.toDigits 10 n, c.isDigit = true :=
    fun c hc => Nat.isDigit_of_mem_toDigits (by decide) (by decide) hc
  have hne : Nat.toDigits 10 n ≠ [] := Nat.toDigits_ne_nil
  rw [digits?, List.takeWhile_append_of_pos hdigits, List.dropWhile_append_of_pos hdigits, h.span.1,
    h.span.2, List.append_nil]
  split
  · contradiction
  · rfl

theorem digitsValue_toDigits (n : Nat) : digitsValue (Nat.toDigits 10 n) = n :=
  Nat.ofDigitChars_toDigits (by decide) (by decide)

/-- No number but zero is written with a zero in front. -/
theorem head?_toDigits {n : Nat} (h : 0 < n) : (Nat.toDigits 10 n).head? ≠ some '0' := by
  induction n using Nat.strongRecOn with
  | _ n ih =>
    by_cases hsmall : n < 10
    · have hdigit : ∀ k : Fin 10, 0 < k.val → [k.val.digitChar].head? ≠ some '0' := by decide
      rw [Nat.toDigits_of_lt_base hsmall]
      exact hdigit ⟨n, hsmall⟩ h
    · have hhigh : 0 < n / 10 := by omega
      have hlow : n % 10 < 10 := by omega
      have hsplit := Nat.toDigits_append_toDigits (by decide) hhigh hlow
      rw [Nat.div_add_mod] at hsplit
      have hfirst := ih (n / 10) (by omega) hhigh
      rw [← hsplit, List.head?_append]
      cases hhead : (Nat.toDigits 10 (n / 10)).head? with
      | none => exact absurd (List.head?_eq_none_iff.mp hhead) Nat.toDigits_ne_nil
      | some c =>
        rw [hhead] at hfirst
        exact hfirst

theorem fraction?_of_endsNumber {rest : List Char} (h : EndsNumber rest) :
    fraction? rest = some ([], rest) := by
  unfold fraction?
  split
  · next rest => exact absurd rfl (h '.' rfl).2.1
  · rfl

theorem exponent?_of_endsNumber {rest : List Char} (h : EndsNumber rest) :
    exponent? rest = some ([], rest) := by
  cases rest with
  | nil => rfl
  | cons c rest =>
    obtain ⟨-, -, he, hE⟩ := h c rfl
    simp [exponent?, he, hE]

theorem leading_toDigits (n : Nat) :
    ¬ (1 < (Nat.toDigits 10 n).length ∧ (Nat.toDigits 10 n).head? = some '0') := by
  rintro ⟨hlength, hzero⟩
  cases n with
  | zero => exact absurd hlength (by decide)
  | succ n => exact head?_toDigits (Nat.succ_pos n) hzero

/-- A whole number reads back, with its sign. -/
theorem number?_digits (n : Int) {rest : List Char} (h : EndsNumber rest) :
    number? (digits n ++ rest) = some (.integer n, rest) := by
  have hfraction := fraction?_of_endsNumber h
  have hexponent := exponent?_of_endsNumber h
  cases n with
  | ofNat n =>
    have hminus : ∀ tail, Nat.toDigits 10 n ++ rest ≠ '-' :: tail := by
      intro tail heq
      have hmem : '-' ∈ Nat.toDigits 10 n := by
        cases hdigits : Nat.toDigits 10 n with
        | nil => exact absurd hdigits Nat.toDigits_ne_nil
        | cons c cs =>
          rw [hdigits] at heq
          cases heq
          exact List.mem_cons_self ..
      exact absurd (Nat.isDigit_of_mem_toDigits (by decide) (by decide) hmem) (by decide)
    have hlead := leading_toDigits n
    rw [digits, number?]
    · simp [digits?_toDigits n h, hfraction, hexponent, digitsValue_toDigits, hlead]
    · exact hminus
  | negSucc n =>
    have hlead := leading_toDigits (n + 1)
    have hnegative : -((n : Int) + 1) = .negSucc n := (Int.negSucc_eq n).symm
    simp [digits, number?, digits?_toDigits (n + 1) h, hfraction, hexponent, digitsValue_toDigits,
      hlead, hnegative]

/-! ## Values -/

/-- The values that a document says everything about: their numbers are whole, and their strings and
the names of their members stand for texts. -/
inductive Plain : Json → Prop
  | null : Plain .null
  | bool (value : Bool) : Plain (.bool value)
  | integer (value : Int) : Plain (.integer value)
  | string (text : String) : Plain (.string (some text))
  | array {items : List Json} (h : ∀ item ∈ items, Plain item) : Plain (.array items)
  | object {members : List (Literal × Json)} (names : ∀ m ∈ members, ∃ name, m.1 = some name)
      (h : ∀ m ∈ members, Plain m.2) : Plain (.object members)

theorem skip_newLine (level : Nat) (cs : List Char) : skip (newLine level ++ cs) = skip cs := by
  have hblank : ∀ c ∈ newLine level, isBlank c = true := by
    intro c hc
    rcases List.mem_cons.mp hc with rfl | hc
    · rfl
    · rw [List.eq_of_mem_replicate hc]
      rfl
  exact List.dropWhile_append_of_pos hblank

theorem skip_cons_of_not_blank {c : Char} (h : isBlank c = false) (cs : List Char) :
    skip (c :: cs) = c :: cs :=
  List.dropWhile_cons_of_neg (by rw [h]; exact Bool.false_ne_true)

theorem skip_skip (cs : List Char) : skip (skip cs) = skip cs := List.dropWhile_idempotent _ _

/-- Blanks in front of a value are passed over. -/
theorem value?_eq_of_skip {cs cs' : List Char} (h : skip cs = skip cs') (fuel : Nat) :
    value? fuel cs = value? fuel cs' := by
  cases fuel with
  | zero => rfl
  | succ fuel => rw [value?, value?, h]

/-- A value that reads back at every level of nesting, as long as there is fuel for each of its
characters, and if it does not run into what is behind it. -/
def ReadsBack (v : Json) : Prop :=
  ∀ level fuel rest, (spreadChars level v).length ≤ fuel → EndsNumber rest →
    value? fuel (spreadChars level v ++ rest) = some (v, rest)

variable {v : Json} {level fuel : Nat} {rest : List Char}

theorem endsNumber_newLine (level : Nat) (rest : List Char) :
    EndsNumber (newLine level ++ rest) := by
  intro c hc
  cases hc
  decide

theorem endsNumber_comma (rest : List Char) : EndsNumber (',' :: rest) := by
  intro c hc
  cases hc
  decide

theorem readsBack_string (text : String) : ReadsBack (.string (some text)) := by
  intro level fuel rest hfuel _
  have hquote : spreadChars level (.string (some text)) ++ rest =
      '"' :: (text.toList.flatMap escape ++ '"' :: rest) := by
    simp [spreadChars, quoteLiteral, quote]
  rw [hquote]
  cases fuel with
  | zero => simp [spreadChars, quoteLiteral, quote] at hfuel
  | succ fuel =>
    rw [value?, skip_cons_of_not_blank rfl]
    simp [literal?_flatMap]

/-- What starts like a number is read as one. -/
theorem value?_number {c : Char} (hc : c.isDigit = true ∨ c = '-') (fuel : Nat) (cs : List Char) :
    value? (fuel + 1) (c :: cs) = number? (c :: cs) := by
  have hblank : isBlank c = false := by
    rw [Bool.eq_false_iff]
    intro hblank
    simp only [isBlank, Bool.or_eq_true, decide_eq_true_eq] at hblank
    rcases hblank with ((rfl | rfl) | rfl) | rfl
    all_goals exact absurd hc (by decide)
  rw [value?, skip_cons_of_not_blank hblank]
  split
  · next heq => cases heq; simp at hc
  · next heq => cases heq; simp at hc
  · next heq => cases heq; simp at hc
  · next heq => cases heq; simp at hc
  · next heq => cases heq; simp at hc
  · next heq => cases heq; simp at hc
  · rfl

theorem digits_eq_cons (n : Int) :
    ∃ c cs, digits n = c :: cs ∧ (c.isDigit = true ∨ c = '-') := by
  cases n with
  | ofNat n =>
    cases hdigits : Nat.toDigits 10 n with
    | nil => exact absurd hdigits Nat.toDigits_ne_nil
    | cons c cs =>
      have hmem : c ∈ Nat.toDigits 10 n := by
        rw [hdigits]
        exact List.mem_cons_self ..
      exact ⟨c, cs, hdigits, Or.inl (Nat.isDigit_of_mem_toDigits (by decide) (by decide) hmem)⟩
  | negSucc n => exact ⟨'-', _, rfl, Or.inr rfl⟩

theorem readsBack_integer (n : Int) : ReadsBack (.integer n) := by
  intro level fuel rest hfuel hends
  have hnumber := number?_digits n hends
  obtain ⟨c, cs, hdigits, hc⟩ := digits_eq_cons n
  rw [spreadChars, hdigits] at hfuel ⊢
  rw [hdigits] at hnumber
  cases fuel with
  | zero => exact absurd hfuel (Nat.not_succ_le_zero _)
  | succ fuel => exact (value?_number hc fuel _).trans hnumber

/-! ## Lists -/

/-- The next item of a list, on a line of its own. -/
theorem value?_newLine (h : ReadsBack v) (hfuel : (spreadChars level v).length ≤ fuel)
    (hends : EndsNumber rest) :
    value? fuel (newLine level ++ (spreadChars level v ++ rest)) = some (v, rest) := by
  rw [value?_eq_of_skip (skip_newLine level _)]
  exact h level fuel rest hfuel hends

theorem items?_spreadItems {items : List Json} (h : ∀ item ∈ items, ReadsBack item)
    (hne : items ≠ []) (before : List Json) (hfuel : (spreadItems level items).length ≤ fuel)
    (outer : Nat) :
    items? fuel before (spreadItems level items ++ (newLine outer ++ ']' :: rest)) =
      some (.array (before.reverse ++ items), rest) := by
  induction items generalizing fuel before with
  | nil => contradiction
  | cons item items ih =>
    have hitem : ReadsBack item := h item (List.mem_cons_self ..)
    cases fuel with
    | zero => cases items <;> simp [spreadItems, newLine] at hfuel
    | succ fuel =>
      cases items with
      | nil =>
        have hlength : (spreadChars level item).length ≤ fuel := by
          simp only [spreadItems, newLine, List.length_append, List.length_cons] at hfuel
          omega
        rw [spreadItems, List.append_assoc, items?,
          value?_newLine hitem hlength (endsNumber_newLine outer _)]
        simp only [skip_newLine, skip_cons_of_not_blank (c := ']') rfl, List.reverse_cons]
      | cons next items =>
        have hlengths : (spreadChars level item).length ≤ fuel ∧
            (spreadItems level (next :: items)).length ≤ fuel := by
          simp only [spreadItems, newLine, List.length_append, List.length_cons] at hfuel ⊢
          omega
        have hrest := ih (fun other hother => h other (List.mem_cons_of_mem item hother))
          (List.cons_ne_nil next items) (item :: before) hlengths.2
        rw [spreadItems, List.append_assoc, List.append_assoc, List.cons_append, items?,
          value?_newLine hitem hlengths.1 (endsNumber_comma _)]
        · simp only [skip_cons_of_not_blank (c := ',') rfl, hrest, List.reverse_cons,
            List.append_assoc, List.singleton_append]
        · exact List.cons_ne_nil next items

theorem items?_close (fuel : Nat) (before : List Json) (cs : List Char) :
    items? fuel before (']' :: cs) = none := by
  cases fuel with
  | zero => rfl
  | succ fuel =>
    rw [items?]
    cases fuel with
    | zero => rfl
    | succ fuel => rw [value?, skip_cons_of_not_blank rfl]; rfl

/-- A list in which an item can be read is not the empty one: nothing is read of its bracket. -/
theorem value?_array {cs : List Char} {found : Json × List Char}
    (h : items? fuel [] cs = some found) : value? (fuel + 1) ('[' :: cs) = some found := by
  have hskipped : items? fuel [] (skip cs) = some found := by
    cases fuel with
    | zero => cases h
    | succ fuel =>
      rw [items?] at h ⊢
      rw [value?_eq_of_skip (skip_skip cs)]
      exact h
  rw [value?, skip_cons_of_not_blank rfl]
  simp only
  split
  · next tail hclose =>
    rw [hclose, items?_close] at hskipped
    cases hskipped
  · exact hskipped

theorem readsBack_array {items : List Json} (h : ∀ item ∈ items, ReadsBack item) :
    ReadsBack (.array items) := by
  intro level fuel rest hfuel _
  cases fuel with
  | zero => cases items <;> simp [spreadChars] at hfuel
  | succ fuel =>
    cases items with
    | nil => rw [spreadChars]; rfl
    | cons item items =>
      have hlength : (spreadItems (level + 1) (item :: items)).length ≤ fuel := by
        simp only [spreadChars, List.length_append, List.length_cons] at hfuel
        omega
      have hitems := @items?_spreadItems (level + 1) fuel rest _ h (List.cons_ne_nil item items) []
        hlength level
      rw [spreadChars]
      · simp only [List.cons_append, List.append_assoc]
        exact value?_array hitems
      · exact List.cons_ne_nil item items

/-! ## Members -/

theorem quoteLiteral_append (name : String) (cs : List Char) :
    quoteLiteral (some name) ++ cs = '"' :: (name.toList.flatMap escape ++ '"' :: cs) := by
  simp [quoteLiteral, quote]

/-- What is read behind some members: more of them, or the end of the object. -/
def membersBehind? (fuel : Nat) (before : List (Literal × Json)) (cs : List Char) :
    Option (Json × List Char) :=
  match skip cs with
  | ',' :: rest => members? fuel before rest
  | '}' :: rest => some (.object before.reverse, rest)
  | _ => none

/-- The next member of an object, on a line of its own: its name, and then its value. -/
theorem members?_newLine (name : String) (h : ReadsBack v)
    (hfuel : (spreadChars level v).length ≤ fuel) (hends : EndsNumber rest)
    (before : List (Literal × Json)) :
    members? (fuel + 1) before (newLine level ++
        (quoteLiteral (some name) ++ ':' :: ' ' :: (spreadChars level v ++ rest))) =
      membersBehind? fuel ((some name, v) :: before) rest := by
  have hvalue : value? fuel (' ' :: (spreadChars level v ++ rest)) = some (v, rest) :=
    (value?_eq_of_skip (List.dropWhile_cons_of_pos rfl) fuel).trans (h level fuel rest hfuel hends)
  rw [members?, skip_newLine, quoteLiteral_append, skip_cons_of_not_blank rfl]
  simp only [literal?_flatMap, skip_cons_of_not_blank (c := ':') rfl, hvalue]
  rfl

theorem members?_spreadMembers {members : List (Literal × Json)}
    (names : ∀ m ∈ members, ∃ name, m.1 = some name) (h : ∀ m ∈ members, ReadsBack m.2)
    (hne : members ≠ []) (before : List (Literal × Json))
    (hfuel : (spreadMembers level members).length ≤ fuel) (outer : Nat) :
    members? fuel before (spreadMembers level members ++ (newLine outer ++ '}' :: rest)) =
      some (.object (before.reverse ++ members), rest) := by
  induction members generalizing fuel before with
  | nil => contradiction
  | cons m members ih =>
    obtain ⟨name, hname⟩ := names m (List.mem_cons_self ..)
    have hm : ReadsBack m.2 := h m (List.mem_cons_self ..)
    obtain ⟨_, v⟩ := m
    cases hname
    cases fuel with
    | zero => cases members <;> simp [spreadMembers, newLine] at hfuel
    | succ fuel =>
      cases members with
      | nil =>
        have hlength : (spreadChars level v).length ≤ fuel := by
          simp only [spreadMembers, newLine, List.length_append, List.length_cons] at hfuel
          omega
        rw [spreadMembers]
        simp only [List.append_assoc, List.cons_append, List.nil_append]
        rw [members?_newLine name hm hlength (endsNumber_newLine outer _), membersBehind?]
        simp only [skip_newLine, skip_cons_of_not_blank (c := '}') rfl, List.reverse_cons]
      | cons next members =>
        have hlengths : (spreadChars level v).length ≤ fuel ∧
            (spreadMembers level (next :: members)).length ≤ fuel := by
          simp only [spreadMembers, newLine, List.length_append, List.length_cons] at hfuel ⊢
          omega
        have hrest := ih (fun other hother => names other (List.mem_cons_of_mem _ hother))
          (fun other hother => h other (List.mem_cons_of_mem _ hother))
          (List.cons_ne_nil next members) ((some name, v) :: before) hlengths.2
        rw [spreadMembers]
        · simp only [List.append_assoc, List.cons_append, List.nil_append]
          rw [members?_newLine name hm hlengths.1 (endsNumber_comma _), membersBehind?]
          simp only [skip_cons_of_not_blank (c := ',') rfl, hrest, List.reverse_cons,
            List.append_assoc, List.singleton_append]
        · exact List.cons_ne_nil next members

theorem members?_close (fuel : Nat) (before : List (Literal × Json)) (cs : List Char) :
    members? fuel before ('}' :: cs) = none := by
  cases fuel with
  | zero => rfl
  | succ fuel => rw [members?, skip_cons_of_not_blank rfl]; rfl

theorem value?_object {cs : List Char} {found : Json × List Char}
    (h : members? fuel [] cs = some found) : value? (fuel + 1) ('{' :: cs) = some found := by
  have hskipped : members? fuel [] (skip cs) = some found := by
    cases fuel with
    | zero => cases h
    | succ fuel =>
      rw [members?] at h ⊢
      rw [skip_skip]
      exact h
  rw [value?, skip_cons_of_not_blank rfl]
  simp only
  split
  · next tail hclose =>
    rw [hclose, members?_close] at hskipped
    cases hskipped
  · exact hskipped

theorem readsBack_object {members : List (Literal × Json)}
    (names : ∀ m ∈ members, ∃ name, m.1 = some name) (h : ∀ m ∈ members, ReadsBack m.2) :
    ReadsBack (.object members) := by
  intro level fuel rest hfuel _
  cases fuel with
  | zero => cases members <;> simp [spreadChars] at hfuel
  | succ fuel =>
    cases members with
    | nil => rw [spreadChars]; rfl
    | cons m members =>
      have hlength : (spreadMembers (level + 1) (m :: members)).length ≤ fuel := by
        simp only [spreadChars, List.length_append, List.length_cons] at hfuel
        omega
      have hmembers := @members?_spreadMembers (level + 1) fuel rest _ names h
        (List.cons_ne_nil m members) [] hlength level
      rw [spreadChars]
      · simp only [List.cons_append, List.append_assoc]
        exact value?_object hmembers
      · exact List.cons_ne_nil m members

/-! ## Documents -/

theorem Plain.readsBack (h : Plain v) : ReadsBack v := by
  induction h with
  | null =>
    intro level fuel rest hfuel _
    cases fuel with
    | zero => cases hfuel
    | succ fuel => rfl
  | bool value =>
    intro level fuel rest hfuel _
    cases fuel with
    | zero => cases value <;> cases hfuel
    | succ fuel => cases value <;> rfl
  | integer value => exact readsBack_integer value
  | string text => exact readsBack_string text
  | array h ih => exact readsBack_array ih
  | object names h ih => exact readsBack_object names ih

/-- A document reads back as the value that it was written for. -/
theorem parse?_spread (h : Plain v) : parse? v.spread = some v := by
  have hends : EndsNumber [] := by
    intro c hc
    cases hc
  have hvalue := h.readsBack 0 (2 * (spreadChars 0 v).length + 2) [] (by omega) hends
  rw [List.append_nil] at hvalue
  rw [parse?, spread, String.toList_ofList, hvalue]
  rfl

/-! ## Records -/

section Records

variable {names : List String} {values : List Json}

theorem find?_zip (hnodup : names.Nodup) (hlength : names.length = values.length) :
    names.map (fun name => ((names.zip values).find? fun m => m.1 == name).map Prod.snd) =
      values.map some := by
  induction names generalizing values with
  | nil =>
    cases List.length_eq_zero_iff.mp hlength.symm
    rfl
  | cons name names ih =>
    cases values with
    | nil => cases hlength
    | cons value values =>
      obtain ⟨hnew, hrest⟩ := List.nodup_cons.mp hnodup
      -- The other names pass over the first member.
      have hothers : names.map (fun other =>
          (((name, value) :: names.zip values).find? fun m => m.1 == other).map Prod.snd) =
          names.map fun other => ((names.zip values).find? fun m => m.1 == other).map Prod.snd := by
        refine List.map_congr_left fun other hother => ?_
        have hne : ¬ (name == other) = true := by
          rw [beq_iff_eq]
          rintro rfl
          exact hnew hother
        exact congrArg (Option.map Prod.snd) (List.find?_cons_of_neg hne)
      have hfirst : ((name, value) :: names.zip values).find? (fun m => m.1 == name) =
          some (name, value) := List.find?_cons_of_pos (beq_self_eq_true name)
      rw [List.zip_cons_cons, List.map_cons, List.map_cons, hothers,
        ih hrest (Nat.succ.inj hlength), hfirst]
      rfl

/-- A record gives for each field the value that it was written with. -/
theorem slots?_ofMembers (hnodup : names.Nodup) (hlength : names.length = values.length) :
    (ofMembers (names.zip values)).slots? names = some (values.map some) := by
  let members : List (Literal × Json) := (names.zip values).map fun m => (some m.1, m.2)
  have hfind (name : String) : members.find? (fun m => m.1 == some name) =
      ((names.zip values).find? fun m => m.1 == name).map fun m => (some m.1, m.2) := by
    rw [List.find?_map]
    rfl
  have htexts : members.all (fun m => m.1.isSome) = true := by
    rw [List.all_map]
    exact List.all_eq_true.mpr fun m _ => rfl
  have honce (name : String) : (members.filter fun m => m.1 == some name).length ≤ 1 := by
    have hcount : (members.filter fun m => m.1 == some name).length = names.count name :=
      calc (members.filter fun m => m.1 == some name).length
        _ = members.countP fun m => m.1 == some name := List.countP_eq_length_filter.symm
        _ = (names.zip values).countP fun m => m.1 == name := List.countP_map
        _ = ((names.zip values).map Prod.fst).countP (· == name) := by rw [List.countP_map]; rfl
        _ = names.count name := by rw [List.map_fst_zip (Nat.le_of_eq hlength), List.count]
    rw [hcount]
    exact List.nodup_iff_count.mp hnodup name
  have hcheck : (members.all (fun m => m.1.isSome) &&
      names.all fun name => (members.filter fun m => m.1 == some name).length ≤ 1) = true := by
    rw [htexts, Bool.true_and]
    exact List.all_eq_true.mpr fun name _ => decide_eq_true (honce name)
  have hslots : names.map (fun name => (members.find? fun m => m.1 == some name).map Prod.snd) =
      values.map some := by
    rw [← find?_zip hnodup hlength]
    refine List.map_congr_left fun name _ => ?_
    rw [hfind, Option.map_map]
    rfl
  exact (if_pos hcheck).trans (congrArg some hslots)

theorem plain_ofMembers (h : ∀ value ∈ values, Plain value) :
    Plain (ofMembers (names.zip values)) := by
  refine .object (fun m hm => ?_) fun m hm => ?_
  · obtain ⟨entry, -, rfl⟩ := List.mem_map.mp hm
    exact ⟨entry.1, rfl⟩
  · obtain ⟨entry, hentry, rfl⟩ := List.mem_map.mp hm
    exact h entry.2 (List.of_mem_zip hentry).2

theorem plain_ofOption {α : Type} {value : α → Json} (h : ∀ a, Plain (value a)) (o : Option α) :
    Plain (ofOption value o) := by
  cases o with
  | none => exact .null
  | some a => exact h a

/-! ## Fields -/

theorem field_ofText (default text : String) :
    field default text? (some (ofText text)) = some text := rfl

theorem field_ofNat {n bound : Nat} (h : n < bound) (default : Nat) :
    field default (natBelow? bound) (some (ofNat n)) = some n := if_pos h

/-- A field that may be absent reads back, absent or not, if what is written for a value is not
`null`. -/
theorem field_ofOption {α β : Type} (write : α → Json) {read : Json → Option β} (f : α → β)
    (hne : ∀ a, write a ≠ .null) (hread : ∀ a, read (write a) = some (f a)) (default : Option β)
    (o : Option α) : field default (nullable read) (some (ofOption write o)) = some (o.map f) := by
  cases o with
  | none => rfl
  | some a =>
    rw [field, ofOption, nullable, hread]
    · rfl
    · exact hne a

end Records

end PocketLink.Json
