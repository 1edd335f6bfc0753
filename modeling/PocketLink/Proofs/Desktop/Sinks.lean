import PocketLink.Proofs.Desktop.Notification

/-!
# Registering and removing sinks

The search for a free cookie has no bound of its own: it goes from one cookie to the next, and
starts over behind the last one that can be issued, until it comes to one that is free. It ends
after at most as many turns as there are sinks, since it comes to no cookie twice before it has
come to all of them; so the bound with which it is run is never what ends it. On the way it passes
only cookies behind which another word follows.

The cookie that it finds is issued, and the table is the one of before and one entry more. Removing
a sink takes one entry out and moves no other.
-/

namespace PocketLink.Desktop

/-! ## The search, turn by turn -/

/-- The search for a free cookie from a given one on, with the number of its turns and the cookie at
which it ends. A turn that finds the cookie in use goes on to the number that is greater by one, for
which there is a word. -/
inductive Search (used : List UInt32) : UInt32 → Nat → UInt32 → Prop
  | ends {c : UInt32} (free : wrapCookie c ∉ used) : Search used c 0 (wrapCookie c)
  | goesOn {c next found : UInt32} {turns : Nat} (live : wrapCookie c ∈ used)
    (fits : next.toNat = (wrapCookie c).toNat + 1) (more : Search used next turns found) :
    Search used c (turns + 1) found

variable {used : List UInt32} {c found : UInt32} {turns : Nat}

theorem Search.not_mem (h : Search used c turns found) : found ∉ used := by
  induction h with
  | ends free => exact free
  | goesOn _ _ _ ih => exact ih

theorem Search.bounds (h : Search used c turns found) :
    1 ≤ found.toNat ∧ found.toNat ≤ cookieCount := by
  induction h with
  | ends _ => exact wrapCookie_bounds _
  | goesOn _ _ _ ih => exact ih

/-- A search that is run with a bound of at least its turns finds the cookie at which it ends. -/
theorem Search.freeCookie_eq (h : Search used c turns found) {tries : Nat}
    (enough : turns ≤ tries) : freeCookie used tries c = found := by
  induction h generalizing tries with
  | @ends c free =>
    cases tries with
    | zero => rfl
    | succ tries => exact if_neg free
  | @goesOn c next found turns live fits _ ih =>
    obtain ⟨tries, rfl⟩ : ∃ more, tries = more + 1 := ⟨tries - 1, by omega⟩
    have hnext : wrapCookie c + 1 = next := by
      rw [← UInt32.toNat_inj, fits, toNat_wrapCookie_add_one]
    rw [freeCookie, if_pos live, hnext]
    exact ih (Nat.le_of_succ_le_succ enough)

theorem Search.unique {turns' : Nat} {found' : UInt32} (h : Search used c turns found)
    (h' : Search used c turns' found') : found = found' := by
  rw [← h.freeCookie_eq (Nat.le_max_left turns turns'),
    h'.freeCookie_eq (Nat.le_max_right turns turns')]

/-- If what is found within a bound is free, the search ends there. -/
theorem search_of_freeCookie {tries : Nat} (free : freeCookie used tries c ∉ used) :
    ∃ turns ≤ tries, Search used c turns (freeCookie used tries c) := by
  induction tries generalizing c with
  | zero => exact ⟨0, Nat.le_refl 0, .ends free⟩
  | succ tries ih =>
    rw [freeCookie] at free ⊢
    split at free
    · next live =>
      rw [if_pos live]
      obtain ⟨turns, hle, hsearch⟩ := ih free
      exact ⟨turns + 1, Nat.succ_le_succ hle, .goesOn live (toNat_wrapCookie_add_one c) hsearch⟩
    · next hfree =>
      rw [if_neg hfree]
      exact ⟨0, Nat.zero_le _, .ends hfree⟩

/-- The search ends within as many turns as there are cookies in use, if not all are. -/
theorem search_ends (room : used.length < cookieCount) (c : UInt32) :
    ∃ turns ≤ used.length, Search used c turns (freeCookie used used.length c) :=
  search_of_freeCookie (freeCookie_not_mem room c)

/-! ## Entries of the table -/

variable {σ : Type} {d : Desktop σ}

/-- An entry is put between two others, which stay where they are. -/
theorem insertSink_between (cookie : UInt32) (sink : σ) (table : List (UInt32 × σ)) :
    ∃ before after, table = before ++ after ∧
      insertSink cookie sink table = before ++ (cookie, sink) :: after := by
  induction table with
  | nil => exact ⟨[], [], rfl, rfl⟩
  | cons first rest ih =>
    rw [insertSink]
    split
    · exact ⟨[], first :: rest, rfl, rfl⟩
    · obtain ⟨before, after, hrest, hinserted⟩ := ih
      exact ⟨first :: before, after, by rw [hrest]; rfl, by rw [hinserted]; rfl⟩

theorem unadvise_of_not_mem {gone : UInt32} (h : gone ∉ d.cookies) : d.unadvise gone = d := by
  have hall : (d.sinks.filter fun entry => entry.1 ≠ gone) = d.sinks := by
    rw [List.filter_eq_self]
    intro entry hentry
    rw [decide_eq_true_eq]
    rintro rfl
    exact h (List.mem_map_of_mem hentry)
  rw [unadvise, hall]

theorem unadvise_of_mem (sorted : d.cookies.Pairwise (· < ·)) {gone : UInt32} {sink : σ}
    {before after : List (UInt32 × σ)} (h : d.sinks = before ++ (gone, sink) :: after) :
    d.unadvise gone = { d with sinks := before ++ after } := by
  rw [cookies, h, List.map_append, List.map_cons, List.pairwise_append,
    List.pairwise_cons] at sorted
  obtain ⟨-, ⟨hafter, -⟩, hbefore⟩ := sorted
  -- No other entry has this cookie: those in front have lesser ones and those behind greater ones.
  have keep (table : List (UInt32 × σ)) (hne : ∀ entry ∈ table, entry.1 ≠ gone) :
      (table.filter fun entry => entry.1 ≠ gone) = table :=
    List.filter_eq_self.mpr fun entry hentry => decide_eq_true (hne entry hentry)
  have hb := keep before fun entry hentry =>
    UInt32.ne_of_lt (hbefore _ (List.mem_map_of_mem hentry) gone (List.mem_cons_self ..))
  have ha := keep after fun entry hentry =>
    (UInt32.ne_of_lt (hafter _ (List.mem_map_of_mem hentry))).symm
  rw [unadvise, h, List.filter_append, List.filter_cons_of_neg (by simp), hb, ha]

theorem sorted_run (steps : List (Step σ)) (ends : ∀ visit ∈ visits steps d, visit.2.Ends visit.1)
    (h : d.cookies.Pairwise (· < ·)) : (run steps d).cookies.Pairwise (· < ·) := by
  induction steps generalizing d with
  | nil => exact h
  | cons step steps ih =>
    rw [visits, List.forall_mem_cons] at ends
    exact ih ends.2 (sorted_after ends.1 h)

/-- A sink that is added gets a free cookie. Whatever cookie was issued last and whatever sinks
there are, if these are fewer than the cookies, the search ends, after at most as many turns as
there are sinks, and without passing a number that is no word. The cookie at which it ends is
neither zero nor the largest word, and was not in use; the table afterwards is that of before with
this entry put in. Removing a sink takes exactly its entry out, if there is one. And all of this
goes for every desktop that a run of steps comes to, since its table is in order. -/
theorem free_cookie_issued :
    (∀ d : Desktop σ, d.cookies.Pairwise (· < ·) →
      (∀ sink, d.sinks.length < cookieCount →
        let cookie := (d.advise sink).1
        (∃ turns ≤ d.sinks.length, Search d.cookies d.lastCookie turns cookie) ∧
          (∀ turns other, Search d.cookies d.lastCookie turns other → other = cookie) ∧
          1 ≤ cookie.toNat ∧ cookie.toNat ≤ 0xFFFFFFFE ∧ cookie ∉ d.cookies ∧
          (d.advise sink).2.cookies.Pairwise (· < ·) ∧
          ∃ before after, d.sinks = before ++ after ∧
            (d.advise sink).2 =
              { d with sinks := before ++ (cookie, sink) :: after, lastCookie := cookie }) ∧
      ∀ gone,
        (gone ∉ d.cookies → d.unadvise gone = d) ∧
          (d.unadvise gone).cookies.Pairwise (· < ·) ∧
          ∀ sink before after, d.sinks = before ++ (gone, sink) :: after →
            d.unadvise gone = { d with sinks := before ++ after }) ∧
    ∀ (settings : Settings) (resolver : Resolver) (steps : List (Step σ)),
      (∀ visit ∈ visits steps (fresh settings resolver), visit.2.Ends visit.1) →
        (run steps (fresh settings resolver)).cookies.Pairwise (· < ·) := by
  refine ⟨fun d sorted => ⟨fun sink room => ?_, fun gone => ⟨unadvise_of_not_mem, ?_, ?_⟩⟩, ?_⟩
  · intro cookie
    have hlength : d.cookies.length = d.sinks.length := List.length_map _
    obtain ⟨turns, hle, hsearch⟩ := search_ends (hlength ▸ room) d.lastCookie
    obtain ⟨before, after, hbefore, hafter⟩ := insertSink_between cookie sink d.sinks
    obtain ⟨hpos, hle'⟩ := hsearch.bounds
    have ends : (Step.advise sink).Ends d := room
    have hsorted := sorted_after ends sorted
    refine ⟨⟨turns, hlength ▸ hle, hsearch⟩, fun turns' other hother => hother.unique hsearch,
      hpos, hle', hsearch.not_mem, hsorted, before, after, hbefore, ?_⟩
    rw [← hafter]
    rfl
  · have ends : (Step.unadvise gone).Ends d := trivial
    exact sorted_after ends sorted
  · exact fun sink before after h => unadvise_of_mem sorted h
  · exact fun settings resolver steps ends => sorted_run steps ends List.Pairwise.nil

/-- The least cookie and the greatest are in use, and the greatest was issued last. -/
theorem free_cookie_issued_over_the_end :
    let d : Desktop Nat := {
      settings := idleSettings
      resolver := .fixed []
      sinks := [(1, 10), (0xFFFFFFFE, 20)]
      lastCookie := 0xFFFFFFFE }
    d.cookies.Pairwise (· < ·) ∧ d.sinks.length < cookieCount ∧
      Search d.cookies d.lastCookie 2 2 ∧ (d.advise 30).1 = 2 ∧
      (d.advise 30).2.sinks = [(1, 10), (2, 30), (0xFFFFFFFE, 20)] ∧
      ((d.advise 30).2.unadvise 1).sinks = [(2, 30), (0xFFFFFFFE, 20)] := by
  intro d
  have sorted : d.cookies.Pairwise (· < ·) := by decide
  have room : d.sinks.length < cookieCount := by decide
  have ends : Search d.cookies 2 0 2 := .ends (by decide)
  have goesOn : Search d.cookies 0xFFFFFFFF 1 2 := .goesOn (by decide) (by decide) ends
  have search : Search d.cookies d.lastCookie 2 2 := .goesOn (by decide) (by decide) goesOn
  obtain ⟨-, hunique, -, -, -, hsorted, -⟩ := (free_cookie_issued.1 d sorted).1 30 room
  have hremoved := ((free_cookie_issued.1 _ hsorted).2 1).2.2 10 [] _ rfl
  exact ⟨sorted, room, search, (hunique 2 2 search).symm, rfl, congrArg Desktop.sinks hremoved⟩

end PocketLink.Desktop
