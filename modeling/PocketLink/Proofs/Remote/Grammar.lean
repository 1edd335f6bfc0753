import PocketLink.Proofs.Remote.Reading
import PocketLink.Proofs.Wire.Grammar

/-!
# The grammar of replies

A reply is an envelope, the last error of the device, a word that says whether the device refuses
the request, and the fields of its answer. In the second dialect there is no envelope. In the first
one it is the word one with a status behind it, or any other word; a status other than zero ends the
reply there.

A reader parses two forms if it answers the value of accepted bytes, fails as refused bytes say, and
fails for reasons of a field wherever neither stands first. What is behind is of no matter.
-/

namespace PocketLink

namespace Form

variable {α : Type}

/-- No bytes for any value. -/
def never : Form α := fun _ _ => False

/-- The first word of an answer and what stands behind it, unless the word is refused. -/
def checked (refusal? : UInt32 → Option UInt32) (fields : UInt32 → Form α) : Form α :=
  fun a bytes => ∃ w rest, refusal? w = none ∧ fields w a rest ∧ bytes = Encoding.word w ++ rest

/-- The first word of an answer that is refused. -/
def refused (refusal? : UInt32 → Option UInt32) : Form Error := fun e bytes =>
  ∃ w code, refusal? w = some code ∧ e = .remote code ∧ bytes = Encoding.word w

theorem seq_word {β : Type} {next : UInt32 → Form β} {b : β} {bytes : List UInt8} :
    word.seq next b bytes ↔ ∃ w rest, next w b rest ∧ bytes = Encoding.word w ++ rest := by
  constructor
  · rintro ⟨w, _, rest, rfl, hb, rfl⟩
    exact ⟨w, rest, hb, rfl⟩
  · rintro ⟨w, rest, hb, rfl⟩
    exact ⟨w, _, rest, rfl, hb, rfl⟩

/-- A value that is computed from the one before takes no bytes. -/
theorem seq_only {β : Type} {form : Form α} {f : α → β} {b : β} {bytes : List UInt8} :
    form.seq (fun a => only (f a)) b bytes ↔ ∃ a, form a bytes ∧ b = f a := by
  constructor
  · rintro ⟨a, x, _, ha, ⟨hb, rfl⟩, rfl⟩
    exact ⟨a, by rwa [List.append_nil], hb⟩
  · rintro ⟨a, ha, hb⟩
    exact ⟨a, bytes, [], ha, ⟨hb, rfl⟩, (List.append_nil bytes).symm⟩

end Form

theorem Error.ofWire_of_isOfField {e : WireError} (h : e.isOfField = true) :
    ofWire e = .wire e := by
  cases e <;> first | rfl | cases h

namespace Reply

variable {α β : Type}

/-! ## Readers that parse -/

/-- A reader answers what is accepted, fails as what is refused says, and fails for reasons of a
field where there is neither. -/
structure Parses (act : Reader α) (accepts : Form α) (refuses : Form Error) : Prop where
  accepted : ∀ {a bytes}, accepts a bytes → ∀ before rest,
    act.on { consumed := before, unread := bytes ++ rest } =
      (.ok a, { consumed := before ++ bytes, unread := rest })
  refused : ∀ {e bytes}, refuses e bytes → ∀ before rest,
    (act.on { consumed := before, unread := bytes ++ rest }).1 = .error e
  otherwise : ∀ before unread, (∃ a bytes rest, accepts a bytes ∧ unread = bytes ++ rest) ∨
    (∃ e bytes rest, refuses e bytes ∧ unread = bytes ++ rest) ∨
    ∃ cause, (act.on { consumed := before, unread }).1 = .error (.wire cause) ∧
      cause.isOfField = true

variable {act : Reader α} {accepts : Form α} {refuses : Form Error}

theorem Parses.congr (h : Parses act accepts refuses) {accepts' : Form α} {refuses' : Form Error}
    (ha : ∀ a bytes, accepts a bytes ↔ accepts' a bytes)
    (hr : ∀ e bytes, refuses e bytes ↔ refuses' e bytes) : Parses act accepts' refuses' := by
  have haccepts : accepts' = accepts := by
    funext a bytes
    exact propext (ha a bytes).symm
  have hrefuses : refuses' = refuses := by
    funext e bytes
    exact propext (hr e bytes).symm
  rw [haccepts, hrefuses]
  exact h

theorem parses_pure (v : α) : Parses (pure v) (Form.only v) Form.never where
  accepted := by
    rintro a bytes ⟨rfl, rfl⟩ before rest
    rw [List.append_nil]
    rfl
  refused := fun h => h.elim
  otherwise := fun _ unread => Or.inl ⟨v, [], unread, ⟨rfl, rfl⟩, rfl⟩

theorem parses_throw (e : Error) : Parses (throw e : Reader α) Form.never (Form.only e) where
  accepted := fun h => h.elim
  refused := by
    rintro e' bytes ⟨rfl, rfl⟩ before rest
    rfl
  otherwise := fun _ unread => Or.inr (Or.inl ⟨e, [], unread, ⟨rfl, rfl⟩, rfl⟩)

theorem parses_ite (p : Prop) [Decidable p] {act' : Reader α} {accepts' : Form α}
    {refuses' : Form Error} (h : Parses act accepts refuses) (h' : Parses act' accepts' refuses') :
    Parses (if p then act else act') (fun a bytes => p ∧ accepts a bytes ∨ ¬ p ∧ accepts' a bytes)
      fun e bytes => p ∧ refuses e bytes ∨ ¬ p ∧ refuses' e bytes := by
  by_cases hp : p
  · rw [if_pos hp]
    refine h.congr (fun a bytes => ?_) fun e bytes => ?_
    · simp [hp]
    · simp [hp]
  · rw [if_neg hp]
    refine h'.congr (fun a bytes => ?_) fun e bytes => ?_
    · simp [hp]
    · simp [hp]

theorem parses_field {field : Decoder α} {form : Form α} (h : field.Recognizes form)
    (hfield : field.IsField) : Parses (Reply.field field) form Form.never where
  accepted := by
    intro a bytes ha before rest
    have hread := Buffer.reads_of_takes (h.takes ha) before rest
    simp only [Reply.field, Operation.on_within, id, hread, Operation.mapError_ok]
  refused := fun h => h.elim
  otherwise := by
    intro before unread
    cases hd : field unread with
    | ok p =>
      obtain ⟨a, rest⟩ := p
      obtain ⟨bytes, ha, hunread⟩ := (h unread a rest).mp hd
      exact Or.inl ⟨a, bytes, rest, ha, hunread⟩
    | error cause =>
      have hcause := hfield unread cause hd
      have hread := Buffer.read_of_error (b := { consumed := before, unread }) hd
      refine Or.inr (Or.inr ⟨cause, ?_, hcause⟩)
      simp only [Reply.field, Operation.on_within, id, hread, Operation.mapError_error,
        Error.ofWire_of_isOfField hcause]

/-- What is accepted by two readers one after the other, and what is refused by the first one or,
behind what it accepts, by the second. -/
theorem Parses.bind {next : α → Reader β} {forms : α → Form β} {refusals : α → Form Error}
    (h : Parses act accepts refuses) (hn : ∀ a, Parses (next a) (forms a) (refusals a)) :
    Parses (act >>= next) (accepts.seq forms)
      fun e bytes => refuses e bytes ∨ accepts.seq refusals e bytes where
  accepted := by
    rintro b _ ⟨a, x, y, hx, hy, rfl⟩ before rest
    rw [List.append_assoc, Operation.on_bind_ok (h.accepted hx before (y ++ rest)),
      (hn a).accepted hy, List.append_assoc]
  refused := by
    rintro e bytes (hfirst | ⟨a, x, y, hx, hy, rfl⟩) before rest
    · have hfail := h.refused hfirst before rest
      rw [Operation.on_bind_error (Prod.ext hfail rfl)]
    · rw [List.append_assoc, Operation.on_bind_ok (h.accepted hx before (y ++ rest))]
      exact (hn a).refused hy _ _
  otherwise := by
    intro before unread
    obtain ⟨a, x, rest, hx, rfl⟩ | ⟨e, x, rest, hx, rfl⟩ | ⟨cause, hcause, hfield⟩ :=
      h.otherwise before unread
    · -- Behind what the first reader accepts, the second one settles what the whole does.
      rw [Operation.on_bind_ok (h.accepted hx before rest)]
      obtain ⟨b, y, rest', hy, rfl⟩ | ⟨e, y, rest', hy, rfl⟩ | hwire :=
        (hn a).otherwise (before ++ x) rest
      · exact Or.inl ⟨b, x ++ y, rest', ⟨a, x, y, hx, hy, rfl⟩, (List.append_assoc ..).symm⟩
      · refine Or.inr (Or.inl ⟨e, x ++ y, rest', Or.inr ⟨a, x, y, hx, hy, rfl⟩, ?_⟩)
        exact (List.append_assoc ..).symm
      · exact Or.inr (Or.inr hwire)
    · exact Or.inr (Or.inl ⟨e, x, rest, Or.inl hx, rfl⟩)
    · refine Or.inr (Or.inr ⟨cause, ?_, hfield⟩)
      rw [Operation.on_bind_error (Prod.ext hcause rfl)]

/-- Two readers of which none refuses anything. -/
theorem Parses.followedBy {next : α → Reader β} {forms : α → Form β}
    (h : Parses act accepts Form.never)
    (hn : ∀ a, Parses (next a) (forms a) Form.never) :
    Parses (act >>= next) (accepts.seq forms) Form.never :=
  (h.bind hn).congr (fun _ _ => Iff.rfl) fun e bytes => by simp [Form.never, Form.seq]

/-! ## Outcomes -/

theorem Parses.ok_iff (h : Parses act accepts refuses) {bytes : List UInt8} {a : α} :
    (act.on (Buffer.ofBytes bytes)).1 = .ok a ↔
      ∃ first rest, accepts a first ∧ bytes = first ++ rest := by
  constructor
  · intro ha
    obtain ⟨a', x, rest, hx, rfl⟩ | ⟨e, x, rest, hx, rfl⟩ | ⟨cause, hcause, -⟩ :=
      h.otherwise [] bytes
    · have heq := congrArg (·.1) (h.accepted hx [] rest)
      have hsame : (.ok a : Except Error α) = .ok a' := ha.symm.trans heq
      cases hsame
      exact ⟨x, rest, hx, rfl⟩
    · cases ha.symm.trans (h.refused hx [] rest)
    · cases ha.symm.trans hcause
  · rintro ⟨x, rest, hx, rfl⟩
    exact congrArg (·.1) (h.accepted hx [] rest)

/-- A failure that is not one of a field is what the refused bytes say. -/
theorem Parses.error_iff (h : Parses act accepts refuses) {bytes : List UInt8} {e : Error}
    (he : ∀ cause, e ≠ .wire cause) :
    (act.on (Buffer.ofBytes bytes)).1 = .error e ↔
      ∃ first rest, refuses e first ∧ bytes = first ++ rest := by
  constructor
  · intro hfail
    obtain ⟨a, x, rest, hx, rfl⟩ | ⟨e', x, rest, hx, rfl⟩ | ⟨cause, hcause, -⟩ :=
      h.otherwise [] bytes
    · cases hfail.symm.trans (congrArg (·.1) (h.accepted hx [] rest))
    · cases hfail.symm.trans (h.refused hx [] rest)
      exact ⟨x, rest, hx, rfl⟩
    · have hsame := hfail.symm.trans hcause
      cases hsame
      exact absurd rfl (he cause)
  · rintro ⟨x, rest, hx, rfl⟩
    exact h.refused hx [] rest

/-- A reader answers a value, fails as what is refused says, or fails on the wire. -/
theorem Parses.outcome (h : Parses act accepts refuses) (b : Buffer) :
    (∃ a b', act.on b = (.ok a, b')) ∨
      (∃ e bytes b', refuses e bytes ∧ act.on b = (.error e, b')) ∨
      ∃ cause b', act.on b = (.error (.wire cause), b') := by
  obtain ⟨before, unread⟩ := b
  obtain ⟨a, x, rest, hx, rfl⟩ | ⟨e, x, rest, hx, rfl⟩ | ⟨cause, hcause, -⟩ :=
    h.otherwise before unread
  · exact Or.inl ⟨a, _, h.accepted hx before rest⟩
  · exact Or.inr (Or.inl ⟨e, x, _, hx, Prod.ext (h.refused hx before rest) rfl⟩)
  · exact Or.inr (Or.inr ⟨cause, _, Prod.ext hcause rfl⟩)

/-! ## Words and fields -/

theorem parses_word : Parses word Form.word Form.never :=
  parses_field Decoder.recognizes_u32 Decoder.composed_u32.isField

theorem parses_text (d : Dialect) : Parses (text d) (Form.text d) Form.never := by
  cases d with
  | v1 => exact parses_field Decoder.recognizes_string Decoder.composed_string.isField
  | v2 => exact parses_field Decoder.recognizes_terminated Decoder.composed_terminated.isField

theorem parses_data (max : UInt32) : Parses (data max) (Form.data max.toNat) Form.never := by
  have hfield := parses_field
    (Decoder.recognizes_optional (Decoder.recognizes_sized max.toNat))
    (Decoder.composed_optional (Decoder.composed_sized max.toNat)).isField
  have hdata := hfield.followedBy fun found => parses_pure (found.getD [])
  exact hdata.congr (fun _ _ => Form.seq_only) fun _ _ => Iff.rfl

/-- A word that may refuse the request, and what is read unless it does. -/
theorem parses_unless (failed : UInt32 → Prop) [DecidablePred failed] (code : UInt32 → UInt32)
    {next : UInt32 → Reader α} {fields : UInt32 → Form α}
    (hrefused : ∀ w, failed w → next w = throw (.remote (code w)))
    (hfields : ∀ w, ¬ failed w → Parses (next w) (fields w) Form.never) :
    Parses (word >>= next) (Form.checked (fun w => if failed w then some (code w) else none) fields)
      (Form.refused fun w => if failed w then some (code w) else none) := by
  have hnext (w : UInt32) : Parses (next w) (fun a rest => ¬ failed w ∧ fields w a rest)
      fun e rest => failed w ∧ e = .remote (code w) ∧ rest = [] := by
    by_cases hw : failed w
    · rw [hrefused w hw]
      refine (parses_throw _).congr (fun a rest => ?_) fun e rest => ?_
      · simp [Form.never, hw]
      · simp [Form.only, hw]
    · refine (hfields w hw).congr (fun a rest => ?_) fun e rest => ?_
      · simp [hw]
      · simp [Form.never, hw]
  refine (parses_word.bind hnext).congr (fun a bytes => ?_) fun e bytes => ?_
  · simp [Form.seq_word, Form.checked, and_assoc]
  · simp [Form.seq_word, Form.refused, Form.never, and_assoc]

/-- A flag that must not be zero, and what is read behind it. -/
theorem parses_success {next : Reader α} {fields : Form α} (lastError : UInt32)
    (h : Parses next fields Form.never) :
    Parses (success lastError >>= fun _ => next)
      (Form.checked (fun w => if w = 0 then some lastError else none) fun _ => fields)
      (Form.refused fun w => if w = 0 then some lastError else none) := by
  -- What is read behind the flag is moved under it: only then does the flag decide about all of it.
  rw [success, bind_assoc]
  refine parses_unless (· = 0) (fun _ => lastError) (fun w hw => ?_) fun w hw => ?_
  · rw [if_pos hw]
    rfl
  · rw [if_neg hw]
    exact h

theorem parses_success_only (lastError : UInt32) :
    Parses (success lastError)
      (Form.checked (fun w => if w = 0 then some lastError else none) fun _ => Form.only ())
      (Form.refused fun w => if w = 0 then some lastError else none) := by
  have h := parses_success lastError (parses_pure ())
  rwa [bind_pure_unit] at h

/-- A status that must be zero, and what is read behind it. -/
theorem parses_status {next : Reader α} {fields : Form α} (h : Parses next fields Form.never) :
    Parses (status >>= fun _ => next)
      (Form.checked (fun w => if w ≠ 0 then some w else none) fun _ => fields)
      (Form.refused fun w => if w ≠ 0 then some w else none) := by
  rw [status, bind_assoc]
  refine parses_unless (· ≠ 0) id (fun w hw => ?_) fun w hw => ?_
  · rw [if_pos hw]
    rfl
  · rw [if_neg hw]
    exact h

theorem parses_status_only :
    Parses status (Form.checked (fun w => if w ≠ 0 then some w else none) fun _ => Form.only ())
      (Form.refused fun w => if w ≠ 0 then some w else none) := by
  have h := parses_status (parses_pure ())
  rwa [bind_pure_unit] at h

/-- A word that is the answer, unless it says that there is none. -/
theorem parses_wordUnless (failed : UInt32 → Prop) [DecidablePred failed] (lastError : UInt32) :
    Parses (do
        let w ← word
        if failed w then throw (.remote lastError)
        return w)
      (Form.checked (fun w => if failed w then some lastError else none) Form.only)
      (Form.refused fun w => if failed w then some lastError else none) := by
  refine parses_unless failed (fun _ => lastError) (fun w hw => ?_) fun w hw => ?_
  · rw [if_pos hw]
    rfl
  · rw [if_neg hw]
    exact parses_pure w

end Reply

/-! ## Answers -/

namespace Request

/-- The failure that the first word of an answer reports, if it refuses the request. -/
def refusal? (lastError : UInt32) : Request → UInt32 → Option UInt32
  | createFile .., handle => if handle = Status.invalidHandle then some lastError else none
  | setFilePointer .., position =>
    if position = 0xFFFFFFFF ∧ lastError ≠ 0 then some lastError else none
  | getFileAttributes .., attributes =>
    if attributes = Attributes.invalid then some lastError else none
  | regOpenKey .., status | regCloseKey .., status | regQueryValue .., status =>
    if status ≠ 0 then some status else none
  | readFrom .., success | writeTo .., success | closeHandle .., success
  | deleteFile .., success | createDirectory .., success | removeDirectory .., success
  | moveFile .., success | getVersion, success | getStoreInformation, success
  | createProcess .., success => if success = 0 then some lastError else none

/-- The fields of an answer behind its first word, which is the answer of some requests. -/
def fieldsBehind (d : Dialect) : (r : Request) → UInt32 → Form r.Answer
  | createFile .., handle => Form.only handle
  | readFrom _ length, _ => Form.data length.toNat
  | writeTo .., _ => Form.word
  | setFilePointer .., position => Form.only position
  | getFileAttributes .., attributes => Form.only attributes
  | regOpenKey .., _ => Form.word
  | regQueryValue _ _ maxLength, _ => fun value bytes =>
    ∃ data, Form.data maxLength.toNat value.data data ∧ bytes = Encoding.word value.kind ++ data
  | getVersion, _ => fun version bytes =>
    ∃ extra, Form.text d version.extra extra ∧ bytes = Encoding.word version.major ++
      (Encoding.word version.minor ++ (Encoding.word version.build ++
        (Encoding.word version.platform ++ extra)))
  | getStoreInformation, _ => fun info bytes =>
    bytes = Encoding.word info.size ++ Encoding.word info.free
  | createProcess .., _ => fun info bytes =>
    bytes = Encoding.word info.process ++ (Encoding.word info.thread ++
      (Encoding.word info.processId ++ Encoding.word info.threadId))
  | closeHandle .., _ => Form.only ()
  | deleteFile .., _ => Form.only ()
  | createDirectory .., _ => Form.only ()
  | removeDirectory .., _ => Form.only ()
  | moveFile .., _ => Form.only ()
  | regCloseKey .., _ => Form.only ()

open Reply in
/-- Reading an answer accepts its fields, unless its first word refuses the request. -/
theorem parses_unmarshal (d : Dialect) (lastError : UInt32) (r : Request) :
    Parses (r.unmarshal d lastError) (Form.checked (r.refusal? lastError) (r.fieldsBehind d))
      (Form.refused (r.refusal? lastError)) := by
  cases r with
  | createFile path access share disposition flags =>
    exact parses_wordUnless (· = Status.invalidHandle) lastError
  | readFrom handle length => exact parses_success lastError (parses_data length)
  | writeTo handle data => exact parses_success lastError parses_word
  | setFilePointer handle distance origin =>
    exact parses_wordUnless (fun w => w = 0xFFFFFFFF ∧ lastError ≠ 0) lastError
  | getFileAttributes path => exact parses_wordUnless (· = Attributes.invalid) lastError
  | regOpenKey key subKey => exact parses_status parses_word
  | regQueryValue key name maxLength =>
    have hfields := parses_word.followedBy fun kind => (parses_data maxLength).followedBy
      fun data => parses_pure (RegValue.mk kind data)
    refine parses_status (hfields.congr (fun value bytes => ?_) fun _ _ => Iff.rfl)
    simp only [Form.seq_word, Form.seq_only]
    constructor
    · rintro ⟨kind, encoding, ⟨data, hdata, rfl⟩, rfl⟩
      exact ⟨encoding, hdata, rfl⟩
    · rintro ⟨encoding, hdata, rfl⟩
      exact ⟨value.kind, encoding, ⟨value.data, hdata, rfl⟩, rfl⟩
  | getVersion =>
    have hfields := parses_word.followedBy fun major => parses_word.followedBy fun minor =>
      parses_word.followedBy fun build => parses_word.followedBy fun platform =>
        (parses_text d).followedBy fun extra =>
          parses_pure (OsVersion.mk major minor build platform extra)
    refine parses_success lastError (hfields.congr (fun version bytes => ?_) fun _ _ => Iff.rfl)
    simp only [Form.seq_word, Form.seq_only]
    constructor
    · rintro ⟨major, _, ⟨minor, _, ⟨build, _, ⟨platform, _, ⟨extra, hextra, rfl⟩, rfl⟩, rfl⟩, rfl⟩,
        rfl⟩
      exact ⟨_, hextra, rfl⟩
    · rintro ⟨encoding, hextra, rfl⟩
      exact ⟨_, _, ⟨_, _, ⟨_, _, ⟨_, _, ⟨version.extra, hextra, rfl⟩, rfl⟩, rfl⟩, rfl⟩, rfl⟩
  | getStoreInformation =>
    have hfields := parses_word.followedBy fun size => parses_word.followedBy fun free =>
      parses_pure (StoreInfo.mk size free)
    refine parses_success lastError (hfields.congr (fun info bytes => ?_) fun _ _ => Iff.rfl)
    simp only [Form.seq_word, Form.seq_only]
    constructor
    · rintro ⟨size, _, ⟨free, rfl, rfl⟩, rfl⟩
      rfl
    · rintro rfl
      exact ⟨info.size, _, ⟨info.free, rfl, rfl⟩, rfl⟩
  | createProcess application arguments =>
    have hfields := parses_word.followedBy fun process => parses_word.followedBy fun thread =>
      parses_word.followedBy fun processId => parses_word.followedBy fun threadId =>
        parses_pure (ProcessInfo.mk process thread processId threadId)
    refine parses_success lastError (hfields.congr (fun info bytes => ?_) fun _ _ => Iff.rfl)
    simp only [Form.seq_word, Form.seq_only]
    constructor
    · rintro ⟨process, _, ⟨thread, _, ⟨processId, _, ⟨threadId, rfl, rfl⟩, rfl⟩, rfl⟩, rfl⟩
      rfl
    · rintro rfl
      exact ⟨_, _, ⟨_, _, ⟨_, _, ⟨info.threadId, rfl, rfl⟩, rfl⟩, rfl⟩, rfl⟩
  | closeHandle handle => exact parses_success_only lastError
  | deleteFile path => exact parses_success_only lastError
  | createDirectory path => exact parses_success_only lastError
  | removeDirectory path => exact parses_success_only lastError
  | moveFile source target => exact parses_success_only lastError
  | regCloseKey key => exact parses_status_only

end Request

/-! ## Envelopes and whole replies -/

/-- An envelope behind which there is an answer. -/
def Dialect.Envelope : Dialect → List UInt8 → Prop
  | v2, bytes => bytes = []
  | v1, bytes => bytes = Encoding.word 1 ++ Encoding.word 0 ∨
      ∃ first, first ≠ 1 ∧ bytes = Encoding.word first

/-- An envelope with a status that ends the reply. -/
def Dialect.ends : Dialect → Form Error
  | v2 => Form.never
  | v1 => fun e bytes => ∃ status, status ≠ 0 ∧ e = .protocol status ∧
      bytes = Encoding.word 1 ++ Encoding.word status

open Reply in
theorem Dialect.parses_openEnvelope (d : Dialect) :
    Parses d.openEnvelope (fun _ bytes => d.Envelope bytes) d.ends := by
  cases d with
  | v2 => exact (parses_pure ()).congr (fun _ _ => by simp [Form.only, Envelope]) fun _ _ => Iff.rfl
  | v1 =>
    have hstatus (status : UInt32) :=
      parses_ite (status ≠ 0) (parses_throw (.protocol status)) (parses_pure ())
    have hfirst (first : UInt32) :=
      parses_ite (first = 1) (parses_word.bind hstatus) (parses_pure ())
    refine (parses_word.bind hfirst).congr (fun _ bytes => ?_) fun e bytes => ?_
    · simp only [Form.seq_word, Envelope]
      constructor
      · rintro ⟨first, _, ⟨rfl, status, _, ⟨-, hnever⟩ | ⟨h0, -, rfl⟩, rfl⟩ | ⟨h1, -, rfl⟩, rfl⟩
        · exact hnever.elim
        · rw [not_not.mp h0, List.append_nil]
          exact Or.inl rfl
        · exact Or.inr ⟨first, h1, List.append_nil _⟩
      · rintro (rfl | ⟨first, h1, rfl⟩)
        · refine ⟨1, _, Or.inl ⟨rfl, 0, [], Or.inr ⟨?_, rfl, rfl⟩, rfl⟩, rfl⟩
          exact not_not.mpr rfl
        · exact ⟨first, [], Or.inr ⟨h1, rfl, rfl⟩, (List.append_nil _).symm⟩
    · simp only [Form.seq_word, Form.never, ends, false_or]
      constructor
      · rintro ⟨first, _, ⟨rfl, status, _, ⟨h0, rfl, rfl⟩ | ⟨-, hnever⟩, rfl⟩ | ⟨-, hnever⟩, rfl⟩
        · rw [List.append_nil]
          exact ⟨status, h0, rfl, rfl⟩
        · exact hnever.elim
        · exact hnever.elim
      · rintro ⟨status, h0, rfl, rfl⟩
        have hword : Encoding.word status = Encoding.word status ++ [] := (List.append_nil _).symm
        exact ⟨1, _, Or.inl ⟨rfl, status, [], Or.inl ⟨h0, rfl, rfl⟩, hword⟩, rfl⟩

/-- A reply with an envelope that is in order and the last error of the device, and what stands
behind both. -/
def Dialect.Tells (d : Dialect) (reply : List UInt8) (lastError : UInt32) (rest : List UInt8) :
    Prop :=
  ∃ envelope, d.Envelope envelope ∧ reply = envelope ++ (Encoding.word lastError ++ rest)

/-- The last error that a reply tells is what is read of it first. -/
theorem Dialect.tells_iff {d : Dialect} {reply : List UInt8} {lastError : UInt32} :
    (∃ rest, d.Tells reply lastError rest) ↔
      ((d.openEnvelope >>= fun _ => Reply.word).on (Buffer.ofBytes reply)).1 = .ok lastError := by
  rw [(d.parses_openEnvelope.bind fun _ => Reply.parses_word).ok_iff]
  constructor
  · rintro ⟨rest, envelope, henv, rfl⟩
    exact ⟨_, rest, ⟨(), envelope, _, henv, rfl, rfl⟩, (List.append_assoc ..).symm⟩
  · rintro ⟨_, rest, ⟨-, envelope, _, henv, rfl, rfl⟩, rfl⟩
    exact ⟨rest, envelope, henv, List.append_assoc ..⟩

end PocketLink
