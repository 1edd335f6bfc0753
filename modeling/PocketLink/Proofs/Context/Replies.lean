import PocketLink.Proofs.Context.Sending
import PocketLink.Proofs.Remote.Grammar

/-!
# What a remote operation makes of its reply

The outcome of a remote operation whose request was sent is settled by the bytes of the reply alone:
a status in the envelope is a failure of the protocol, a first word that refuses the request is a
failure that the device reports, fields that are all there and in order are the answer, and
everything else is a failure of a field.
-/

namespace PocketLink

namespace Invocation

variable {d : Dialect} {r : Request} {reply : List UInt8}

theorem parses_reading (d : Dialect) (r : Request) :
    Reply.Parses ((remote r).reading d)
      (Form.seq (fun (_ : Unit) bytes => d.Envelope bytes) fun _ =>
        Form.word.seq fun e => Form.checked (r.refusal? e) (r.fieldsBehind d))
      fun err bytes => d.ends err bytes ∨
        Form.seq (fun (_ : Unit) bytes => d.Envelope bytes)
          (fun _ => Form.word.seq fun e => Form.refused (r.refusal? e)) err bytes := by
  have hanswer := Reply.parses_word.bind fun e => r.parses_unmarshal d e
  refine (d.parses_openEnvelope.bind fun _ => hanswer).congr (fun _ _ => Iff.rfl)
    fun err bytes => ?_
  simp only [Form.never, false_or]

theorem reading_ok_iff {a : r.Answer} :
    (((remote r).reading d).on (Buffer.ofBytes reply)).1 = .ok a ↔
      ∃ e w fields rest, d.Tells reply e (Encoding.word w ++ (fields ++ rest)) ∧
        r.refusal? e w = none ∧ r.fieldsBehind d w a fields := by
  rw [(parses_reading d r).ok_iff]
  constructor
  · rintro ⟨_, rest,
      ⟨-, envelope, _, henv, ⟨e, _, _, rfl, ⟨w, fields, hw, ha, rfl⟩, rfl⟩, rfl⟩, rfl⟩
    exact ⟨e, w, fields, rest, ⟨envelope, henv, by simp only [List.append_assoc]⟩, hw, ha⟩
  · rintro ⟨e, w, fields, rest, ⟨envelope, henv, rfl⟩, hw, ha⟩
    refine ⟨_, rest,
      ⟨(), envelope, _, henv, ⟨e, _, _, rfl, ⟨w, fields, hw, ha, rfl⟩, rfl⟩, rfl⟩, ?_⟩
    simp only [List.append_assoc]

theorem reading_remote_iff {code : UInt32} :
    (((remote r).reading d).on (Buffer.ofBytes reply)).1 = .error (.remote code) ↔
      ∃ e w rest, d.Tells reply e (Encoding.word w ++ rest) ∧ r.refusal? e w = some code := by
  rw [(parses_reading d r).error_iff fun cause h => by cases h]
  constructor
  · rintro ⟨_, rest, hends | ⟨-, envelope, _, henv, ⟨e, _, _, rfl, ⟨w, _, hw, hcode, rfl⟩, rfl⟩,
      rfl⟩, rfl⟩
    · -- What an envelope ends with is never a failure that the device reports.
      cases d with
      | v1 =>
        obtain ⟨status, -, hstatus, -⟩ := hends
        cases hstatus
      | v2 => exact hends.elim
    · cases hcode
      exact ⟨e, w, rest, ⟨envelope, henv, by simp only [List.append_assoc]⟩, hw⟩
  · rintro ⟨e, w, rest, ⟨envelope, henv, rfl⟩, hw⟩
    refine ⟨_, rest, Or.inr ⟨(), envelope, _, henv, ⟨e, _, _, rfl, ⟨w, code, hw, rfl, rfl⟩, rfl⟩,
      rfl⟩, ?_⟩
    simp only [List.append_assoc]

theorem reading_protocol_iff {code : UInt32} :
    (((remote r).reading d).on (Buffer.ofBytes reply)).1 = .error (.protocol code) ↔
      d = .v1 ∧ code ≠ 0 ∧ Encoding.word 1 ++ Encoding.word code <+: reply := by
  rw [(parses_reading d r).error_iff fun cause h => by cases h]
  constructor
  · rintro ⟨_, rest, hends | ⟨-, _, _, -, ⟨_, _, _, -, ⟨_, _, -, hcode, -⟩, -⟩, -⟩, rfl⟩
    · cases d with
      | v1 =>
        obtain ⟨status, h0, hstatus, rfl⟩ := hends
        cases hstatus
        exact ⟨rfl, h0, List.prefix_append _ _⟩
      | v2 => exact hends.elim
    · cases hcode
  · rintro ⟨rfl, h0, rest, rfl⟩
    exact ⟨_, rest, Or.inl ⟨code, h0, rfl, rfl⟩, rfl⟩

/-- What reading a reply fails for. -/
theorem reading_error {err : Error}
    (h : (((remote r).reading d).on (Buffer.ofBytes reply)).1 = .error err) :
    (∃ code, err = .protocol code) ∨ (∃ code, err = .remote code) ∨
      ∃ cause, err = .wire cause ∧ cause.isOfField = true := by
  have hof : err.isOfReply = true := (((remote r).composed_reading d).onlyReads reply).failure rfl h
  cases err with
  | protocol code => exact Or.inl ⟨code, rfl⟩
  | remote code => exact Or.inr (Or.inl ⟨code, rfl⟩)
  | wire cause => exact Or.inr (Or.inr ⟨cause, rfl, hof⟩)
  | notConnected | alreadyConnected | accessDenied | transport | resolution | broker
  | noMoreDevices | pathTooLong | invalidArgument | parse | io => cases hof

end Invocation

namespace Context

variable {d : Dialect} {r : Request} {c : Context}

/-- A remote operation whose request was sent makes of its reply exactly what the grammar of the
dialect says, whatever was in the stream behind it. -/
theorem outcome_of_reply (hd : c.dialect = some d) {ch : Channel}
    (hc : c.socket.current = some ch) {body : List UInt8}
    (hsent : (Invocation.remote r).body? d c = some body)
    (hroom : ch.outgoing.HasRoom (Frame.encode body).length) {reply : List UInt8}
    (hmax : reply.length ≤ c.settings.maxFrame.toNat)
    (hfirst : Frame.encode reply <+: ch.takeTurn.incoming.bytes) :
    let outcome := ((perform r).on c).1
    (∀ code, outcome = .error (.protocol code) ↔
        d = .v1 ∧ code ≠ 0 ∧ Encoding.word 1 ++ Encoding.word code <+: reply) ∧
      (∀ code, outcome = .error (.remote code) ↔
        ∃ e w rest, d.Tells reply e (Encoding.word w ++ rest) ∧ r.refusal? e w = some code) ∧
      (∀ a, outcome = .ok a ↔
        ∃ e w fields rest, d.Tells reply e (Encoding.word w ++ (fields ++ rest)) ∧
          r.refusal? e w = none ∧ r.fieldsBehind d w a fields) ∧
      ∀ err, outcome = .error err → (∃ code, err = .protocol code) ∨ (∃ code, err = .remote code) ∨
        ∃ cause, err = .wire cause ∧ cause.isOfField = true := by
  intro outcome
  have hread : outcome = (((Invocation.remote r).reading d).on (Buffer.ofBytes reply)).1 :=
    (onLink_act_found hd hc hsent hroom hmax hfirst).1
  rw [hread]
  exact ⟨fun _ => Invocation.reading_protocol_iff, fun _ => Invocation.reading_remote_iff,
    fun _ => Invocation.reading_ok_iff, fun _ => Invocation.reading_error⟩

/-- A registry value in an envelope, with an odd presence word and a byte that nothing reads. -/
theorem outcome_of_reply_value :
    let r := Request.regQueryValue 7 none 2
    let value := Encoding.word 3 ++ (Encoding.word 0x80 ++ Encoding.sized [1, 2])
    let reply := Encoding.word 1 ++ Encoding.word 0 ++
      (Encoding.word 9 ++ (Encoding.word 0 ++ (value ++ [0xFF])))
    let c := answeredBy .v1 64 [reply]
    reply.length ≤ c.settings.maxFrame.toNat ∧
      ((perform r).on c).1 = .ok { kind := 3, data := [1, 2] } := by
  intro r value reply c
  have hmax : reply.length ≤ c.settings.maxFrame.toNat := by decide
  have hsent : (Invocation.remote r).body? .v1 c = some (r.payload .v1) :=
    Invocation.body?_remote c rfl (by decide) (by decide)
  have houtcome := outcome_of_reply (c := c) rfl rfl hsent (Sink.hasRoom_of_none rfl _) hmax
    (by decide)
  have hvalue : r.fieldsBehind .v1 0 { kind := 3, data := [1, 2] } value := by
    have hdata : Form.sized 2 [1, 2] (Encoding.sized [1, 2]) := ⟨by decide, by decide, rfl⟩
    exact ⟨_, ⟨some [1, 2], ⟨0x80, _, by decide, hdata, rfl⟩, rfl⟩, rfl⟩
  refine ⟨hmax, (houtcome.2.2.1 _).mpr ⟨9, 0, value, [0xFF], ?_, rfl, hvalue⟩⟩
  exact ⟨_, Or.inl rfl, rfl⟩

end Context

end PocketLink
