import PocketLink.Proofs.Context.Replies

/-!
# Results in either dialect

The dialects wrap a reply differently: in the second one it stands alone, in the first one behind an
envelope. But for the version of the operating system, which has a text in it, what is wrapped is
the same. So a remote operation comes to the same result over both, with the same codes and the same
bytes left over, also where the reply makes no sense or ends too early.

Two contexts are compared step by step: what they have in common after a reply was unwrapped is all
that the rest of the operation depends on.
-/

namespace PocketLink

/-- What is read of a reply does not depend on the dialect, unless there is a text in it. -/
theorem Request.unmarshal_eq {r : Request} (hr : r ≠ .getVersion) (d d' : Dialect)
    (lastError : UInt32) : r.unmarshal d lastError = r.unmarshal d' lastError := by
  cases r with
  | getVersion => exact absurd rfl hr
  | _ => rfl

namespace Context

/-! ## Contexts that agree -/

/-- Two contexts with the same codes in their channels and the same bytes of a reply to read. -/
structure Alike (c c' : Context) : Prop where
  protocolStatus : c'.protocolStatus = c.protocolStatus
  systemError : c'.systemError = c.systemError
  unread : c'.reply.unread = c.reply.unread

section Agree

open Operation

variable {α : Type}

theorem Alike.recorded {c c' : Context} (h : Alike c c') (e : Error) :
    Alike (c.recorded e) (c'.recorded e) := by
  obtain ⟨hstatus, herror, hunread⟩ := h
  cases e with
  | remote code => exact ⟨hstatus, rfl, hunread⟩
  | wire cause | transport cause => exact ⟨rfl, herror, hunread⟩
  | pathTooLong length max => exact ⟨rfl, rfl, hunread⟩
  | _ => exact ⟨hstatus, herror, hunread⟩

theorem agree_recording {same : Context → Context → Prop} {act act' : Call α}
    (hrecorded : ∀ e c c', same c c' → same (c.recorded e) (c'.recorded e))
    (h : Agree same act act') : Agree same (recording act) (recording act') := by
  refine h.attempt.bind fun answer => ?_
  cases answer with
  | ok a => exact agree_pure a
  | error e => exact (agree_modify (hrecorded e)).bind fun _ => agree_throw e

theorem agree_onReply {act : Reply.Reader α} (h : Reply.LooksAhead act) :
    Agree Alike (onReply act) (onReply act) :=
  h.within id (fun _ _ hc => hc.unread) fun _ _ _ _ hc hb => { hc with unread := hb }

/-- The end of a remote operation is the same in both dialects. -/
theorem agree_readAnswer {r : Request} (hr : r ≠ .getVersion) (d d' : Dialect) :
    Agree Alike (readAnswer d r) (readAnswer d' r) := by
  have hrecorded (e : Error) (c c' : Context) (hc : Alike c c') := hc.recorded e
  have hword := agree_onReply Reply.composed_word.looksAhead
  refine (agree_recording hrecorded hword).bind fun lastError => ?_
  refine (agree_modify fun _ _ hc => { hc with systemError := rfl }).bind fun _ => ?_
  rw [r.unmarshal_eq hr d' d]
  exact agree_recording hrecorded (agree_onReply (r.composed_unmarshal d lastError).looksAhead)

end Agree

/-! ## Replies in envelopes -/

/-- A context that is connected in a dialect, and to which a device answers a remote operation with
a reply that is accepted. -/
structure Answered (d : Dialect) (r : Request) (reply : List UInt8) (c : Context) : Prop where
  dialect : c.dialect = some d
  fits : reply.length ≤ c.settings.maxFrame.toNat
  answers : ∃ ch body, c.socket.current = some ch ∧ (Invocation.remote r).body? d c = some body ∧
    ch.outgoing.HasRoom (Frame.encode body).length ∧
    Frame.encode reply <+: ch.takeTurn.incoming.bytes

variable {d d' : Dialect} {r : Request} {c c' : Context} {reply : List UInt8}

/-- Behind an envelope that is in order, a remote operation ends as if there were none. -/
theorem Answered.on_perform {envelope p : List UInt8} (h : Answered d r (envelope ++ p) c)
    (henv : d.Envelope envelope) :
    ∃ c', (perform r).on c = (readAnswer d r).on c' ∧ c'.protocolStatus = Status.ok ∧
      c'.systemError = c.systemError ∧ c'.reply.unread = p := by
  obtain ⟨ch, body, hc, hbody, hroom, hfirst⟩ := h.answers
  obtain ⟨hrequest, hlt⟩ := Option.filter_eq_some_iff.mp hbody
  rw [decide_eq_true_eq] at hlt
  obtain ⟨hpath, b, rfl, hm⟩ := Invocation.request?_remote hrequest
  obtain ⟨s, htransfer⟩ :=
    Socket.on_transfer_found c.settings.maxFrame c.reply hc hroom hlt h.fits hfirst
  have hopened : d.openEnvelope.on (Buffer.ofBytes (envelope ++ p)) =
      (.ok (), { consumed := envelope, unread := p }) :=
    d.parses_openEnvelope.accepted henv [] p
  have hcall := on_call (c := { c with request := b }) h.dialect
  rw [on_transaction, link, htransfer] at hcall
  simp only [hopened] at hcall
  rw [on_perform_written h.dialect hpath hm, Operation.on_bind_ok hcall]
  exact ⟨_, rfl, rfl, rfl, rfl⟩

/-- Two devices that answer the same behind their envelopes are answered the same. -/
theorem Answered.alike {envelope envelope' p : List UInt8} (hr : r ≠ .getVersion)
    (h : Answered d r (envelope ++ p) c) (henv : d.Envelope envelope)
    (h' : Answered d' r (envelope' ++ p) c') (henv' : d'.Envelope envelope')
    (herror : c'.systemError = c.systemError) :
    ((perform r).on c').1 = ((perform r).on c).1 ∧
      Alike ((perform r).on c).2 ((perform r).on c').2 := by
  obtain ⟨t, hperform, hstatus, hbefore, hunread⟩ := h.on_perform henv
  obtain ⟨t', hperform', hstatus', hbefore', hunread'⟩ := h'.on_perform henv'
  have halike : Alike t t' := by
    refine ⟨hstatus'.trans hstatus.symm, ?_, hunread'.trans hunread.symm⟩
    rw [hbefore', hbefore, herror]
  rw [hperform, hperform']
  exact agree_readAnswer hr d d' t t' halike

/-- But for the version of the operating system, the result of a remote operation does not tell
whether its reply stood alone, or behind the two words of an envelope in order, or behind one word
that is no envelope: whatever the reply is, its result, the codes in both channels and the bytes
left over are the same. -/
theorem same_result_in_either_dialect {c c₁ c₂ : Context} {p : List UInt8} {w : UInt32}
    (hr : r ≠ .getVersion) (alone : Answered .v2 r p c)
    (enveloped : Answered .v1 r (Encoding.word 1 ++ Encoding.word 0 ++ p) c₁)
    (hw : w ≠ 1) (passed : Answered .v1 r (Encoding.word w ++ p) c₂)
    (herror₁ : c₁.systemError = c.systemError) (herror₂ : c₂.systemError = c.systemError) :
    (((perform r).on c₁).1 = ((perform r).on c).1 ∧
        ((perform r).on c₂).1 = ((perform r).on c).1) ∧
      Alike ((perform r).on c).2 ((perform r).on c₁).2 ∧
      Alike ((perform r).on c).2 ((perform r).on c₂).2 := by
  have bare : Answered .v2 r ([] ++ p) c := alone
  have hbare : Dialect.v2.Envelope [] := rfl
  have henveloped : Dialect.v1.Envelope (Encoding.word 1 ++ Encoding.word 0) := Or.inl rfl
  have hpassed : Dialect.v1.Envelope (Encoding.word w) := Or.inr ⟨w, hw, rfl⟩
  obtain ⟨hresult₁, halike₁⟩ := bare.alike hr hbare enveloped henveloped herror₁
  obtain ⟨hresult₂, halike₂⟩ := bare.alike hr hbare passed hpassed herror₂
  exact ⟨⟨hresult₁, hresult₂⟩, halike₁, halike₂⟩

/-- A reply that ends inside its second word: the last error has been told, and two bytes are left
over. -/
theorem same_result_in_either_dialect_truncated :
    let r := Request.closeHandle 7
    let p := Encoding.word 5 ++ [1, 0]
    let c := answeredBy .v2 64 [p]
    let c₁ := answeredBy .v1 64 [Encoding.word 1 ++ Encoding.word 0 ++ p]
    let c₂ := answeredBy .v1 64 [Encoding.word 9 ++ p]
    Answered .v2 r p c ∧ Answered .v1 r (Encoding.word 1 ++ Encoding.word 0 ++ p) c₁ ∧
      Answered .v1 r (Encoding.word 9 ++ p) c₂ ∧
      ((perform r).on c₁).1 = .error (.wire (.truncated 4 2)) ∧
      ((perform r).on c₂).2.systemError = 5 ∧ ((perform r).on c₂).2.reply.unread = [1, 0] := by
  intro r p c c₁ c₂
  have hsent (d : Dialect) (frames : List (List UInt8)) :
      (Invocation.remote r).body? d (answeredBy d 64 frames) = some (r.payload d) :=
    Invocation.body?_remote _ rfl (by cases d <;> decide) (by cases d <;> decide)
  have alone : Answered .v2 r p c :=
    ⟨rfl, by decide, _, _, rfl, hsent .v2 _, Sink.hasRoom_of_none rfl _, by decide⟩
  have enveloped : Answered .v1 r (Encoding.word 1 ++ Encoding.word 0 ++ p) c₁ :=
    ⟨rfl, by decide, _, _, rfl, hsent .v1 _, Sink.hasRoom_of_none rfl _, by decide⟩
  have passed : Answered .v1 r (Encoding.word 9 ++ p) c₂ :=
    ⟨rfl, by decide, _, _, rfl, hsent .v1 _, Sink.hasRoom_of_none rfl _, by decide⟩
  have halone : ((perform r).on c).1 = .error (.wire (.truncated 4 2)) := by decide
  have htold : ((perform r).on c).2.systemError = 5 := by decide
  have hleft : ((perform r).on c).2.reply.unread = [1, 0] := by decide
  obtain ⟨⟨hresult, -⟩, -, halike⟩ :=
    same_result_in_either_dialect (by decide) alone enveloped (by decide) passed rfl rfl
  exact ⟨alone, enveloped, passed, hresult.trans halone, halike.systemError.trans htold,
    halike.unread.trans hleft⟩

end Context

end PocketLink
