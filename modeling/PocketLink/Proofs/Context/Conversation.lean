import PocketLink.Proofs.Context.Dialects

/-!
# Remote operations one after another

A caller performs remote operations one after another, whatever becomes of each. As long as the
stream takes their frames, what is on the wire is these frames in order. A device that grants a
request takes its frame and says in its reply what the answer is; as it has only so many bytes to
say, it grants only so many requests.
-/

namespace PocketLink

namespace Request

/-- A reply that grants a request: its first word does not refuse it, and the fields behind that
word say what the answer is. -/
def Grants (d : Dialect) (r : Request) (a : r.Answer) (reply : List UInt8) : Prop :=
  ∃ lastError w fields rest, d.Tells reply lastError (Encoding.word w ++ (fields ++ rest)) ∧
    r.refusal? lastError w = none ∧ r.fieldsBehind d w a fields

def frame (d : Dialect) (r : Request) : List UInt8 := Frame.encode (r.payload d)

end Request

namespace Context

/-! ## What has become of a context -/

/-- The context after some remote operations, whether they succeeded or failed. -/
def performed (requests : List Request) (c : Context) : Context :=
  requests.foldl (fun c r => ((perform r).on c).2) c

variable {d : Dialect} {r : Request} {c : Context}

@[simp] theorem performed_nil (c : Context) : performed [] c = c := rfl

@[simp] theorem performed_cons (r : Request) (requests : List Request) (c : Context) :
    performed (r :: requests) c = performed requests ((perform r).on c).2 := rfl

@[simp] theorem performed_append (first last : List Request) (c : Context) :
    performed (first ++ last) c = performed last (performed first c) :=
  List.foldl_append

/-- The frame of a request reaches the device: the stream has room for it, or what becomes of the
request is no failure of the stream. -/
def Reaches (d : Dialect) (r : Request) (c : Context) : Prop :=
  (∃ ch, c.socket.current = some ch ∧ ch.outgoing.HasRoom (r.frame d).length) ∨
    ∀ cause, ((perform r).on c).1 ≠ .error (.transport cause)

theorem Sends.sent (h : Sends d r c) (hreaches : Reaches d r c) :
    ((perform r).on c).2.socket.sent = c.socket.sent ++ r.frame d := by
  rcases hreaches with ⟨ch, hc, hroom⟩ | houtcome
  · exact sent_act h.dialect hc h.body? hroom
  · obtain ⟨ch, hc⟩ := Socket.exists_current h.isOpen
    obtain ⟨part, hsent, -, hall | ⟨cause, hcause⟩⟩ := sent_act_prefix h.dialect hc h.body?
    · rw [hall] at hsent
      exact hsent
    · exact absurd hcause (houtcome cause)

/-- A device that grants a request with some answer. -/
def Granted (d : Dialect) (r : Request) (a : r.Answer) (c : Context) : Prop :=
  ∃ reply, Answered d r reply c ∧ r.Grants d a reply

theorem Granted.dialect {a : r.Answer} (h : Granted d r a c) : c.dialect = some d := by
  obtain ⟨reply, hanswered, -⟩ := h
  exact hanswered.dialect

theorem Granted.isOpen {a : r.Answer} (h : Granted d r a c) : c.socket.isOpen = true := by
  obtain ⟨reply, hanswered, -⟩ := h
  obtain ⟨ch, body, hc, -⟩ := hanswered.answers
  rw [Socket.isOpen, hc]
  rfl

theorem Granted.on_perform {a : r.Answer} (h : Granted d r a c) :
    ((perform r).on c).1 = .ok a := by
  obtain ⟨reply, hanswered, hgrants⟩ := h
  obtain ⟨ch, body, hc, hbody, hroom, hfirst⟩ := hanswered.answers
  have hread := onLink_act_found hanswered.dialect hc hbody hroom hanswered.fits hfirst
  exact hread.1.trans (Invocation.reading_ok_iff.mpr hgrants)

end Context

end PocketLink
