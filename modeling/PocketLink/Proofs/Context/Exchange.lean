import PocketLink.Proofs.Context.Transaction
import PocketLink.Proofs.Link.Supply

/-!
# Requests and replies in step

A device that answers each request with one frame is answered in step: the invocations that send a
request take one frame each, in order, whatever the frames hold and whatever became of the
invocations before, and everything else that is done with the context takes none.

This holds as long as no frame is longer than is accepted. Such a frame is refused when its length
has been read. Its body is left in the stream, and the next invocation takes it for its own reply.
-/

namespace PocketLink

namespace Invocation

/-- An invocation finds a frame: what it answers, and what it leaves of the reply, is what it reads
in that frame from the first byte on. -/
def Finds (d : Dialect) (c : Context) (frame : List UInt8) (i : Invocation) : Prop :=
  (i.act.on c).1 = ((i.reading d).on (Buffer.ofBytes frame)).1 ∧
    (i.act.on c).2.reply = ((i.reading d).on (Buffer.ofBytes frame)).2

theorem composed_reading (d : Dialect) (i : Invocation) : Reply.Composed (i.reading d) := by
  cases i with
  | raw => exact d.composed_openEnvelope
  | remote r =>
    refine d.composed_openEnvelope.bind fun _ => ?_
    exact Reply.composed_word.bind fun lastError => r.composed_unmarshal d lastError

end Invocation

namespace Action

/-- The body of the frame that an action sends, if it sends one. -/
def body? (d : Dialect) (c : Context) : Action → Option (List UInt8)
  | invoke i => i.body? d c
  | _ => none

/-- How many of some actions, one after another, exchange frames with the device. -/
def exchanges (d : Dialect) : List Action → Context → Nat
  | [], _ => 0
  | a :: actions, c => (if (a.body? d c).isSome then 1 else 0) + exchanges d actions (a.after c)

variable {d : Dialect} {a : Action} {c : Context}

theorem exchanges_cons_of_none (h : a.body? d c = none) (actions : List Action) :
    exchanges d (a :: actions) c = exchanges d actions (a.after c) := by
  rw [exchanges, h]
  exact Nat.zero_add _

theorem exchanges_cons_of_some {body : List UInt8} (h : a.body? d c = some body)
    (actions : List Action) :
    exchanges d (a :: actions) c = exchanges d actions (a.after c) + 1 := by
  rw [exchanges, h]
  exact Nat.add_comm 1 _

end Action

namespace Context

/-- A context that is connected in a dialect, accepts frames up to a length, and whose channel
supplies frames behind the bytes that are left. -/
structure Awaits (d : Dialect) (max : UInt32) (left : List UInt8) (frames : List (List UInt8))
    (c : Context) : Prop where
  dialect : c.dialect = some d
  maxFrame : c.settings.maxFrame = max
  channel : ∃ ch, c.socket.current = some ch ∧ ch.Supplies left frames

variable {d : Dialect} {max : UInt32} {left f : List UInt8} {frames : List (List UInt8)}
  {c : Context}

theorem Awaits.isOpen (h : Awaits d max left frames c) : c.socket.isOpen = true := by
  obtain ⟨ch, hc, -⟩ := h.channel
  rw [Socket.isOpen, hc]
  rfl

theorem Awaits.standing_after (h : Awaits d max left frames c) (a : Action) :
    (a.after c).dialect = some d ∧ (a.after c).settings.maxFrame = max := by
  have hs : Standing c (a.after c) := Context.standing_after (fun _ => h.isOpen) a
  refine ⟨hs.dialect.trans h.dialect, ?_⟩
  rw [hs.settings]
  exact h.maxFrame

theorem awaits_of_holding {s : Socket} {ch : Channel} (hd : c.dialect = some d)
    (hm : c.settings.maxFrame = max) (hsocket : c.socket = s.holding ch)
    (hs : ch.Supplies left frames) : Awaits d max left frames c := by
  refine ⟨hd, hm, ch, ?_, hs⟩
  rw [hsocket]
  rfl

/-! ## Actions that send nothing -/

/-- An action that sends nothing does nothing to the connection. -/
theorem socket_after_of_none (hd : c.dialect = some d) (hopen : c.socket.isOpen = true) {a : Action}
    (ha : a.body? d c = none) : (a.after c).socket = c.socket := by
  cases a with
  | invoke i =>
    obtain ⟨e, he⟩ := onLink_act_refused hd hopen ha
    exact congrArg (·.2.1) he
  | beginCommand opcode =>
    rw [Action.after, on_beginCommand hd]
  | write act => rfl
  | read act => rfl

theorem Awaits.socket_after (h : Awaits d max left frames c) {a : Action}
    (ha : a.body? d c = none) : (a.after c).socket = c.socket :=
  socket_after_of_none h.dialect h.isOpen ha

theorem Awaits.after (h : Awaits d max left frames c) {a : Action} (ha : a.body? d c = none) :
    Awaits d max left frames (a.after c) := by
  obtain ⟨hd, hm⟩ := h.standing_after a
  refine ⟨hd, hm, ?_⟩
  rw [h.socket_after ha]
  exact h.channel

/-! ## Invocations that send a request -/

/-- What an invocation does when it sends a request: the next frame has come, and what comes first
in the stream is received and read. -/
theorem Awaits.onLink_act (h : Awaits d max left (f :: frames) c) {i : Invocation}
    {body : List UInt8} (hb : i.body? d c = some body) :
    ∃ (ch : Channel) (early late : List (List UInt8)), frames = early ++ late ∧
      ch.Offers left f early late ∧
      onLink i.act c =
        match (Frame.recv max).on (ch.incoming, c.reply) with
        | (.ok (), source, b) =>
          (((i.reading d).on b).1, c.socket.holding { ch with incoming := source },
            ((i.reading d).on b).2)
        | (.error e, source, b) =>
          (.error (.ofWire e), c.socket.holding { ch with incoming := source }, b) := by
  obtain ⟨ch, hc, hs⟩ := h.channel
  have hroom := Sink.hasRoom_of_none hs.room (Frame.encode body).length
  obtain ⟨out, hout, -, hlink⟩ := onLink_act_sent h.dialect hc hb hroom
  rw [hs.room, Option.map_none] at hout
  obtain ⟨-, early, late, hframes, hoffers⟩ := (hs.sent hout).takeTurn
  rw [h.maxFrame] at hlink
  exact ⟨_, early, late, hframes, hoffers, hlink⟩

/-- Every invocation that sends a request puts one frame on the wire. -/
theorem Awaits.sent (h : Awaits d max left (f :: frames) c) {i : Invocation} {body : List UInt8}
    (hb : i.body? d c = some body) :
    (i.act.on c).2.socket.sent = c.socket.sent ++ Frame.encode body := by
  obtain ⟨ch, hc, hs⟩ := h.channel
  exact sent_act h.dialect hc hb (Sink.hasRoom_of_none hs.room _)

/-- A frame that is accepted is found if it stands first in the stream. -/
theorem Awaits.finds (h : Awaits d max left (f :: frames) c) {i : Invocation} {body : List UInt8}
    (hb : i.body? d c = some body) (hf : f.length ≤ max.toNat)
    (hfirst : Frame.encode f <+: left ++ Frame.encode f) : i.Finds d c f := by
  obtain ⟨ch, hc, hs⟩ := h.channel
  obtain ⟨-, early, late, -, hoffers⟩ := hs.takeTurn
  have hstream : Frame.encode f <+: ch.takeTurn.incoming.bytes := by
    rw [hoffers.bytes, ← List.append_assoc]
    exact hfirst.trans (List.prefix_append _ _)
  rw [← h.maxFrame] at hf
  exact onLink_act_found h.dialect hc hb (Sink.hasRoom_of_none hs.room _) hf hstream

/-- An invocation that finds the next frame, with nothing left in front of it, leaves nothing of
it. -/
theorem Awaits.next (h : Awaits d max [] (f :: frames) c) {i : Invocation} {body : List UInt8}
    (hb : i.body? d c = some body) (hf : f.length ≤ max.toNat) :
    Awaits d max [] frames (i.act.on c).2 := by
  obtain ⟨hd, hm⟩ := h.standing_after (.invoke i)
  obtain ⟨ch, early, late, rfl, hoffers, hlink⟩ := h.onLink_act hb
  obtain ⟨source, hrecv, hbytes, hafter⟩ := Frame.on_recv_encode hoffers.bytes hf c.reply
  rw [hrecv] at hlink
  exact awaits_of_holding hd hm (congrArg (·.2.1) hlink) (hoffers.received hbytes hafter)

/-- An invocation whose frame is too long fails for that reason. The body of the frame is left in
front of the next frames. -/
theorem Awaits.oversized (h : Awaits d max [] (f :: frames) c) {i : Invocation} {body : List UInt8}
    (hb : i.body? d c = some body) (hf : max.toNat < f.length) (hlt : f.length < UInt32.size) :
    (i.act.on c).1 = .error (.wire (.frameTooLarge f.length max.toNat)) ∧
      Awaits d max f frames (i.act.on c).2 := by
  obtain ⟨hd, hm⟩ := h.standing_after (.invoke i)
  obtain ⟨ch, early, late, rfl, hoffers, hlink⟩ := h.onLink_act hb
  obtain ⟨source, hrecv, hbytes, hafter⟩ := Frame.on_recv_oversized hoffers.bytes hlt hf c.reply
  rw [hrecv] at hlink
  refine ⟨congrArg (·.1) hlink, ?_⟩
  exact awaits_of_holding hd hm (congrArg (·.2.1) hlink) (hoffers.received hbytes hafter)

/-- What an invocation finds stands first in the stream and is accepted: no other reply is read in
the same way, because reading leaves the bytes of a reply in place and no reply fails as a frame
does. -/
theorem Awaits.first_of_finds (h : Awaits d max left (f :: frames) c) {i : Invocation}
    {body : List UInt8} (hb : i.body? d c = some body) (hfinds : i.Finds d c f) :
    f.length ≤ max.toNat ∧ Frame.encode f <+: left ++ Frame.encode f := by
  obtain ⟨ch, early, late, -, hoffers, hlink⟩ := h.onLink_act hb
  obtain ⟨hanswer, hreply⟩ := hfinds
  have hreads := (i.composed_reading d).onlyReads
  match hrecv : (Frame.recv max).on (ch.incoming, c.reply) with
  | (.ok (), source, b) =>
    obtain ⟨hb', hbytes, hlen⟩ := Frame.encode_of_on_recv hrecv
    rw [hrecv] at hlink
    have hfound : (i.act.on c).2.reply = ((i.reading d).on b).2 := congrArg (·.2.2) hlink
    have hsame : b.bytes = f := by
      have hleft : ((i.reading d).on b).2.bytes = b.bytes := (hreads b.bytes).after rfl
      have hright : ((i.reading d).on (Buffer.ofBytes f)).2.bytes = f := (hreads f).after rfl
      rw [← hleft, ← hfound, hreply, hright]
    rw [hsame] at hbytes hlen
    refine ⟨hlen, ?_⟩
    have hstream : Frame.encode f <+: left ++ Frame.encode f ++ early.flatMap Frame.encode := by
      refine ⟨source.bytes, ?_⟩
      rw [← hbytes, hoffers.bytes, List.append_assoc]
    refine List.prefix_of_prefix_length_le hstream (List.prefix_append _ _) ?_
    rw [List.length_append]
    omega
  | (.error e, source, b) =>
    rw [hrecv] at hlink
    have hfail : (i.act.on c).1 = .error (.ofWire e) := congrArg (·.1) hlink
    have hreading : Error.isOfReply (.ofWire e) = true :=
      (hreads f).failure rfl (hanswer.symm.trans hfail)
    rcases Frame.error_of_on_recv hrecv with ⟨cause, rfl⟩ | ⟨length, limit, rfl⟩
    · cases hreading
    · cases hreading

/-! ## Whole runs -/

/-- As long as nothing is sent, the connection is as it was. -/
theorem Awaits.run_quiet (h : Awaits d max left frames c) {actions : List Action}
    (quiet : Action.exchanges d actions c = 0) :
    Awaits d max left frames (Action.run actions c) := by
  induction actions generalizing c with
  | nil => exact h
  | cons a actions ih =>
    cases ha : a.body? d c with
    | none =>
      rw [Action.exchanges_cons_of_none ha] at quiet
      exact ih (h.after ha) quiet
    | some body =>
      rw [Action.exchanges_cons_of_some ha] at quiet
      cases quiet

/-- After some actions the device still has the frames that none of them has taken. -/
theorem Awaits.run (h : Awaits d max [] frames c) (fits : ∀ f ∈ frames, f.length ≤ max.toNat)
    {actions : List Action} (enough : Action.exchanges d actions c ≤ frames.length) :
    Awaits d max [] (frames.drop (Action.exchanges d actions c)) (Action.run actions c) := by
  induction actions generalizing c frames with
  | nil => exact h
  | cons a actions ih =>
    cases ha : a.body? d c with
    | none =>
      rw [Action.exchanges_cons_of_none ha] at enough ⊢
      exact ih (h.after ha) fits enough
    | some body =>
      rw [Action.exchanges_cons_of_some ha] at enough ⊢
      cases frames with
      | nil => cases enough
      | cons f frames =>
        cases a with
        | invoke i =>
          have hnext := h.next ha (fits f (List.mem_cons_self ..))
          rw [List.drop_succ_cons]
          refine ih hnext (fun g hg => fits g (List.mem_cons_of_mem f hg)) ?_
          exact Nat.le_of_succ_le_succ enough
        | beginCommand opcode => cases ha
        | write act => cases ha
        | read act => cases ha

/-- On a context that is connected to a device which accepts every request and has a frame for each
of them, none longer than is accepted, every invocation that sends a request finds the frame that is
meant for it, whatever was done before. What sends nothing does nothing to the connection. When all
frames were taken nothing is left in the stream, and the context is still connected. -/
theorem replies_in_step {ch : Channel} (hd : c.dialect = some d) (hc : c.socket.current = some ch)
    (supplies : ch.Supplies [] frames) (fits : ∀ f ∈ frames, f.length ≤ c.settings.maxFrame.toNat)
    (actions : List Action) (enough : Action.exchanges d actions c ≤ frames.length) :
    let c' := Action.run actions c
    let taken := Action.exchanges d actions c
    c'.dialect = some d ∧
      (∃ ch', c'.socket.current = some ch' ∧ ch'.Supplies [] (frames.drop taken) ∧
        (taken = frames.length → ch'.incoming.bytes = [])) ∧
      (∀ a : Action, a.body? d c' = none → (a.after c').socket = c'.socket) ∧
      (∀ i : Invocation, i.body? d c' = none →
        (∃ e, (i.act.on c').1 = .error e) ∧ (i.act.on c').2.reply = c'.reply) ∧
      ∀ (i : Invocation) (body : List UInt8), i.body? d c' = some body →
        ∀ f, frames[taken]? = some f →
          i.Finds d c' f ∧ (i.act.on c').2.socket.sent = c'.socket.sent ++ Frame.encode body := by
  intro c' taken
  have h : Awaits d c.settings.maxFrame [] (frames.drop taken) c' := by
    have hstart : Awaits d c.settings.maxFrame [] frames c := ⟨hd, rfl, ch, hc, supplies⟩
    exact hstart.run fits enough
  obtain ⟨ch', hc', hs'⟩ := h.channel
  refine ⟨h.dialect, ⟨ch', hc', hs', fun hall => ?_⟩, fun a ha => h.socket_after ha,
    fun i hi => ?_, ?_⟩
  · rw [hall, List.drop_length] at hs'
    exact hs'.bytes_nil
  · obtain ⟨e, he⟩ := onLink_act_refused h.dialect h.isOpen hi
    exact ⟨⟨e, congrArg (·.1) he⟩, congrArg (·.2.2) he⟩
  · intro i body hbody f hf
    obtain ⟨hlt, rfl⟩ := List.getElem?_eq_some_iff.mp hf
    rw [List.drop_eq_getElem_cons hlt] at h
    have hfit := fits frames[taken] (List.getElem_mem hlt)
    exact ⟨h.finds hbody hfit List.prefix_rfl, h.sent hbody⟩

/-- A context that is connected to a device which answers with some frames. -/
def answeredBy (d : Dialect) (max : UInt32) (frames : List (List UInt8)) : Context where
  settings :=
    { port := devicePort, proxyDir := ⟨"/run/synce"⟩, infoDir := ⟨"/etc/synce"⟩, maxFrame := max }
  resolver := .fixed []
  dialect := some d
  socket := { current := some { turns := frames.map Channel.answer } }

theorem supplies_answers (frames : List (List UInt8)) :
    Channel.Supplies [] frames { turns := frames.map Channel.answer } :=
  ⟨rfl, rfl, [], frames, rfl, rfl, rfl⟩

/-- A reply that ends inside its envelope, then a reply with a status, then one that is in order. -/
theorem replies_in_step_after_failures :
    let frames : List (List UInt8) := [[1, 0], [1, 0, 0, 0, 5, 0, 0, 0, 7], [0, 0, 0, 0, 8]]
    let c := answeredBy .v1 16 frames
    let c' := Action.run [.invoke .raw, .beginCommand 2, .invoke .raw] c
    (∀ f ∈ frames, f.length ≤ c.settings.maxFrame.toNat) ∧
      (Invocation.raw.act.on c).1 = .error (.wire (.truncated 4 2)) ∧
      Invocation.raw.Finds .v1 c' [0, 0, 0, 0, 8] := by
  intro frames c c'
  have fits : ∀ f ∈ frames, f.length ≤ c.settings.maxFrame.toNat := by decide
  have hin := replies_in_step (d := .v1) (c := c) rfl rfl (supplies_answers frames) fits
    [.invoke .raw, .beginCommand 2, .invoke .raw] (by decide)
  obtain ⟨-, -, -, -, hfinds⟩ := hin
  exact ⟨fits, rfl, (hfinds .raw (Encoding.word 2) (by decide) _ (by decide)).1⟩

/-! ## Frames that are too long -/

/-- After a reply that is too long the context is connected, and the next invocation finds the frame
that is meant for it exactly if that frame is accepted and the body that was left, with the frame
behind it, happens to start with that very frame. -/
theorem found_after_oversized_iff {ch : Channel} {p g : List UInt8} (hd : c.dialect = some d)
    (hc : c.socket.current = some ch) (supplies : ch.Supplies [] (p :: g :: frames))
    (tooLong : c.settings.maxFrame.toNat < p.length) (announced : p.length < UInt32.size)
    {i : Invocation} {body : List UInt8} (hi : i.body? d c = some body)
    (between : List Action) (quiet : Action.exchanges d between (i.act.on c).2 = 0) :
    let c' := Action.run between (i.act.on c).2
    (i.act.on c).1 = .error (.wire (.frameTooLarge p.length c.settings.maxFrame.toNat)) ∧
      c'.dialect = some d ∧
      ∀ (j : Invocation) (next : List UInt8), j.body? d c' = some next →
        (j.Finds d c' g ↔
          g.length ≤ c.settings.maxFrame.toNat ∧ Frame.encode g <+: p ++ Frame.encode g) := by
  intro c'
  have hstart : Awaits d c.settings.maxFrame [] (p :: g :: frames) c := ⟨hd, rfl, ch, hc, supplies⟩
  obtain ⟨hfail, hleft⟩ := hstart.oversized hi tooLong announced
  have h : Awaits d c.settings.maxFrame p (g :: frames) c' := hleft.run_quiet quiet
  refine ⟨hfail, h.dialect, fun j next hj => ⟨fun hfinds => ?_, fun hfirst => ?_⟩⟩
  · exact h.first_of_finds hj hfinds
  · exact h.finds hj hfirst.1 hfirst.2

/-- A body that is too long and looks like the frame of the next reply. -/
theorem found_after_oversized_same :
    let g : List UInt8 := [7, 7]
    let c := answeredBy .v2 4 [Frame.encode g, g]
    Frame.encode g <+: Frame.encode g ++ Frame.encode g ∧
      Invocation.raw.Finds .v2 (Invocation.raw.act.on c).2 g := by
  intro g c
  have hfirst : Frame.encode g <+: Frame.encode g ++ Frame.encode g := List.prefix_append _ _
  have hbody : Invocation.raw.body? .v2 c = some [] := by decide
  have hnext : Invocation.raw.body? .v2 (Invocation.raw.act.on c).2 = some [] := by decide
  have hfound := found_after_oversized_iff (c := c) rfl rfl
    (supplies_answers [Frame.encode g, g]) (by decide) (by decide) hbody [] rfl
  exact ⟨hfirst, (hfound.2.2 .raw [] hnext).mpr ⟨by decide, hfirst⟩⟩

/-- It is not so that a call which follows on a frame that is too long always finds its own reply:
with eight bytes left of which the first four announce four more, it finds those. -/
theorem not_found_after_oversized :
    ¬ ∀ (c : Context) (d : Dialect) (ch : Channel) (p g : List UInt8) (i j : Invocation)
        (body next : List UInt8),
      c.dialect = some d → c.socket.current = some ch → ch.Supplies [] [p, g] →
      p.length < UInt32.size → g.length ≤ c.settings.maxFrame.toNat →
      i.body? d c = some body →
      (i.act.on c).1 = .error (.wire (.frameTooLarge p.length c.settings.maxFrame.toNat)) →
      (i.act.on c).2.dialect = some d → j.body? d (i.act.on c).2 = some next →
      j.Finds d (i.act.on c).2 g := by
  intro claim
  let p : List UInt8 := [4, 0, 0, 0, 9, 9, 9, 9]
  let g : List UInt8 := [1, 2, 3, 4]
  let c := answeredBy .v2 4 [p, g]
  have hbody : Invocation.raw.body? .v2 c = some [] := by decide
  have hnext : Invocation.raw.body? .v2 (Invocation.raw.act.on c).2 = some [] := by decide
  have hstart : Awaits .v2 4 [] [p, g] c := ⟨rfl, rfl, _, rfl, supplies_answers [p, g]⟩
  obtain ⟨hfail, hleft⟩ := hstart.oversized hbody (by decide) (by decide)
  have hfinds := claim c .v2 _ p g .raw .raw [] [] rfl rfl (supplies_answers [p, g]) (by decide)
    (by decide) hbody hfail hleft.dialect hnext
  have hfirst := (hleft.first_of_finds hnext hfinds).2
  exact absurd hfirst (by decide)

end Context

end PocketLink
