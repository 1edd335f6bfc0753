import PocketLink.Proofs.Context.Refusing
import PocketLink.Proofs.Context.Sending
import PocketLink.Proofs.Wire.Fragmentation

/-!
# What a remote operation puts on the wire and takes off it

A remote operation that is refused, for want of a connection or because of a path that is too long,
leaves the connection and both buffers alone. One whose request cannot be written leaves the
connection and the reply alone. Every other one sends one frame, or as much of it as the stream
takes, and takes at most one frame off what comes back.
-/

namespace PocketLink

/-- Paths are looked at in order, and the first one that is too long is the one that is told. -/
theorem Request.tooLong?_eq_some {r : Request} {before behind : List String} {path : String}
    (hpaths : r.paths = before ++ path :: behind)
    (hshort : ∀ p ∈ before, Utf16.length p ≤ maxPath) (hlong : maxPath < Utf16.length path) :
    r.tooLong? = some (Utf16.length path) := by
  have hnone : (before.map Utf16.length).find? (fun length => maxPath < length) = none := by
    rw [List.find?_eq_none]
    intro length hlength
    obtain ⟨p, hp, rfl⟩ := List.mem_map.mp hlength
    rw [decide_eq_true_eq]
    exact Nat.not_lt.mpr (hshort p hp)
  rw [tooLong?, hpaths, List.map_append, List.find?_append, hnone, Option.none_or, List.map_cons,
    List.find?_cons_of_pos (by simpa using hlong)]

/-- What becomes of a request that is written into a buffer which was emptied for it. -/
def Request.written (d : Dialect) (r : Request) : Except WireError Unit × Buffer :=
  (r.marshal d).on (Buffer.ofBytes (Encoding.word (d.opcode r.command)))

theorem Invocation.request?_of_written {d : Dialect} {r : Request} (c : Context)
    (paths : r.tooLong? = none) {b : Buffer} (h : r.written d = (.ok (), b)) :
    (remote r).request? d c = some b.bytes := by
  rw [Request.written] at h
  simp only [request?, paths, h]

theorem Sink.exists_of_not_hasRoom {s : Sink} {n : Nat} (h : ¬ s.HasRoom n) :
    ∃ room, s.room = some room ∧ room < n := by
  cases hroom : s.room with
  | none => exact absurd (hasRoom_of_none hroom n) h
  | some room =>
    refine ⟨room, rfl, Nat.not_le.mp fun hle => h fun room' hroom' => ?_⟩
    rw [hroom] at hroom'
    cases hroom'
    exact hle

namespace Context

variable {c : Context} {d : Dialect}

theorem Sound.exists_channel {supplied : Option DeviceInfo} (h : Sound supplied c)
    (hd : c.dialect = some d) : ∃ ch, c.socket.current = some ch := by
  have hconnected : c.isConnected = true := by
    rw [isConnected, hd]
    rfl
  exact Socket.exists_current (h.isOpen.trans hconnected)

/-- A context whose connection and buffers are as they were. -/
structure Untouched (c c' : Context) : Prop where
  socket : c'.socket = c.socket
  request : c'.request = c.request
  reply : c'.reply = c.reply

theorem untouched_recorded (c : Context) (e : Error) : Untouched c (c.recorded e) := by
  cases e <;> exact ⟨rfl, rfl, rfl⟩

/-! ## Operations that are refused -/

variable {r : Request}

theorem untouched_of_not_connected (hc : c.isConnected = false) :
    ((perform r).on c).1 = .error .notConnected ∧ Untouched c ((perform r).on c).2 := by
  have hd : c.dialect = none := by
    rw [isConnected, Option.isSome_eq_false_iff, Option.isNone_iff_eq_none] at hc
    exact hc
  have hrefused := on_act_none hd (.remote r)
  exact ⟨congrArg (·.1) hrefused, congrArg (·.2.socket) hrefused, congrArg (·.2.request) hrefused,
    congrArg (·.2.reply) hrefused⟩

theorem untouched_of_tooLong (hd : c.dialect = some d) {length : Nat}
    (h : r.tooLong? = some length) :
    ((perform r).on c).1 = .error (.pathTooLong length maxPath) ∧
      Untouched c ((perform r).on c).2 := by
  have hrefused := on_perform_tooLong hd h
  have hafter : ((perform r).on c).2 = c.recorded (.pathTooLong length maxPath) :=
    congrArg (·.2) hrefused
  refine ⟨congrArg (·.1) hrefused, ?_⟩
  rw [hafter]
  exact untouched_recorded c _

/-- Of a request that cannot be written, only the buffer of requests has anything. -/
theorem kept_of_unwritten (hd : c.dialect = some d) (paths : r.tooLong? = none)
    {cause : WireError} {b : Buffer} (h : r.written d = (.error cause, b)) :
    ((perform r).on c).1 = .error (.ofWire cause) ∧ ((perform r).on c).2.socket = c.socket ∧
      ((perform r).on c).2.reply = c.reply := by
  have hunwritten := on_perform_unwritten hd paths h
  have hafter : ((perform r).on c).2 = { c with request := b }.recorded (.ofWire cause) :=
    congrArg (·.2) hunwritten
  have hkept := untouched_recorded { c with request := b } (.ofWire cause)
  rw [← hafter] at hkept
  exact ⟨congrArg (·.1) hunwritten, hkept.socket, hkept.reply⟩

/-- A request that the length word of a frame cannot count is not sent. -/
theorem kept_of_uncounted (hd : c.dialect = some d) {ch : Channel}
    (hc : c.socket.current = some ch) (paths : r.tooLong? = none) {b : Buffer}
    (h : r.written d = (.ok (), b)) (hb : UInt32.size ≤ b.length) :
    ((perform r).on c).1 = .error (.wire (.frameTooLarge (UInt32.size - 1) (UInt32.size - 1))) ∧
      ((perform r).on c).2.socket = c.socket ∧ ((perform r).on c).2.reply = c.reply := by
  have hlink : onLink (perform r) c = _ :=
    onLink_act hd (Invocation.request?_of_written c paths h)
  rw [Buffer.length_eq] at hb
  rw [on_transaction, link, Socket.on_transfer_of_ge _ _ hc hb] at hlink
  exact ⟨congrArg (·.1) hlink, congrArg (·.2.1) hlink, congrArg (·.2.2) hlink⟩

/-! ## Operations that are sent -/

/-- An invocation whose frame the stream does not take as a whole has sent the beginning of it. The
device has not taken a turn, and nothing was received. -/
theorem onLink_act_stopped (hd : c.dialect = some d) {ch : Channel}
    (hc : c.socket.current = some ch) {i : Invocation} {body : List UInt8}
    (h : i.body? d c = some body) {room : Nat} (hroom : ch.outgoing.room = some room)
    (hlt : room < (Frame.encode body).length) :
    ∃ out : Sink, out.taken = ch.sent ++ (Frame.encode body).take room ∧
      out.flushes = ch.outgoing.flushes ∧
      onLink i.act c = (.error (.transport ch.outgoing.refusal),
        c.socket.holding { ch with outgoing := out }, c.reply) := by
  obtain ⟨hr, hsize⟩ := Option.filter_eq_some_iff.mp h
  rw [decide_eq_true_eq] at hsize
  obtain ⟨out, hsend, htaken, hflushes⟩ := Frame.on_send_stopped hsize hroom hlt
  have htransfer := Socket.on_transfer_unsent c.settings.maxFrame c.reply hc hsend
  refine ⟨out, htaken, hflushes, ?_⟩
  rw [onLink_act hd hr, on_transaction, link, htransfer]
  rfl

/-- The bytes that an invocation takes off the stream are at most one frame of it. -/
theorem received_act (hd : c.dialect = some d) {ch : Channel} (hc : c.socket.current = some ch)
    {i : Invocation} {body : List UInt8} (h : i.body? d c = some body)
    (hroom : ch.outgoing.HasRoom (Frame.encode body).length) :
    ∃ ch' n, (i.act.on c).2.socket = c.socket.holding ch' ∧
      ch'.sent = ch.sent ++ Frame.encode body ∧
      n ≤ 4 + Frame.announced ch.takeTurn.incoming.bytes ∧
      ch'.incoming.bytes = ch.takeTurn.incoming.bytes.drop n := by
  obtain ⟨out, -, htaken, hlink⟩ := onLink_act_sent hd hc h hroom
  obtain ⟨hsent, hincoming⟩ := Channel.takeTurn_outgoing ch out
  obtain ⟨n, hn, hbytes⟩ :=
    Frame.bytes_recv c.settings.maxFrame { ch with outgoing := out }.takeTurn.incoming c.reply
  rw [hincoming] at hn hbytes
  have hsocket : (i.act.on c).2.socket = (onLink i.act c).2.1 := rfl
  rw [hsocket, hlink]
  rw [hincoming]
  match hrecv : (Frame.recv c.settings.maxFrame).on (ch.takeTurn.incoming, c.reply) with
  | (.ok (), source, b) =>
    rw [hrecv] at hbytes
    exact ⟨_, n, rfl, hsent.trans htaken, hn, hbytes⟩
  | (.error e, source, b) =>
    rw [hrecv] at hbytes
    exact ⟨_, n, rfl, hsent.trans htaken, hn, hbytes⟩

/-! ## All outcomes -/

/-- Without a connection, a remote operation touches nothing. With one, a path that is too long is
told by its length, the first one if there are several, and nothing is touched either. If its
arguments cannot be written, or not counted by the length word of a frame, nothing is sent or
received. In every other case it sends one frame, behind which at most the first frame of what has
come is taken off the stream; or, if the stream has no room for the frame, as much of it as it has
room for, and nothing is received. -/
theorem one_frame_or_nothing (h : Reachable c) (r : Request) :
    let outcome := ((perform r).on c).1
    let c' := ((perform r).on c).2
    (c.isConnected = false → outcome = .error .notConnected ∧ Untouched c c') ∧
      ∀ d, c.dialect = some d →
        (∀ before path behind, r.paths = before ++ path :: behind →
          (∀ p ∈ before, Utf16.length p ≤ maxPath) → maxPath < Utf16.length path →
          outcome = .error (.pathTooLong (Utf16.length path) maxPath) ∧ Untouched c c') ∧
        ((∀ p ∈ r.paths, Utf16.length p ≤ maxPath) →
          (∀ cause b, r.written d = (.error cause, b) →
            outcome = .error (.ofWire cause) ∧ c'.socket = c.socket ∧ c'.reply = c.reply) ∧
          ∀ b, r.written d = (.ok (), b) →
            (UInt32.size ≤ b.length →
              outcome = .error (.wire (.frameTooLarge (UInt32.size - 1) (UInt32.size - 1))) ∧
                c'.socket = c.socket ∧ c'.reply = c.reply) ∧
            (b.length < UInt32.size → ∃ ch ch', c.socket.current = some ch ∧
              c'.socket = c.socket.holding ch' ∧
              (ch.outgoing.HasRoom (Frame.encode b.bytes).length →
                ch'.sent = ch.sent ++ Frame.encode b.bytes ∧
                  ∃ n, n ≤ 4 + Frame.announced ch.takeTurn.incoming.bytes ∧
                    ch'.incoming.bytes = ch.takeTurn.incoming.bytes.drop n) ∧
              ∀ room, ch.outgoing.room = some room → room < (Frame.encode b.bytes).length →
                outcome = .error (.transport ch.outgoing.refusal) ∧
                  ch'.sent = ch.sent ++ (Frame.encode b.bytes).take room ∧
                  ch'.incoming = ch.incoming ∧ c'.reply = c.reply)) := by
  obtain ⟨supplied, sound⟩ := h.sound
  intro outcome c'
  refine ⟨untouched_of_not_connected, fun d hd => ⟨fun before path behind hpaths hshort hlong => ?_,
    fun hpaths => ?_⟩⟩
  · exact untouched_of_tooLong hd (Request.tooLong?_eq_some hpaths hshort hlong)
  have hnone : r.tooLong? = none := Request.tooLong?_eq_none_iff.mpr hpaths
  obtain ⟨ch, hc⟩ := sound.exists_channel hd
  refine ⟨fun cause b hm => kept_of_unwritten hd hnone hm,
    fun b hm => ⟨fun hb => kept_of_uncounted hd hc hnone hm hb, fun hb => ?_⟩⟩
  rw [Buffer.length_eq] at hb
  have hbody : (Invocation.remote r).body? d c = some b.bytes := by
    rw [Invocation.body?, Invocation.request?_of_written c hnone hm, Option.filter_some,
      if_pos (decide_eq_true hb)]
  by_cases hroom : ch.outgoing.HasRoom (Frame.encode b.bytes).length
  · obtain ⟨ch', n, hsocket, hsent, hn, hincoming⟩ := received_act hd hc hbody hroom
    refine ⟨ch, ch', hc, hsocket, fun _ => ⟨hsent, n, hn, hincoming⟩, fun room hr hlt => ?_⟩
    exact absurd (hroom room hr) (Nat.not_le.mpr hlt)
  · obtain ⟨room, hr, hlt⟩ := Sink.exists_of_not_hasRoom hroom
    obtain ⟨out, htaken, -, hlink⟩ := onLink_act_stopped hd hc hbody hr hlt
    refine ⟨ch, { ch with outgoing := out }, hc, congrArg (·.2.1) hlink,
      fun h => absurd h hroom, fun room' hr' _ => ?_⟩
    rw [hr] at hr'
    cases hr'
    exact ⟨congrArg (·.1) hlink, htaken, rfl, congrArg (·.2.2) hlink⟩

/-- A file is moved to a name of 131 characters, each of which takes two units. -/
theorem one_frame_or_nothing_surrogates :
    let c := Step.run [.connect sampleWorld] ((Context.new sampleSettings {}).withInfo sampleDevice)
    let long := String.ofList (List.replicate 131 '😀')
    Reachable c ∧ c.dialect = some .v1 ∧ Utf16.length "\\a" ≤ maxPath ∧
      ((perform (.moveFile "\\a" long)).on c).1 = .error (.pathTooLong 262 260) := by
  intro c long
  have hreachable : Reachable c := ((Reachable.new sampleSettings {}).withInfo sampleDevice).run _
  have hd : c.dialect = some .v1 := by decide
  have hshort : Utf16.length "\\a" ≤ maxPath := by decide
  have hlength : Utf16.length long = 262 := by
    have hpair : (Utf16.ofChar '😀').length = 2 := by decide
    rw [Utf16.length, Utf16.encode, String.toList_ofList, List.length_flatMap, List.map_replicate,
      hpair, List.sum_replicate_nat]
  have hlong : maxPath < Utf16.length long := by
    rw [hlength]
    decide
  have hbefore : ∀ p ∈ ["\\a"], Utf16.length p ≤ maxPath := by
    intro p hp
    rw [List.mem_singleton.mp hp]
    exact hshort
  have hrefused := ((one_frame_or_nothing hreachable (.moveFile "\\a" long)).2 .v1 hd).1
    ["\\a"] long [] rfl hbefore hlong
  rw [hlength] at hrefused
  exact ⟨hreachable, hd, hshort, hrefused.1⟩

end Context

end PocketLink
