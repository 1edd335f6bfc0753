import PocketLink.Context.Exchange

/-!
# What a device has to say

A device has only so many bytes to say: those that it has said and nobody has read, and those of all
its turns. Nothing that is done on this side adds to them, and a remote operation that succeeds has
taken the header of a frame off them. So nobody can go on for ever performing one after another,
as long as they succeed.
-/

namespace PocketLink

namespace Operation

variable {σ τ ε ε' α β : Type} {supply : σ → Nat} {n : Nat}

/-- An operation that never adds to a supply, and takes at least `n` off it if it succeeds. -/
def Spends (supply : σ → Nat) (n : Nat) (act : Operation σ ε α) : Prop :=
  ∀ s, supply (act.on s).2 ≤ supply s ∧
    ∀ a, (act.on s).1 = .ok a → supply (act.on s).2 + n ≤ supply s

theorem spends_of_kept {act : Operation σ ε α} (h : ∀ s, supply (act.on s).2 = supply s) :
    Spends supply 0 act :=
  fun s => ⟨Nat.le_of_eq (h s), fun _ _ => Nat.le_of_eq (h s)⟩

theorem spends_pure (a : α) : Spends supply 0 (pure a : Operation σ ε α) :=
  spends_of_kept fun _ => rfl

/-- What never succeeds may be said to take any number. -/
theorem spends_throw (n : Nat) (e : ε) : Spends supply n (throw e : Operation σ ε α) := by
  refine fun s => ⟨Nat.le_refl _, fun a ha => ?_⟩
  cases ha

theorem Spends.lt {act : Operation σ ε α} (h : Spends supply n act) (hn : 0 < n) {s s' : σ} {a : α}
    (hok : act.on s = (.ok a, s')) : supply s' < supply s := by
  have htaken := (h s).2 a (congrArg Prod.fst hok)
  rw [hok] at htaken
  dsimp only at htaken
  omega

theorem Spends.free {act : Operation σ ε α} (h : Spends supply n act) : Spends supply 0 act :=
  fun s => ⟨(h s).1, fun _ _ => (h s).1⟩

theorem Spends.bind_left {act : Operation σ ε α} {next : α → Operation σ ε β}
    (h : Spends supply n act) (hn : ∀ a, Spends supply 0 (next a)) :
    Spends supply n (act >>= next) := by
  intro s
  obtain ⟨hle, hok⟩ := h s
  rw [on_bind]
  match act.on s, hle, hok with
  | (.error e, s'), hle, _ => exact ⟨hle, fun b hb => by cases hb⟩
  | (.ok a, s'), hle, hok =>
    obtain ⟨hle', -⟩ := hn a s'
    have hfirst : supply s' + n ≤ supply s := hok a rfl
    exact ⟨Nat.le_trans hle' hle, fun b _ => by dsimp only; omega⟩

theorem Spends.bind_right {act : Operation σ ε α} {next : α → Operation σ ε β}
    (h : Spends supply 0 act) (hn : ∀ a, Spends supply n (next a)) :
    Spends supply n (act >>= next) := by
  intro s
  obtain ⟨hle, -⟩ := h s
  rw [on_bind]
  match act.on s, hle with
  | (.error e, s'), hle => exact ⟨hle, fun b hb => by cases hb⟩
  | (.ok a, s'), hle =>
    obtain ⟨hle', hok'⟩ := hn a s'
    exact ⟨Nat.le_trans hle' hle, fun b hb => Nat.le_trans (hok' b hb) hle⟩

/-- An attempt that failed has to be followed by what takes as much, or fails as well. -/
theorem Spends.attempt_bind {act : Operation σ ε α} {next : Except ε α → Operation σ ε' β}
    (h : Spends supply n act) (hok : ∀ a, Spends supply 0 (next (.ok a)))
    (herr : ∀ e, Spends supply n (next (.error e))) :
    Spends supply n (attempt act >>= next) := by
  intro s
  obtain ⟨hle, htake⟩ := h s
  rw [on_bind, on_attempt]
  match act.on s, hle, htake with
  | (.error e, s'), hle, _ =>
    obtain ⟨hle', hok'⟩ := herr e s'
    exact ⟨Nat.le_trans hle' hle, fun b hb => Nat.le_trans (hok' b hb) hle⟩
  | (.ok a, s'), hle, htake =>
    obtain ⟨hle', -⟩ := hok a s'
    have hfirst : supply s' + n ≤ supply s := htake a rfl
    exact ⟨Nat.le_trans hle' hle, fun b _ => by dsimp only; omega⟩

/-- An operation on a part, which takes what it takes off the supply of the whole. -/
theorem Spends.within {whole : τ → Nat} {part : τ → σ} {replace : σ → τ → τ} {failure : ε → ε'}
    {act : Operation σ ε α} (h : Spends supply n act)
    (hrest : ∀ s t, whole (replace s t) + supply (part t) = supply s + whole t) :
    Spends whole n (Operation.within part replace failure act) := by
  intro t
  obtain ⟨hle, hok⟩ := h (part t)
  have hafter := hrest (act.on (part t)).2 t
  rw [on_within]
  refine ⟨by dsimp only; omega, fun a ha => ?_⟩
  have htaken := hok a (mapError_eq_ok_iff.mp ha)
  dsimp only
  omega

end Operation

open Operation

/-! ## Streams -/

theorem Source.spends_readExact (n : Nat) :
    Spends (fun s : Source => s.bytes.length) n (Source.readExact n) := by
  intro s
  rw [Source.on_readExact]
  dsimp only
  rw [Source.bytes_after, List.length_drop]
  refine ⟨Nat.sub_le _ _, fun a ha => ?_⟩
  by_cases h : n ≤ s.bytes.length
  · omega
  · rw [if_neg h] at ha
    cases ha

theorem Buffer.spends_fillFrom (n : Nat) :
    Spends (fun s : Source × Buffer => s.1.bytes.length) 0 (Buffer.fillFrom n) := by
  have hread : Spends (fun s : Source × Buffer => s.1.bytes.length) n
      (Operation.within Prod.fst (fun source s => (source, s.2)) WireError.io
        (Source.readExact n)) :=
    (Source.spends_readExact n).within fun _ _ => rfl
  refine (spends_of_kept fun _ => rfl).bind_right fun _ => ?_
  dsimp only
  split
  · exact (spends_throw 0 _).bind_right fun _ => hread.free.bind_right fun _ =>
      spends_of_kept fun _ => rfl
  · exact hread.free.bind_right fun _ => spends_of_kept fun _ => rfl

/-- A frame that is received has a header. -/
theorem Frame.spends_recv (max : UInt32) :
    Spends (fun s : Source × Buffer => s.1.bytes.length) 4 (Frame.recv max) := by
  refine Spends.bind_left ?_ fun header => ?_
  · exact (Source.spends_readExact 4).within fun _ _ => rfl
  · dsimp only
    split
    · exact (spends_throw 0 _).bind_right fun _ => Buffer.spends_fillFrom _
    · exact Buffer.spends_fillFrom _

/-! ## Connections -/

namespace Channel

theorem spends_send (body : List UInt8) : Spends Channel.supply 0 (Channel.send body) := by
  have hsent : Spends Channel.supply 0 (outwards (Frame.send body)) :=
    spends_of_kept fun _ => rfl
  exact hsent.bind_right fun _ c => ⟨supply_takeTurn_le c, fun _ _ => supply_takeTurn_le c⟩

theorem spends_recv (max : UInt32) :
    Spends (fun s : Channel × Buffer => s.1.supply) 4 (Channel.recv max) := by
  refine (Frame.spends_recv max).within fun s old => ?_
  simp only [supply]
  omega

end Channel

namespace Socket

theorem spends_onChannel {α ε : Type} {failure : ε → Error} {act : Operation Channel ε α} {n : Nat}
    (h : Spends Channel.supply n act) : Spends Socket.supply n (onChannel failure act) := by
  intro s
  cases hc : s.current with
  | none =>
    rw [on_onChannel_none hc]
    exact ⟨Nat.le_refl _, fun a ha => by cases ha⟩
  | some channel =>
    obtain ⟨hle, hok⟩ := h channel
    have hsupply : s.supply = channel.supply := by rw [supply, hc]
    rw [on_onChannel hc, hsupply]
    exact ⟨hle, fun a ha => hok a (mapError_eq_ok_iff.mp ha)⟩

theorem spends_recv (max : UInt32) :
    Spends (fun s : Socket × Buffer => s.1.supply) 4 (Socket.recv max) := by
  rintro ⟨s, b⟩
  cases hc : s.current with
  | none =>
    rw [on_recv_none hc]
    exact ⟨Nat.le_refl _, fun a ha => by cases ha⟩
  | some channel =>
    obtain ⟨hle, hok⟩ := Channel.spends_recv max (channel, b)
    have hsupply : s.supply = channel.supply := by rw [supply, hc]
    rw [on_recv hc]
    dsimp only
    rw [hsupply]
    refine ⟨hle, fun a ha => hok a ?_⟩
    rw [Channel.recv, on_within, mapError_id]
    exact mapError_eq_ok_iff.mp ha

end Socket

/-! ## Remote operations -/

namespace Context

/-- How many bytes a device may still let a context read. -/
def supply (c : Context) : Nat := c.socket.supply

theorem supply_recorded (e : Error) (c : Context) : (c.recorded e).supply = c.supply := by
  cases e <;> rfl

theorem spends_fail {α : Type} (n : Nat) (e : Error) : Spends supply n (fail e : Call α) :=
  (spends_of_kept (supply_recorded e)).bind_right fun _ => spends_throw n e

theorem spends_recording {α : Type} {n : Nat} {act : Call α} (h : Spends supply n act) :
    Spends supply n (recording act) :=
  h.attempt_bind (fun a => spends_pure a) (fun e => spends_fail n e)

theorem spends_onRequest {α : Type} (act : BufferM α) : Spends supply 0 (onRequest act) :=
  spends_of_kept fun _ => rfl

theorem spends_onReply {α : Type} (act : Operation Buffer Error α) :
    Spends supply 0 (onReply act) :=
  spends_of_kept fun _ => rfl

theorem spends_ensureConnected : Spends supply 0 ensureConnected := by
  refine (spends_of_kept fun _ => rfl).bind_right fun c => ?_
  split
  · exact spends_pure _
  · exact (spends_of_kept fun _ => rfl).bind_right fun _ => spends_throw 0 _

theorem spends_exchange (d : Dialect) : Spends supply 4 (exchange d) := by
  refine (spends_of_kept fun _ => rfl).bind_right fun c => ?_
  refine Spends.bind_right ?_ fun _ => ?_
  · exact (Socket.spends_onChannel (Channel.spends_send _)).within fun _ _ => rfl
  refine (spends_of_kept fun _ => rfl).bind_right fun c => ?_
  refine Spends.bind_left ?_ fun _ => spends_onReply _
  exact (Socket.spends_recv _).within fun _ _ => rfl

theorem spends_call : Spends supply 4 call := by
  refine spends_ensureConnected.bind_right fun d => ?_
  refine (spends_of_kept fun _ => rfl).bind_right fun _ => ?_
  refine (spends_exchange d).attempt_bind (fun _ => ?_) fun e => ?_
  · exact spends_of_kept fun _ => rfl
  · exact (spends_of_kept fun _ => rfl).bind_right fun _ => spends_throw 4 e

/-- A remote operation that succeeds has read a reply, which is a header at least. -/
theorem spends_perform (r : Request) : Spends supply 4 (perform r) := by
  refine spends_ensureConnected.bind_right fun d => ?_
  split
  · exact spends_fail 4 _
  · refine Spends.bind_right ?_ fun _ => ?_
    · exact spends_ensureConnected.bind_right fun _ => spends_recording (spends_onRequest _)
    refine (spends_recording (spends_onRequest _)).bind_right fun _ => ?_
    refine spends_call.bind_left fun _ => ?_
    refine (spends_recording (spends_onReply _)).bind_right fun lastError => ?_
    exact (spends_of_kept fun _ => rfl).bind_right fun _ => spends_recording (spends_onReply _)

end Context

end PocketLink
