import PocketLink.Link.Channel
import PocketLink.Proofs.Wire.Frames

/-!
# Devices that answer each request with one frame

A channel supplies some frames if its device accepts every request and has a frame for each of the
next ones. Some of the frames may have come already, however they were cut; each of the others comes
when the device takes its turn. In front of them there may be bytes that an earlier receiver left.
-/

namespace PocketLink.Channel

/-- The turn of a device that sends one frame. -/
def answer (frame : List UInt8) : Act := { bytes := Frame.encode frame }

/-- A channel that accepts all requests and, behind the bytes that are left, has these frames. -/
structure Supplies (left : List UInt8) (frames : List (List UInt8)) (c : Channel) : Prop where
  room : c.outgoing.room = none
  isOpenInwards : c.isOpenInwards = true
  frames : ∃ early late, frames = early ++ late ∧
    c.incoming.bytes = left ++ early.flatMap Frame.encode ∧ c.turns = late.map answer

variable {c : Channel} {left : List UInt8} {f : List UInt8} {frames : List (List UInt8)}

/-- A channel whose last frame was taken has nothing left. -/
theorem Supplies.bytes_nil (h : c.Supplies left []) : c.incoming.bytes = left := by
  obtain ⟨early, late, hframes, hbytes, -⟩ := h.frames
  obtain ⟨rfl, -⟩ := List.append_eq_nil_iff.mp hframes.symm
  rw [hbytes]
  exact List.append_nil left

/-- The turn of a device that sends one frame adds it to what has come, and nothing else. -/
theorem takeTurn_answer {turns : List Act} (hopen : c.isOpenInwards = true)
    (hturns : c.turns = answer f :: turns) :
    c.takeTurn.incoming.bytes = c.incoming.bytes ++ Frame.encode f ∧ c.takeTurn.turns = turns ∧
      c.takeTurn.outgoing = c.outgoing ∧ c.takeTurn.isOpenInwards = true := by
  have hturn : c.takeTurn = { c with turns := turns }.deliver (Frame.encode f) := by
    rw [takeTurn, hturns]
    rfl
  have hopen' : { c with turns := turns }.isOpenInwards = true := hopen
  rw [hturn]
  refine ⟨bytes_deliver hopen', ?_, ?_, ?_⟩
  · rw [deliver, if_pos hopen']
  · rw [deliver, if_pos hopen']
  · rw [deliver, if_pos hopen']
    exact hopen

/-- What was sent to the device is of no matter as long as it accepts more. -/
theorem Supplies.sent (h : c.Supplies left frames) {out : Sink} (hout : out.room = none) :
    { c with outgoing := out }.Supplies left frames :=
  ⟨hout, h.isOpenInwards, h.frames⟩

/-- A channel on which the next frame has come behind the bytes that are left. Of the frames after
it some have come too, and the others are still to come. -/
structure Offers (left f : List UInt8) (early late : List (List UInt8)) (c : Channel) : Prop where
  room : c.outgoing.room = none
  isOpenInwards : c.isOpenInwards = true
  bytes : c.incoming.bytes = left ++ (Frame.encode f ++ early.flatMap Frame.encode)
  turns : c.turns = late.map answer

/-- After the turn of the device the next frame has come. -/
theorem Supplies.takeTurn (h : c.Supplies left (f :: frames)) :
    c.takeTurn.outgoing = c.outgoing ∧
      ∃ early late, frames = early ++ late ∧ c.takeTurn.Offers left f early late := by
  obtain ⟨early, late, hframes, hbytes, hturns⟩ := h.frames
  cases late with
  | nil =>
    -- All frames have come before, and the device has no turn to take.
    rw [List.append_nil] at hframes
    subst hframes
    rw [takeTurn_nil hturns]
    exact ⟨rfl, frames, [], (List.append_nil frames).symm, h.room, h.isOpenInwards, hbytes, hturns⟩
  | cons g late =>
    obtain ⟨hb, ht, ho, hi⟩ := takeTurn_answer h.isOpenInwards hturns
    have hroom : c.takeTurn.outgoing.room = none := by rw [ho, h.room]
    refine ⟨ho, ?_⟩
    cases early with
    | nil =>
      obtain ⟨rfl, rfl⟩ := List.cons.inj hframes
      refine ⟨[], frames, rfl, hroom, hi, ?_, ht⟩
      rw [hb, hbytes, List.flatMap_nil, List.append_nil, List.append_nil]
    | cons f' early =>
      obtain ⟨rfl, hrest⟩ := List.cons.inj hframes
      refine ⟨early ++ [g], late, ?_, hroom, hi, ?_, ht⟩
      · rw [List.append_assoc, List.singleton_append]
        exact hrest
      · rw [hb, hbytes, List.flatMap_cons, List.flatMap_append, List.flatMap_singleton]
        simp only [List.append_assoc]

/-- Whatever a receiver left of the next frame is in front of the other frames. -/
theorem Offers.received {early late : List (List UInt8)} (h : c.Offers left f early late)
    {left' : List UInt8} {source : Source}
    (hbytes : source.bytes = left' ++ early.flatMap Frame.encode)
    (hafter : source.afterwards = c.incoming.afterwards) :
    Supplies left' (early ++ late) { c with incoming := source } := by
  refine ⟨h.room, ?_, early, late, rfl, hbytes, h.turns⟩
  have hopen := h.isOpenInwards
  unfold Channel.isOpenInwards at hopen ⊢
  rw [← hafter] at hopen
  exact hopen

end PocketLink.Channel
