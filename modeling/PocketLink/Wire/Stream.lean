import PocketLink.IoError
import PocketLink.Operation

/-!
# Byte streams

A stream hands its bytes over in pieces of its own choosing, and it may interrupt. A source is the
reading end: the pieces still to come, and what a reader meets behind the last of them. A sink is
the writing end: how much it takes at a time, how much in all, and what it has taken.

Reading an exact number of bytes and writing all bytes repeat until they are done. What they answer
does not depend on the pieces.
-/

namespace PocketLink

/-! ## Sources -/

/-- What one read of a stream meets. -/
inductive Arrival where
  /-- Some bytes. -/
  | piece (bytes : List UInt8)
  /-- A signal that ends the read without a byte; the reader asks again. -/
  | interrupted
  deriving DecidableEq, Repr

/-- The reading end of a stream. -/
structure Source where
  /-- What is still to come, in order. -/
  arrivals : List Arrival := []
  /-- Why a reader that wants more than that gets nothing. -/
  afterwards : IoError := .endOfStream
  deriving DecidableEq, Repr

namespace Source

/-- The bytes still to come. -/
def bytes (s : Source) : List UInt8 :=
  s.arrivals.flatMap fun
    | .piece bytes => bytes
    | .interrupted => []

/-- Takes up to `n` bytes off the arrivals: the bytes, and what is left. -/
def gather : Nat → List Arrival → List UInt8 × List Arrival
  | 0, arrivals => ([], arrivals)
  | _ + 1, [] => ([], [])
  | n + 1, .interrupted :: rest => gather (n + 1) rest
  | n + 1, .piece bytes :: rest =>
    if bytes.length ≤ n + 1 then
      let (more, left) := gather (n + 1 - bytes.length) rest
      (bytes ++ more, left)
    else
      (bytes.take (n + 1), .piece (bytes.drop (n + 1)) :: rest)

/-- Reads exactly `n` bytes. If fewer come, those that came are lost. -/
def readExact (n : Nat) : Operation Source IoError (List UInt8) := do
  let s ← get
  let (bytes, left) := gather n s.arrivals
  set { s with arrivals := left }
  if bytes.length = n then return bytes else throw s.afterwards

theorem gather_bytes (n : Nat) (arrivals : List Arrival) :
    let s : Source := { arrivals := arrivals }
    (gather n arrivals).1 = s.bytes.take n ∧
      Source.bytes { arrivals := (gather n arrivals).2 } = s.bytes.drop n := by
  induction arrivals generalizing n with
  | nil => cases n <;> simp [gather, bytes]
  | cons a rest ih =>
    cases n with
    | zero => simp [gather]
    | succ n =>
      cases a with
      | interrupted => exact ih (n + 1)
      | piece p =>
        have hcons : Source.bytes { arrivals := .piece p :: rest } =
            p ++ Source.bytes { arrivals := rest } := rfl
        by_cases hp : p.length ≤ n + 1
        · obtain ⟨h1, h2⟩ := ih (n + 1 - p.length)
          simp only [gather, if_pos hp, hcons, List.take_append, List.drop_append]
          rw [List.take_of_length_le hp, List.drop_of_length_le hp]
          exact ⟨by rw [h1], by rw [h2]; rfl⟩
        · have hp' : n + 1 ≤ p.length := by omega
          have hc2 : Source.bytes { arrivals := .piece (p.drop (n + 1)) :: rest } =
            p.drop (n + 1) ++ Source.bytes { arrivals := rest } := rfl
          simp only [gather, if_neg hp, hcons, hc2]
          exact ⟨(List.take_append_of_le_length hp').symm, (List.drop_append_of_le_length hp').symm⟩

/-- The source after up to `n` bytes were taken off it. -/
def after (n : Nat) (s : Source) : Source := { s with arrivals := (gather n s.arrivals).2 }

@[simp] theorem bytes_after (n : Nat) (s : Source) : (s.after n).bytes = s.bytes.drop n :=
  (gather_bytes n s.arrivals).2

@[simp] theorem afterwards_after (n : Nat) (s : Source) :
    (s.after n).afterwards = s.afterwards := rfl

/-- An exact read answers the next bytes if there are that many; it takes what there is. -/
theorem on_readExact (n : Nat) (s : Source) :
    (readExact n).on s =
      (if n ≤ s.bytes.length then .ok (s.bytes.take n) else .error s.afterwards, s.after n) := by
  have htake : (gather n s.arrivals).1 = s.bytes.take n := (gather_bytes n s.arrivals).1
  have hlen : (s.bytes.take n).length = n ↔ n ≤ s.bytes.length := by
    rw [List.length_take]; omega
  simp only [readExact, Operation.on_bind, Operation.on_get, Operation.on_set, htake, hlen]
  split <;> rfl

end Source

/-! ## Sinks -/

/-- What one write to a stream meets. -/
inductive Offer where
  /-- Room for at most one byte more than `n`. -/
  | upTo (n : Nat)
  /-- A signal that ends the write without a byte; the writer tries again. -/
  | interrupted
  deriving DecidableEq, Repr

/-- The writing end of a stream. -/
structure Sink where
  /-- How the next writes are cut; behind them each write takes all it has room for. -/
  offers : List Offer := []
  /-- How many bytes it still takes in all, if that is limited. -/
  room : Option Nat := none
  /-- Why a writer that wants to write more than that fails. -/
  refusal : IoError := .writeRefused
  /-- All bytes taken so far. -/
  taken : List UInt8 := []
  /-- How often it was told that a message is complete. -/
  flushes : Nat := 0
  deriving DecidableEq, Repr

namespace Sink

/-- How much one write takes of `most` bytes. -/
def limit (room : Option Nat) (most : Nat) : Nat :=
  match room with
  | some room => min most room
  | none => most

/-- What became of some bytes that were to be written. -/
structure Poured where
  /-- The bytes that were taken. -/
  taken : List UInt8 := []
  /-- The bytes that were not. -/
  left : List UInt8 := []
  /-- The room afterwards. -/
  room : Option Nat
  /-- The offers afterwards. -/
  offers : List Offer

/-- Writes until all bytes are taken or a write takes none. -/
def pour (room : Option Nat) : List Offer → List UInt8 → Poured
  | offers, [] => { room, offers }
  | [], b :: bytes =>
    let n := limit room (b :: bytes).length
    { taken := (b :: bytes).take n
      left := (b :: bytes).drop n
      room := room.map (· - n)
      offers := [] }
  | .interrupted :: offers, b :: bytes => pour room offers (b :: bytes)
  | .upTo n :: offers, b :: bytes =>
    let now := (b :: bytes).take (limit room (n + 1))
    if now.isEmpty then { left := b :: bytes, room, offers }
    else
      let later := pour (room.map (· - now.length)) offers ((b :: bytes).drop now.length)
      { later with taken := now ++ later.taken }

def writeAll (bytes : List UInt8) : Operation Sink IoError Unit := do
  let s ← get
  let p := pour s.room s.offers bytes
  set { s with taken := s.taken ++ p.taken, room := p.room, offers := p.offers }
  if !p.left.isEmpty then throw s.refusal

/-- Says that a message is complete. -/
def flush : Operation Sink IoError Unit := modify fun s => { s with flushes := s.flushes + 1 }

/-- The sink that takes nothing more. -/
def cut (s : Sink) (refusal : IoError) : Sink := { s with room := some 0, refusal }

/-- What a write takes first and what then is taken of the rest is what is taken at once. -/
theorem limit_split (room : Option Nat) (most size : Nat) :
    let now := min (limit room most) size
    now + limit (room.map (· - now)) (size - now) = limit room size := by
  cases room <;> simp only [limit, Option.map_none, Option.map_some] <;> omega

/-- What is taken depends on the room only, not on how the writes are cut. -/
theorem taken_pour (room : Option Nat) (offers : List Offer) (bytes : List UInt8) :
    (pour room offers bytes).taken = bytes.take (limit room bytes.length) := by
  induction offers generalizing room bytes with
  | nil => cases bytes <;> simp [pour]
  | cons offer offers ih =>
    cases bytes with
    | nil => simp [pour]
    | cons b bytes =>
      cases offer with
      | interrupted => simpa only [pour] using ih room (b :: bytes)
      | upTo n =>
        simp only [pour]
        generalize b :: bytes = all
        split
        · next h =>
          rw [List.isEmpty_iff] at h
          cases room with
          | none => simp_all [limit]
          | some room => cases room <;> simp_all [limit]
        · simp only [ih, List.length_drop, List.length_take]
          rw [List.take_eq_take_min, ← List.take_add, limit_split]

end Sink

end PocketLink
