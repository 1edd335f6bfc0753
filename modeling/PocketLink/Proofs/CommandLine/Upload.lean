import PocketLink.Proofs.CommandLine.RemoteFiles
import PocketLink.Proofs.Files

/-!
# Files to the device

A local file is written to a remote one piece by piece, each of which the device has to acknowledge
in full. The first one that it does not acknowledge is the last one that is sent. After that, or
after the last piece, the handle is closed.
-/

namespace PocketLink.CommandLine

open Context Operation

-- As for downloads, how an operation works does not matter.
seal Context.perform

/-- The device says that it took a piece as a whole. -/
def Acknowledged (handle : UInt32) (piece : List UInt8) (c : Context) : Prop :=
  ∃ count, ((Context.perform (.writeTo handle piece)).on c).1 = .ok count ∧
    count.toNat = piece.length

/-- The device acknowledges some pieces, one after another. -/
def AllAcknowledged (handle : UInt32) : List (List UInt8) → Context → Prop
  | [], _ => True
  | piece :: pieces, c => Acknowledged handle piece c ∧
      AllAcknowledged handle pieces ((Context.perform (.writeTo handle piece)).on c).2

variable {handle : UInt32} {piece unread : List UInt8} {pieces : List (List UInt8)} {job : Job}

section Rounds

variable {file rest : OpenFile} {total : Nat}

end Rounds

/-- How far the bytes of a file get in pieces: all pieces are acknowledged, or the last one that is
sent is not. -/
inductive Gets (handle : UInt32) (c : Context) (unread : List UInt8) :
    List (List UInt8) → Except Failure Unit → Prop
  | through {sent : List (List UInt8)} (whole : sent.flatten = unread)
      (all : AllAcknowledged handle sent c) : Gets handle c unread sent (.ok ())
  | stuck {before : List (List UInt8)} {piece : List UInt8} (failure : Failure)
      (first : (before ++ [piece]).flatten <+: unread) (all : AllAcknowledged handle before c)
      (refused : ¬ Acknowledged handle piece (performed (before.map (.writeTo handle)) c)) :
      Gets handle c unread (before ++ [piece]) (.error failure)

theorem Gets.cons {c : Context} {left : List UInt8} {sent : List (List UInt8)}
    {answer : Except Failure Unit} (hfirst : Acknowledged handle piece c)
    (h : Gets handle ((Context.perform (.writeTo handle piece)).on c).2 left sent answer) :
    Gets handle c (piece ++ left) (piece :: sent) answer := by
  cases h with
  | through whole all => exact .through (by rw [List.flatten_cons, whole]) ⟨hfirst, all⟩
  | @stuck before last failure first all refused =>
    have hmore : (piece :: before ++ [last]).flatten <+: piece ++ left := by
      rw [List.cons_append, List.flatten_cons]
      exact (List.prefix_append_right_inj piece).mpr first
    exact .stuck failure hmore ⟨hfirst, all⟩ refused

theorem putFile_eq (source : Path) (target : Option String) :
    putFile source target =
      (target.elim (defaultTarget source) pure >>= fun resolved =>
        Step.doing (.openFile source.text) (Step.onFiles (·.openToRead source)) >>= fun file =>
          transferred source.text resolved <$> overHandle (.createFile resolved) resolved
            Access.write Disposition.createAlways fun handle => upload handle file) := by
  simp only [overHandle, map_bind]
  cases target with
  | none => rfl
  | some target => rfl

end PocketLink.CommandLine
