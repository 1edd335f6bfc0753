/-!
# Letter case in ASCII

Names and paths of devices are compared without regard to the case of the letters `A` to `Z`.
All other characters are told apart, so that no two different accented letters are ever one name.
-/

namespace PocketLink.Ascii

/-- A text with its ASCII letters in small case: equal keys are equal names. -/
def foldCase (text : String) : List Char := text.toList.map Char.toLower

/-- Whether two texts differ in the case of ASCII letters only. -/
def sameName (a b : String) : Bool := foldCase a == foldCase b

theorem sameName_iff {a b : String} : sameName a b = true ↔ foldCase a = foldCase b := by
  simp [sameName]

@[simp] theorem sameName_refl (a : String) : sameName a a = true := by simp [sameName]

theorem sameName_trans {a b c : String} (h : sameName a b = true) (h' : sameName b c = true) :
    sameName a c = true := by
  rw [sameName_iff] at *
  exact h.trans h'

end PocketLink.Ascii
