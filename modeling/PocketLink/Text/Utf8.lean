/-!
# Text in files

Files hold bytes; the program's own files hold text as UTF-8. Writing never fails, reading fails on
bytes that are not UTF-8, and what was written reads back.
-/

namespace PocketLink.Utf8

/-- The bytes of a text. -/
def encode (text : String) : List UInt8 := text.toUTF8.data.toList

/-- The text of some bytes; `none` if they are not UTF-8. -/
def decode? (bytes : List UInt8) : Option String := String.fromUTF8? ⟨bytes.toArray⟩

@[simp] theorem decode?_encode (text : String) : decode? (encode text) = some text := by
  have h : decode? (encode text) = String.fromUTF8? text.toUTF8 := by simp [decode?, encode]
  rw [h]
  exact dif_pos text.isValidUTF8

end PocketLink.Utf8
