import PocketLink.Proofs.Remote.Decoding
import PocketLink.Proofs.Text.Utf16
import PocketLink.Wire.Password

/-!
# Passwords as a device reads them

A challenge says by itself where it ends: a 16-bit word counts the bytes behind it, and these are
the units of the password and a zero unit, with a key applied to each byte. The key is taken off by
applying it once more. So a device that has the key reads the password back and leaves what stands
behind the challenge, and under one key no challenge is the beginning of another.

The word counts the zero unit as well, and bytes rather than units. The longest password that it can
count has 32766 units, of which a character outside the basic plane takes two.
-/

namespace PocketLink.Password

variable {password other : String} {key : UInt8} {frame frame' : List UInt8}

/-! ## The key and the count -/

theorem map_xor_map_xor (key : UInt8) (bytes : List UInt8) :
    (bytes.map (· ^^^ key)).map (· ^^^ key) = bytes := by
  rw [List.map_map]
  refine List.map_id'' (fun byte => ?_) bytes
  rw [Function.comp_apply, UInt8.xor_assoc, UInt8.xor_self, UInt8.xor_zero]

theorem counted_iff :
    2 * (Utf16.length password + 1) < UInt16.size ↔ Utf16.length password ≤ 32766 := by
  unfold UInt16.size
  omega

/-- The word that counts the bytes of a challenge. -/
def count (password : String) : UInt16 := UInt16.ofNat (2 * (Utf16.length password + 1))

theorem toNat_count (h : Utf16.length password ≤ 32766) :
    (count password).toNat = 2 * (Utf16.length password + 1) :=
  UInt16.toNat_ofNat_of_lt' (counted_iff.mpr h)

theorem challenge_eq_ok_iff :
    challenge password key = .ok frame ↔ Utf16.length password ≤ 32766 ∧
      frame = LittleEndian.u16 (count password) ++ (plain password).map (· ^^^ key) := by
  unfold challenge
  rw [← counted_iff]
  dsimp only
  split
  · next hcounted =>
    rw [Except.ok.injEq, and_iff_right hcounted]
    exact eq_comm
  · next hcounted => exact iff_of_false nofun fun h => hcounted h.1

theorem challenge_eq_error_iff {e : WireError} :
    challenge password key = .error e ↔
      32766 < Utf16.length password ∧ e = .stringTooLong (Utf16.length password + 1) := by
  unfold challenge
  rw [← Nat.not_le, ← counted_iff]
  dsimp only
  split
  · next hcounted => exact iff_of_false nofun fun h => h.1 hcounted
  · next hcounted =>
    rw [Except.error.injEq, and_iff_right hcounted]
    exact eq_comm

/-! ## Taking the key off -/

/-- There is one challenge at most that has the form of one. -/
theorem eq_of_form {size : UInt16} {body : List UInt8} (hsize : body.length = size.toNat)
    (hbody : body.map (· ^^^ key) = plain password) :
    LittleEndian.u16 size ++ body =
      LittleEndian.u16 (count password) ++ (plain password).map (· ^^^ key) := by
  have hlength : size.toNat = 2 * (Utf16.length password + 1) := by
    rw [← hsize, ← length_plain, ← hbody, List.length_map]
  have hcount : size = count password := by
    rw [count, ← hlength, UInt16.ofNat_toNat]
  rw [hcount, ← hbody, map_xor_map_xor]

/-- Reads a challenge under a key: as many bytes as are announced, which are a text and a zero unit
when the key is taken off. -/
def revealed (key : UInt8) : Decoder String := do
  let size ← Decoder.u16
  let body ← Decoder.take size.toNat
  let units := LittleEndian.toUnits (body.map (· ^^^ key))
  if body.length % 2 = 0 ∧ units.getLast? = some 0 then Decoder.wholeText units.dropLast
  else throw .invalidUtf16

theorem revealed_takes (h : challenge password key = .ok frame) :
    (revealed key).Takes frame password := by
  obtain ⟨hlength, rfl⟩ := challenge_eq_ok_iff.mp h
  refine (Decoder.u16_takes (count password)).bind fun tail => ?_
  have hbody : (count password).toNat = ((plain password).map (· ^^^ key)).length := by
    rw [toNat_count hlength, List.length_map, length_plain]
  have heven : ((plain password).map (· ^^^ key)).length % 2 = 0 := by
    rw [← hbody, toNat_count hlength, Nat.mul_mod_right]
  have hunits : LittleEndian.toUnits (((plain password).map (· ^^^ key)).map (· ^^^ key)) =
      Utf16.encode password ++ [0] := by
    rw [map_xor_map_xor, plain, LittleEndian.toUnits_ofUnits]
  rw [hbody, Decoder.on_bind, Decoder.take_append]
  simp only [heven, hunits, List.getLast?_concat, and_self, if_true, List.dropLast_concat,
    Decoder.wholeText_encode]
  rfl

/-- A challenge that another one starts with is that one, and for the same password. -/
theorem eq_of_startsWith (h : challenge password key = .ok frame)
    (h' : challenge other key = .ok frame') (hstarts : frame <+: frame') :
    password = other ∧ frame = frame' := by
  obtain ⟨rest, rfl⟩ := hstarts
  have hfirst := revealed_takes h rest
  have hsecond := revealed_takes h' []
  rw [List.append_nil, hfirst] at hsecond
  simp only [Except.ok.injEq, Prod.mk.injEq] at hsecond
  obtain ⟨hsame, rfl⟩ := hsecond
  exact ⟨hsame, (List.append_nil frame).symm⟩

/-- A password has a challenge exactly if it has at most 32766 units, and otherwise the failure
tells the number of its units and the zero unit. The challenge is a word and as many bytes as it
says, which are the units of the password and one zero unit when the key is taken off, and no other
bytes are of that form. A device that has the key reads the password back whatever follows. So under
one key different passwords have different challenges, of which none is the beginning of another. -/
theorem challenge_reads_back (password : String) (key : UInt8) :
    ((∃ frame, challenge password key = .ok frame) ↔ Utf16.length password ≤ 32766) ∧
      (∀ frame, challenge password key = .ok frame ↔ Utf16.length password ≤ 32766 ∧
        ∃ size body, frame = LittleEndian.u16 size ++ body ∧ body.length = size.toNat ∧
          body.map (· ^^^ key) = LittleEndian.ofUnits (Utf16.encode password ++ [0])) ∧
      (∀ e, challenge password key = .error e ↔
        32766 < Utf16.length password ∧ e = .stringTooLong (Utf16.length password + 1)) ∧
      (∀ frame, challenge password key = .ok frame →
        ∀ rest, revealed key (frame ++ rest) = .ok (password, rest)) ∧
      ∀ other frame frame', challenge password key = .ok frame →
        challenge other key = .ok frame' → password ≠ other → ¬ frame <+: frame' := by
  refine ⟨⟨?_, fun hlength => ⟨_, challenge_eq_ok_iff.mpr ⟨hlength, rfl⟩⟩⟩, fun frame => ?_,
    fun e => challenge_eq_error_iff, fun frame h => revealed_takes h, ?_⟩
  · rintro ⟨frame, h⟩
    exact (challenge_eq_ok_iff.mp h).1
  · rw [challenge_eq_ok_iff]
    refine and_congr_right fun hlength => ⟨?_, ?_⟩
    · rintro rfl
      refine ⟨_, _, rfl, ?_, map_xor_map_xor key (plain password)⟩
      rw [List.length_map, length_plain, toNat_count hlength]
    · rintro ⟨size, body, rfl, hsize, hbody⟩
      exact eq_of_form hsize hbody
  · intro other frame frame' h h' hne hstarts
    exact hne (eq_of_startsWith h h' hstarts).1

/-- The longest password of characters that take two units each, and that password with one unit
more. -/
theorem challenge_reads_back_longest :
    let longest := String.ofList (List.replicate 16383 '😀')
    (∃ frame, challenge longest 0x10 = .ok frame ∧
      ∀ rest, revealed 0x10 (frame ++ rest) = .ok (longest, rest)) ∧
      challenge (longest.push 'p') 0x10 = .error (.stringTooLong 32768) := by
  intro longest
  have hlength : Utf16.length longest = 32766 := Utf16.length_replicate 16383 '😀'
  have hmore : Utf16.length (longest.push 'p') = 32767 := by
    rw [Utf16.length_push, hlength]
    rfl
  obtain ⟨hfits, -, -, hread, -⟩ := challenge_reads_back longest 0x10
  obtain ⟨frame, hframe⟩ := hfits.mpr (Nat.le_of_eq hlength)
  refine ⟨⟨frame, hframe, hread frame hframe⟩, ?_⟩
  rw [(challenge_reads_back (longest.push 'p') 0x10).2.2.1, hmore]
  decide

end PocketLink.Password
