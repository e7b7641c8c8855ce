import Mathlib.Data.Nat.Basic
import SearchBridge.Text.Encoding

/-!
# Reading what a text encodes

The glyphs of the UTF-8 encoding of a text are the characters of the text: each character is read
back from its one to four bytes, whatever follows them.

## Main results

* `Utf8.next?_utf8EncodeChar` : a character is read back from its bytes.
* `Utf8.decode_toUTF8` : a text is read back from its bytes.
-/

namespace SearchBridge.Utf8

private theorem toNat_ofNat {n : Nat} (h : n < 256) : (UInt8.ofNat n).toNat = n :=
  UInt8.toNat_ofNat_of_lt' h

/-- A byte that carries six bits of a character. -/
theorem continuation?_ofNat {n : Nat} (h : n < 64) :
    continuation? (UInt8.ofNat (n + 128)) = some n := by
  have hnat : (UInt8.ofNat (n + 128)).toNat = n + 128 := toNat_ofNat (by omega)
  have hrange : (0x80 : UInt8) ≤ UInt8.ofNat (n + 128) ∧ UInt8.ofNat (n + 128) < 0xC0 := by
    rw [UInt8.le_iff_toNat_le, UInt8.lt_iff_toNat_lt, hnat]
    exact ⟨Nat.le_add_left 128 n, Nat.add_lt_add_right h 128⟩
  rw [continuation?, if_pos hrange, hnat]
  exact congrArg some (Nat.add_sub_cancel n 128)

/-- A character that needs as many bytes as it is given is the scalar value of its code point. -/
theorem scalar?_toNat {least : Nat} {c : Char} (h : least ≤ c.toNat) :
    scalar? least c.toNat = some c := by
  have hvalid : least ≤ c.toNat ∧ c.toNat.isValidChar := ⟨h, c.valid⟩
  rw [scalar?, if_pos hvalid, Char.ofNat_toNat]

section Next

variable {w x y z : Nat} (rest : List UInt8)

/-- A character of one byte. -/
theorem next?_one (hw : w < 128) :
    next? (UInt8.ofNat w) rest = some (Char.ofNat w, rest) := by
  have hnat : (UInt8.ofNat w).toNat = w := toNat_ofNat (by omega)
  have hone : UInt8.ofNat w < 0x80 := by
    rw [UInt8.lt_iff_toNat_lt, hnat]
    exact hw
  rw [next?.eq_def, if_pos hone, hnat]

/-- A character of two bytes. -/
theorem next?_two (hw : w < 32) (hx : x < 64) :
    next? (UInt8.ofNat (w + 192)) (UInt8.ofNat (x + 128) :: rest) =
      (scalar? 0x80 (w * 64 + x)).map (·, rest) := by
  have hnat : (UInt8.ofNat (w + 192)).toNat = w + 192 := toNat_ofNat (by omega)
  simp only [next?, UInt8.lt_iff_toNat_lt, UInt8.le_iff_toNat_le, hnat, UInt8.reduceToNat]
  rw [if_neg (by omega), continuation?_ofNat hx, Option.bind_eq_bind, Option.bind_some,
    if_pos (by omega), Nat.add_sub_cancel]
  cases scalar? 0x80 (w * 64 + x) <;> rfl

/-- A character of three bytes. -/
theorem next?_three (hw : w < 16) (hx : x < 64) (hy : y < 64) :
    next? (UInt8.ofNat (w + 224)) (UInt8.ofNat (x + 128) :: UInt8.ofNat (y + 128) :: rest) =
      (scalar? 0x800 ((w * 64 + x) * 64 + y)).map (·, rest) := by
  have hnat : (UInt8.ofNat (w + 224)).toNat = w + 224 := toNat_ofNat (by omega)
  simp only [next?, UInt8.lt_iff_toNat_lt, UInt8.le_iff_toNat_le, hnat, UInt8.reduceToNat]
  rw [if_neg (by omega), continuation?_ofNat hx, continuation?_ofNat hy]
  simp only [Option.bind_eq_bind, Option.bind_some]
  rw [if_neg (by omega), if_pos (by omega), Nat.add_sub_cancel]
  cases scalar? 0x800 ((w * 64 + x) * 64 + y) <;> rfl

/-- A character of four bytes. -/
theorem next?_four (hw : w < 8) (hx : x < 64) (hy : y < 64) (hz : z < 64) :
    next? (UInt8.ofNat (w + 240))
        (UInt8.ofNat (x + 128) :: UInt8.ofNat (y + 128) :: UInt8.ofNat (z + 128) :: rest) =
      (scalar? 0x10000 (((w * 64 + x) * 64 + y) * 64 + z)).map (·, rest) := by
  have hnat : (UInt8.ofNat (w + 240)).toNat = w + 240 := toNat_ofNat (by omega)
  simp only [next?, UInt8.lt_iff_toNat_lt, UInt8.le_iff_toNat_le, hnat, UInt8.reduceToNat]
  rw [if_neg (by omega), continuation?_ofNat hx, continuation?_ofNat hy, continuation?_ofNat hz]
  simp only [Option.bind_eq_bind, Option.bind_some]
  rw [if_neg (by omega), if_neg (by omega), if_pos (by omega), Nat.add_sub_cancel]
  cases scalar? 0x10000 (((w * 64 + x) * 64 + y) * 64 + z) <;> rfl

end Next

/-- A character is read back from its bytes, whatever follows them. -/
theorem next?_utf8EncodeChar (c : Char) (rest : List UInt8) : ∃ b bs,
    String.utf8EncodeChar c = b :: bs ∧ next? b (bs ++ rest) = some (c, rest) := by
  have hval : c.val.toNat = c.toNat := rfl
  have hmax : c.toNat < 0x110000 := by
    obtain h | ⟨_, h⟩ := c.valid
    · exact Nat.lt_trans h (by decide)
    · exact h
  simp only [String.utf8EncodeChar, hval]
  split_ifs with hone htwo hthree
  · exact ⟨_, _, rfl, by rw [next?_one _ (by omega), Char.ofNat_toNat]; rfl⟩
  · have hcode : c.toNat / 64 % 32 * 64 + c.toNat % 64 = c.toNat := by omega
    refine ⟨_, _, rfl, (next?_two rest (by omega) (by omega)).trans ?_⟩
    rw [hcode, scalar?_toNat (by omega), Option.map_some]
  · have hcode : (c.toNat / 4096 % 16 * 64 + c.toNat / 64 % 64) * 64 + c.toNat % 64 = c.toNat := by
      omega
    refine ⟨_, _, rfl, (next?_three rest (by omega) (by omega) (by omega)).trans ?_⟩
    rw [hcode, scalar?_toNat (by omega), Option.map_some]
  · have hcode : ((c.toNat / 262144 % 8 * 64 + c.toNat / 4096 % 64) * 64 + c.toNat / 64 % 64) * 64
        + c.toNat % 64 = c.toNat := by
      omega
    refine ⟨_, _, rfl,
      (next?_four rest (by omega) (by omega) (by omega) (by omega)).trans ?_⟩
    rw [hcode, scalar?_toNat (by omega), Option.map_some]

/-- The glyphs of the bytes of some characters are the characters. -/
theorem decodeFrom_flatMap (cs : List Char) (fuel : Nat)
    (h : (cs.flatMap String.utf8EncodeChar).length ≤ fuel) :
    decodeFrom fuel (cs.flatMap String.utf8EncodeChar) = cs.map some := by
  induction cs generalizing fuel with
  | nil => cases fuel <;> rfl
  | cons c cs ih =>
    obtain ⟨b, bs, hbytes, hnext⟩ := next?_utf8EncodeChar c (cs.flatMap String.utf8EncodeChar)
    rw [List.flatMap_cons, hbytes, List.cons_append] at h ⊢
    cases fuel with
    | zero => cases h
    | succ fuel =>
      rw [decodeFrom, hnext]
      dsimp only
      rw [ih, List.map_cons]
      rw [List.length_cons, List.length_append] at h
      omega

/-- **The glyphs of what a text encodes** are its characters. -/
theorem decode_toUTF8 (s : String) : decode s.toUTF8.data.toList = glyphs s := by
  have hbytes : s.toUTF8.data.toList = s.toList.flatMap String.utf8EncodeChar := by
    conv => lhs; rw [← String.ofList_toList (s := s)]
    exact List.toList_data_toByteArray
  rw [decode, glyphs, hbytes]
  exact decodeFrom_flatMap _ _ le_rfl

end SearchBridge.Utf8
