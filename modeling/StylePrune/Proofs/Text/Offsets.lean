import StylePrune.Proofs.Text.Utf8

/-!
Offsets in the bytes of a text.

An offset at which a character starts is the byte count of what stands in front of it. The byte there tells an ASCII
character from every other one (`firstByte_beq`), and the other bytes of a longer character are none of ASCII
(`high_of_getElem?`).
-/
namespace StylePrune.Text

/-! ## The bytes of a character -/

theorem encodeChar_of_ascii {c : Char} (h : c.toNat < 0x80) : encodeChar c = [c.toNat.toUInt8] := by
  simp [encodeChar, h]

theorem length_encodeChar (c : Char) : (encodeChar c).length = charBytes c := by
  rw [encodeChar, charBytes]
  split
  · rfl
  split
  · rfl
  split <;> rfl

/-- The bytes of a character outside ASCII are outside of it, too. -/
theorem high_of_mem_encodeChar {c : Char} {b : UInt8} (h : 0x80 ≤ c.toNat) (hb : b ∈ encodeChar c) :
    0x80 ≤ b.toNat := by
  have hvalid : c.toNat < 0xd800 ∨ 0xdfff < c.toNat ∧ c.toNat < 0x110000 := c.valid
  have hbyte {n : Nat} (hn : 0x80 ≤ n) (hlt : n < 256) : 0x80 ≤ n.toUInt8.toNat := by rwa [toNat_toUInt8 hlt]
  rw [encodeChar] at hb
  simp only [if_neg (Nat.not_lt.2 h)] at hb
  split at hb
  · simp only [List.mem_cons, List.not_mem_nil, or_false] at hb
    rcases hb with rfl | rfl <;> exact hbyte (by omega) (by omega)
  split at hb
  · simp only [List.mem_cons, List.not_mem_nil, or_false] at hb
    rcases hb with rfl | rfl | rfl <;> exact hbyte (by omega) (by omega)
  · simp only [List.mem_cons, List.not_mem_nil, or_false] at hb
    rcases hb with rfl | rfl | rfl | rfl <;> exact hbyte (by omega) (by omega)

theorem charBytes_pos (c : Char) : 0 < charBytes c := by
  rw [charBytes]
  split
  · decide
  split
  · decide
  split <;> decide

def firstByte (c : Char) : UInt8 := (encodeChar c).headD 0

theorem head?_encodeChar (c : Char) : (encodeChar c)[0]? = some (firstByte c) := by
  have hpos : 0 < (encodeChar c).length := by
    rw [length_encodeChar]
    exact charBytes_pos c
  cases h : encodeChar c with
  | nil => rw [h] at hpos; cases hpos
  | cons b bs => rw [firstByte, h]; rfl

/-- The first byte of a character is that of an ASCII character only if this is the character. -/
theorem firstByte_beq (c : Char) {k : Char} (hk : k.toNat < 0x80) : (firstByte c == k.toNat.toUInt8) = (c == k) := by
  rw [Bool.eq_iff_iff, beq_iff_eq, beq_iff_eq]
  constructor
  · intro h
    have hbyte {n : Nat} (hn : n < 0x80) : n.toUInt8.toNat = n := toNat_toUInt8 (by omega)
    by_cases hc : c.toNat < 0x80
    · rw [firstByte, encodeChar_of_ascii hc, List.headD_cons] at h
      have hnat := congrArg UInt8.toNat h
      rw [hbyte hc, hbyte hk] at hnat
      exact Char.ext (UInt32.toNat_inj.1 hnat)
    · have hhigh := high_of_mem_encodeChar (Nat.not_lt.1 hc) (List.mem_of_getElem? (head?_encodeChar c))
      rw [h, hbyte hk] at hhigh
      omega
  · rintro rfl
    rw [firstByte, encodeChar_of_ascii hk, List.headD_cons]

/-! ## The bytes of a text -/

theorem toBytes_append (s t : Text) : toBytes (s ++ t) = toBytes s ++ toBytes t := List.flatMap_append

theorem toBytes_cons (c : Char) (s : Text) : toBytes (c :: s) = encodeChar c ++ toBytes s := rfl

theorem byteCount_cons (c : Char) (s : Text) : byteCount (c :: s) = charBytes c + byteCount s := rfl

theorem byteCount_append (s t : Text) : byteCount (s ++ t) = byteCount s + byteCount t := by
  induction s with
  | nil => exact (Nat.zero_add _).symm
  | cons c s ih => rw [List.cons_append, byteCount_cons, byteCount_cons, ih, Nat.add_assoc]

theorem length_toBytes (s : Text) : (toBytes s).length = byteCount s := by
  induction s with
  | nil => rfl
  | cons c s ih => rw [toBytes_cons, List.length_append, length_encodeChar, ih, byteCount_cons]

theorem byteCount_pos {s : Text} (h : s ≠ []) : 0 < byteCount s := by
  obtain ⟨c, s, rfl⟩ := List.exists_cons_of_ne_nil h
  rw [byteCount_cons]
  exact Nat.add_pos_left (charBytes_pos c) _

theorem byteCount_eq_zero {s : Text} : byteCount s = 0 ↔ s = [] := by
  refine ⟨fun h => not_not.1 fun hs => ?_, fun h => by rw [h]; rfl⟩
  exact Nat.ne_of_gt (byteCount_pos hs) h

theorem byteCount_lt_append (a : Text) {s : Text} (h : s ≠ []) : byteCount a < byteCount (a ++ s) := by
  rw [byteCount_append]
  exact Nat.lt_add_of_pos_right (byteCount_pos h)

theorem byteCount_concat_ascii (a : Text) {c : Char} (hc : c.toNat < 0x80) :
    byteCount (a ++ [c]) = byteCount a + 1 := by
  rw [byteCount_append, byteCount_cons, charBytes, if_pos hc]
  rfl

theorem getElem?_toBytes (a : Text) (c : Char) (r : Text) :
    (toBytes (a ++ c :: r))[byteCount a]? = some (firstByte c) := by
  rw [toBytes_append, ← length_toBytes, List.getElem?_append_right (Nat.le_refl _), Nat.sub_self, toBytes_cons,
    List.getElem?_append_left, head?_encodeChar]
  rw [length_encodeChar]
  exact charBytes_pos c

theorem high_of_getElem? {a : Text} {c : Char} {r : Text} {i : Nat} {b : UInt8} (hlo : byteCount a < i)
    (hhi : i < byteCount (a ++ [c])) (hb : (toBytes (a ++ c :: r))[i]? = some b) : 0x80 ≤ b.toNat := by
  rw [byteCount_append, byteCount_cons] at hhi
  have hin : i - byteCount a < (encodeChar c).length := by
    rw [length_encodeChar]
    change i < byteCount a + (charBytes c + 0) at hhi
    omega
  rw [toBytes_append, List.getElem?_append_right (by rw [length_toBytes]; omega), length_toBytes, toBytes_cons,
    List.getElem?_append_left hin] at hb
  by_cases hc : c.toNat < 0x80
  · -- a character of ASCII has one byte
    rw [encodeChar_of_ascii hc, List.length_singleton] at hin
    omega
  · exact high_of_mem_encodeChar (Nat.not_lt.1 hc) (List.mem_of_getElem? hb)

end StylePrune.Text
