import Mathlib.Data.List.Basic
import StylePrune.Json.Cursor
import StylePrune.Json.Value

/-!
Reading back JSON strings.

Where a reader stands is said by the rest of the text; lines and columns only count for messages. A character of
a string is written as itself, as a backslash and a letter, or as an escaped code unit (`escapeChar_cases`), and
each of them is read as that character (`readStringFrom_escapeChar`). So a string is read as it was written
(`readString_of_written`).
-/
namespace StylePrune.Json

/-! ## What is left to read -/

theorem Cursor.rest_past (c : Cursor) (ch : Char) (r : Text) : (c.past ch r).rest = r := by
  rw [past]; split <;> rfl

theorem Cursor.rest_next {c : Cursor} {ch : Char} {r : Text} (h : c.rest = ch :: r) : c.next.rest = r := by
  rw [next, h]
  exact rest_past c ch r

theorem Cursor.rest_skip {c : Cursor} {w r : Text} (h : c.rest = w ++ r) : (c.skip w.length).rest = r := by
  induction w generalizing c with
  | nil => exact h
  | cons ch w ih => exact ih (rest_next h)

theorem rest_skipFrom (c : Cursor) (s : Text) : (skipFrom c s).rest = s.dropWhile isSpace := by
  induction s generalizing c with
  | nil => rfl
  | cons ch s ih =>
    rw [skipFrom, List.dropWhile_cons]
    split
    · exact ih _
    · rfl

theorem Cursor.rest_skipBlanks (c : Cursor) : c.skipBlanks.rest = c.rest.dropWhile isSpace := rest_skipFrom c c.rest

/-! ## Escapes -/

theorem hexValue?_hexDigit : ∀ d < 16, hexValue? (Text.hexDigit d) = some d := by decide

theorem readUnit_of_hex {c : Cursor} {n : Nat} {r : Text} (hn : n < 256)
    (hc : c.rest = '0' :: '0' :: Text.hexDigit (n / 16) :: Text.hexDigit (n % 16) :: r) :
    readUnit c = .ok (n, c.skip 4) := by
  have hbytes : ¬ Text.byteCount c.rest < 4 := by
    have hpos (d : Char) : 1 ≤ Text.charBytes d := by
      unfold Text.charBytes
      split <;> (try split) <;> (try split) <;> omega
    have h1 := hpos (Text.hexDigit (n / 16))
    have h2 := hpos (Text.hexDigit (n % 16))
    have h0 : Text.charBytes '0' = 1 := by decide
    rw [hc]
    simp only [Text.byteCount, List.foldr_cons, h0]
    omega
  have hdigits : (c.rest.take 4).mapM hexValue? = some [0, 0, n / 16, n % 16] := by
    have hzero : hexValue? '0' = some 0 := by decide
    rw [hc]
    simp [hzero, hexValue?_hexDigit _ (show n / 16 < 16 by omega), hexValue?_hexDigit _ (show n % 16 < 16 by omega)]
  rw [readUnit, if_neg hbytes, hdigits]
  simp only [List.foldl_cons, List.foldl_nil]
  congr 2
  omega

theorem readCodePoint_of_hex {c : Cursor} {ch : Char} {r : Text} (hch : ch.toNat < 32)
    (hc : c.rest = '0' :: '0' :: Text.hexDigit (ch.toNat / 16) :: Text.hexDigit (ch.toNat % 16) :: r) :
    readCodePoint c = .ok (ch, c.skip 4) := by
  rw [readCodePoint, readUnit_of_hex (by omega) hc]
  show (if 0xdc00 ≤ ch.toNat ∧ ch.toNat ≤ 0xdfff then _ else _) = _
  rw [if_neg (by omega), if_pos (by omega), Char.ofNat_toNat]

/-- A character of a string stands for itself, or it is escaped by a letter or as a code unit. -/
theorem escapeChar_cases (ch : Char) :
    (∃ e, escapeChar ch = ['\\', e] ∧
      ∀ (c : Cursor) (r : Text), c.rest = e :: r → readEscape c = .ok (ch, c.past e r)) ∨
    (ch.toNat < 32 ∧ escapeChar ch =
      '\\' :: 'u' :: ['0', '0', Text.hexDigit (ch.toNat / 16), Text.hexDigit (ch.toNat % 16)]) ∨
    (¬ ch.toNat < 32 ∧ ch ≠ '"' ∧ ch ≠ '\\' ∧ escapeChar ch = [ch]) := by
  by_cases hletter : ch ∈ ['"', '\\', '\n', '\r', '\t', '\x08', '\x0c']
  · left
    simp only [List.mem_cons, List.not_mem_nil, or_false] at hletter
    rcases hletter with rfl | rfl | rfl | rfl | rfl | rfl | rfl <;>
      exact ⟨_, rfl, fun c r hc => by rw [readEscape, hc]; rfl⟩
  · right
    have h8 : ch.toNat ≠ 8 := fun h => hletter (by simp [show ch = '\x08' from Char.toNat_inj.1 h])
    have h12 : ch.toNat ≠ 12 := fun h => hletter (by simp [show ch = '\x0c' from Char.toNat_inj.1 h])
    simp only [List.mem_cons, List.not_mem_nil, or_false, not_or] at hletter
    obtain ⟨hquote, hback, hn, hr, ht, -, -⟩ := hletter
    have hescape : escapeChar ch = if ch.toNat < 32 then
        ['\\', 'u', '0', '0', Text.hexDigit (ch.toNat / 16), Text.hexDigit (ch.toNat % 16)] else [ch] := by
      simp [escapeChar, hquote, hback, hn, hr, ht, h8, h12]
    by_cases h32 : ch.toNat < 32
    · exact .inl ⟨h32, by rw [hescape, if_pos h32]⟩
    · exact .inr ⟨h32, hquote, hback, by rw [hescape, if_neg h32]⟩

theorem readStringFrom_escapeChar {c : Cursor} {ch : Char} {r : Text} (hc : c.rest = escapeChar ch ++ r) :
    ∃ d : Cursor, d.rest = r ∧
      ∀ (fuel : Nat) (acc : Text), readStringFrom (fuel + 1) acc c = readStringFrom fuel (ch :: acc) d := by
  have escape {r' : Text} {d : Cursor} (hc : c.rest = '\\' :: r')
      (hescape : readEscape (c.past '\\' r') = .ok (ch, d)) (fuel : Nat) (acc : Text) :
      readStringFrom (fuel + 1) acc c = readStringFrom fuel (ch :: acc) d := by
    rw [readStringFrom, hc]
    simp [hescape]
  rcases escapeChar_cases ch with ⟨e, hwritten, hread⟩ | ⟨h32, hwritten⟩ | ⟨h32, hquote, hback, hwritten⟩
  · rw [hwritten] at hc
    exact ⟨_, Cursor.rest_past _ e r, escape hc (hread _ r (Cursor.rest_past _ _ _))⟩
  · let digits := ['0', '0', Text.hexDigit (ch.toNat / 16), Text.hexDigit (ch.toNat % 16)]
    have hdigits (d : Cursor) : (d.past 'u' (digits ++ r)).rest = digits ++ r := Cursor.rest_past d 'u' _
    have hc : c.rest = '\\' :: 'u' :: (digits ++ r) := by rw [hc, hwritten]; rfl
    refine ⟨((c.past '\\' ('u' :: (digits ++ r))).past 'u' (digits ++ r)).skip 4,
      Cursor.rest_skip (w := digits) (hdigits _), escape hc ?_⟩
    rw [readEscape, Cursor.rest_past]
    exact readCodePoint_of_hex h32 (hdigits _)
  · rw [hwritten, List.singleton_append] at hc
    refine ⟨c.past ch r, Cursor.rest_past c ch r, fun fuel acc => ?_⟩
    rw [readStringFrom, hc]
    simp only [if_neg hquote, if_neg hback, if_neg h32]

/-! ## Strings -/

theorem length_le_flatMap {α β : Type} {f : α → List β} (hf : ∀ a, f a ≠ []) (as : List α) :
    as.length ≤ (as.flatMap f).length := by
  induction as with
  | nil => exact Nat.le_refl 0
  | cons a as ih =>
    have ha := List.length_pos_iff.2 (hf a)
    rw [List.flatMap_cons, List.length_append, List.length_cons]
    omega

theorem escapeChar_ne_nil (ch : Char) : escapeChar ch ≠ [] := by
  rcases escapeChar_cases ch with ⟨e, h, -⟩ | ⟨-, h⟩ | ⟨-, -, -, h⟩ <;> simp [h]

theorem readString_of_written {c : Cursor} {s rest : Text} (hc : c.rest = s.flatMap escapeChar ++ '"' :: rest) :
    ∃ d : Cursor, readString c = .ok (s, d) ∧ d.rest = rest := by
  -- what has been read so far is kept with its last character first
  have loop (s : Text) : ∀ (fuel : Nat) (acc : Text) (c : Cursor), s.length < fuel →
      c.rest = s.flatMap escapeChar ++ '"' :: rest →
      ∃ d : Cursor, readStringFrom fuel acc c = .ok (acc.reverse ++ s, d) ∧ d.rest = rest := by
    induction s with
    | nil =>
      intro fuel acc c hf hc
      obtain ⟨fuel, rfl⟩ := Nat.exists_eq_succ_of_ne_zero (by omega : fuel ≠ 0)
      rw [List.flatMap_nil, List.nil_append] at hc
      refine ⟨c.past '"' rest, ?_, Cursor.rest_past _ _ _⟩
      rw [readStringFrom, hc, List.append_nil]
      rfl
    | cons ch s ih =>
      intro fuel acc c hf hc
      obtain ⟨fuel, rfl⟩ := Nat.exists_eq_succ_of_ne_zero (by omega : fuel ≠ 0)
      rw [List.flatMap_cons, List.append_assoc] at hc
      obtain ⟨d, hd, hstep⟩ := readStringFrom_escapeChar hc
      rw [List.length_cons] at hf
      obtain ⟨e, he, hrest⟩ := ih fuel (ch :: acc) d (by omega) hd
      refine ⟨e, ?_, hrest⟩
      rw [hstep, he, List.reverse_cons, List.append_assoc, List.singleton_append]
  have hlength := length_le_flatMap escapeChar_ne_nil s
  refine loop s _ [] c ?_ hc
  rw [hc, List.length_append]
  omega

end StylePrune.Json
