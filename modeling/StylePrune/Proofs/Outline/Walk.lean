import StylePrune.Outline.Bytewise
import StylePrune.Proofs.Outline.Extension
import StylePrune.Proofs.Text.Offsets

/-!
A walk over the bytes of a stylesheet.

The walk is at the offset of a lexeme whenever the scanner is at the lexeme. A string and a comment end for the one
where they end for the other (`stringEnd_offset`, `commentEnd_offset`). Only a backslash can lead the walk into the
middle of a character, since it takes one byte along and not one character; but the bytes that are left are none of
ASCII, so the walk passes over them (`Drifts`). This gives what the walk meets at each lexeme (`exists_met`), and by
induction over the lexemes where it finds the end of a block (`exists_ends`): the depth counts the braces that the
scanner has open, and it does not get below zero because the scanner is inside the block until it ends.
-/
namespace StylePrune.Outline.Bytewise

open Text (byteCount toBytes firstByte)

/-! ## Reading bytes -/

variable {bytes : List UInt8} {c q : Char} {i j : Nat}

theorem byteAt_eq {b : UInt8} (h : bytes[i]? = some b) : byteAt bytes i = pure b := by
  rw [byteAt, h]

theorem byteAt_offset (a : Text) (c : Char) (r : Text) :
    byteAt (toBytes (a ++ c :: r)) (byteCount a) = pure (firstByte c) :=
  byteAt_eq (Text.getElem?_toBytes a c r)

theorem firstByte_eq_ascii {c k : Char} (hk : k.toNat < 0x80) : firstByte c = ascii k ↔ c = k := by
  rw [← beq_iff_eq, ascii, Text.firstByte_beq c hk, beq_iff_eq]

theorem length_le (a : Text) : (toBytes (a ++ [])).length ≤ byteCount a := by
  rw [Text.length_toBytes, List.append_nil]

theorem offset_lt_length {css a s : Text} (h : css = a ++ s) (hs : s ≠ []) : byteCount a < (toBytes css).length := by
  rw [Text.length_toBytes, h]
  exact Text.byteCount_lt_append a hs

theorem getElem?_eq_ascii (a s : Text) (hk : c.toNat < 0x80) :
    (toBytes (a ++ s))[byteCount a]? = some (ascii c) ↔ s.head? = some c := by
  cases s with
  | nil =>
    rw [List.getElem?_eq_none (length_le a)]
    simp
  | cons d r =>
    rw [Text.getElem?_toBytes, Option.some_inj, firstByte_eq_ascii hk]
    simp

theorem ne_ascii_of_high {b : UInt8} (hb : 0x80 ≤ b.toNat) {k : Char} (hk : k.toNat < 0x80) :
    (b == ascii k) = false := by
  rw [beq_eq_false_iff_ne]
  rintro rfl
  rw [ascii, Text.toNat_toUInt8 (by omega)] at hb
  omega

/-- Between the two offsets lie only bytes of characters that have started before, or both are at the end. -/
def Drifts (bytes : List UInt8) (i j : Nat) : Prop :=
  (i ≤ j ∧ ∀ k b, i ≤ k → k < j → bytes[k]? = some b → 0x80 ≤ b.toNat) ∨ bytes.length ≤ i ∧ bytes.length ≤ j

theorem Drifts.refl (bytes : List UInt8) (i : Nat) : Drifts bytes i i :=
  .inl ⟨Nat.le_refl i, fun _ _ hlo hhi _ => absurd hlo (Nat.not_le.2 hhi)⟩

/-- Such bytes make no difference to a walk that passes over each of them. -/
theorem Drifts.eq {β : Type} {f : Nat → β} {z : β} (h : Drifts bytes i j)
    (hpass : ∀ k b, bytes[k]? = some b → 0x80 ≤ b.toNat → f k = f (k + 1))
    (hend : ∀ k, bytes.length ≤ k → f k = z) : f i = f j := by
  rcases h with ⟨hij, hhigh⟩ | ⟨hi, hj⟩
  · induction j, hij using Nat.le_induction with
    | base => rfl
    | succ j hij ih =>
      rw [ih fun k b hk hkj => hhigh k b hk (Nat.lt_succ_of_lt hkj)]
      cases hb : bytes[j]? with
      | some b => exact hpass j b hb (hhigh j b hij (Nat.lt_succ_self j) hb)
      | none =>
        have hlen : bytes.length ≤ j := List.getElem?_eq_none_iff.1 hb
        rw [hend j hlen, hend (j + 1) (by omega)]
  · rw [hend i hi, hend j hj]

theorem drifts_char (a : Text) (c : Char) (r : Text) :
    Drifts (toBytes (a ++ c :: r)) (byteCount a + 1) (byteCount (a ++ [c])) := by
  refine .inl ⟨?_, fun k b hlo hhi hb => Text.high_of_getElem? (Nat.lt_of_succ_le hlo) hhi hb⟩
  rw [Text.byteCount_append]
  have := Text.byteCount_pos (s := [c]) (by simp)
  omega

/-! ## Strings -/

theorem stringEnd_end (hi : bytes.length ≤ i) (b : UInt8) : stringEnd bytes b i = pure bytes.length := by
  rw [stringEnd, if_neg (Nat.not_lt.2 hi)]

theorem stringEnd_byte {b : UInt8} (hb : bytes[i]? = some b) (quote : UInt8) :
    stringEnd bytes quote i =
      if b == ascii '\\' then stringEnd bytes quote (i + 2)
      else if b == ascii '\n' || b == quote then pure (i + 1) else stringEnd bytes quote (i + 1) := by
  rw [stringEnd, if_pos (List.getElem?_eq_some_iff.1 hb).1, byteAt_eq hb, pure_bind]

theorem stringEnd_drift (hq : q.toNat < 0x80) (h : Drifts bytes i j) :
    stringEnd bytes (ascii q) i = stringEnd bytes (ascii q) j := by
  refine h.eq (fun k b hb hhigh => ?_) fun k hk => stringEnd_end hk _
  rw [stringEnd_byte hb, ne_ascii_of_high hhigh (by decide), ne_ascii_of_high hhigh (by decide),
    ne_ascii_of_high hhigh hq]
  rfl

theorem stringEnd_char (hq : q.toNat < 0x80) (a : Text) (c : Char) (r : Text) :
    stringEnd (toBytes (a ++ c :: r)) (ascii q) (byteCount a) =
      if c = '\\' then stringEnd (toBytes (a ++ c :: r)) (ascii q) (byteCount a + 2)
      else if c = q ∨ c = '\n' then pure (byteCount (a ++ [c]))
      else stringEnd (toBytes (a ++ c :: r)) (ascii q) (byteCount (a ++ [c])) := by
  rw [stringEnd_byte (Text.getElem?_toBytes a c r), stringEnd_drift hq (drifts_char a c r)]
  simp only [Bool.or_eq_true, beq_iff_eq, firstByte_eq_ascii (k := '\\') (by decide),
    firstByte_eq_ascii (k := '\n') (by decide), firstByte_eq_ascii hq]
  split
  · rfl
  by_cases hend : c = q ∨ c = '\n'
  · have hc : c.toNat < 0x80 := by
      rcases hend with rfl | rfl
      · exact hq
      · decide
    rw [if_pos hend, if_pos hend.symm, Text.byteCount_concat_ascii a hc]
  · rw [if_neg hend, if_neg (mt Or.symm hend)]

theorem stringEnd_offset (hq : q.toNat < 0x80) (a s : Text) :
    stringEnd (toBytes (a ++ s)) (ascii q) (byteCount a) = pure (byteCount (a ++ (cutString q s).1)) := by
  fun_induction cutString q s generalizing a with
  | case1 => rw [stringEnd_end (length_le a), Text.length_toBytes]
  | case2 c =>
    have hend : (toBytes (a ++ [c])).length = byteCount (a ++ [c]) := Text.length_toBytes _
    rw [stringEnd_char hq]
    split
    · next hc =>
      have hstop : (toBytes (a ++ [c])).length ≤ byteCount a + 2 := by
        rw [hend, Text.byteCount_concat_ascii a (by rw [hc]; decide)]
        omega
      rw [stringEnd_end hstop, hend]
    split
    · rfl
    · rw [stringEnd_end (Nat.le_of_eq hend), hend]
  | case3 d r x y hcut ih =>
    have hdrift := drifts_char (a ++ ['\\']) d r
    rw [Text.byteCount_concat_ascii a (by decide), List.append_assoc, List.append_assoc] at hdrift
    have hrest := ih (a ++ ['\\', d])
    rw [List.append_assoc, List.append_assoc, hcut] at hrest
    rw [stringEnd_char hq, if_pos rfl]
    exact (stringEnd_drift hq hdrift).trans hrest
  | case4 c d r hesc hend => rw [stringEnd_char hq, if_neg hesc, if_pos hend]
  | case5 c d r hesc hend x y hcut ih =>
    have hrest := ih (a ++ [c])
    rw [List.append_assoc, List.append_assoc, hcut] at hrest
    rw [stringEnd_char hq, if_neg hesc, if_neg hend]
    exact hrest

/-! ## Comments -/

theorem commentEnd_end (hi : bytes.length ≤ i + 1) : commentEnd bytes i = pure bytes.length := by
  rw [commentEnd, if_neg (Nat.not_lt.2 hi)]

/-- A walk through a comment passes over a byte that is not the start of its end. -/
theorem commentEnd_pass {b : UInt8} (hb : bytes[i]? = some b)
    (h : b = ascii '*' → bytes[i + 1]? ≠ some (ascii '/')) : commentEnd bytes i = commentEnd bytes (i + 1) := by
  by_cases hi : i + 1 < bytes.length
  · rw [commentEnd, if_pos hi, byteAt_eq hb, pure_bind]
    by_cases hstar : b = ascii '*'
    · have hnext : bytes[i + 1]? = some bytes[i + 1] := List.getElem?_eq_getElem hi
      have hslash : (bytes[i + 1] == ascii '/') = false := by
        rw [beq_eq_false_iff_ne]
        exact fun he => h hstar (by rw [hnext, he])
      rw [if_pos (beq_iff_eq.2 hstar), byteAt_eq hnext, map_pure, pure_bind, hslash]
      rfl
    · rw [if_neg (fun he => hstar (beq_iff_eq.1 he)), pure_bind]
      rfl
  · rw [commentEnd_end (Nat.not_lt.1 hi), commentEnd_end (by omega)]

theorem commentEnd_drift (h : Drifts bytes i j) : commentEnd bytes i = commentEnd bytes j := by
  refine h.eq (fun k b hb hhigh => commentEnd_pass hb fun he => ?_) fun k hk => commentEnd_end (by omega)
  have := ne_ascii_of_high hhigh (k := '*') (by decide)
  rw [he, beq_self_eq_true] at this
  cases this

theorem commentEnd_char {r : Text} (a : Text) (h : c = '*' → r.head? ≠ some '/') :
    commentEnd (toBytes (a ++ c :: r)) (byteCount a) = commentEnd (toBytes (a ++ c :: r)) (byteCount (a ++ [c])) := by
  refine (commentEnd_pass (Text.getElem?_toBytes a c r) fun hstar => ?_).trans (commentEnd_drift (drifts_char a c r))
  obtain rfl : c = '*' := (firstByte_eq_ascii (by decide)).1 hstar
  rw [← Text.byteCount_concat_ascii (c := '*') a (by decide), List.append_cons, ne_eq,
    getElem?_eq_ascii _ _ (by decide)]
  exact h rfl

theorem commentEnd_offset (a s : Text) :
    commentEnd (toBytes (a ++ s)) (byteCount a) = pure (byteCount (a ++ (cutComment s).1)) := by
  fun_induction cutComment s generalizing a with
  | case1 =>
    have := length_le a
    rw [commentEnd_end (by omega), Text.length_toBytes]
  | case2 r =>
    have hstar : (toBytes (a ++ '*' :: '/' :: r))[byteCount a]? = some (ascii '*') :=
      (getElem?_eq_ascii a _ (by decide)).2 rfl
    have hslash : (toBytes (a ++ '*' :: '/' :: r))[byteCount a + 1]? = some (ascii '/') := by
      rw [← Text.byteCount_concat_ascii (c := '*') a (by decide), List.append_cons]
      exact (getElem?_eq_ascii _ _ (by decide)).2 rfl
    rw [commentEnd, if_pos (List.getElem?_eq_some_iff.1 hslash).1, byteAt_eq hstar, pure_bind, byteAt_eq hslash]
    simp only [beq_self_eq_true, if_true, map_pure, pure_bind]
    rw [List.append_cons, Text.byteCount_concat_ascii _ (by decide), Text.byteCount_concat_ascii _ (by decide)]
  | case3 c r x y hcut hend ih =>
    have hpass : c = '*' → r.head? ≠ some '/' := by
      intro hc hr
      obtain ⟨r, rfl⟩ := List.head?_eq_some_iff.1 hr
      exact hend r hc rfl
    have hrest := ih (a ++ [c])
    rw [List.append_assoc, List.append_assoc] at hrest
    rw [commentEnd_char a hpass]
    exact hrest

/-! ## Lexemes -/

theorem opensComment_offset (a : Text) (c : Char) (r : Text) :
    opensComment (toBytes (a ++ c :: r)) (byteCount a) = pure (decide (c = '/' ∧ r.head? = some '*')) := by
  rw [opensComment, byteAt_offset, pure_bind]
  congr 1
  rw [Bool.eq_iff_iff, Bool.and_eq_true, beq_iff_eq, beq_iff_eq, decide_eq_true_eq, firstByte_eq_ascii (by decide)]
  refine and_congr_right fun hc => ?_
  have hascii : c.toNat < 0x80 := by rw [hc]; decide
  rw [← Text.byteCount_concat_ascii a hascii, List.append_cons, getElem?_eq_ascii _ _ (by decide)]

/-- What a walk does at the start of a lexeme: a plain character is left to the walk, and anything else it skips, to
an offset from which it drifts to the end of the lexeme. -/
inductive Met (bytes : List UInt8) (a : Text) : Lexeme → Prop where
  | plain {c : Char} : bytes[byteCount a]? = some (firstByte c) → skip? bytes (byteCount a) = pure none →
      Drifts bytes (byteCount a + 1) (byteCount (a ++ [c])) → Met bytes a (.plain c)
  | skipped {l : Lexeme} {i : Nat} : (∀ c, l ≠ .plain c) → skip? bytes (byteCount a) = pure (some i) →
      byteCount a < i → Drifts bytes i (byteCount (a ++ l.text)) → Met bytes a l

theorem skip?_quoted {q : Char} (hq : q = '"' ∨ q = '\'') (a r : Text) :
    skip? (toBytes (a ++ q :: r)) (byteCount a) = pure (some (byteCount (a ++ q :: (cutString q r).1))) := by
  have hascii : q.toNat < 0x80 := by rcases hq with rfl | rfl <;> decide
  have hfirst : firstByte q = ascii q := (firstByte_eq_ascii hascii).2 rfl
  have hquote : (firstByte q == ascii '"' || firstByte q == ascii '\'') = true := by
    rcases hq with rfl | rfl <;> rfl
  rw [skip?, byteAt_offset, pure_bind, if_pos hquote, hfirst, ← Text.byteCount_concat_ascii a hascii, List.append_cons,
    stringEnd_offset hascii, map_pure, List.append_assoc]
  rfl

theorem skip?_escape (a r : Text) :
    skip? (toBytes (a ++ '\\' :: r)) (byteCount a) = pure (some (byteCount a + 2)) := by
  rw [skip?, byteAt_offset, pure_bind]
  rfl

/-- A backslash skips the first byte of the next character, and its others are drifted over. -/
theorem drifts_escape (a r : Text) :
    Drifts (toBytes (a ++ '\\' :: r)) (byteCount a + 2) (byteCount (a ++ (Lexeme.escape r.head?).text)) := by
  have hback : byteCount (a ++ ['\\']) = byteCount a + 1 := Text.byteCount_concat_ascii a (by decide)
  cases r with
  | nil =>
    refine .inr ⟨?_, Nat.le_of_eq (Text.length_toBytes _)⟩
    rw [Text.length_toBytes, hback]
    omega
  | cons d r =>
    have hdrift := drifts_char (a ++ ['\\']) d r
    rwa [hback, List.append_assoc, List.append_assoc] at hdrift

theorem commentEnd_opened (a r : Text) : commentEnd (toBytes (a ++ '/' :: '*' :: r)) (byteCount a + 2) =
    pure (byteCount (a ++ '/' :: '*' :: (cutComment r).1)) := by
  have hinside : byteCount (a ++ ['/', '*']) = byteCount a + 2 := by
    rw [List.append_cons, Text.byteCount_concat_ascii _ (by decide), Text.byteCount_concat_ascii _ (by decide)]
  have hwalk := commentEnd_offset (a ++ ['/', '*']) r
  rwa [hinside, List.append_assoc, List.append_assoc] at hwalk

theorem skip?_comment (a r : Text) :
    skip? (toBytes (a ++ '/' :: '*' :: r)) (byteCount a) =
      pure (some (byteCount (a ++ '/' :: '*' :: (cutComment r).1))) := by
  rw [skip?, byteAt_offset, pure_bind, if_neg (by decide), if_neg (by decide), opensComment_offset, pure_bind]
  exact congrArg (Functor.map some) (commentEnd_opened a r)

theorem skip?_plain {r : Text} (a : Text) (hq : ¬ (c = '"' ∨ c = '\'')) (he : c ≠ '\\')
    (hc : ¬ (c = '/' ∧ r.head? = some '*')) : skip? (toBytes (a ++ c :: r)) (byteCount a) = pure none := by
  rw [skip?, byteAt_offset, pure_bind, opensComment_offset, pure_bind, decide_eq_false hc]
  simp only [Bool.or_eq_true, beq_iff_eq, firstByte_eq_ascii (k := '"') (by decide),
    firstByte_eq_ascii (k := '\'') (by decide), firstByte_eq_ascii (k := '\\') (by decide), if_neg hq, if_neg he]
  rfl

theorem exists_met (a : Text) {s : Text} (hs : s ≠ []) :
    ∃ l t, s = l.text ++ t ∧ t.length < s.length ∧ lexemes s = l :: lexemes t ∧ Met (toBytes (a ++ s)) a l := by
  fun_cases lexemes s with
  | case1 => exact absurd rfl hs
  | case2 c r hq =>
    refine ⟨_, _, ?_, ?_, rfl, .skipped (by simp) (skip?_quoted hq a r) ?_ (.refl _ _)⟩
    · rw [Lexeme.text, List.cons_append, cutString_append]
    · exact Nat.lt_succ_of_le (cutString_length c r)
    · exact Text.byteCount_lt_append a (List.cons_ne_nil _ _)
  | case3 r hq =>
    refine ⟨_, _, ?_, ?_, rfl, .skipped (by simp) (skip?_escape a r) (by omega) (drifts_escape a r)⟩
    · cases r <;> rfl
    · rw [List.length_tail, List.length_cons]
      omega
  | case4 c r hq he hc =>
    obtain ⟨rfl, hstar⟩ := hc
    obtain ⟨r, rfl⟩ := List.head?_eq_some_iff.1 hstar
    refine ⟨_, _, ?_, ?_, rfl, .skipped (by simp) (skip?_comment a r) ?_ (.refl _ _)⟩
    · rw [Lexeme.text, List.cons_append, List.cons_append, List.tail_cons, cutComment_append]
    · exact Nat.lt_succ_of_lt (Nat.lt_succ_of_le (cutComment_length r))
    · exact Text.byteCount_lt_append a (List.cons_ne_nil _ _)
  | case5 c r hq he hc =>
    refine ⟨_, _, rfl, ?_, rfl, .plain (Text.getElem?_toBytes a c r) (skip?_plain a hq he hc) (drifts_char a c r)⟩
    exact Nat.lt_succ_self _

/-! ## Blocks -/

theorem closingBrace_end (hi : bytes.length ≤ i) (depth : Nat) : closingBrace bytes depth i = pure bytes.length := by
  rw [closingBrace, if_neg (Nat.not_lt.2 hi)]

theorem closingBrace_skip {depth : Nat} (hi : i < bytes.length) (hskip : skip? bytes i = pure (some j)) (hij : i < j) :
    closingBrace bytes depth i = closingBrace bytes depth j := by
  rw [closingBrace, if_pos hi, hskip, pure_bind]
  simp only [if_pos hij]

theorem skip?_high {b : UInt8} (hb : bytes[i]? = some b) (hhigh : 0x80 ≤ b.toNat) : skip? bytes i = pure none := by
  rw [skip?, opensComment, byteAt_eq hb]
  simp only [pure_bind, ne_ascii_of_high hhigh (k := '"') (by decide), ne_ascii_of_high hhigh (k := '\'') (by decide),
    ne_ascii_of_high hhigh (k := '\\') (by decide), ne_ascii_of_high hhigh (k := '/') (by decide)]
  rfl

theorem closingBrace_plain {b : UInt8} (hb : bytes[i]? = some b) (hskip : skip? bytes i = pure none) (depth : Nat) :
    closingBrace bytes depth i =
      if b == ascii '{' then closingBrace bytes (depth + 1) (i + 1)
      else if b == ascii '}' then
        if depth = 0 then throw .depthBelowZero
        else if depth = 1 then pure i
        else closingBrace bytes (depth - 1) (i + 1)
      else closingBrace bytes depth (i + 1) := by
  rw [closingBrace, if_pos (List.getElem?_eq_some_iff.1 hb).1, hskip, pure_bind]
  simp only [byteAt_eq hb, pure_bind]

theorem closingBrace_drift (h : Drifts bytes i j) (depth : Nat) :
    closingBrace bytes depth i = closingBrace bytes depth j := by
  refine h.eq (fun k b hb hhigh => ?_) fun k hk => closingBrace_end hk depth
  rw [closingBrace_plain hb (skip?_high hb hhigh), ne_ascii_of_high hhigh (by decide),
    ne_ascii_of_high hhigh (by decide)]
  rfl

theorem closingBrace_char {a : Text} {c : Char} (hb : bytes[byteCount a]? = some (firstByte c))
    (hskip : skip? bytes (byteCount a) = pure none) (hdrift : Drifts bytes (byteCount a + 1) (byteCount (a ++ [c])))
    (depth : Nat) : closingBrace bytes depth (byteCount a) =
      if c = '{' then closingBrace bytes (depth + 1) (byteCount (a ++ [c]))
      else if c = '}' then
        if depth = 0 then throw .depthBelowZero
        else if depth = 1 then pure (byteCount a)
        else closingBrace bytes (depth - 1) (byteCount (a ++ [c]))
      else closingBrace bytes depth (byteCount (a ++ [c])) := by
  rw [closingBrace_plain hb hskip]
  simp only [closingBrace_drift hdrift, beq_iff_eq, firstByte_eq_ascii (k := '{') (by decide),
    firstByte_eq_ascii (k := '}') (by decide)]

variable {css a s t : Text} {l : Lexeme} {depth : Nat}

/-- A walk through a block passes over a lexeme that is no brace. -/
theorem closingBrace_pass (hmet : Met bytes a l) (ho : l ≠ .plain '{') (hc : l ≠ .plain '}')
    (hlt : byteCount a < bytes.length) (depth : Nat) :
    closingBrace bytes depth (byteCount a) = closingBrace bytes depth (byteCount (a ++ l.text)) := by
  cases hmet with
  | plain hb hskip hdrift =>
    rw [closingBrace_char hb hskip hdrift, if_neg (by simpa using ho), if_neg (by simpa using hc)]
    rfl
  | skipped _ hskip hahead hdrift => rw [closingBrace_skip hlt hskip hahead, closingBrace_drift hdrift]

theorem closingBrace_open (hmet : Met bytes a (.plain '{')) (depth : Nat) :
    closingBrace bytes depth (byteCount a) = closingBrace bytes (depth + 1) (byteCount (a ++ ['{'])) := by
  cases hmet with
  | plain hb hskip hdrift => rw [closingBrace_char hb hskip hdrift, if_pos rfl]
  | skipped hplain => exact absurd rfl (hplain '{')

/-- The depth does not get below zero where the scanner is inside a block. -/
theorem closingBrace_close (hmet : Met bytes a (.plain '}')) (depth : Nat) :
    closingBrace bytes (depth + 1) (byteCount a) =
      if depth = 0 then pure (byteCount a) else closingBrace bytes depth (byteCount (a ++ ['}'])) := by
  cases hmet with
  | plain hb hskip hdrift =>
    rw [closingBrace_char hb hskip hdrift, if_neg (by decide), if_pos rfl, if_neg (Nat.succ_ne_zero depth)]
    simp only [Nat.add_eq_right, Nat.add_sub_cancel]
  | skipped hplain => exact absurd rfl (hplain '}')

/-- A block from an offset inside it on: what is left of its inside, its closing brace if it has one, and what
follows. The walk finds the end of the inside, and the scanner makes the node and goes on behind it. -/
structure Ends (css a s : Text) (depth : Nat) (inside close rest : Text) : Prop where
  parts : s = inside ++ (close ++ rest)
  closed : close = ['}'] ∨ close = [] ∧ rest = []
  found : closingBrace (toBytes css) (depth + 1) (byteCount a) = pure (byteCount (a ++ inside))
  scan : ∀ p b, scan (.inBlock p b depth) (lexemes s) =
    (makeNode (readBack p) (some (readBack b ++ inside))
      (readBack p ++ '{' :: (readBack b ++ (inside ++ close)))).toList ++ Outline.scan .between (lexemes rest)

theorem Ends.cons {inside close rest : Text} {depth' : Nat} (h : Ends css (a ++ l.text) t depth' inside close rest)
    (hlex : lexemes s = l :: lexemes t) (hs : s = l.text ++ t)
    (hfound : closingBrace (toBytes css) (depth + 1) (byteCount a) =
      closingBrace (toBytes css) (depth' + 1) (byteCount (a ++ l.text)))
    (hscan : ∀ p b ls, Outline.scan (.inBlock p b depth) (l :: ls) = Outline.scan (.inBlock p (l :: b) depth') ls) :
    Ends css a s depth (l.text ++ inside) close rest where
  parts := by rw [hs, h.parts, List.append_assoc]
  closed := h.closed
  found := by rw [hfound, h.found, List.append_assoc]
  scan := by
    intro p b
    rw [hlex, hscan, h.scan, readBack_cons]
    simp only [List.append_assoc]

theorem Ends.stop {inside close rest : Text} (hends : Ends css a s depth inside close rest) (h : css = a ++ s) :
    min (byteCount (a ++ inside) + 1) (toBytes css).length = byteCount (a ++ (inside ++ close)) := by
  rw [Text.length_toBytes, h, hends.parts]
  rcases hends.closed with rfl | ⟨rfl, rfl⟩
  · have hclose : byteCount (a ++ (inside ++ ['}'])) = byteCount (a ++ inside) + 1 := by
      rw [← List.append_assoc, Text.byteCount_concat_ascii _ (by decide)]
    have hparts : a ++ (inside ++ (['}'] ++ rest)) = a ++ (inside ++ ['}']) ++ rest := by simp
    rw [← hclose, hparts, Text.byteCount_append _ rest]
    exact Nat.min_eq_left (Nat.le_add_right _ _)
  · rw [List.append_nil, List.append_nil, Nat.min_eq_right (Nat.le_succ _)]

/-- A walk finds where a block ends, and the scanner agrees. -/
theorem exists_ends (h : css = a ++ s) (depth : Nat) : ∃ inside close rest, Ends css a s depth inside close rest := by
  -- a lexeme can have many characters, so the induction is on the length of what is left
  induction hn : s.length using Nat.strong_induction_on generalizing a s depth with
  | _ n ih =>
    by_cases hs : s = []
    · subst hs
      refine ⟨[], [], [], rfl, .inr ⟨rfl, rfl⟩, ?_, fun p b => ?_⟩
      · rw [h, closingBrace_end (length_le a), Text.length_toBytes]
      · simp [lexemes, Outline.scan, unfinished]
    obtain ⟨l, t, hst, hlt, hlex, hmet⟩ := exists_met a hs
    have hcss : css = a ++ l.text ++ t := by rw [h, hst, List.append_assoc]
    rw [hn] at hlt
    rw [← h] at hmet
    by_cases ho : l = .plain '{'
    · subst ho
      obtain ⟨inside, close, rest, hends⟩ := ih _ hlt hcss (depth + 1) rfl
      exact ⟨_, _, _, hends.cons hlex hst (closingBrace_open hmet _) fun p b ls => scan_inBlock_open p b ls depth⟩
    by_cases hc : l = .plain '}'
    · subst hc
      cases depth with
      | zero =>
        refine ⟨[], ['}'], t, hst, .inl rfl, ?_, fun p b => ?_⟩
        · rw [closingBrace_close hmet, if_pos rfl, List.append_nil]
        · rw [hlex, Outline.scan, step, stepBlock, List.append_nil, List.nil_append, List.append_assoc]
          rfl
      | succ depth =>
        obtain ⟨inside, close, rest, hends⟩ := ih _ hlt hcss depth rfl
        exact ⟨_, _, _, hends.cons hlex hst (by rw [closingBrace_close hmet, if_neg (Nat.succ_ne_zero depth)]; rfl)
          fun p b ls => scan_inBlock_close p b ls depth⟩
    · obtain ⟨inside, close, rest, hends⟩ := ih _ hlt hcss depth rfl
      exact ⟨_, _, _, hends.cons hlex hst (closingBrace_pass hmet ho hc (offset_lt_length h hs) _)
        fun p b ls => scan_inBlock ho hc p b ls depth⟩

end StylePrune.Outline.Bytewise
