import Mathlib.Data.List.Basic
import StylePrune.Proofs.Text.LetterCase
import StylePrune.Text.Utf8

/-!
Reading back the bytes of a text.

Each character is written as a first byte, which says how many follow and in which range the next one lies, and
later bytes of six bits each (`decodeFrom_encodeChar`). So the bytes of a text are well formed and give the text
again (`ofBytes?_toBytes`). Bytes that are well formed start with those of a character
(`startsWithChar_of_decodeFrom`), so no others are read (`ofBytes?_eq_some_iff`).
-/
namespace StylePrune.Text

theorem toNat_toUInt8 {n : Nat} (h : n < 256) : n.toUInt8.toNat = n := by
  simp [Nat.toUInt8, Nat.mod_eq_of_lt h]

/-! ## First bytes -/

theorem followers?_eq (b : UInt8) : followers? b =
    if b.toNat < 0x80 then some (0, 0, 0)
    else if 0xc2 ≤ b.toNat ∧ b.toNat ≤ 0xdf then some (1, 0x80, 0xbf)
    else if b.toNat = 0xe0 then some (2, 0xa0, 0xbf)
    else if b.toNat = 0xed then some (2, 0x80, 0x9f)
    else if 0xe1 ≤ b.toNat ∧ b.toNat ≤ 0xef then some (2, 0x80, 0xbf)
    else if b.toNat = 0xf0 then some (3, 0x90, 0xbf)
    else if 0xf1 ≤ b.toNat ∧ b.toNat ≤ 0xf3 then some (3, 0x80, 0xbf)
    else if b.toNat = 0xf4 then some (3, 0x80, 0x8f)
    else none := by
  simp only [followers?, Bool.and_eq_true, decide_eq_true_eq, beq_iff_eq, UInt8.lt_iff_toNat_lt,
    UInt8.le_iff_toNat_le, ← UInt8.toNat_inj]
  rfl

theorem leadBits_eq (b : UInt8) : leadBits b =
    if b.toNat < 0x80 then b.toNat else if b.toNat < 0xe0 then b.toNat - 0xc0
    else if b.toNat < 0xf0 then b.toNat - 0xe0 else b.toNat - 0xf0 := by
  simp only [leadBits, UInt8.lt_iff_toNat_lt]
  rfl

theorem followers?_of_two {n : Nat} (hlo : 0x80 ≤ n) (hhi : n < 0x800) :
    followers? (0xc0 + n / 64).toUInt8 = some (1, 0x80, 0xbf) ∧ leadBits (0xc0 + n / 64).toUInt8 = n / 64 := by
  have hb : (0xc0 + n / 64).toUInt8.toNat = 0xc0 + n / 64 := toNat_toUInt8 (by omega)
  rw [followers?_eq, leadBits_eq, hb]
  refine ⟨?_, ?_⟩
  · rw [if_neg (by omega), if_pos (by omega)]
  · rw [if_neg (by omega), if_pos (by omega), Nat.add_sub_cancel_left]

/-- The range of the second of three bytes leaves out longer writings and surrogates. -/
theorem followers?_of_three {n : Nat} (hlo : 0x800 ≤ n) (hhi : n < 0x10000) (hs : n < 0xd800 ∨ 0xdfff < n) :
    leadBits (0xe0 + n / 4096).toUInt8 = n / 4096 ∧
      ∃ lo hi : UInt8, followers? (0xe0 + n / 4096).toUInt8 = some (2, lo, hi) ∧
        lo.toNat ≤ 0x80 + n / 64 % 64 ∧ 0x80 + n / 64 % 64 ≤ hi.toNat := by
  have hb : (0xe0 + n / 4096).toUInt8.toNat = 0xe0 + n / 4096 := toNat_toUInt8 (by omega)
  refine ⟨?_, ?_⟩
  · rw [leadBits_eq, hb, if_neg (by omega), if_neg (by omega), if_pos (by omega), Nat.add_sub_cancel_left]
  rw [followers?_eq, hb, if_neg (by omega), if_neg (by omega)]
  by_cases h0 : 0xe0 + n / 4096 = 0xe0
  · exact ⟨0xa0, 0xbf, by rw [if_pos h0], by change 0xa0 ≤ _; omega, by change _ ≤ 0xbf; omega⟩
  · rw [if_neg h0]
    by_cases hd : 0xe0 + n / 4096 = 0xed
    · exact ⟨0x80, 0x9f, by rw [if_pos hd], by change 0x80 ≤ _; omega, by change _ ≤ 0x9f; omega⟩
    · rw [if_neg hd, if_pos (by omega)]
      exact ⟨0x80, 0xbf, rfl, by change 0x80 ≤ _; omega, by change _ ≤ 0xbf; omega⟩

theorem followers?_of_four {n : Nat} (hlo : 0x10000 ≤ n) (hhi : n < 0x110000) :
    leadBits (0xf0 + n / 262144).toUInt8 = n / 262144 ∧
      ∃ lo hi : UInt8, followers? (0xf0 + n / 262144).toUInt8 = some (3, lo, hi) ∧
        lo.toNat ≤ 0x80 + n / 4096 % 64 ∧ 0x80 + n / 4096 % 64 ≤ hi.toNat := by
  have hb : (0xf0 + n / 262144).toUInt8.toNat = 0xf0 + n / 262144 := toNat_toUInt8 (by omega)
  refine ⟨?_, ?_⟩
  · rw [leadBits_eq, hb, if_neg (by omega), if_neg (by omega), if_neg (by omega), Nat.add_sub_cancel_left]
  rw [followers?_eq, hb, if_neg (by omega), if_neg (by omega), if_neg (by omega), if_neg (by omega),
    if_neg (by omega)]
  by_cases h0 : 0xf0 + n / 262144 = 0xf0
  · exact ⟨0x90, 0xbf, by rw [if_pos h0], by change 0x90 ≤ _; omega, by change _ ≤ 0xbf; omega⟩
  · rw [if_neg h0]
    by_cases h4 : 0xf0 + n / 262144 = 0xf4
    · rw [if_neg (by omega), if_pos h4]
      exact ⟨0x80, 0x8f, rfl, by change 0x80 ≤ _; omega, by change _ ≤ 0x8f; omega⟩
    · rw [if_pos (by omega)]
      exact ⟨0x80, 0xbf, rfl, by change 0x80 ≤ _; omega, by change _ ≤ 0xbf; omega⟩

/-! ## Reading on -/

theorem decodeFrom_lead {b : UInt8} {k : Nat} {lo hi : UInt8} (r : List UInt8)
    (h : followers? b = some (k + 1, lo, hi)) :
    decodeFrom .start (b :: r) = decodeFrom (.owed (k + 1) lo hi (leadBits b)) r := by
  rw [decodeFrom, h]

/-- A later byte in its range adds its six bits. -/
theorem decodeFrom_owed {k : Nat} {lo hi : UInt8} {bits n : Nat} (r : List UInt8) (hn : n < 64)
    (hlo : lo.toNat ≤ 0x80 + n) (hhi : 0x80 + n ≤ hi.toNat) :
    decodeFrom (.owed k lo hi bits) ((0x80 + n).toUInt8 :: r) =
      if k ≤ 1 then some (Char.ofNat (bits * 64 + n)) :: decodeFrom .start r
      else decodeFrom (.owed (k - 1) 0x80 0xbf (bits * 64 + n)) r := by
  have hb : (0x80 + n).toUInt8.toNat = 0x80 + n := toNat_toUInt8 (by omega)
  have hrange : (lo ≤ (0x80 + n).toUInt8 && (0x80 + n).toUInt8 ≤ hi) = true := by
    rw [Bool.and_eq_true, decide_eq_true_eq, decide_eq_true_eq, UInt8.le_iff_toNat_le, UInt8.le_iff_toNat_le, hb]
    exact ⟨hlo, hhi⟩
  rw [decodeFrom, if_pos hrange, hb, Nat.add_sub_cancel_left]

/-- After the second byte every later one may hold any six bits. -/
theorem decodeFrom_tail (k bits m : Nat) (r : List UInt8) :
    decodeFrom (.owed k 0x80 0xbf bits) ((0x80 + m % 64).toUInt8 :: r) =
      if k ≤ 1 then some (Char.ofNat (bits * 64 + m % 64)) :: decodeFrom .start r
      else decodeFrom (.owed (k - 1) 0x80 0xbf (bits * 64 + m % 64)) r := by
  have hm : m % 64 < 64 := Nat.mod_lt m (by decide)
  exact decodeFrom_owed r hm (by change 0x80 ≤ _; omega) (by change _ ≤ 0xbf; omega)

theorem decodeFrom_encodeChar (c : Char) (r : List UInt8) :
    decodeFrom .start (encodeChar c ++ r) = some c :: decodeFrom .start r := by
  have hvalid : c.toNat < 0xd800 ∨ 0xdfff < c.toNat ∧ c.toNat < 0x110000 := c.valid
  have hback {m : Nat} (h : m = c.toNat) : Char.ofNat m = c := by rw [h, Char.ofNat_toNat]
  have hmod (m : Nat) : m % 64 < 64 := Nat.mod_lt m (by decide)
  rw [encodeChar]
  by_cases h1 : c.toNat < 0x80
  · have hb : c.toNat.toUInt8.toNat = c.toNat := toNat_toUInt8 (by omega)
    have hf : followers? c.toNat.toUInt8 = some (0, 0, 0) := by rw [followers?_eq, hb, if_pos h1]
    rw [if_pos h1, List.singleton_append, decodeFrom, hf]
    simp only [hb, Char.ofNat_toNat]
  rw [if_neg h1]
  by_cases h2 : c.toNat < 0x800
  · obtain ⟨hf, hl⟩ := followers?_of_two (n := c.toNat) (by omega) h2
    rw [if_pos h2]
    simp only [List.cons_append, List.nil_append]
    rw [decodeFrom_lead _ hf, hl, decodeFrom_tail, if_pos (by omega), hback (by omega)]
  rw [if_neg h2]
  by_cases h3 : c.toNat < 0x10000
  · obtain ⟨hl, lo, hi, hf, hlo, hhi⟩ := followers?_of_three (n := c.toNat) (by omega) h3 (by omega)
    rw [if_pos h3]
    simp only [List.cons_append, List.nil_append]
    rw [decodeFrom_lead _ hf, hl, decodeFrom_owed _ (hmod _) hlo hhi, if_neg (by omega), decodeFrom_tail,
      if_pos (by omega), hback (by omega)]
  · obtain ⟨hl, lo, hi, hf, hlo, hhi⟩ := followers?_of_four (n := c.toNat) (by omega) (by omega)
    rw [if_neg h3]
    simp only [List.cons_append, List.nil_append]
    rw [decodeFrom_lead _ hf, hl, decodeFrom_owed _ (hmod _) hlo hhi, if_neg (by omega), decodeFrom_tail,
      if_neg (by omega), decodeFrom_tail, if_pos (by omega), hback (by omega)]

theorem ofBytes?_toBytes (s : Text) : ofBytes? (toBytes s) = some s := by
  have hdecode (s : Text) : decodeFrom .start (toBytes s) = s.map some := by
    induction s with
    | nil => rfl
    | cons c s ih => rw [toBytes, List.flatMap_cons, ← toBytes, decodeFrom_encodeChar, ih, List.map_cons]
  rw [ofBytes?, hdecode]
  induction s with
  | nil => rfl
  | cons c s ih =>
    rw [List.map_cons, List.mapM_cons, ih]
    rfl

/-! ## Only the bytes of texts are well formed -/

theorem mapM_id_cons_eq_some_iff {o : Option Char} {os : List (Option Char)} {s : Text} :
    (o :: os).mapM id = some s ↔ ∃ c t, o = some c ∧ os.mapM id = some t ∧ s = c :: t := by
  rw [List.mapM_cons]
  cases o with
  | none => simp
  | some c => cases h : os.mapM id <;> simp [eq_comm]

/-- The bytes start with those of a character, and the rest of them are well formed. -/
def StartsWithChar (bytes : List UInt8) (s : Text) : Prop :=
  ∃ c q t, bytes = encodeChar c ++ q ∧ s = c :: t ∧ (decodeFrom .start q).mapM id = some t

theorem eq_toUInt8 {b : UInt8} {n : Nat} (h : b.toNat = n) : b = n.toUInt8 := by
  rw [← h]
  exact UInt8.ofNat_toNat.symm

theorem exists_of_decodeFrom_owed {k : Nat} {lo hi : UInt8} {bits : Nat} {bytes : List UInt8} {s : Text}
    (hlo : 0x80 ≤ lo.toNat) (hhi : hi.toNat ≤ 0xbf)
    (h : (decodeFrom (.owed k lo hi bits) bytes).mapM id = some s) :
    ∃ n r, bytes = (0x80 + n).toUInt8 :: r ∧ n < 64 ∧ lo.toNat ≤ 0x80 + n ∧ 0x80 + n ≤ hi.toNat ∧
      if k ≤ 1 then ∃ t, s = Char.ofNat (bits * 64 + n) :: t ∧ (decodeFrom .start r).mapM id = some t
      else (decodeFrom (.owed (k - 1) 0x80 0xbf (bits * 64 + n)) r).mapM id = some s := by
  cases bytes with
  | nil =>
    rw [decodeFrom] at h
    obtain ⟨c, t, hc, -⟩ := mapM_id_cons_eq_some_iff.1 h
    cases hc
  | cons b r =>
    rw [decodeFrom] at h
    split at h
    · next hrange =>
      rw [Bool.and_eq_true, decide_eq_true_eq, decide_eq_true_eq, UInt8.le_iff_toNat_le,
        UInt8.le_iff_toNat_le] at hrange
      have hb : b = (0x80 + (b.toNat - 0x80)).toUInt8 := eq_toUInt8 (by omega)
      refine ⟨b.toNat - 0x80, r, by rw [← hb], by omega, by omega, by omega, ?_⟩
      split at h
      · next hk =>
        obtain ⟨c, t, hc, ht, hs⟩ := mapM_id_cons_eq_some_iff.1 h
        obtain rfl := Option.some.inj hc
        rw [if_pos hk]
        exact ⟨t, hs, ht⟩
      · next hk => rwa [if_neg hk]
    · -- outside the range the piece is malformed
      split at h <;>
      · obtain ⟨c, t, hc, -⟩ := mapM_id_cons_eq_some_iff.1 h
        cases hc

theorem startsWithChar_one {b : UInt8} {r : List UInt8} {s : Text} (hb : b.toNat < 0x80)
    (h : (some (Char.ofNat b.toNat) :: decodeFrom .start r).mapM id = some s) : StartsWithChar (b :: r) s := by
  obtain ⟨c, t, hc, ht, hs⟩ := mapM_id_cons_eq_some_iff.1 h
  obtain rfl := Option.some.inj hc
  have hcode : (Char.ofNat b.toNat).toNat = b.toNat := toNat_ofNat_of_valid (.inl (by omega))
  refine ⟨_, r, t, ?_, hs, ht⟩
  rw [encodeChar]
  simp only [hcode]
  rw [if_pos hb, ← eq_toUInt8 rfl]
  rfl

theorem startsWithChar_two {b : UInt8} {r : List UInt8} {s : Text} (hb : 0xc2 ≤ b.toNat ∧ b.toNat ≤ 0xdf)
    (h : (decodeFrom (.owed 1 0x80 0xbf (leadBits b)) r).mapM id = some s) : StartsWithChar (b :: r) s := by
  obtain ⟨n, q, rfl, hn, -, -, hrest⟩ := exists_of_decodeFrom_owed (by decide) (by decide) h
  rw [if_pos (Nat.le_refl 1), leadBits_eq, if_neg (by omega), if_pos (by omega)] at hrest
  obtain ⟨t, hs, ht⟩ := hrest
  refine ⟨_, q, t, ?_, hs, ht⟩
  have hcode : (Char.ofNat ((b.toNat - 0xc0) * 64 + n)).toNat = (b.toNat - 0xc0) * 64 + n :=
    toNat_ofNat_of_valid (.inl (by omega))
  have hlead : b = (0xc0 + ((b.toNat - 0xc0) * 64 + n) / 64).toUInt8 := eq_toUInt8 (by omega)
  have hlast : ((b.toNat - 0xc0) * 64 + n) % 64 = n := by omega
  rw [encodeChar]
  simp only [hcode]
  rw [if_neg (by omega), if_pos (by omega), ← hlead, hlast]
  rfl

theorem startsWithChar_three {b lo hi : UInt8} {r : List UInt8} {s : Text} (hb : 0xe0 ≤ b.toNat ∧ b.toNat ≤ 0xef)
    (hlo : 0x80 ≤ lo.toNat) (hhi : hi.toNat ≤ 0xbf) (hfirst : b.toNat = 0xe0 → 0xa0 ≤ lo.toNat)
    (hsurrogate : b.toNat = 0xed → hi.toNat ≤ 0x9f)
    (h : (decodeFrom (.owed 2 lo hi (leadBits b)) r).mapM id = some s) : StartsWithChar (b :: r) s := by
  obtain ⟨m, r, rfl, hm, hmlo, hmhi, hrest⟩ := exists_of_decodeFrom_owed hlo hhi h
  rw [if_neg (by decide)] at hrest
  obtain ⟨n, q, rfl, hn, -, -, hrest⟩ := exists_of_decodeFrom_owed (by decide) (by decide) hrest
  rw [if_pos (by decide), leadBits_eq, if_neg (by omega), if_neg (by omega), if_pos (by omega)] at hrest
  obtain ⟨t, hs, ht⟩ := hrest
  refine ⟨_, q, t, ?_, hs, ht⟩
  generalize hcodeEq : ((b.toNat - 0xe0) * 64 + m) * 64 + n = code
  have hcode : (Char.ofNat code).toNat = code := toNat_ofNat_of_valid (by omega)
  have hlead : b = (0xe0 + code / 4096).toUInt8 := eq_toUInt8 (by omega)
  have hmiddle : code / 64 % 64 = m := by omega
  have hlast : code % 64 = n := by omega
  rw [encodeChar]
  simp only [hcode]
  rw [if_neg (by omega), if_neg (by omega), if_pos (by omega), ← hlead, hmiddle, hlast]
  rfl

theorem startsWithChar_four {b lo hi : UInt8} {r : List UInt8} {s : Text} (hb : 0xf0 ≤ b.toNat ∧ b.toNat ≤ 0xf4)
    (hlo : 0x80 ≤ lo.toNat) (hhi : hi.toNat ≤ 0xbf) (hfirst : b.toNat = 0xf0 → 0x90 ≤ lo.toNat)
    (hend : b.toNat = 0xf4 → hi.toNat ≤ 0x8f)
    (h : (decodeFrom (.owed 3 lo hi (leadBits b)) r).mapM id = some s) : StartsWithChar (b :: r) s := by
  obtain ⟨l, r, rfl, hl, hllo, hlhi, hrest⟩ := exists_of_decodeFrom_owed hlo hhi h
  rw [if_neg (by decide)] at hrest
  obtain ⟨m, r, rfl, hm, -, -, hrest⟩ := exists_of_decodeFrom_owed (by decide) (by decide) hrest
  rw [if_neg (by decide)] at hrest
  obtain ⟨n, q, rfl, hn, -, -, hrest⟩ := exists_of_decodeFrom_owed (by decide) (by decide) hrest
  rw [if_pos (by decide), leadBits_eq, if_neg (by omega), if_neg (by omega), if_neg (by omega)] at hrest
  obtain ⟨t, hs, ht⟩ := hrest
  refine ⟨_, q, t, ?_, hs, ht⟩
  generalize hcodeEq : (((b.toNat - 0xf0) * 64 + l) * 64 + m) * 64 + n = code
  have hcode : (Char.ofNat code).toNat = code := toNat_ofNat_of_valid (by omega)
  have hlead : b = (0xf0 + code / 262144).toUInt8 := eq_toUInt8 (by omega)
  have hsecond : code / 4096 % 64 = l := by omega
  have hthird : code / 64 % 64 = m := by omega
  have hlast : code % 64 = n := by omega
  rw [encodeChar]
  simp only [hcode]
  rw [if_neg (by omega), if_neg (by omega), if_neg (by omega), ← hlead, hsecond, hthird, hlast]
  rfl

theorem startsWithChar_of_decodeFrom {b : UInt8} {r : List UInt8} {s : Text}
    (h : (decodeFrom .start (b :: r)).mapM id = some s) : StartsWithChar (b :: r) s := by
  -- the cases are those of the first byte, which tells how many follow and in which range the next one is
  have hmalformed (os : List (Option Char)) : (none :: os).mapM id ≠ some s := by
    intro hs
    obtain ⟨c, t, hc, -⟩ := mapM_id_cons_eq_some_iff.1 hs
    cases hc
  rw [decodeFrom, followers?_eq] at h
  by_cases h1 : b.toNat < 0x80
  · rw [if_pos h1] at h
    exact startsWithChar_one h1 h
  rw [if_neg h1] at h
  by_cases h2 : 0xc2 ≤ b.toNat ∧ b.toNat ≤ 0xdf
  · rw [if_pos h2] at h
    exact startsWithChar_two h2 h
  rw [if_neg h2] at h
  by_cases h3 : 0xe0 ≤ b.toNat ∧ b.toNat ≤ 0xef
  · by_cases he : b.toNat = 0xe0
    · rw [if_pos he] at h
      exact startsWithChar_three h3 (by decide) (by decide) (fun _ => by decide) (by omega) h
    rw [if_neg he] at h
    by_cases hd : b.toNat = 0xed
    · rw [if_pos hd] at h
      exact startsWithChar_three h3 (by decide) (by decide) (by omega) (fun _ => by decide) h
    rw [if_neg hd, if_pos (by omega)] at h
    exact startsWithChar_three h3 (by decide) (by decide) (by omega) (by omega) h
  rw [if_neg (by omega), if_neg (by omega), if_neg (by omega)] at h
  by_cases h4 : 0xf0 ≤ b.toNat ∧ b.toNat ≤ 0xf4
  · by_cases hf : b.toNat = 0xf0
    · rw [if_pos hf] at h
      exact startsWithChar_four h4 (by decide) (by decide) (fun _ => by decide) (by omega) h
    rw [if_neg hf] at h
    by_cases hl : b.toNat = 0xf4
    · rw [if_neg (by omega), if_pos hl] at h
      exact startsWithChar_four h4 (by decide) (by decide) (by omega) (fun _ => by decide) h
    rw [if_pos (by omega)] at h
    exact startsWithChar_four h4 (by decide) (by decide) (by omega) (by omega) h
  · rw [if_neg (by omega), if_neg (by omega), if_neg (by omega)] at h
    exact absurd h (hmalformed _)

theorem encodeChar_ne_nil (c : Char) : encodeChar c ≠ [] := by
  rw [encodeChar]
  repeat' split
  all_goals exact List.cons_ne_nil _ _

/-- **What is read as a text is its bytes**, and nothing else is read. -/
theorem ofBytes?_eq_some_iff {bytes : List UInt8} {s : Text} : ofBytes? bytes = some s ↔ toBytes s = bytes := by
  constructor
  · intro h
    rw [ofBytes?] at h
    induction hn : bytes.length using Nat.strongRecOn generalizing bytes s with
    | ind n ih =>
      cases bytes with
      | nil =>
        rw [decodeFrom, List.mapM_nil] at h
        cases h
        rfl
      | cons b r =>
        obtain ⟨c, q, t, hbytes, rfl, ht⟩ := startsWithChar_of_decodeFrom h
        have hlt : q.length < n := by
          have hlength := congrArg List.length hbytes
          rw [hn, List.length_append] at hlength
          have := List.length_pos_iff.2 (encodeChar_ne_nil c)
          omega
        rw [hbytes, toBytes, List.flatMap_cons, ← toBytes, ih _ hlt ht rfl]
  · rintro rfl
    exact ofBytes?_toBytes s

end StylePrune.Text
