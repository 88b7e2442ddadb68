import StylePrune.Proofs.Outline.Walk

/-!
The outline, read from bytes.

A cut succeeds exactly between the two ends of a part of the text (`cut_eq_pure`). The cuts of a node are of that kind,
because the offsets they are made at are those of parts of what the scanner has read (`cutNode_eq`). The walk through a
prelude and the walk between nodes call each other, so they are followed by an induction on what is left of the text:
`Follows` says what the walk between nodes finds on shorter texts. Nothing goes wrong, and the outcome is the outline
(`nodes_eq_ok`).
-/
namespace StylePrune.Outline.Bytewise

open Text (byteCount toBytes firstByte)

variable {bytes : List UInt8} {css a s t : Text} {c : Char} {l : Lexeme} {i j : Nat}

/-! ## Cuts -/

/-- Bytes can be taken exactly up to where a character starts, or the text ends. -/
theorem takeBytes?_eq_some {n : Nat} : takeBytes? n s = some t ↔ byteCount t = n ∧ t <+: s := by
  fun_induction takeBytes? n s generalizing t with
  | case1 s =>
    constructor
    · rintro ⟨⟩
      exact ⟨rfl, List.nil_prefix⟩
    · rintro ⟨ht, -⟩
      rw [Text.byteCount_eq_zero.1 ht]
  | case2 n =>
    refine iff_of_false (by simp) ?_
    rintro ⟨ht, h⟩
    rw [List.prefix_nil.1 h] at ht
    cases ht
  | case3 n c s hc ih =>
    rw [Option.map_eq_some_iff]
    constructor
    · rintro ⟨u, hu, rfl⟩
      obtain ⟨hcount, hprefix⟩ := ih.1 hu
      refine ⟨?_, List.cons_prefix_cons.2 ⟨rfl, hprefix⟩⟩
      rw [Text.byteCount_cons, hcount, Nat.add_sub_cancel' hc]
    · rintro ⟨ht, h⟩
      cases t with
      | nil => cases ht
      | cons d u =>
        obtain ⟨rfl, hprefix⟩ := List.cons_prefix_cons.1 h
        exact ⟨u, ih.2 ⟨Nat.eq_sub_of_add_eq' ht, hprefix⟩, rfl⟩
  | case4 n c s hc =>
    refine iff_of_false (by simp) ?_
    rintro ⟨ht, h⟩
    cases t with
    | nil => cases ht
    | cons d u =>
      obtain ⟨rfl, -⟩ := List.cons_prefix_cons.1 h
      rw [Text.byteCount_cons] at ht
      omega

theorem dropBytes?_eq_map (n : Nat) (s : Text) :
    dropBytes? n s = (takeBytes? n s).map fun t => s.drop t.length := by
  fun_induction takeBytes? n s with
  | case1 s =>
    rw [dropBytes?]
    rfl
  | case2 n => rfl
  | case3 n c s hc ih =>
    rw [dropBytes?, if_pos hc, ih, Option.map_map]
    rfl
  | case4 n c s hc =>
    rw [dropBytes?, if_neg hc]
    rfl

theorem dropBytes?_eq_some {n : Nat} : dropBytes? n s = some t ↔ ∃ a, byteCount a = n ∧ s = a ++ t := by
  rw [dropBytes?_eq_map, Option.map_eq_some_iff]
  constructor
  · rintro ⟨a, ha, rfl⟩
    obtain ⟨hcount, b, rfl⟩ := takeBytes?_eq_some.1 ha
    exact ⟨a, hcount, by rw [List.drop_left]⟩
  · rintro ⟨a, ha, rfl⟩
    exact ⟨a, takeBytes?_eq_some.2 ⟨ha, List.prefix_append a t⟩, List.drop_left⟩

/-- **A cut succeeds exactly between the two ends of a part of the text.** -/
theorem cut_eq_pure {start stop : Nat} : cut s start stop = pure t ↔
    ∃ a b, s = a ++ (t ++ b) ∧ start = byteCount a ∧ stop = byteCount (a ++ t) := by
  have hpart : (if start ≤ stop then (dropBytes? start s).bind (takeBytes? (stop - start)) else none) = some t ↔
      ∃ a b, s = a ++ (t ++ b) ∧ start = byteCount a ∧ stop = byteCount (a ++ t) := by
    split
    · next hle =>
      rw [Option.bind_eq_some_iff]
      constructor
      · rintro ⟨r, hdrop, htake⟩
        obtain ⟨a, rfl, rfl⟩ := dropBytes?_eq_some.1 hdrop
        obtain ⟨ht, b, rfl⟩ := takeBytes?_eq_some.1 htake
        exact ⟨a, b, rfl, rfl, by rw [Text.byteCount_append]; omega⟩
      · rintro ⟨a, b, rfl, rfl, rfl⟩
        refine ⟨t ++ b, dropBytes?_eq_some.2 ⟨a, rfl, rfl⟩, takeBytes?_eq_some.2 ⟨?_, List.prefix_append t b⟩⟩
        rw [Text.byteCount_append]
        omega
    · next hle =>
      refine iff_of_false (by simp) ?_
      rintro ⟨a, b, -, rfl, rfl⟩
      rw [Text.byteCount_append] at hle
      omega
  rw [cut, ← hpart]
  split
  · next u hu =>
    rw [hu]
    exact ⟨fun h => congrArg some (Except.ok.inj h), fun h => congrArg pure (Option.some.inj h)⟩
  · next hnone =>
    rw [hnone]
    exact iff_of_false (fun h => by cases h) (by simp)

theorem cut_append (a t b : Text) : cut (a ++ (t ++ b)) (byteCount a) (byteCount (a ++ t)) = pure t :=
  cut_eq_pure.2 ⟨a, b, rfl, rfl, rfl⟩

/-- The cuts of a node succeed, and they make the node of the scanner. -/
theorem cutNode_eq {prelude whole rest : Text} {block : Option (Nat × Nat)} {body : Option Text}
    (h : css = a ++ (whole ++ rest)) (hprelude : prelude <+: whole)
    (hbody : block.mapM (fun (i, j) => cut css i j) = pure body) :
    cutNode css (byteCount a) (byteCount (a ++ prelude)) block (byteCount (a ++ whole)) =
      pure (makeNode prelude body whole) := by
  obtain ⟨r, rfl⟩ := hprelude
  have hwhole : cut css (byteCount a) (byteCount (a ++ (prelude ++ r))) = pure (prelude ++ r) := by
    rw [h]
    exact cut_append _ _ _
  have hprelude : cut css (byteCount a) (byteCount (a ++ prelude)) = pure prelude := by
    rw [h, List.append_assoc]
    exact cut_append _ _ _
  rw [cutNode, hwhole, makeNode]
  simp only [pure_bind, hprelude]
  generalize Text.trim prelude = p
  by_cases hblank : (Text.trim (prelude ++ r)).isEmpty
  · rw [if_pos hblank, if_pos hblank]
  · rw [if_neg hblank, if_neg hblank]
    by_cases hat : ∃ q, p = '@' :: q
    · obtain ⟨q, rfl⟩ := hat
      have hname : cut q 0 (byteCount (q.takeWhile isNameChar)) = pure (q.takeWhile isNameChar) :=
        cut_eq_pure.2 ⟨[], q.dropWhile isNameChar, List.takeWhile_append_dropWhile.symm, rfl, rfl⟩
      have hparams : cut q (byteCount (q.takeWhile isNameChar)) (byteCount q) = pure (q.dropWhile isNameChar) := by
        refine cut_eq_pure.2 ⟨_, [], ?_, rfl, ?_⟩
        · rw [List.append_nil, List.takeWhile_append_dropWhile]
        · rw [List.takeWhile_append_dropWhile]
      simp only [hname, hparams, hbody, pure_bind]
    · have hrule (q : Text) : p ≠ '@' :: q := fun hp => hat ⟨q, hp⟩
      simp

/-! ## Preludes -/

variable {start : Nat}

theorem inPrelude_end (hi : bytes.length ≤ i) :
    inPrelude css bytes start i = Option.toList <$> cutNode css start bytes.length none bytes.length := by
  rw [inPrelude, if_neg (Nat.not_lt.2 hi)]

theorem inPrelude_skip (hi : i < bytes.length) (hskip : skip? bytes i = pure (some j)) (hij : i < j) :
    inPrelude css bytes start i = inPrelude css bytes start j := by
  rw [inPrelude, if_pos hi, hskip, pure_bind]
  simp only [if_pos hij]

theorem inPrelude_plain {b : UInt8} (hb : bytes[i]? = some b) (hskip : skip? bytes i = pure none) :
    inPrelude css bytes start i =
      if b == ascii ';' then do
        let node ← cutNode css start i none (i + 1)
        let others ← between css bytes (i + 1)
        return node.toList ++ others
      else if b == ascii '{' then do
        let close ← closingBrace bytes 0 i
        let stop := min (close + 1) bytes.length
        let node ← cutNode css start i (some (i + 1, close)) stop
        let others ← if i < stop then between css bytes stop else throw (.standstill i)
        return node.toList ++ others
      else inPrelude css bytes start (i + 1) := by
  rw [inPrelude, if_pos (List.getElem?_eq_some_iff.1 hb).1, hskip, pure_bind]
  simp only [byteAt_eq hb, pure_bind]

theorem inPrelude_drift (h : Drifts bytes i j) : inPrelude css bytes start i = inPrelude css bytes start j := by
  refine h.eq (fun k b hb hhigh => ?_) fun k hk => inPrelude_end hk
  rw [inPrelude_plain hb (skip?_high hb hhigh), ne_ascii_of_high hhigh (by decide),
    ne_ascii_of_high hhigh (by decide)]
  rfl

theorem inPrelude_pass (hmet : Met bytes a l) (hs : l ≠ .plain ';') (ho : l ≠ .plain '{')
    (hlt : byteCount a < bytes.length) :
    inPrelude css bytes start (byteCount a) = inPrelude css bytes start (byteCount (a ++ l.text)) := by
  cases hmet with
  | @plain c hb hskip hdrift =>
    have hsemicolon : ¬ (firstByte c == ascii ';') = true := by
      rw [beq_iff_eq, firstByte_eq_ascii (by decide)]
      simpa using hs
    have hopen : ¬ (firstByte c == ascii '{') = true := by
      rw [beq_iff_eq, firstByte_eq_ascii (by decide)]
      simpa using ho
    rw [inPrelude_plain hb hskip, if_neg hsemicolon, if_neg hopen, inPrelude_drift hdrift]
    rfl
  | skipped _ hskip hahead hdrift => rw [inPrelude_skip hlt hskip hahead, inPrelude_drift hdrift]

/-- What the walk between nodes finds on the texts that are shorter than this. -/
def Follows (css : Text) (n : Nat) : Prop :=
  ∀ {a s : Text}, css = a ++ s → s.length < n →
    between css (toBytes css) (byteCount a) = pure (scan .between (lexemes s))

variable {p : List Lexeme} {n : Nat}

theorem Follows.behind {whole rest : Text} (hfollows : Follows css n) (h : css = a ++ (whole ++ rest))
    (hn : rest.length < n) :
    between css (toBytes css) (byteCount (a ++ whole)) = pure (scan .between (lexemes rest)) :=
  hfollows (by rw [h, List.append_assoc]) hn

theorem inPrelude_semicolon (hfollows : Follows css n) (h : css = a ++ (readBack p ++ ';' :: t)) (hn : t.length < n)
    (hmet : Met (toBytes css) (a ++ readBack p) (.plain ';')) :
    inPrelude css (toBytes css) (byteCount a) (byteCount (a ++ readBack p)) =
      pure (scan (.inPrelude p) (.plain ';' :: lexemes t)) := by
  cases hmet with
  | skipped hplain => exact absurd rfl (hplain ';')
  | plain hb hskip hdrift =>
    have hstop : byteCount (a ++ readBack p) + 1 = byteCount (a ++ (readBack p ++ [';'])) := by
      rw [← List.append_assoc, Text.byteCount_concat_ascii _ (by decide)]
    have hwhole : css = a ++ ((readBack p ++ [';']) ++ t) := by simp [h]
    have hnode : cutNode css (byteCount a) (byteCount (a ++ readBack p)) none (byteCount (a ++ (readBack p ++ [';']))) =
        pure (makeNode (readBack p) none (readBack p ++ [';'])) := cutNode_eq hwhole (List.prefix_append _ _) rfl
    rw [inPrelude_plain hb hskip, if_pos (by decide), hstop, hnode, pure_bind, hfollows.behind hwhole hn, pure_bind,
      scan, step, stepPrelude]

theorem inPrelude_open (hfollows : Follows css n) (h : css = a ++ (readBack p ++ '{' :: t)) (hn : t.length < n)
    (hmet : Met (toBytes css) (a ++ readBack p) (.plain '{')) :
    inPrelude css (toBytes css) (byteCount a) (byteCount (a ++ readBack p)) =
      pure (scan (.inPrelude p) (.plain '{' :: lexemes t)) := by
  have hcss : css = a ++ readBack p ++ ['{'] ++ t := by simpa using h
  -- the brace that the walk finds ends the block of the scanner, so each offset is the end of a part of the text
  obtain ⟨inside, close, rest, hends⟩ := exists_ends hcss 0
  have hinside : byteCount (a ++ readBack p) + 1 = byteCount (a ++ readBack p ++ ['{']) :=
    (Text.byteCount_concat_ascii _ (by decide)).symm
  have hclose : closingBrace (toBytes css) 0 (byteCount (a ++ readBack p)) =
      pure (byteCount (a ++ readBack p ++ ['{'] ++ inside)) := (closingBrace_open hmet 0).trans hends.found
  have hbody : (some (byteCount (a ++ readBack p ++ ['{']), byteCount (a ++ readBack p ++ ['{'] ++ inside))).mapM
      (fun (i, j) => cut css i j) = pure (some inside) := by
    have hcut : cut css (byteCount (a ++ readBack p ++ ['{'])) (byteCount (a ++ readBack p ++ ['{'] ++ inside)) =
        pure inside := by
      rw [hcss, hends.parts]
      exact cut_append _ _ _
    rw [Option.mapM_some]
    exact congrArg (Functor.map some) hcut
  have hwhole : css = a ++ ((readBack p ++ '{' :: (inside ++ close)) ++ rest) := by
    rw [hcss, hends.parts]
    simp
  have hstop : byteCount (a ++ readBack p ++ ['{'] ++ (inside ++ close)) =
      byteCount (a ++ (readBack p ++ '{' :: (inside ++ close))) := by simp
  have hahead : byteCount (a ++ readBack p) < byteCount (a ++ (readBack p ++ '{' :: (inside ++ close))) := by
    rw [← List.append_assoc]
    exact Text.byteCount_lt_append _ (List.cons_ne_nil _ _)
  have hrest : rest.length < n := by
    rw [hends.parts, List.length_append, List.length_append] at hn
    omega
  cases hmet with
  | skipped hplain => exact absurd rfl (hplain '{')
  | plain hb hskip hdrift =>
    rw [inPrelude_plain hb hskip, if_neg (by decide), if_pos (by decide), hclose, pure_bind]
    simp only [hends.stop hcss, hinside, hstop, if_pos hahead, cutNode_eq hwhole (List.prefix_append _ _) hbody,
      hfollows.behind hwhole hrest, pure_bind]
    rw [scan_inPrelude_open, hends.scan]
    rfl

/-- A walk through a prelude finds what the scanner finds, if the walk between nodes does so behind it. -/
theorem inPrelude_offset (hfollows : Follows css n) (h : css = a ++ (readBack p ++ s)) (hn : s.length ≤ n) :
    inPrelude css (toBytes css) (byteCount a) (byteCount (a ++ readBack p)) =
      pure (scan (.inPrelude p) (lexemes s)) := by
  -- a lexeme can have many characters, so the induction is on the length of what is left
  induction hm : s.length using Nat.strong_induction_on generalizing p s with
  | _ m ih =>
    subst hm
    by_cases hs : s = []
    · subst hs
      rw [List.append_nil] at h
      have hwhole : css = a ++ (readBack p ++ []) := by rw [h, List.append_nil]
      have hnode : cutNode css (byteCount a) (byteCount (a ++ readBack p)) none (byteCount (a ++ readBack p)) =
          pure (makeNode (readBack p) none (readBack p)) := cutNode_eq hwhole (List.prefix_refl _) rfl
      have hend : (toBytes css).length = byteCount (a ++ readBack p) := by rw [Text.length_toBytes, h]
      rw [inPrelude_end (Nat.le_of_eq hend), hend, hnode, map_pure, lexemes, scan, unfinished]
    obtain ⟨l, t, rfl, hlt, hlex, hmet⟩ := exists_met (a ++ readBack p) hs
    have hcss : css = a ++ readBack p ++ (l.text ++ t) := by rw [h, List.append_assoc]
    rw [← hcss] at hmet
    rw [hlex]
    by_cases hsemicolon : l = .plain ';'
    · subst hsemicolon
      exact inPrelude_semicolon hfollows h (Nat.lt_of_lt_of_le hlt hn) hmet
    by_cases hopen : l = .plain '{'
    · subst hopen
      exact inPrelude_open hfollows h (Nat.lt_of_lt_of_le hlt hn) hmet
    · have hread : a ++ readBack p ++ l.text = a ++ readBack (l :: p) := by rw [readBack_cons, List.append_assoc]
      rw [inPrelude_pass hmet hsemicolon hopen (offset_lt_length hcss hs), scan_inPrelude hsemicolon hopen, hread]
      refine ih _ hlt ?_ (Nat.le_trans (Nat.le_of_lt hlt) hn) rfl
      rw [readBack_cons, List.append_assoc, ← h]

/-! ## Between nodes -/

theorem between_end (hi : bytes.length ≤ i) : between css bytes i = pure [] := by
  rw [between, if_neg (Nat.not_lt.2 hi)]

theorem isBlankByte_firstByte (c : Char) : isBlankByte (firstByte c) = Text.isAsciiBlank c := by
  simp only [isBlankByte, Text.isAsciiBlank, ascii, Text.firstByte_beq c (k := ' ') (by decide),
    Text.firstByte_beq c (k := '\t') (by decide), Text.firstByte_beq c (k := '\n') (by decide),
    Text.firstByte_beq c (k := '\x0c') (by decide), Text.firstByte_beq c (k := '\r') (by decide)]

theorem between_char (h : css = a ++ c :: t) : between css (toBytes css) (byteCount a) =
    if isFiller (.plain c) then between css (toBytes css) (byteCount a + 1)
    else if c = '/' ∧ t.head? = some '*' then do
      let j ← commentEnd (toBytes css) (byteCount a + 2)
      if byteCount a < j then between css (toBytes css) j else throw (.standstill (byteCount a))
    else inPrelude css (toBytes css) (byteCount a) (byteCount a) := by
  have hbyte : byteAt (toBytes css) (byteCount a) = pure (firstByte c) := by
    rw [h]
    exact byteAt_offset a c t
  have hcomment : opensComment (toBytes css) (byteCount a) = pure (decide (c = '/' ∧ t.head? = some '*')) := by
    rw [h]
    exact opensComment_offset a c t
  rw [between, if_pos (offset_lt_length h (List.cons_ne_nil _ _)), hbyte, hcomment, pure_bind, pure_bind,
    isBlankByte_firstByte, ascii, Text.firstByte_beq c (by decide), isFiller]
  simp only [decide_eq_true_eq]

theorem scan_between_start {r : Text} (hf : isFiller (.plain c) = false) (hc : ¬ (c = '/' ∧ r.head? = some '*')) :
    scan .between (lexemes (c :: r)) = scan (.inPrelude []) (lexemes (c :: r)) := by
  rw [lexemes]
  split
  · exact scan_between_item rfl _
  split
  · exact scan_between_item rfl _
  · exact scan_between_item hf _

theorem ascii_of_isFiller (hf : isFiller (.plain c) = true) : c.toNat < 0x80 := by
  simp only [isFiller, Text.isAsciiBlank, Bool.or_eq_true, beq_iff_eq] at hf
  rcases hf with ((((rfl | rfl) | rfl) | rfl) | rfl) | rfl <;> decide

/-- A text is followed if all shorter ones are. -/
theorem Follows.succ (h : Follows css n) : Follows css (n + 1) := by
  intro a s hcss hlt
  cases s with
  | nil =>
    rw [hcss, between_end (length_le a), lexemes]
    rfl
  | cons c r =>
    have hr : r.length < n := Nat.lt_of_succ_lt_succ hlt
    rw [between_char hcss]
    by_cases hf : isFiller (.plain c) = true
    · rw [if_pos hf, lexemes_filler hf, scan_between_filler hf,
        ← Text.byteCount_concat_ascii a (ascii_of_isFiller hf)]
      exact h (by rw [hcss, List.append_cons]) hr
    rw [if_neg hf]
    by_cases hc : c = '/' ∧ r.head? = some '*'
    · obtain ⟨rfl, hstar⟩ := hc
      obtain ⟨r, rfl⟩ := List.head?_eq_some_iff.1 hstar
      have hend : commentEnd (toBytes css) (byteCount a + 2) =
          pure (byteCount (a ++ '/' :: '*' :: (cutComment r).1)) := by
        rw [hcss]
        exact commentEnd_opened a r
      have hahead : byteCount a < byteCount (a ++ '/' :: '*' :: (cutComment r).1) :=
        Text.byteCount_lt_append a (List.cons_ne_nil _ _)
      rw [if_pos ⟨rfl, rfl⟩, hend, pure_bind, if_pos hahead, lexemes_opened, scan_between_filler rfl]
      refine h ?_ (Nat.lt_of_le_of_lt (cutComment_length r) (Nat.lt_of_succ_lt hr))
      rw [hcss, List.append_assoc, List.cons_append, List.cons_append, cutComment_append]
    · -- what starts a node is read as a prelude of which nothing has been read yet
      rw [if_neg hc, scan_between_start (Bool.eq_false_iff.2 hf) hc]
      have hprelude := inPrelude_offset (p := []) h hcss (Nat.le_of_lt_succ hlt)
      rwa [readBack, List.reverse_nil, textOf, List.flatMap_nil, List.append_nil] at hprelude

theorem follows (css : Text) (n : Nat) : Follows css n := by
  induction n with
  | zero => exact fun _ hlt => absurd hlt (Nat.not_lt_zero _)
  | succ n ih => exact ih.succ

/-- **Reading the outline from bytes never goes wrong.** Whatever the text is, every read is of a byte of the text, the
depth never gets below zero, every cut is between the ends of a part of the text, every round of a loop gets ahead, and
the nodes are those of the scanner. -/
theorem nodes_eq_ok (css : Text) : Bytewise.nodes css = .ok (Outline.nodes css) :=
  follows css (css.length + 1) (a := []) rfl (Nat.lt_succ_self _)

end StylePrune.Outline.Bytewise
