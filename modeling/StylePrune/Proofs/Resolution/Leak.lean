import StylePrune.Proofs.Outline.Extension
import StylePrune.Proofs.Resolution.Joined

/-!
Stylesheets that leave their media block.

A media block around a stylesheet ends at the first closing brace of the stylesheet that closes nothing, if it
has one (`afterStray?`). What follows that brace comes out of the block (`leaked`) and holds whatever the medium.
Nothing comes out exactly if white space, comments and closing braces are all that follows
(`Condition.nodes_wrapInMedia_leaked`). That a text counts as a stylesheet, since it has both braces, does not
help: `leaks_doubleClose`.
-/
namespace StylePrune

namespace Outline

/-! ## Where a text has nodes -/

theorem makeNode_ne_none {c : Char} (p : Text) (body : Option Text) {t : Text} (hc : c ∈ t)
    (hblank : Text.isBlank c = false) : makeNode p body t ≠ none := by
  have hne : (Text.trim t).isEmpty = false := List.isEmpty_eq_false_iff.2 (Text.trim_ne_nil hc hblank)
  unfold makeNode
  simp only [hne, Bool.false_eq_true, if_false]
  split <;> simp

/-- A block has one node, and behind the brace that ends it the scan starts afresh. -/
theorem exists_scan_inBlock (p b ls : List Lexeme) (depth : Nat) :
    ∃ body t, scan (.inBlock p b depth) ls =
      (makeNode (readBack p) (some body) (readBack p ++ '{' :: t)).toList ++
        ((afterClose? depth ls).map (scan .between)).getD [] := by
  -- what has been read of the block changes the node only, so the induction keeps it open
  induction ls generalizing b depth with
  | nil => exact ⟨readBack b, readBack b, by simp [scan, unfinished, afterClose?]⟩
  | cons l ls ih =>
    by_cases ho : l = .plain '{'
    · subst ho
      rw [scan_inBlock_open, afterClose?_open]
      exact ih _ _
    by_cases hc : l = .plain '}'
    · subst hc
      cases depth with
      | zero =>
        refine ⟨readBack b, readBack b ++ ['}'], ?_⟩
        rw [scan, step, stepBlock, afterClose?_close, List.append_assoc, List.cons_append]
        rfl
      | succ depth =>
        rw [scan_inBlock_close, afterClose?_closeInner]
        exact ih _ _
    · rw [scan_inBlock ho hc, afterClose?_cons ho hc]
      exact ih _ _

theorem scan_inPrelude_ne_nil {c : Char} (hblank : Text.isBlank c = false) (p ls : List Lexeme)
    (hc : c ∈ readBack p ++ textOf ls) : scan (.inPrelude p) ls ≠ [] := by
  induction ls generalizing p with
  | nil =>
    have hc : c ∈ readBack p := by simpa [textOf] using hc
    rw [scan, unfinished, ne_eq, Option.toList_eq_nil_iff]
    exact makeNode_ne_none _ _ hc hblank
  | cons l ls ih =>
    by_cases hs : l = .plain ';'
    · subst hs
      have hnode := makeNode_ne_none (readBack p) none (t := readBack p ++ [';']) (c := ';') (by simp) (by decide)
      rw [scan, step, stepPrelude]
      simp [hnode]
    by_cases ho : l = .plain '{'
    · subst ho
      obtain ⟨body, t, hscan⟩ := exists_scan_inBlock p [] ls 0
      have hnode := makeNode_ne_none (readBack p) (some body) (t := readBack p ++ '{' :: t) (c := '{') (by simp)
        (by decide)
      rw [scan_inPrelude_open, hscan]
      simp [hnode]
    · rw [scan_inPrelude hs ho]
      refine ih _ ?_
      rw [readBack, List.reverse_cons, textOf, List.flatMap_append, List.flatMap_singleton, List.append_assoc]
      exact hc

theorem textOf_ne_nil {ls : List Lexeme} (h : ls ≠ []) : textOf ls ≠ [] := by
  obtain ⟨l, ls, rfl⟩ := List.exists_cons_of_ne_nil h
  have hl : l.text ≠ [] := by
    unfold Lexeme.text
    split <;> simp
  simp [textOf_cons, hl]

theorem scan_between_eq_nil_iff {ls : List Lexeme} (h : ls ≠ [] → (textOf ls).getLast? = some '}') :
    scan .between ls = [] ↔ ∀ l ∈ ls, isFiller l = true := by
  induction ls with
  | nil => simp [scan, unfinished]
  | cons l ls ih =>
    have hlast : (textOf (l :: ls)).getLast? = some '}' := h (by simp)
    cases hl : isFiller l with
    | true =>
      have hrest : ls ≠ [] → (textOf ls).getLast? = some '}' := by
        intro hne
        rwa [textOf_cons, List.getLast?_append_of_ne_nil _ (textOf_ne_nil hne)] at hlast
      rw [scan_between_filler hl, ih hrest]
      simp [hl]
    | false =>
      rw [scan_between_item hl]
      have hne : scan (.inPrelude []) (l :: ls) ≠ [] := by
        refine scan_inPrelude_ne_nil (c := '}') (by decide) _ _ ?_
        exact List.mem_append_right _ (List.mem_of_getLast? hlast)
      simp [hne, hl]

/-! ## Behind the stylesheet -/

/-- What is written behind a stylesheet in a media block. -/
def blockEnd : Text := ['\n', '}']

/-- What a string or a comment leaves of the end of the block is a line end and a brace, or the brace. -/
theorem lexemes_of_suffix_blockEnd {u : Text} (h : u <:+ blockEnd) : lexemes u = u.map Lexeme.plain := by
  have hnil : lexemes [] = [] := by rw [lexemes]
  have hbrace : lexemes ['}'] = [.plain '}'] := by rw [lexemes_brace (.inr rfl), hnil]
  rw [blockEnd, List.suffix_cons_iff, List.suffix_cons_iff, List.suffix_nil] at h
  rcases h with rfl | rfl | rfl
  · rw [lexemes_plain (by simp) (by simp) (by simp), hbrace]
    rfl
  · exact hbrace
  · exact hnil

theorem suffix_blockEnd {u : Text} (h : u <:+ blockEnd) :
    (∀ l ∈ lexemes u, isFiller l = true) ∧
      ∀ depth, afterClose? depth (lexemes u) = none ∨ afterClose? depth (lexemes u) = some [] := by
  rw [lexemes_of_suffix_blockEnd h]
  rw [blockEnd, List.suffix_cons_iff, List.suffix_cons_iff, List.suffix_nil] at h
  refine ⟨?_, fun depth => ?_⟩
  · rcases h with rfl | rfl | rfl <;> decide
  · cases depth with
    | zero => rcases h with rfl | rfl | rfl <;> decide
    | succ depth => rcases h with rfl | rfl | rfl <;> exact .inl rfl

/-- The end of the block does not change whether a text is filler. -/
theorem GoesOn.isFiller_iff {ls ms : List Lexeme} (h : GoesOn blockEnd ls ms) :
    (∀ m ∈ ms, isFiller m = true) ↔ ∀ l ∈ ls, isFiller l = true := by
  induction h with
  | done => simpa using (suffix_blockEnd (List.suffix_refl blockEnd)).1
  | @takesUp l m u _ hfiller _ hu =>
    have := (suffix_blockEnd hu).1
    rw [List.forall_mem_cons, List.forall_mem_singleton, hfiller]
    exact and_iff_left this
  | stays _ ih => rw [List.forall_mem_cons, List.forall_mem_cons, ih]

/-! ## What leaves a media block -/

/-- What follows the first closing brace of a stylesheet that closes nothing, if it has one. -/
def afterStray? (css : Text) : Option Text := (afterClose? 0 (lexemes css)).map textOf

/-- What comes out of a media block around a stylesheet. -/
def leaked (css : Text) : List Node :=
  match afterStray? css with
  | some rest => nodes (rest ++ blockEnd)
  | none => []

theorem goesOn_blockEnd (css : Text) : GoesOn blockEnd (lexemes css) (lexemes (css ++ blockEnd)) :=
  goesOn_lexemes css (by decide)

theorem scan_afterClose?_eq_leaked (css : Text) :
    ((afterClose? 0 (lexemes (css ++ blockEnd))).map (scan .between)).getD [] = leaked css := by
  unfold leaked afterStray?
  cases h : afterClose? 0 (lexemes css) with
  | none =>
    obtain ⟨u, depth, hu, hmore⟩ := (goesOn_blockEnd css).afterClose?_eq_none h
    rw [hmore]
    rcases (suffix_blockEnd hu).2 depth with hclose | hclose <;> rw [hclose] <;> simp [scan, unfinished]
  | some rest =>
    obtain ⟨more, hmore, hgo⟩ := (goesOn_blockEnd css).afterClose?_eq_some h
    have htext : lexemes (textOf rest ++ blockEnd) = more := by
      rw [← hgo.textOf_eq, lexemes_textOf_of_suffix (suffix_of_afterClose? hmore)]
    rw [hmore]
    show scan .between more = nodes (textOf rest ++ blockEnd)
    rw [nodes, htext]

theorem leaked_eq_nil_iff (css : Text) :
    leaked css = [] ↔ ∀ rest ∈ afterStray? css, ∀ l ∈ lexemes rest, isFiller l = true := by
  unfold leaked
  cases afterStray? css with
  | none => simp
  | some rest =>
    have hlast : lexemes (rest ++ blockEnd) ≠ [] → (textOf (lexemes (rest ++ blockEnd))).getLast? = some '}' := by
      intro _
      rw [textOf_lexemes, List.getLast?_append_of_ne_nil _ (by decide)]
      rfl
    simp only [nodes, scan_between_eq_nil_iff hlast, (goesOn_blockEnd rest).isFiller_iff, Option.mem_some_iff,
      forall_eq']

/-- **What stays in a media block and what leaves it.** The block around a stylesheet is one node with the
condition of the block, and behind it stands what follows the first closing brace of the stylesheet that closes
nothing. That is nothing exactly if there is no such brace, or only white space, comments and closing braces
follow it. -/
theorem Condition.nodes_wrapInMedia_leaked {c : Text} (h : Condition c) (css : Text) :
    ∃ n, n.mediaCondition = some c ∧ nodes (Sheet.wrapInMedia css c) = n :: leaked css ∧
      (leaked css = [] ↔ ∀ rest ∈ afterStray? css, ∀ l ∈ lexemes rest, isFiller l = true) := by
  have hread : readBack ((mediaPrelude c).map Lexeme.plain).reverse = mediaPrelude c := by
    rw [readBack, List.reverse_reverse, textOf_plain]
  have hlines : lexemes (onOwnLines css ++ ['}']) = .plain '\n' :: lexemes (css ++ blockEnd) := by
    rw [onOwnLines, List.cons_append, List.append_assoc, lexemes_plain (by simp) (by simp) (by simp)]
    rfl
  have henter := h.nodes_wrapInMedia css []
  rw [List.append_nil, hlines, scan_inBlock (by simp) (by simp)] at henter
  obtain ⟨body, t, hscan⟩ := exists_scan_inBlock ((mediaPrelude c).map Lexeme.plain).reverse [.plain '\n']
    (lexemes (css ++ blockEnd)) 0
  have hblock : (Text.trim (mediaPrelude c ++ '{' :: t)).isEmpty = false :=
    List.isEmpty_eq_false_iff.2 (Text.trim_ne_nil (c := '{') (by simp) (by decide))
  rw [hread, h.makeNode_mediaPrelude body hblock, scan_afterClose?_eq_leaked] at hscan
  exact ⟨_, rfl, henter.trans hscan, leaked_eq_nil_iff css⟩

end Outline

namespace Resolution

open Outline (Condition)

def doubleClose : Text := "a\x7b\x7d\x7db\x7b\x7d".toList

/-- Its second rule is what comes out of a block for print. -/
theorem nodes_wrapInMedia_leaked_doubleClose :
    Condition "print".toList ∧
      ∃ n, n.mediaCondition = some "print".toList ∧
        Outline.nodes (Sheet.wrapInMedia doubleClose "print".toList) = n :: Outline.leaked doubleClose ∧
        (Outline.leaked doubleClose = [] ↔
          ∀ rest ∈ Outline.afterStray? doubleClose, ∀ l ∈ Outline.lexemes rest, Outline.isFiller l = true) :=
  ⟨condition_print, condition_print.nodes_wrapInMedia_leaked doubleClose⟩

/-- **A text that counts as a stylesheet may leave its media block.** -/
theorem leaks_doubleClose :
    Sheet.isPlausible doubleClose = true ∧ Condition "print".toList ∧
      ¬ ∃ n, Outline.nodes (Sheet.wrapInMedia doubleClose "print".toList) = [n] ∧
        n.mediaCondition = some "print".toList := by
  have htwo : (Outline.nodes (Sheet.wrapInMedia doubleClose "print".toList)).length = 2 := by decide +kernel
  refine ⟨rfl, condition_print, ?_⟩
  rintro ⟨n, hn, -⟩
  rw [hn] at htwo
  cases htwo

end Resolution
end StylePrune
