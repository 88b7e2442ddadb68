import StylePrune.Proofs.Outline.Extension

/-!
The outline of a text leaves nothing out.

Every text, well formed or not, is the texts of its nodes with gaps around them (`Covers`), and a gap holds nothing
but white space, comments and closing braces (`Gap`). What a step of the scanner does with a lexeme is one of three
things (`step_cases`): it passes over filler, it takes the lexeme up, or it ends the node. So what has been read of a
node, together with what is still to come, is covered by the nodes that the scanner has yet to find (`covers_scan`).
-/
namespace StylePrune

namespace Text

theorem exists_trim_append (s : Text) :
    ∃ v w : Text, (∀ c ∈ v, isBlank c = true) ∧ (∀ c ∈ w, isBlank c = true) ∧ s = v ++ trim s ++ w := by
  obtain ⟨w, hw, hend⟩ := exists_trimEnd_append (trimStart s)
  refine ⟨s.takeWhile isBlank, w, fun c hc => List.mem_takeWhile_imp hc, hw, ?_⟩
  rw [trim, List.append_assoc, ← hend, trimStart, List.takeWhile_append_dropWhile]

end Text

namespace Outline

/-! ## Gaps -/

/-- What may stand between nodes: white space, closing braces and comments that end. -/
inductive Gap : Text → Prop where
  | nil : Gap []
  | blank {c : Char} {s : Text} : Text.isBlank c = true → Gap s → Gap (c :: s)
  | close {s : Text} : Gap s → Gap ('}' :: s)
  | comment {t s : Text} : CommentBody t → Gap s → Gap ('/' :: '*' :: (t ++ '*' :: '/' :: s))

/-- What may stand behind the last node: a gap, and perhaps a comment that does not end. -/
def LastGap (s : Text) : Prop := Gap s ∨ ∃ g t, Gap g ∧ CommentBody t ∧ s = g ++ '/' :: '*' :: t

theorem Gap.append {g s : Text} (hg : Gap g) (hs : Gap s) : Gap (g ++ s) := by
  induction hg with
  | nil => exact hs
  | blank hc _ ih => exact .blank hc ih
  | close _ ih => exact .close ih
  | comment ht _ ih => simpa using Gap.comment ht ih

theorem Gap.of_blanks {g : Text} (h : ∀ c ∈ g, Text.isBlank c = true) : Gap g := by
  induction g with
  | nil => exact .nil
  | cons c g ih =>
    obtain ⟨hc, hg⟩ := List.forall_mem_cons.1 h
    exact .blank hc (ih hg)

theorem LastGap.prepend {g s : Text} (hg : Gap g) (hs : LastGap s) : LastGap (g ++ s) := by
  rcases hs with hs | ⟨g', t, hg', ht, rfl⟩
  · exact .inl (hg.append hs)
  · exact .inr ⟨g ++ g', t, hg.append hg', ht, by rw [List.append_assoc]⟩

/-! ## Covered texts -/

/-- A text is the texts of these nodes, a gap in front of each and one behind the last. Each of them holds something
and has no white space at its ends. -/
def Covers (ns : List Node) (s : Text) : Prop :=
  ∃ (gaps : List Text) (last : Text), gaps.length = ns.length ∧
    s = (List.zipWith (fun g n => g ++ n.text) gaps ns).flatten ++ last ∧
    (∀ g ∈ gaps, Gap g) ∧ LastGap last ∧ ∀ n ∈ ns, Text.Tight n.text

theorem Covers.last {s : Text} (h : LastGap s) : Covers [] s := ⟨[], s, rfl, rfl, by simp, h, by simp⟩

theorem Covers.cons {ns : List Node} {s g : Text} {n : Node} (hg : Gap g) (hn : Text.Tight n.text)
    (h : Covers ns s) : Covers (n :: ns) (g ++ n.text ++ s) := by
  obtain ⟨gaps, last, hlength, rfl, hgaps, hlast, htight⟩ := h
  refine ⟨g :: gaps, last, by simp [hlength], by simp, ?_, hlast, ?_⟩
  · exact List.forall_mem_cons.2 ⟨hg, hgaps⟩
  · exact List.forall_mem_cons.2 ⟨hn, htight⟩

theorem Covers.prepend {ns : List Node} {s g : Text} (hg : Gap g) (h : Covers ns s) : Covers ns (g ++ s) := by
  obtain ⟨gaps, last, hlength, rfl, hgaps, hlast, htight⟩ := h
  cases ns with
  | nil =>
    obtain rfl : gaps = [] := List.eq_nil_of_length_eq_zero hlength
    exact .last (hlast.prepend hg)
  | cons n ns =>
    obtain ⟨g', gaps, rfl⟩ := List.exists_cons_of_length_eq_add_one hlength
    obtain ⟨hg', hgaps⟩ := List.forall_mem_cons.1 hgaps
    refine ⟨(g ++ g') :: gaps, last, hlength, by simp, ?_, hlast, htight⟩
    exact List.forall_mem_cons.2 ⟨hg.append hg', hgaps⟩

/-! ## What the scanner does with a lexeme -/

/-- What is made of a text is a node with the trimmed text, or nothing if the text is white space. -/
theorem makeNode_cases (prelude : Text) (body : Option Text) (t : Text) :
    (makeNode prelude body t = none ∧ ∀ c ∈ t, Text.isBlank c = true) ∨
      ∃ n, makeNode prelude body t = some n ∧ n.text = Text.trim t ∧ Text.Tight (Text.trim t) := by
  by_cases h : Text.trim t = []
  · refine .inl ⟨by simp [makeNode, h], fun c hc => ?_⟩
    exact not_not.1 fun hblank => Text.trim_ne_nil hc (Bool.eq_false_iff.2 hblank) h
  · have hne : (Text.trim t).isEmpty = false := List.isEmpty_eq_false_iff.2 h
    obtain ⟨n, hn, htext⟩ : ∃ n, makeNode prelude body t = some n ∧ n.text = Text.trim t := by
      unfold makeNode
      simp only [hne, Bool.false_eq_true, if_false]
      split <;> exact ⟨_, rfl, rfl⟩
    exact .inr ⟨n, hn, htext, Text.tight_trim h⟩

/-- The scanner loses nothing of a lexeme: it passes over filler between nodes, it takes the lexeme up, or it ends
the node with it. -/
theorem step_cases (place : Place) (l : Lexeme) :
    (place = .between ∧ isFiller l = true ∧ step place l = (.between, none)) ∨
      (∃ next, step place l = (next, none) ∧ next.text = place.text ++ l.text) ∨
        ∃ prelude body, step place l = (.between, makeNode prelude body (place.text ++ l.text)) := by
  have hprelude (p : List Lexeme) : (∃ next, stepPrelude p l = (next, none) ∧ next.text = readBack p ++ l.text) ∨
      ∃ prelude body, stepPrelude p l = (.between, makeNode prelude body (readBack p ++ l.text)) := by
    unfold stepPrelude
    split
    · exact .inr ⟨_, _, rfl⟩
    · exact .inl ⟨_, rfl, rfl⟩
    · exact .inl ⟨_, rfl, readBack_cons l p⟩
  -- a node starts with the first lexeme of its prelude, so between nodes the scanner does as in a prelude
  cases place with
  | between =>
    cases hl : isFiller l with
    | true => exact .inl ⟨rfl, rfl, by rw [step, hl]; rfl⟩
    | false =>
      have hstep : step .between l = stepPrelude [] l := by
        rw [step, hl]
        rfl
      rw [hstep]
      exact .inr (hprelude [])
  | inPrelude p => exact .inr (hprelude p)
  | inBlock p b depth =>
    have htaken : (Place.inBlock p (l :: b) depth).text = (Place.inBlock p b depth).text ++ l.text := by
      rw [Place.text, readBack_cons, Place.text, List.append_assoc, List.cons_append]
    refine .inr ?_
    rw [step]
    unfold stepBlock
    split
    · exact .inl ⟨_, rfl, htaken⟩
    · exact .inr ⟨_, _, rfl⟩
    · exact .inl ⟨_, rfl, htaken⟩
    · exact .inl ⟨_, rfl, htaken⟩

theorem unfinished_cases (place : Place) :
    (place = .between ∧ unfinished place = none) ∨
      ∃ prelude body, unfinished place = makeNode prelude body place.text := by
  cases place with
  | between => exact .inl ⟨rfl, rfl⟩
  | inPrelude p => exact .inr ⟨_, _, rfl⟩
  | inBlock p b depth => exact .inr ⟨_, _, rfl⟩

/-- A comment ends, or it is the last lexeme. -/
theorem comment_of_suffix {css t : Text} {ls : List Lexeme} (h : .comment t :: ls <:+ lexemes css) :
    (∃ v, CommentBody v ∧ t = v ++ ['*', '/']) ∨ CommentBody t ∧ ls = [] := by
  have hcut := lexemes_textOf_of_suffix h
  rw [textOf_cons, Lexeme.text, List.cons_append, List.cons_append] at hcut
  rcases commentBody_or (t ++ textOf ls) with hopen | ⟨v, w, hv, hend⟩
  · rw [lexemes_openComment hopen] at hcut
    obtain ⟨ht, rfl⟩ := List.cons.inj hcut
    exact .inr ⟨Lexeme.comment.inj ht ▸ hopen, rfl⟩
  · rw [hend, lexemes_comment hv] at hcut
    exact .inl ⟨v, hv, (Lexeme.comment.inj (List.cons.inj hcut).1).symm⟩

/-! ## The whole text -/

theorem covers_makeNode (prelude : Text) (body : Option Text) (t : Text) {ns : List Node} {s : Text}
    (h : Covers ns s) : Covers ((makeNode prelude body t).toList ++ ns) (t ++ s) := by
  rcases makeNode_cases prelude body t with ⟨hnone, hblank⟩ | ⟨n, hn, htext, htight⟩
  · rw [hnone]
    exact h.prepend (.of_blanks hblank)
  · obtain ⟨v, w, hv, hw, ht⟩ := Text.exists_trim_append t
    rw [← htext] at ht htight
    rw [hn, ht, List.append_assoc]
    exact .cons (.of_blanks hv) htight (h.prepend (.of_blanks hw))

/-- **What has been read and what is to come is covered** by the nodes that the scanner has yet to find. -/
theorem covers_scan {css : Text} {place : Place} {ls : List Lexeme} (h : ls <:+ lexemes css) :
    Covers (scan place ls) (place.text ++ textOf ls) := by
  induction ls generalizing place with
  | nil =>
    have hend : Covers [] [] := .last (.inl .nil)
    rw [scan]
    rcases unfinished_cases place with ⟨rfl, hnone⟩ | ⟨prelude, body, hnode⟩
    · rw [hnone]
      exact hend
    · rw [hnode, ← List.append_nil (Option.toList _)]
      exact covers_makeNode prelude body place.text hend
  | cons l ls ih =>
    have hrest : ls <:+ lexemes css := (List.suffix_cons l ls).trans h
    rw [scan, textOf_cons, ← List.append_assoc]
    rcases step_cases place l with ⟨rfl, hl, hstep⟩ | ⟨next, hstep, hnext⟩ | ⟨prelude, body, hstep⟩
    · have hbetween : Covers (scan .between ls) (textOf ls) := ih hrest
      rw [hstep]
      cases l with
      | plain c =>
        rw [isFiller, Bool.or_eq_true, beq_iff_eq] at hl
        rcases hl with hc | rfl
        · exact hbetween.prepend (g := [c]) (.blank (isBlank_of_isAsciiBlank hc) .nil)
        · exact hbetween.prepend (g := ['}']) (.close .nil)
      | comment t =>
        rcases comment_of_suffix h with ⟨v, hv, rfl⟩ | ⟨ht, rfl⟩
        · exact hbetween.prepend (.comment hv .nil)
        · refine .last (.inr ⟨[], t, .nil, ht, ?_⟩)
          exact List.append_nil _
      | escape next => cases hl
      | quoted q r => cases hl
    · rw [hstep, ← hnext]
      exact ih hrest
    · have hbetween : Covers (scan .between ls) (textOf ls) := ih hrest
      rw [hstep]
      exact covers_makeNode prelude body _ hbetween

/-- **The outline leaves nothing out.** Whatever the text is, it consists of the texts of its nodes, in order, with
gaps of white space, closing braces and comments around them. -/
theorem covers_nodes (css : Text) : Covers (nodes css) css := by
  have h : Covers (nodes css) (Place.between.text ++ textOf (lexemes css)) := covers_scan (List.suffix_refl _)
  rwa [textOf_lexemes] at h

end Outline
end StylePrune
