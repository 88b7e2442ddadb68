import StylePrune.Proofs.Outline.Scan

/-!
Texts that go on.

What a text is cut into stays when the text goes on, but for its last lexeme: a string, an escape or a comment
that is open at the end takes up some of what follows (`goesOn_lexemes`). So the closing brace that ends a block
is the same one however the text goes on (`GoesOn.afterClose?_eq_some`), and if there is none, only what follows
can have it (`GoesOn.afterClose?_eq_none`).
-/
namespace StylePrune.Outline

/-! ## Strings and comments -/

/-- A string that ends does not depend on what follows. -/
theorem cutString_append_of_ne_nil {q : Char} {s : Text} (t : Text) (h : (cutString q s).2 ≠ []) :
    cutString q (s ++ t) = ((cutString q s).1, (cutString q s).2 ++ t) := by
  fun_induction cutString q s with
  | case1 => exact absurd rfl h
  | case2 c => exact absurd rfl h
  | case3 d r a b hcut ih =>
    have := ih (by rwa [hcut])
    rw [List.cons_append, List.cons_append, cutString, if_pos rfl, this, hcut]
  | case4 c d r hesc hend => rw [List.cons_append, List.cons_append, cutString, if_neg hesc, if_pos hend]
  | case5 c d r hesc hend a b hcut ih =>
    have := ih (by rwa [hcut])
    rw [List.cons_append, List.cons_append, cutString, if_neg hesc, if_neg hend, ← List.cons_append, this, hcut]

/-- A string that does not end takes up what follows, or a start of it. -/
theorem cutString_append_of_eq_nil {q : Char} {s : Text} (t : Text) (h : (cutString q s).2 = []) :
    (cutString q (s ++ t)).2 <:+ t := by
  have hrest (u : Text) : (cutString q u).2 <:+ u := ⟨_, cutString_append q u⟩
  fun_induction cutString q s with
  | case1 => exact hrest t
  | case2 c =>
    cases t with
    | nil => exact hrest []
    | cons d t =>
      rw [List.singleton_append, cutString]
      split
      · exact (hrest t).trans (List.suffix_cons d t)
      · split
        · exact List.suffix_refl _
        · exact hrest _
  | case3 d r a b hcut ih =>
    have := ih (by rwa [hcut])
    rwa [List.cons_append, List.cons_append, cutString, if_pos rfl]
  | case4 c d r hesc hend => cases h
  | case5 c d r hesc hend a b hcut ih =>
    have := ih (by rwa [hcut])
    rwa [List.cons_append, List.cons_append, cutString, if_neg hesc, if_neg hend, ← List.cons_append]

theorem cutComment_append_of_ne_nil {s : Text} (t : Text) (h : (cutComment s).2 ≠ []) :
    cutComment (s ++ t) = ((cutComment s).1, (cutComment s).2 ++ t) := by
  fun_induction cutComment s with
  | case1 => exact absurd rfl h
  | case2 r => rfl
  | case3 c r a b hcut hend ih =>
    have hr : r ≠ [] := by
      rintro rfl
      cases hcut
      exact h rfl
    rw [List.cons_append, cutComment, ih h]
    · intro u hc hu
      obtain ⟨d, r, rfl⟩ := List.exists_cons_of_ne_nil hr
      exact hend r hc (by rw [(List.cons.inj hu).1])

theorem cutComment_append_of_eq_nil {s : Text} (t : Text) (h : (cutComment s).2 = []) :
    (cutComment (s ++ t)).2 <:+ t := by
  have hrest (u : Text) : (cutComment u).2 <:+ u := ⟨_, cutComment_append u⟩
  fun_induction cutComment s with
  | case1 => exact hrest t
  | case2 r =>
    obtain rfl : r = [] := h
    exact List.suffix_refl t
  | case3 c r a b hcut hend ih =>
    have := ih h
    rw [List.cons_append]
    unfold cutComment
    split
    · next u hu =>
      cases r with
      | nil => exact ⟨['/'], hu.symm⟩
      | cons d r => exact absurd (by rw [(List.cons.inj hu).1]) (hend r rfl)
    · exact this

/-! ## Lexemes -/

/-- What lexemes become when `t` follows them: they stay, but for the last one if it is no plain character. That
one may take up a start of `t`, and a comment stays a comment. -/
inductive GoesOn (t : Text) : List Lexeme → List Lexeme → Prop where
  | done : GoesOn t [] (lexemes t)
  | takesUp {l m : Lexeme} {u : Text} : (∀ c, l ≠ .plain c ∧ m ≠ .plain c) → isFiller m = isFiller l →
      m.text ++ u = l.text ++ t → u <:+ t → GoesOn t [l] (m :: lexemes u)
  | stays {l : Lexeme} {ls ms : List Lexeme} : GoesOn t ls ms → GoesOn t (l :: ls) (l :: ms)

/-- **How a text that goes on is cut.** -/
theorem goesOn_lexemes (s : Text) {t : Text} (ht : t.head? ≠ some '*') :
    GoesOn t (lexemes s) (lexemes (s ++ t)) := by
  fun_induction lexemes s with
  | case1 => exact .done
  | case2 c r hq ih =>
    rw [List.cons_append, lexemes, if_pos hq]
    by_cases hopen : (cutString c r).2 = []
    · -- the string reaches the end of the text, so it goes on in `t` and ends there
      have hl := cutString_append c r
      have hm := cutString_append c (r ++ t)
      rw [hopen, lexemes]
      rw [hopen, List.append_nil] at hl
      exact .takesUp (by simp) rfl (by simp [Lexeme.text, hl, hm]) (cutString_append_of_eq_nil t hopen)
    · rw [cutString_append_of_ne_nil t hopen]
      exact .stays ih
  | case3 r hq ih =>
    cases r with
    | nil =>
      cases t with
      | nil =>
        rw [List.append_nil, lexemes, if_neg hq, if_pos rfl]
        exact .stays ih
      | cons d t =>
        rw [List.cons_append, List.nil_append, lexemes_escape, List.head?_nil, List.tail_nil, lexemes]
        exact .takesUp (by simp) rfl rfl (List.suffix_cons d t)
    | cons d r =>
      rw [List.cons_append, List.cons_append, lexemes_escape]
      exact .stays ih
  | case4 c r hq he hc ih =>
    obtain ⟨rfl, hstar⟩ := hc
    obtain ⟨r, rfl⟩ := List.head?_eq_some_iff.1 hstar
    rw [List.cons_append, List.cons_append, lexemes, if_neg hq, if_neg he, if_pos ⟨rfl, rfl⟩, List.tail_cons,
      List.tail_cons]
    rw [List.tail_cons] at ih
    by_cases hopen : (cutComment r).2 = []
    · have hl := cutComment_append r
      have hm := cutComment_append (r ++ t)
      rw [hopen, lexemes]
      rw [hopen, List.append_nil] at hl
      exact .takesUp (by simp) rfl (by simp [Lexeme.text, hl, hm]) (cutComment_append_of_eq_nil t hopen)
    · rw [cutComment_append_of_ne_nil t hopen]
      exact .stays ih
  | case5 c r hq he hc ih =>
    -- a slash at the end opens no comment with `t`, which does not start with a star
    have hopen : c = '/' → (r ++ t).head? ≠ some '*' := by
      intro hslash
      cases r with
      | nil => exact ht
      | cons d r => exact fun hstar => hc ⟨hslash, hstar⟩
    rw [List.cons_append, lexemes_plain (not_or.1 hq) he hopen]
    exact .stays ih

theorem lexemes_textOf_of_suffix {s : Text} {ls : List Lexeme} (h : ls <:+ lexemes s) : lexemes (textOf ls) = ls := by
  have whole {s : Text} (h : ls = lexemes s) : lexemes (textOf ls) = ls := by rw [h, textOf_lexemes]
  fun_induction lexemes s with
  | case1 =>
    obtain rfl := List.suffix_nil.1 h
    exact whole lexemes.eq_1.symm
  | case2 c r hq ih =>
    rcases List.suffix_cons_iff.1 h with h | h
    · exact whole (s := c :: r) (by rw [lexemes, if_pos hq, h])
    · exact ih h
  | case3 r hq ih =>
    rcases List.suffix_cons_iff.1 h with h | h
    · exact whole (s := '\\' :: r) (by rw [lexemes, if_neg hq, if_pos rfl, h])
    · exact ih h
  | case4 c r hq he hc ih =>
    rcases List.suffix_cons_iff.1 h with h | h
    · exact whole (s := c :: r) (by rw [lexemes, if_neg hq, if_neg he, if_pos hc, h])
    · exact ih h
  | case5 c r hq he hc ih =>
    rcases List.suffix_cons_iff.1 h with h | h
    · exact whole (s := c :: r) (by rw [lexemes, if_neg hq, if_neg he, if_neg hc, h])
    · exact ih h

theorem GoesOn.textOf_eq {t : Text} {ls ms : List Lexeme} (h : GoesOn t ls ms) : textOf ms = textOf ls ++ t := by
  induction h with
  | done => exact textOf_lexemes t
  | takesUp _ _ htext _ => rw [textOf_cons, textOf_lexemes, htext, textOf_cons, textOf, List.flatMap_nil, List.append_nil]
  | stays _ ih => rw [textOf_cons, ih, textOf_cons, List.append_assoc]

/-! ## The brace that ends a block -/

/-- What follows the closing brace that ends a block in which so many more braces are open; none if no brace
does. -/
def afterClose? : Nat → List Lexeme → Option (List Lexeme)
  | _, [] => none
  | depth, l :: ls =>
    if l = .plain '{' then afterClose? (depth + 1) ls
    else if l = .plain '}' then
      match depth with
      | 0 => some ls
      | depth + 1 => afterClose? depth ls
    else afterClose? depth ls

theorem afterClose?_open (depth : Nat) (ls : List Lexeme) :
    afterClose? depth (.plain '{' :: ls) = afterClose? (depth + 1) ls := rfl

theorem afterClose?_close (ls : List Lexeme) : afterClose? 0 (.plain '}' :: ls) = some ls := rfl

theorem afterClose?_closeInner (depth : Nat) (ls : List Lexeme) :
    afterClose? (depth + 1) (.plain '}' :: ls) = afterClose? depth ls := rfl

theorem afterClose?_cons {l : Lexeme} (ho : l ≠ .plain '{') (hc : l ≠ .plain '}') (depth : Nat)
    (ls : List Lexeme) : afterClose? depth (l :: ls) = afterClose? depth ls :=
  (if_neg ho).trans (if_neg hc)

theorem suffix_of_afterClose? {depth : Nat} {ls rest : List Lexeme} (h : afterClose? depth ls = some rest) :
    rest <:+ ls := by
  induction ls generalizing depth with
  | nil => cases h
  | cons l ls ih =>
    refine List.IsSuffix.trans ?_ (List.suffix_cons l ls)
    by_cases ho : l = .plain '{'
    · subst ho
      exact ih (afterClose?_open depth ls ▸ h)
    by_cases hc : l = .plain '}'
    · subst hc
      cases depth with
      | zero =>
        obtain rfl := Option.some.inj (afterClose?_close ls ▸ h)
        exact List.suffix_refl ls
      | succ depth => exact ih (afterClose?_closeInner depth ls ▸ h)
    · exact ih (afterClose?_cons ho hc depth ls ▸ h)

/-- The brace that ends a block is the same one however the text goes on. -/
theorem GoesOn.afterClose?_eq_some {t : Text} {ls ms rest : List Lexeme} {depth : Nat} (h : GoesOn t ls ms)
    (hrest : afterClose? depth ls = some rest) : ∃ more, afterClose? depth ms = some more ∧ GoesOn t rest more := by
  induction h generalizing depth with
  | done => cases hrest
  | takesUp hl _ _ _ =>
    rw [afterClose?_cons (hl '{').1 (hl '}').1] at hrest
    cases hrest
  | @stays l ls ms h ih =>
    by_cases ho : l = .plain '{'
    · subst ho
      exact ih hrest
    by_cases hc : l = .plain '}'
    · subst hc
      cases depth with
      | zero =>
        obtain rfl := Option.some.inj hrest
        exact ⟨ms, rfl, h⟩
      | succ depth => exact ih hrest
    · rw [afterClose?_cons ho hc] at hrest ⊢
      exact ih hrest

/-- If no brace ends a block, only what follows can have the one that does. -/
theorem GoesOn.afterClose?_eq_none {t : Text} {ls ms : List Lexeme} {depth : Nat} (h : GoesOn t ls ms)
    (hnone : afterClose? depth ls = none) :
    ∃ u depth', u <:+ t ∧ afterClose? depth ms = afterClose? depth' (lexemes u) := by
  induction h generalizing depth with
  | done => exact ⟨t, depth, List.suffix_refl t, rfl⟩
  | @takesUp l m u hl _ _ hu => exact ⟨u, depth, hu, afterClose?_cons (hl '{').2 (hl '}').2 depth _⟩
  | @stays l ls ms h ih =>
    by_cases ho : l = .plain '{'
    · subst ho
      exact ih hnone
    by_cases hc : l = .plain '}'
    · subst hc
      cases depth with
      | zero => cases hnone
      | succ depth => exact ih hnone
    · rw [afterClose?_cons ho hc] at hnone ⊢
      exact ih hnone

end StylePrune.Outline
