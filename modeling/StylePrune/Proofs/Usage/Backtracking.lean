import StylePrune.Pattern.Node
import StylePrune.Proofs.Usage.Tokens

/-!
Tokens as the matches of a pattern.

A token is what a run of token characters matches that must not end behind a colon. A search with backtracking takes
the longest way first, gives characters back until the look behind holds, and goes on where the match ends. In a run it
finds what is left without the colons at the end, and behind that nothing (`head?_ends`, `matches_colons`), so its
matches are the tokens, in order and with repetitions (`matchesFrom_eq_tokenList`).
-/
namespace StylePrune.Usage

open Pattern (Position)

/-! ## Searches with backtracking -/

/-- A pattern whose ways to match are tried in an order. -/
inductive Ordered where
  /-- One character of a class or more, the most of them first. -/
  | many (p : Char → Bool)
  /-- No character of a class stands before the position. -/
  | notBehind (p : Char → Bool)
  | concat (a b : Ordered)

namespace Ordered

/-- The positions behind one character of a class or more, the last one first. -/
def runEnds (p : Char → Bool) : Text → List Position
  | [] => []
  | c :: r => if p c then runEnds p r ++ [⟨some c, r⟩] else []

/-- Where a match that starts at a position can end, in the order in which the ways are tried. -/
def ends : Ordered → Position → List Position
  | many p, q => runEnds p q.after
  | notBehind p, q => if q.before.any p then [] else [q]
  | concat a b, q => (ends a q).flatMap (ends b)

/-- The matches from a position on: the one that starts first, the first way that it can be found, and those from its
end on. Behind an empty match the search goes on at the next character. -/
def matchesFrom (t : Ordered) : Position → List Text
  | ⟨b, []⟩ => if (t.ends ⟨b, []⟩).isEmpty then [] else [[]]
  | ⟨b, c :: r⟩ =>
    match (t.ends ⟨b, c :: r⟩).head? with
    | none => matchesFrom t ⟨some c, r⟩
    | some e =>
      if _h : e.after.length < (c :: r).length then
        (c :: r).take ((c :: r).length - e.after.length) :: matchesFrom t e
      else [] :: matchesFrom t ⟨some c, r⟩
termination_by q => q.after.length
decreasing_by
  · exact Nat.lt_succ_self _
  · exact _h
  · exact Nat.lt_succ_self _

def allMatches (t : Ordered) (s : Text) : List Text := t.matchesFrom ⟨none, s⟩

variable {t : Ordered} {b : Option Char} {c : Char} {r w s : Text}

theorem matchesFrom_of_none (h : (t.ends ⟨b, c :: r⟩).head? = none) :
    t.matchesFrom ⟨b, c :: r⟩ = t.matchesFrom ⟨some c, r⟩ := by
  rw [matchesFrom, h]

theorem matchesFrom_of_some {d : Option Char} (hw : w ≠ []) (h : (t.ends ⟨b, w ++ s⟩).head? = some ⟨d, s⟩) :
    t.matchesFrom ⟨b, w ++ s⟩ = w :: t.matchesFrom ⟨d, s⟩ := by
  obtain ⟨c, w, rfl⟩ := List.exists_cons_of_ne_nil hw
  rw [List.cons_append] at h ⊢
  have hlength : (c :: (w ++ s)).length = (c :: w).length + s.length := by simp; omega
  rw [matchesFrom, h]
  simp only [hlength, Nat.add_sub_cancel]
  rw [dif_pos (by simp), ← List.cons_append, List.take_left]

end Ordered

/-! ## Tokens -/

/-- Token characters, as many as there are, and no colon behind the last of them. -/
def tokenPattern : Ordered := .concat (.many isTokenChar) (.notBehind (· == ':'))

variable {b : Option Char} {c : Char} {r s x : Text}

/-- What stands before a token has no say in it. -/
theorem ends_tokenPattern_cons (b : Option Char) (c : Char) (r : Text) :
    tokenPattern.ends ⟨b, c :: r⟩ =
      if isTokenChar c then tokenPattern.ends ⟨some c, r⟩ ++ (if c = ':' then [] else [⟨some c, r⟩]) else [] := by
  simp only [tokenPattern, Ordered.ends, Ordered.runEnds]
  split
  · rw [List.flatMap_append, List.flatMap_singleton]
    simp only [Option.any_some, beq_iff_eq]
  · rfl

theorem ends_tokenPattern_of_head (hs : ∀ c ∈ s.head?, isTokenChar c = false) : tokenPattern.ends ⟨b, s⟩ = [] := by
  cases s with
  | nil => rfl
  | cons c r => rw [ends_tokenPattern_cons, hs c rfl, if_neg Bool.false_ne_true]

/-- Colons in front of such a text are given back, one after another. -/
theorem ends_colons (hs : ∀ c ∈ s.head?, isTokenChar c = false) (n : Nat) :
    tokenPattern.ends ⟨b, List.replicate n ':' ++ s⟩ = [] := by
  induction n generalizing b with
  | zero => exact ends_tokenPattern_of_head hs
  | succ n ih =>
    rw [List.replicate_succ, List.cons_append, ends_tokenPattern_cons, ih]
    rfl

theorem head?_ends (hx : ∀ c ∈ x, isTokenChar c = true) (hne : x ≠ []) (hlast : x.getLast? ≠ some ':') {n : Nat}
    (hs : ∀ c ∈ s.head?, isTokenChar c = false) :
    (tokenPattern.ends ⟨b, x ++ (List.replicate n ':' ++ s)⟩).head? = some ⟨x.getLast?, List.replicate n ':' ++ s⟩ := by
  induction x generalizing b with
  | nil => exact absurd rfl hne
  | cons c x ih =>
    rw [List.cons_append, ends_tokenPattern_cons, hx c List.mem_cons_self, if_pos rfl]
    by_cases hnil : x = []
    · subst hnil
      have hc : c ≠ ':' := fun hc => hlast (by rw [hc]; rfl)
      rw [List.nil_append, ends_colons hs, if_neg hc]
      rfl
    · obtain ⟨d, x, rfl⟩ := List.exists_cons_of_ne_nil hnil
      rw [List.getLast?_cons_cons] at hlast ⊢
      rw [List.head?_append, ih (fun e he => hx e (List.mem_cons_of_mem c he)) hnil hlast]
      rfl

/-- Among the colons at the end of a run nothing is found. -/
theorem matches_colons (hs : ∀ c ∈ s.head?, isTokenChar c = false) (n : Nat) :
    ∃ d, tokenPattern.matchesFrom ⟨b, List.replicate n ':' ++ s⟩ = tokenPattern.matchesFrom ⟨d, s⟩ := by
  induction n generalizing b with
  | zero => exact ⟨b, rfl⟩
  | succ n ih =>
    obtain ⟨d, hd⟩ := ih (b := some ':')
    refine ⟨d, ?_⟩
    have hnone : (tokenPattern.ends ⟨b, ':' :: (List.replicate n ':' ++ s)⟩).head? = none := by
      rw [← List.cons_append, ← List.replicate_succ, ends_colons hs]
      rfl
    rw [List.replicate_succ, List.cons_append, Ordered.matchesFrom_of_none hnone, hd]

theorem tokenList_run_append {w : Text} (hne : w ≠ []) (hw : ∀ c ∈ w, isTokenChar c = true)
    (hs : ∀ c ∈ s.head?, isTokenChar c = false) :
    tokenList (w ++ s) = if trimColons w = [] then tokenList s else trimColons w :: tokenList s := by
  rw [tokenList, Text.wordsBy_run_append hne (by simpa using hw) (by simpa using hs), List.map_cons, List.filter_cons,
    ← tokenList]
  by_cases h : trimColons w = [] <;> simp [h]

/-- The tokens of a text are the matches of the pattern, wherever the search starts. -/
theorem matchesFrom_eq_tokenList (b : Option Char) (s : Text) :
    tokenPattern.matchesFrom ⟨b, s⟩ = tokenList s := by
  induction hn : s.length using Nat.strongRecOn generalizing b s with
  | ind n ih =>
    cases s with
    | nil => rw [Ordered.matchesFrom]; rfl
    | cons c r =>
      cases hc : isTokenChar c with
      | false =>
        have hnone : (tokenPattern.ends ⟨b, c :: r⟩).head? = none := by
          rw [ends_tokenPattern_cons, hc]
          rfl
        have hskip : tokenList (c :: r) = tokenList r := by
          rw [tokenList, Text.wordsBy_cons_of_pos r (by simp [hc]), ← tokenList]
        rw [Ordered.matchesFrom_of_none hnone, ih r.length (by simp at hn; omega) _ _ rfl, hskip]
      | true =>
        obtain ⟨w, after, hcut, hne, hw, hafter⟩ := Text.exists_run_append r hc
        obtain ⟨k, hk⟩ := exists_eq_trimColons_append w
        have hlt : after.length < n := by
          have := List.length_pos_iff.2 hne
          rw [← hn, hcut, List.length_append]
          omega
        -- what is left of a run without the colons at its end is one match, and the search goes on at the colons
        rw [hcut, tokenList_run_append hne hw hafter]
        split
        · next hnil =>
          rw [hnil, List.nil_append] at hk
          obtain ⟨d, hd⟩ := matches_colons (b := b) hafter k
          rw [hk, hd, ih _ hlt _ _ rfl]
        · next hsome =>
          have hlast : (trimColons w).getLast? ≠ some ':' := (trimColons_eq_iff.1 rfl).1
          have htoken : ∀ d ∈ trimColons w, isTokenChar d = true := fun d hd =>
            hw d (by rw [hk]; exact List.mem_append_left _ hd)
          obtain ⟨d, hd⟩ := matches_colons (b := (trimColons w).getLast?) hafter k
          have hfirst := head?_ends (b := b) htoken hsome hlast (n := k) hafter
          rw [← ih _ hlt d _ rfl, ← hd, ← Ordered.matchesFrom_of_some hsome hfirst, ← List.append_assoc, ← hk]

/-- **Tokens by a search with backtracking.** The names that a page mentions are the matches of the pattern, in order
and with repetitions. So the set of them is the set of matches, and that of what is left of the maximal runs of token
characters without the colons at their ends, where something is left. -/
theorem tokens_backtracking (markup : Text) :
    tokenList markup = tokenPattern.allMatches markup ∧
      (∀ x, x ∈ tokens markup ↔ x ∈ tokenPattern.allMatches markup) ∧
      ∀ x, x ∈ tokens markup ↔
        x ≠ [] ∧ x.getLast? ≠ some ':' ∧ ∃ n, Text.IsRun isTokenChar markup (x ++ List.replicate n ':') := by
  have hlist : tokenList markup = tokenPattern.allMatches markup := (matchesFrom_eq_tokenList none markup).symm
  refine ⟨hlist, fun x => ?_, fun x => ?_⟩
  · rw [tokens, Text.mem_sortedSet, hlist]
  · rw [tokens, Text.mem_sortedSet, mem_tokenList]

end StylePrune.Usage
