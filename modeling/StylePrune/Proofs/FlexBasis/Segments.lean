import StylePrune.Proofs.FlexBasis.Declaration

/-!
Rewriting goes segment by segment.

A segment is rewritten on its own: nothing of what stands around it counts but whether a declaration may start where it
starts (`rewriteAt`), and whether a brace opens a block where it ends, which leaves it as it is
(`rewriteAt_append`). So no declaration has a part in how another one is rewritten (`rewrite_seams`).
-/
namespace StylePrune.FlexBasis

variable {spacing : Spacing} {lead : Bool} {s r : Text} {d : Decl} {c : Char}

/-- Rewrites a text at the start of which a declaration may start, or may not. -/
def rewriteAt (spacing : Spacing) (lead : Bool) (s : Text) : Text :=
  if lead then rewrite spacing s else rewriteFrom spacing s

/-! ## One step -/

@[simp] theorem rewriteAt_true (spacing : Spacing) (s : Text) : rewriteAt spacing true s = rewrite spacing s := rfl

@[simp] theorem rewriteFrom_nil (spacing : Spacing) : rewriteFrom spacing [] = [] := by rw [rewriteFrom]

theorem rewriteFrom_cons (spacing : Spacing) (c : Char) (r : Text) :
    rewriteFrom spacing (c :: r) = c :: rewriteAt spacing (isLead c) r := by
  rw [rewriteFrom, rewriteAt, rewrite]
  cases isLead c with
  | false => rfl
  | true =>
    simp only [if_true]
    split <;> simp_all

@[simp] theorem head?_rewriteFrom (spacing : Spacing) (s : Text) : (rewriteFrom spacing s).head? = s.head? := by
  cases s with
  | nil => rw [rewriteFrom_nil]
  | cons c s => rw [rewriteFrom_cons, List.head?_cons, List.head?_cons]

@[simp] theorem endsSegment_rewriteFrom (spacing : Spacing) : EndsSegment (rewriteFrom spacing r) ↔ EndsSegment r := by
  rw [EndsSegment, head?_rewriteFrom, EndsSegment]

/-- A declaration is found at the start of a text, or none is looked for there. -/
theorem found_or (lead : Bool) (s : Text) : (lead = true ∧ ∃ d, decl? s = some d) ∨ (lead = true → decl? s = none) := by
  cases h : decl? s with
  | none => exact .inr fun _ => rfl
  | some d =>
    cases lead with
    | false => exact .inr fun hlead => nomatch hlead
    | true => exact .inl ⟨rfl, d, rfl⟩

theorem rewriteAt_some (spacing : Spacing) (h : decl? s = some d) :
    rewriteAt spacing true s = d.rewritten spacing ++ rewriteFrom spacing d.rest := by
  rw [rewriteAt_true, rewrite, h]

theorem rewriteAt_none (spacing : Spacing) (h : lead = true → decl? s = none) :
    rewriteAt spacing lead s = rewriteFrom spacing s := by
  cases lead with
  | false => rfl
  | true => rw [rewriteAt_true, rewrite, h rfl]

@[simp] theorem rewriteAt_nil (spacing : Spacing) (lead : Bool) : rewriteAt spacing lead [] = [] := by
  rw [rewriteAt_none spacing fun _ => by decide, rewriteFrom_nil]

theorem decl?_of_endsSegment (h : EndsSegment r) : decl? r = none := by
  have hnil : decl? [] = none := by decide
  have happend := decl?_segment_append isSegment_nil h
  rwa [hnil] at happend

/-- A declaration in front of a block is no declaration. -/
theorem rewritten_withRest (spacing : Spacing) (h : d.rest = []) (r : Text) :
    { d with rest := r }.rewritten spacing = if r.head? = some '{' then d.text else d.rewritten spacing := by
  rw [Decl.rewritten]
  split
  · rfl
  · rw [Decl.rewritten, h, if_neg (by simp)]
    rfl

/-! ## Segments -/

/-- A segment is rewritten on its own, or left as it is in front of a block. -/
theorem rewriteAt_append (spacing : Spacing) (lead : Bool) (hs : IsSegment s) (hr : EndsSegment r) :
    rewriteAt spacing lead (s ++ r) =
      (if r.head? = some '{' then s else rewriteAt spacing lead s) ++ rewriteFrom spacing r := by
  induction s generalizing lead with
  | nil =>
    rw [List.nil_append, rewriteAt_none spacing fun _ => decl?_of_endsSegment hr, rewriteAt_nil, ite_self,
      List.nil_append]
  | cons c s ih =>
    -- if no declaration is found here, it is the rest of the segment that is rewritten
    have hfrom : rewriteFrom spacing (c :: s ++ r) =
        (if r.head? = some '{' then c :: s else rewriteFrom spacing (c :: s)) ++ rewriteFrom spacing r := by
      rw [List.cons_append, rewriteFrom_cons, ih _ (isSegment_cons.1 hs).2, rewriteFrom_cons]
      split <;> rfl
    cases lead with
    | false => exact hfrom
    | true =>
      have happend := decl?_segment_append hs hr
      cases hfound : decl? (c :: s) with
      | none =>
        rw [hfound, Option.map_none] at happend
        rw [rewriteAt_none spacing fun _ => happend, rewriteAt_none spacing fun _ => hfound, hfrom]
      | some d =>
        rw [hfound, Option.map_some] at happend
        obtain ⟨htext, hrest⟩ := rest_of_decl? hs hfound
        rw [rewriteAt_some spacing happend, rewriteAt_some spacing hfound, rewritten_withRest spacing hrest, hrest,
          rewriteFrom_nil, List.append_nil, htext]

theorem rewriteAt_append_cons (spacing : Spacing) (lead : Bool) (hs : IsSegment s) (hc : endsValue c = true) (r : Text) :
    rewriteAt spacing lead (s ++ c :: r) =
      (if c = '{' then s else rewriteAt spacing lead s) ++ c :: rewriteAt spacing (isLead c) r := by
  rw [rewriteAt_append spacing lead hs (endsSegment_cons.2 hc), rewriteFrom_cons, List.head?_cons]
  simp only [Option.some_inj]

/-- What becomes of a text does not depend on what follows it, if that starts where a segment ends and agrees on
whether a block is opened there. -/
theorem exists_rewriteAt_append (spacing : Spacing) (lead : Bool) (a : Text) {p q : Text} (hp : EndsSegment p)
    (hq : EndsSegment q) (hblock : p.head? = some '{' ↔ q.head? = some '{') :
    ∃ t, rewriteAt spacing lead (a ++ p) = t ++ rewriteFrom spacing p ∧
      rewriteAt spacing lead (a ++ q) = t ++ rewriteFrom spacing q := by
  induction a using segment_induction generalizing lead with
  | last s hs =>
    refine ⟨_, rewriteAt_append spacing lead hs hp, ?_⟩
    rw [rewriteAt_append spacing lead hs hq]
    simp only [hblock]
  | more s c a hs hc ih =>
    obtain ⟨t, htp, htq⟩ := ih (isLead c)
    have hseam (r : Text) : rewriteAt spacing lead (s ++ c :: a ++ r) =
        (if c = '{' then s else rewriteAt spacing lead s) ++ c :: rewriteAt spacing (isLead c) (a ++ r) := by
      rw [List.append_assoc, List.cons_append, rewriteAt_append_cons spacing lead hs hc]
    refine ⟨(if c = '{' then s else rewriteAt spacing lead s) ++ c :: t, ?_, ?_⟩
    · rw [hseam, htp, List.append_assoc, List.cons_append]
    · rw [hseam, htq, List.append_assoc, List.cons_append]

/-- **Declarations are rewritten one by one**: at a semicolon, and behind a brace that opens a block, a text falls
into parts that are rewritten each on its own. -/
theorem rewrite_seams (spacing : Spacing) (a b : Text) :
    rewrite spacing (a ++ ';' :: b) = rewrite spacing a ++ ';' :: rewrite spacing b ∧
      rewrite spacing (a ++ '{' :: b) = rewrite spacing (a ++ ['{']) ++ rewrite spacing b := by
  have hlead {c : Char} (hc : isLead c = true) (b : Text) :
      rewriteFrom spacing (c :: b) = c :: rewrite spacing b := by
    rw [rewriteFrom_cons, hc, rewriteAt_true]
  constructor
  · obtain ⟨t, hseam, hend⟩ := exists_rewriteAt_append spacing true a (p := ';' :: b) (q := [])
      (endsSegment_cons.2 rfl) endsSegment_nil (by simp)
    rw [List.append_nil, rewriteFrom_nil, List.append_nil, rewriteAt_true] at hend
    rw [← rewriteAt_true, hseam, ← hend, hlead rfl]
  · obtain ⟨t, hseam, hend⟩ := exists_rewriteAt_append spacing true a (p := '{' :: b) (q := ['{'])
      (endsSegment_cons.2 rfl) (endsSegment_cons.2 rfl) Iff.rfl
    have hempty : rewrite spacing [] = [] := rewriteAt_nil spacing true
    rw [hlead rfl, hempty, rewriteAt_true] at hend
    rw [← rewriteAt_true, hseam, hend, hlead rfl, List.append_assoc, List.singleton_append]

end StylePrune.FlexBasis
