import StylePrune.Proofs.FlexBasis.Segments
import StylePrune.Proofs.FlexBasis.Value

/-!
One rewriting is enough.

What has been rewritten once stays as it is when it is rewritten again, with either spacing
(`rewriteAt_rewriteAt`). The second run finds a declaration in a segment where the first one found one: what the first
one wrote starts with the same name behind the same white space (`opens_rewriteFrom`), and has its basis. None is looked
for close behind a closing brace: the declarations without a basis that stand there are the ones that are left
(`left_rewrite_iff`). `Settles` says both of a text and what is made of it.
-/
namespace StylePrune.FlexBasis

open Text (isBlank)

variable {spacing f g : Spacing} {lead : Bool} {s r x w : Text} {d : Decl} {b c : Char}

/-! ## Segments -/

theorem isBlank_of_isLead (h : isLead c = true) (hc : endsValue c = false) : isBlank c = true := by
  rw [isLead, Bool.or_eq_true] at h
  rcases h with h | h
  · rw [endsValue, Bool.or_eq_false_iff, Bool.or_eq_false_iff] at hc
    rw [hc.1.1, hc.1.2] at h
    cases h
  · exact h

theorem isLead_of_isBlank (h : isBlank b = true) : isLead b = true := by rw [isLead, h, Bool.or_true]

theorem Decl.IsWritten.exists_start (spacing : Spacing) (hd : d.IsWritten) :
    ∃ c t u, d.text = c :: t ∧ d.rewritten spacing = c :: u ∧ isBlank c = false ∧ c ≠ ':' := by
  obtain ⟨e, -, hname, -, heq, -⟩ := hd.exists_settled spacing
  obtain ⟨c, n, hn⟩ := List.exists_cons_of_ne_nil hd.name.ne_nil
  have hmem : c ∈ d.name := hn ▸ List.mem_cons_self
  have hcolon : ':' ∉ d.name := hd.name.notMem (by decide) (by decide)
  refine ⟨c, n ++ d.gap ++ d.value, n ++ e.gap ++ e.value, ?_, ?_, hd.name.isBlank hmem, ?_⟩
  · rw [Decl.text, hn, List.cons_append, List.cons_append]
  · rw [heq, Decl.text, hname, hn, List.cons_append, List.cons_append]
  · rintro rfl
    exact hcolon hmem

/-- What becomes of a segment in which none starts at the start: one declaration behind white space changes, or
none. -/
theorem rewriteFrom_segment (spacing : Spacing) (hs : IsSegment s) :
    rewriteFrom spacing s = s ∨ ∃ (p : Text) (b : Char) (d : Decl), isBlank b = true ∧ d.IsWritten ∧
      s = p ++ b :: d.text ∧ rewriteFrom spacing s = p ++ b :: d.rewritten spacing := by
  induction s with
  | nil => exact .inl (rewriteFrom_nil spacing)
  | cons c s ih =>
    obtain ⟨hc, hs⟩ := isSegment_cons.1 hs
    rw [rewriteFrom_cons]
    rcases found_or (isLead c) s with ⟨hlead, d, hd⟩ | hnone
    · obtain ⟨htext, hrest⟩ := rest_of_decl? hs hd
      refine .inr ⟨[], c, d, isBlank_of_isLead hlead hc, (decl?_eq_some_iff.1 hd).1, ?_, ?_⟩
      · rw [htext, List.nil_append]
      · rw [hlead, rewriteAt_some spacing hd, hrest, rewriteFrom_nil, List.append_nil, List.nil_append]
    · rw [rewriteAt_none spacing hnone]
      rcases ih hs with heq | ⟨p, b, d, hb, hd, rfl, heq⟩
      · exact .inl (by rw [heq])
      · exact .inr ⟨c :: p, b, d, hb, hd, rfl, by rw [heq, List.cons_append]⟩

/-- Rewriting makes no declaration start where none started. -/
theorem opens_rewriteFrom (spacing : Spacing) (hs : IsSegment s) : Opens (rewriteFrom spacing s) ↔ Opens s := by
  rcases rewriteFrom_segment spacing hs with heq | ⟨p, b, d, hb, hd, rfl, heq⟩
  · rw [heq]
  · obtain ⟨c, t, u, htext, hwritten, hc, hcolon⟩ := hd.exists_start spacing
    rw [heq, htext, hwritten, opens_append_iff hb hc hcolon, opens_append_iff hb hc hcolon]

theorem Decl.IsWritten.segment_rewritten (spacing : Spacing) (hd : d.IsWritten) : IsSegment (d.rewritten spacing) := by
  obtain ⟨e, he, -, -, heq, -⟩ := hd.exists_settled spacing
  rw [heq]
  exact he.segment

theorem isSegment_rewriteFrom (spacing : Spacing) (hs : IsSegment s) : IsSegment (rewriteFrom spacing s) := by
  rcases rewriteFrom_segment spacing hs with heq | ⟨p, b, d, -, hd, rfl, heq⟩
  · rwa [heq]
  · rw [heq]
    rw [isSegment_append, isSegment_cons] at hs ⊢
    exact ⟨hs.1, hs.2.1, hd.segment_rewritten spacing⟩

theorem isSegment_rewriteAt (spacing : Spacing) (lead : Bool) (hs : IsSegment s) :
    IsSegment (rewriteAt spacing lead s) := by
  rcases found_or lead s with ⟨rfl, d, hd⟩ | hnone
  · rw [rewriteAt_some spacing hd, (rest_of_decl? hs hd).2, rewriteFrom_nil, List.append_nil]
    exact (decl?_eq_some_iff.1 hd).1.segment_rewritten spacing
  · rw [rewriteAt_none spacing hnone]
    exact isSegment_rewriteFrom spacing hs

theorem isSegment_ite_rewriteAt {p : Prop} [Decidable p] (spacing : Spacing) (lead : Bool) (hs : IsSegment s) :
    IsSegment (if p then s else rewriteAt spacing lead s) := by
  split
  · exact hs
  · exact isSegment_rewriteAt spacing lead hs

/-- What is written for a declaration is found as a declaration again, and stays. -/
theorem rewrite_rewritten (f g : Spacing) (hd : d.IsWritten) (hrest : d.rest = []) :
    rewrite f (d.rewritten g) = d.rewritten g := by
  obtain ⟨e, he, -, hrest', heq, hsettled⟩ := hd.exists_settled g
  rw [hrest] at hrest'
  have hfound : decl? e.text = some e := decl?_eq_some_iff.2 ⟨he, by rw [hrest', List.append_nil]⟩
  rw [heq, ← rewriteAt_true, rewriteAt_some f hfound, Decl.rewritten_of_not_gains f hsettled, hrest', rewriteFrom_nil,
    List.append_nil]

theorem rewriteAt_rewriteAt_segment (f g : Spacing) (lead : Bool) (hs : IsSegment s) :
    rewriteAt f lead (rewriteAt g lead s) = rewriteAt g lead s := by
  induction s generalizing lead with
  | nil => rw [rewriteAt_nil, rewriteAt_nil]
  | cons c s ih =>
    have hfrom : rewriteFrom f (rewriteFrom g (c :: s)) = rewriteFrom g (c :: s) := by
      rw [rewriteFrom_cons, rewriteFrom_cons, ih _ (isSegment_cons.1 hs).2]
    rcases found_or lead (c :: s) with ⟨rfl, d, hd⟩ | hnone
    · obtain ⟨-, hrest⟩ := rest_of_decl? hs hd
      rw [rewriteAt_some g hd, hrest, rewriteFrom_nil, List.append_nil, rewriteAt_true]
      exact rewrite_rewritten f g (decl?_eq_some_iff.1 hd).1 hrest
    · rw [rewriteAt_none g hnone, rewriteAt_none f, hfrom]
      intro hlead
      rw [← not_not (a := _ = none), ← ne_eq, ← opens_iff, opens_rewriteFrom g hs, opens_iff, ne_eq, not_not]
      exact hnone hlead

/-! ## Texts -/

/-- **One rewriting is enough**: with either spacing, a second one changes nothing. -/
theorem rewriteAt_rewriteAt (f g : Spacing) (lead : Bool) (css : Text) :
    rewriteAt f lead (rewriteAt g lead css) = rewriteAt g lead css := by
  induction css using segment_induction generalizing lead with
  | last s hs => exact rewriteAt_rewriteAt_segment f g lead hs
  | more s c r hs hc ih =>
    rw [rewriteAt_append_cons g lead hs hc]
    split
    · next hbrace => rw [rewriteAt_append_cons f lead hs hc, if_pos hbrace, ih]
    · next hbrace =>
      rw [rewriteAt_append_cons f lead (isSegment_rewriteAt g lead hs) hc, if_neg hbrace, ih,
        rewriteAt_rewriteAt_segment f g lead hs]

theorem rewriteAt_blanks (spacing : Spacing) (hw : ∀ c ∈ w, isBlank c = true) (h : lead = true ∨ w ≠ []) (s : Text) :
    rewriteAt spacing lead (w ++ s) = w ++ rewrite spacing s := by
  induction w generalizing lead with
  | nil =>
    obtain rfl : lead = true := h.resolve_right fun hne => hne rfl
    rw [List.nil_append, List.nil_append, rewriteAt_true]
  | cons b w ih =>
    rw [List.forall_mem_cons] at hw
    have hnone : decl? (b :: w ++ s) = none := by
      by_contra hsome
      obtain ⟨n, v, t, hn, -, heq⟩ := opens_iff.2 hsome
      obtain ⟨e, n, rfl⟩ := List.exists_cons_of_ne_nil hn.ne_nil
      have hblank := hn.isBlank (c := e) List.mem_cons_self
      rw [← (List.cons.inj heq).1, hw.1] at hblank
      cases hblank
    rw [rewriteAt_none spacing fun _ => hnone, List.cons_append, rewriteFrom_cons, isLead_of_isBlank hw.1,
      ih hw.2 (.inl rfl), List.cons_append]

/-- If rewriting leaves a text as it is, it leaves what follows a segment as it is. -/
theorem rewriteAt_eq_self_of_append (hc : endsValue c = true) (h : rewriteAt spacing lead (x ++ c :: r) = x ++ c :: r) :
    rewriteAt spacing (isLead c) r = r := by
  have hpart {lead : Bool} {s r : Text} {c : Char} (hs : IsSegment s) (hc : endsValue c = true)
      (h : rewriteAt spacing lead (s ++ c :: r) = s ++ c :: r) : rewriteAt spacing (isLead c) r = r := by
    rw [rewriteAt_append_cons spacing lead hs hc] at h
    have hfirst := isSegment_ite_rewriteAt (p := c = '{') spacing lead hs
    exact (List.cons.inj (hfirst.append_inj (endsSegment_cons.2 hc) hs (endsSegment_cons.2 hc) h).2).2
  induction x using segment_induction generalizing lead with
  | last s hs => exact hpart hs hc h
  | more s e x hs he ih =>
    rw [List.append_assoc, List.cons_append] at h
    exact ih (hpart hs he h)

/-! ## What is left -/

/-- A declaration stands where one can start, behind white space at the start of a segment, and no block follows it. -/
structure Decl.StandsIn (d : Decl) (before css : Text) : Prop where
  written : d.IsWritten
  text : before ++ (d.text ++ d.rest) = css
  start : ∃ x w, before = x ++ w ∧ (∀ c ∈ x.getLast?, endsValue c = true) ∧ ∀ c ∈ w, isBlank c = true
  declares : d.rest.head? ≠ some '{'

theorem rewrite_eq_self_left {css before : Text} (h : rewrite spacing css = css) (hd : d.StandsIn before css)
    (hlacks : LacksBasis d.value) : before.getLast? = some '}' := by
  obtain ⟨hwritten, rfl, ⟨x, w, rfl, hx, hw⟩, hblock⟩ := hd
  have hsilent {lead : Bool} (h : rewriteAt spacing lead (w ++ (d.text ++ d.rest)) = w ++ (d.text ++ d.rest)) :
      ¬ (lead = true ∨ w ≠ []) := by
    intro hstart
    have hfound : decl? (d.text ++ d.rest) = some d := decl?_eq_some_iff.2 ⟨hwritten, rfl⟩
    have hends := (endsSegment_rewriteFrom spacing).2 hwritten.rest
    rw [rewriteAt_blanks spacing hw hstart, ← rewriteAt_true, rewriteAt_some spacing hfound] at h
    exact Decl.Gains.rewritten_ne spacing hwritten ⟨hblock, hlacks⟩
      ((hwritten.segment_rewritten spacing).append_inj hends hwritten.segment hwritten.rest
        (List.append_cancel_left h)).1
  rw [← rewriteAt_true] at h
  rcases List.eq_nil_or_concat x with rfl | ⟨x, c, rfl⟩
  · exact absurd (.inl rfl) (hsilent h)
  · rw [List.concat_eq_append] at h hx ⊢
    have hc : endsValue c = true := hx c (by rw [List.getLast?_concat]; rfl)
    rw [List.append_assoc, List.append_assoc, List.singleton_append] at h
    have hstart := hsilent (rewriteAt_eq_self_of_append hc h)
    rw [not_or, not_not] at hstart
    obtain ⟨hlead, rfl⟩ := hstart
    rw [List.append_nil, List.getLast?_concat]
    rcases endsValue_iff.1 hc with rfl | rfl | rfl
    · exact absurd rfl hlead
    · exact absurd rfl hlead
    · rfl

/-! ## What stays behind a closing brace -/

theorem Decl.IsWritten.colon_mem (hd : d.IsWritten) : ':' ∈ d.text := by
  obtain ⟨v, w, hgap, -, -⟩ := hd.gap
  simp [Decl.text, hgap]

theorem Decl.IsWritten.count_colon (hd : d.IsWritten) (h : LacksBasis d.value) : d.text.count ':' = 1 := by
  obtain ⟨v, w, hgap, hv, hw⟩ := hd.gap
  have hcolon : isBlank ':' = false := by decide
  have hblanks {w : Text} (hw : ∀ c ∈ w, isBlank c = true) : w.count ':' = 0 := by
    rw [List.count_eq_zero]
    intro hmem
    rw [hw _ hmem] at hcolon
    cases hcolon
  have hname : d.name.count ':' = 0 := List.count_eq_zero.2 (hd.name.notMem (by decide) (by decide))
  have hvalue : d.value.count ':' = 0 := List.count_eq_zero.2 (h.notMem hcolon (by decide +kernel) (by decide))
  rw [Decl.text, hgap, List.count_append, List.count_append, List.count_append, List.count_cons, hname, hvalue,
    hblanks hv, hblanks hw]
  rfl

theorem Decl.IsWritten.text_ne_append {e : Decl} (hd : d.IsWritten) (h : LacksBasis d.value) (hb : isBlank b = true)
    (he : e.IsWritten) (p : Text) : d.text ≠ p ++ b :: e.text := by
  intro heq
  obtain ⟨c, t, -, htext, -, hc, hcolon⟩ := he.exists_start .loose
  have hopens : Opens d.text := opens_iff.2 fun hnone => by
    have hfound : decl? (d.text ++ []) = some { d with rest := [] } :=
      decl?_eq_some_iff.2 ⟨{ hd with rest := endsSegment_nil }, rfl⟩
    rw [List.append_nil, hnone] at hfound
    cases hfound
  rw [heq, htext, opens_append_iff hb hc hcolon] at hopens
  obtain ⟨n, w, u, -, -, rfl⟩ := hopens
  have hone := hd.count_colon h
  have hsecond := List.count_pos_iff.2 he.colon_mem
  rw [heq, List.count_append, List.count_append, List.count_append, List.count_cons, List.count_cons,
    if_pos (by decide)] at hone
  omega

/-- Where none may start, a declaration that lacks its basis stays, and nothing becomes one. -/
theorem rewriteFrom_eq_text_iff (spacing : Spacing) (hs : IsSegment s) (hd : d.IsWritten) (h : LacksBasis d.value) :
    rewriteFrom spacing s = d.text ↔ s = d.text := by
  rcases rewriteFrom_segment spacing hs with heq | ⟨p, b, e, hb, he, rfl, heq⟩
  · rw [heq]
  · obtain ⟨e', he', -, -, hwritten, -⟩ := he.exists_settled spacing
    rw [heq, hwritten]
    exact iff_of_false (hd.text_ne_append h hb he' p).symm (hd.text_ne_append h hb he p).symm

/-- What follows the end of a segment comes from what follows it in the text that was rewritten. -/
theorem exists_of_rewriteAt_eq_append {css y : Text} (hc : endsValue c = true)
    (h : rewriteAt spacing lead css = x ++ c :: y) :
    ∃ u v, css = u ++ c :: v ∧ rewriteAt spacing (isLead c) v = y := by
  induction css using segment_induction generalizing lead x with
  | last s hs =>
    have hsegment := isSegment_rewriteAt spacing lead hs
    rw [h, isSegment_append, isSegment_cons, hc] at hsegment
    cases hsegment.2.1
  | more s e r hs he ih =>
    rw [rewriteAt_append_cons spacing lead hs he] at h
    have hfirst := isSegment_ite_rewriteAt (p := e = '{') spacing lead hs
    rcases exists_segment x with hx | ⟨t, k, x, rfl, ht, hk⟩
    · obtain ⟨-, htail⟩ := hfirst.append_inj (endsSegment_cons.2 he) hx (endsSegment_cons.2 hc) h
      obtain ⟨rfl, hrest⟩ := List.cons.inj htail
      exact ⟨s, r, rfl, hrest⟩
    · rw [List.append_assoc, List.cons_append] at h
      obtain ⟨-, htail⟩ := hfirst.append_inj (endsSegment_cons.2 he) ht (endsSegment_cons.2 hk) h
      obtain ⟨u, v, rfl, hrest⟩ := ih (List.cons.inj htail).2
      exact ⟨s ++ e :: u, v, by rw [List.append_assoc, List.cons_append], hrest⟩

theorem exists_rewriteAt_append_cons (spacing : Spacing) (lead : Bool) (x : Text) (hc : endsValue c = true) (y : Text) :
    ∃ u, rewriteAt spacing lead (x ++ c :: y) = u ++ c :: rewriteAt spacing (isLead c) y := by
  obtain ⟨u, hu, -⟩ := exists_rewriteAt_append spacing lead x (endsSegment_cons.2 hc) (endsSegment_cons.2 hc)
    (Iff.refl ((c :: y).head? = some '{'))
  exact ⟨u, by rw [hu, rewriteFrom_cons]⟩

theorem standsIn_behind_brace (hd : d.IsWritten) (hblock : d.rest.head? ≠ some '{') (x : Text) :
    d.StandsIn (x ++ ['}']) (x ++ '}' :: (d.text ++ d.rest)) where
  written := hd
  text := by rw [List.append_assoc, List.singleton_append]
  start := ⟨x ++ ['}'], [], (List.append_nil _).symm, by
    intro c hc
    rw [List.getLast?_concat] at hc
    obtain rfl := Option.some.inj hc
    rfl, fun c hc => nomatch hc⟩
  declares := hblock

/-- A declaration that still lacks its basis stood in the text before, close behind a closing brace. -/
theorem exists_standsIn_of_rewrite {spacing : Spacing} {css before : Text} {d : Decl}
    (hd : Decl.StandsIn d before (rewrite spacing css)) (hlacks : LacksBasis d.value) :
    ∃ before' d', Decl.StandsIn d' before' css ∧ LacksBasis d'.value ∧ before'.getLast? = some '}' := by
  have hclose : endsValue '}' = true := rfl
  have hstart : isLead '}' = false := by decide
  -- nothing changes when the text is rewritten again, so the declaration stands where none is looked for
  obtain ⟨x, rfl⟩ := List.getLast?_eq_some_iff.1
    (rewrite_eq_self_left (rewriteAt_rewriteAt spacing spacing true css) hd hlacks)
  obtain ⟨hwritten, htext, -, hblock⟩ := hd
  rw [List.append_assoc, List.singleton_append, ← rewriteAt_true] at htext
  obtain ⟨u, v, rfl, hv⟩ := exists_of_rewriteAt_eq_append hclose htext.symm
  rw [hstart] at hv
  obtain ⟨s, r, rfl, hs, hr⟩ : ∃ s r, v = s ++ r ∧ IsSegment s ∧ EndsSegment r := by
    rcases exists_segment v with hs | ⟨s, c, r, rfl, hs, hc⟩
    · exact ⟨v, [], (List.append_nil v).symm, hs, endsSegment_nil⟩
    · exact ⟨s, c :: r, rfl, hs, endsSegment_cons.2 hc⟩
  rw [rewriteAt_append spacing false hs hr] at hv
  have hfirst := isSegment_ite_rewriteAt (p := r.head? = some '{') spacing false hs
  have hends := (endsSegment_rewriteFrom spacing).2 hr
  obtain ⟨hsame, hrest⟩ := hfirst.append_inj hends hwritten.segment hwritten.rest hv
  have hblock' : r.head? ≠ some '{' := by rwa [← head?_rewriteFrom spacing, hrest]
  rw [if_neg hblock'] at hsame
  obtain rfl := (rewriteFrom_eq_text_iff spacing hs hwritten hlacks).1 hsame
  have hd' : Decl.IsWritten { d with rest := r } := { hwritten with rest := hr }
  exact ⟨_, _, standsIn_behind_brace hd' hblock' u, hlacks, List.getLast?_concat⟩

theorem exists_standsIn_rewrite (spacing : Spacing) {css before : Text} {d : Decl} (hd : Decl.StandsIn d before css)
    (hlacks : LacksBasis d.value) (hbrace : before.getLast? = some '}') :
    ∃ before' d', Decl.StandsIn d' before' (rewrite spacing css) ∧ LacksBasis d'.value := by
  have hclose : endsValue '}' = true := rfl
  have hstart : isLead '}' = false := by decide
  obtain ⟨hwritten, rfl, -, hblock⟩ := hd
  obtain ⟨x, rfl⟩ := List.getLast?_eq_some_iff.1 hbrace
  obtain ⟨u, hu⟩ := exists_rewriteAt_append_cons spacing true x hclose (d.text ++ d.rest)
  have hsame : rewriteAt spacing false d.text = d.text :=
    (rewriteFrom_eq_text_iff spacing hwritten.segment hwritten hlacks).2 rfl
  rw [List.append_assoc, List.singleton_append, ← rewriteAt_true, hu, hstart,
    rewriteAt_append spacing false hwritten.segment hwritten.rest, if_neg hblock, hsame]
  have hends := (endsSegment_rewriteFrom spacing).2 hwritten.rest
  have hd' : Decl.IsWritten { d with rest := rewriteFrom spacing d.rest } := { hwritten with rest := hends }
  exact ⟨_, _, standsIn_behind_brace hd' (by rwa [head?_rewriteFrom]) u, hlacks⟩

/-- **What is left**: a declaration lacks its basis after rewriting if and only if one that lacks it stood close behind
a closing brace before. -/
theorem left_rewrite_iff (spacing : Spacing) (css : Text) :
    (∃ before d, Decl.StandsIn d before (rewrite spacing css) ∧ LacksBasis d.value) ↔
      ∃ before d, Decl.StandsIn d before css ∧ LacksBasis d.value ∧ before.getLast? = some '}' := by
  constructor
  · rintro ⟨before, d, hd, hlacks⟩
    exact exists_standsIn_of_rewrite hd hlacks
  · rintro ⟨before, d, hd, hlacks, hbrace⟩
    exact exists_standsIn_rewrite spacing hd hlacks hbrace

/-- What rewriting makes of a text. -/
structure Settles (css out : Text) : Prop where
  unchanged : ∀ spacing, rewrite spacing out = out
  /-- A declaration lacks its basis only where one did close behind a closing brace. -/
  left : (∃ before d, Decl.StandsIn d before out ∧ LacksBasis d.value) ↔
    ∃ before d, Decl.StandsIn d before css ∧ LacksBasis d.value ∧ before.getLast? = some '}'

theorem settles_rewrite (g : Spacing) (css : Text) : Settles css (rewrite g css) where
  unchanged f := rewriteAt_rewriteAt f g true css
  left := left_rewrite_iff g css

end StylePrune.FlexBasis
