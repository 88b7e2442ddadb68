import StylePrune.Proofs.FlexBasis.Settled
import StylePrune.Proofs.Outline.Closure
import StylePrune.Proofs.Outline.Modes

/-!
Quoted strings of a stylesheet that is rewritten.

Nothing tells a declaration from a part of a string that reads like one. What is rewritten has no character that opens
or ends anything (`Decl.Gains.inert`), so outside strings and in comments it leaves the strings as they are, and in a
string it changes that string. So the strings stay if and only if no declaration that gains a basis is found in one
(`strings_rewrite_eq_iff`).
-/
namespace StylePrune.FlexBasis

open Outline (Mode isInert literals strings InString)
open Text (isBlank isDecimal)

variable {spacing : Spacing} {lead : Bool} {s before : Text} {d e : Decl} {c : Char} {m : Mode}

/-! ## What is found -/

/-- A declaration that is found in a text, behind a part of it, if one may start at the start of the text or may not.
Where one is found, none is looked for inside it. -/
inductive Finds : Bool → Text → Text → Decl → Prop where
  | here {s : Text} {d : Decl} : decl? s = some d → Finds true s [] d
  | behind {s before : Text} {d e : Decl} : decl? s = some d → Finds false d.rest before e →
      Finds true s (d.text ++ before) e
  | later {lead : Bool} {c : Char} {s before : Text} {e : Decl} : (lead = true → decl? (c :: s) = none) →
      Finds (isLead c) s before e → Finds lead (c :: s) (c :: before) e

theorem Finds.written (h : Finds lead s before d) : d.IsWritten ∧ before ++ (d.text ++ d.rest) = s := by
  induction h with
  | here hfound => exact decl?_eq_some_iff.1 hfound
  | behind hfound _ ih => exact ⟨ih.1, by rw [List.append_assoc, ih.2, decl?_append hfound]⟩
  | later _ _ ih => exact ⟨ih.1, by rw [List.cons_append, ih.2]⟩

theorem not_finds_nil (h : Finds lead [] before d) : False := by
  have hnil : decl? [] = none := by decide
  cases h with
  | here hfound => cases hnil.symm.trans hfound
  | behind hfound => cases hnil.symm.trans hfound

theorem finds_of_some (h : decl? s = some d) :
    Finds true s before e ↔ before = [] ∧ e = d ∨ ∃ b, before = d.text ++ b ∧ Finds false d.rest b e := by
  constructor
  · intro hfinds
    cases hfinds with
    | here hfound => exact .inl ⟨rfl, Option.some.inj (hfound.symm.trans h)⟩
    | behind hfound hrest =>
      obtain rfl := Option.some.inj (hfound.symm.trans h)
      exact .inr ⟨_, rfl, hrest⟩
    | later hnone => cases (hnone rfl).symm.trans h
  · rintro (⟨rfl, rfl⟩ | ⟨b, rfl, hrest⟩)
    · exact .here h
    · exact .behind h hrest

theorem finds_of_none (h : lead = true → decl? (c :: s) = none) :
    Finds lead (c :: s) before e ↔ ∃ b, before = c :: b ∧ Finds (isLead c) s b e := by
  constructor
  · intro hfinds
    cases hfinds with
    | here hfound => cases (h rfl).symm.trans hfound
    | behind hfound => cases (h rfl).symm.trans hfound
    | later _ hrest => exact ⟨_, rfl, hrest⟩
  · rintro ⟨b, rfl, hrest⟩
    exact .later h hrest

/-- Induction along the search for declarations. -/
@[elab_as_elim]
theorem search_induction {motive : Bool → Text → Prop} (nil : ∀ lead, motive lead [])
    (found : ∀ s d, decl? s = some d → motive false d.rest → motive true s)
    (pass : ∀ lead c s, (lead = true → decl? (c :: s) = none) → motive (isLead c) s → motive lead (c :: s))
    (lead : Bool) (s : Text) : motive lead s := by
  induction hn : s.length using Nat.strong_induction_on generalizing lead s with
  | _ n ih =>
    rcases found_or lead s with ⟨rfl, d, hd⟩ | hnone
    · refine found s d hd (ih d.rest.length ?_ false d.rest rfl)
      -- a declaration has a name, so less is left behind it
      have hlen := congrArg List.length (decl?_append hd)
      have hname := List.length_pos_iff.2 (decl?_eq_some_iff.1 hd).1.name.ne_nil
      simp only [Decl.text, List.length_append] at hlen
      omega
    · cases s with
      | nil => exact nil lead
      | cons c s =>
        refine pass lead c s hnone (ih s.length ?_ (isLead c) s rfl)
        rw [List.length_cons] at hn
        omega

/-! ## Characters of declarations -/

theorem isInert_iff : isInert c = true ↔ c ∉ "\"'\\/*".toList := by
  simp [isInert, and_assoc]

/-- None of the characters that mean something to strings and comments is a letter, white space or a digit. -/
theorem special_plain : ∀ k ∈ "\"'\\/*".toList, Text.fold k = k ∧ k ∉ "-mswebkitflx".toList ∧ isBlank k = false ∧
    isLead k = false ∧ isDecimal k = false ∧ Text.lowerAsciiChar k = k ∧ k ∉ " .%:!important".toList :=
  Text.forall_mem_of_all (by decide +kernel)

theorem isInert_of_isLead (h : isLead c = true) : isInert c = true := by
  rw [isInert_iff]
  intro hc
  rw [(special_plain c hc).2.2.2.1] at h
  cases h

theorem isInert_of_isBlank (h : isBlank c = true) : isInert c = true :=
  isInert_of_isLead (by rw [isLead, h, Bool.or_true])

theorem IsName.inert {n : Text} (h : IsName n) : ∀ c ∈ n, isInert c = true := by
  intro c hc
  rw [isInert_iff]
  intro hspecial
  exact h.notMem (special_plain c hspecial).1 (special_plain c hspecial).2.1 hc

theorem IsExplicit.inert {v : Text} (h : IsExplicit v) : ∀ c ∈ v, isInert c = true := by
  intro c hc
  rw [isInert_iff]
  intro hspecial
  obtain ⟨-, -, -, -, hdecimal, hlower, hplain⟩ := special_plain c hspecial
  refine h.notMem ⟨fun hmem => hplain ?_, hdecimal⟩ hlower hc
  have hsub : ∀ k ∈ " .%!important".toList, k ∈ " .%:!important".toList := Text.forall_mem_of_all (by decide)
  exact hsub c hmem

theorem LacksBasis.inert {v : Text} (h : LacksBasis v) : ∀ c ∈ v, isInert c = true := by
  intro c hc
  rw [isInert_iff]
  intro hspecial
  obtain ⟨-, -, hblank, -, hdecimal, hlower, hplain⟩ := special_plain c hspecial
  refine h.notMem hblank ⟨fun hpoint => hplain ?_, hdecimal⟩ (fun hpr => hplain ?_) hc
  · rw [hpoint]
    decide
  · rw [hlower] at hpr
    exact List.mem_append_right " .%:".toList hpr

/-- Nothing in a declaration that gains a basis opens or ends anything, and nothing in what is written for it, which
is one line. -/
theorem Decl.Gains.inert (spacing : Spacing) (hd : d.IsWritten) (h : d.Gains) :
    (∀ c ∈ d.text, isInert c = true) ∧ (∀ c ∈ d.rewritten spacing, isInert c = true) ∧ '\n' ∉ d.rewritten spacing := by
  have hcolon : isInert ':' = true := by decide
  refine ⟨?_, ?_, ?_⟩
  · obtain ⟨v, w, hgap, hv, hw⟩ := hd.gap
    intro c hc
    rw [Decl.text, hgap, List.mem_append, List.mem_append, List.mem_append, List.mem_cons] at hc
    rcases hc with (hc | hc | rfl | hc) | hc
    · exact hd.name.inert c hc
    · exact isInert_of_isBlank (hv c hc)
    · exact hcolon
    · exact isInert_of_isBlank (hw c hc)
    · exact h.2.inert c hc
  · obtain ⟨w, v, hw, hv, heq⟩ := h.exists_rewritten spacing
    intro c hc
    rw [heq, Decl.text, List.mem_append, List.mem_append, List.mem_cons] at hc
    rcases hc with (hc | rfl | hc) | hc
    · exact hd.name.inert c hc
    · exact hcolon
    · rw [hw c hc]
      decide
    · exact hv.inert c hc
  · obtain ⟨w, v, hw, hv, heq⟩ := h.exists_rewritten spacing
    rw [heq, Decl.text, List.mem_append, List.mem_append, List.mem_cons, not_or, not_or, not_or]
    refine ⟨⟨hd.name.notMem (by decide) (by decide), by decide, fun hc => ?_⟩, hv.notMem (by decide +kernel) (by decide)⟩
    exact absurd (hw '\n' hc) (by decide)

/-! ## The strings of what is rewritten -/

theorem literals_string_ne (spacing : Spacing) (hd : d.IsWritten) (h : d.Gains) (q : Outline.Quote) (t : Text) :
    literals ((Mode.string q t).resume (d.rewritten spacing ++ rewriteFrom spacing d.rest)) ≠
      literals ((Mode.string q t).resume (d.text ++ d.rest)) := by
  obtain ⟨hinert, hinert', hline⟩ := h.inert spacing hd
  have hends {r : Text} (hr : EndsSegment r) : EndsSegment (Outline.cutString q.1 r).1 := by
    rw [EndsSegment, Outline.head?_cutString]
    exact hr
  have hrest := (endsSegment_rewriteFrom spacing).2 hd.rest
  obtain ⟨p, r, hread, hr, hp, hpart⟩ : ∃ p r, (Outline.cutString q.1 (d.text ++ d.rest)).1 = p ++ r ∧
      EndsSegment r ∧ IsSegment p ∧ (p = d.text ∨ '\n' ∈ p) := by
    by_cases hmem : '\n' ∈ d.text
    · obtain ⟨a, b, htext, ha⟩ := List.eq_append_cons_of_mem hmem
      have hsegment := hd.segment
      rw [htext, isSegment_append, isSegment_cons] at hsegment
      rw [htext, List.forall_mem_append] at hinert
      refine ⟨a ++ ['\n'], [], ?_, endsSegment_nil, by simp [hsegment.1, hsegment.2.1], .inr (by simp)⟩
      rw [htext, List.append_assoc, List.cons_append, Outline.cutString_inert q hinert.1 ha,
        Outline.cutString_end (.inr rfl) (by decide), List.append_nil]
    · exact ⟨d.text, _, by rw [Outline.cutString_inert q hinert hmem], hends hd.rest, hd.segment, .inl rfl⟩
  intro heq
  rw [Mode.resume, Mode.resume, Outline.literals_stringFrom, Outline.literals_stringFrom] at heq
  have hsame := List.append_cancel_left (List.cons.inj (List.cons.inj heq).1).2
  rw [Outline.cutString_inert q hinert' hline, hread] at hsame
  obtain ⟨rfl, -⟩ := (hd.segment_rewritten spacing).append_inj (hends hrest) hp hr hsame
  exact hpart.elim (h.rewritten_ne spacing hd) hline

/-- No declaration that is found in a text and gains a basis starts in a string, if the text is read in a mode. -/
def OutsideStrings (m : Mode) (lead : Bool) (s : Text) : Prop :=
  ∀ before d, Finds lead s before d → d.Gains → ¬ ∃ q t, m.after before = .string q t

theorem outsideStrings_of_some (h : decl? s = some d) :
    OutsideStrings m true s ↔
      (d.Gains → ¬ ∃ q t, m = .string q t) ∧ OutsideStrings (m.after d.text) false d.rest := by
  constructor
  · intro hall
    refine ⟨hall [] d (.here h), fun before e hfinds => ?_⟩
    have := hall (d.text ++ before) e (.behind h hfinds)
    rwa [Mode.after_append] at this
  · rintro ⟨hfirst, hrest⟩ before e hfinds
    rcases (finds_of_some h).1 hfinds with ⟨rfl, rfl⟩ | ⟨b, rfl, hbehind⟩
    · exact hfirst
    · rw [Mode.after_append]
      exact hrest b e hbehind

theorem outsideStrings_of_none (h : lead = true → decl? (c :: s) = none) :
    OutsideStrings m lead (c :: s) ↔ OutsideStrings (m.next c) (isLead c) s := by
  constructor
  · exact fun hall before e hfinds => hall (c :: before) e (.later h hfinds)
  · intro hall before e hfinds
    obtain ⟨b, rfl, hlater⟩ := (finds_of_none h).1 hfinds
    exact hall b e hlater

/-- When the strings stay that are read in a mode: if and only if no declaration that gains a basis starts in
one. -/
theorem literals_rewriteAt_iff (spacing : Spacing) (lead : Bool) (s : Text) (m : Mode) (hm : lead = true → m.Rests) :
    literals (m.resume (rewriteAt spacing lead s)) = literals (m.resume s) ↔ OutsideStrings m lead s := by
  -- the induction is on the search, and what is invariant is that the mode rests wherever a declaration may start
  induction lead, s using search_induction generalizing m with
  | nil lead =>
    rw [rewriteAt_nil]
    exact ⟨fun _ _ _ hfinds => (not_finds_nil hfinds).elim, fun _ => rfl⟩
  | found s d hd ih =>
    obtain ⟨hwritten, hs⟩ := decl?_eq_some_iff.1 hd
    rw [outsideStrings_of_some hd, rewriteAt_some spacing hd, ← hs]
    by_cases hgains : d.Gains
    · obtain ⟨hinert, hinert', -⟩ := hgains.inert spacing hwritten
      cases hm rfl with
      | between =>
        rw [Mode.after_between hinert, ← ih .between fun h => nomatch h]
        simp only [Mode.resume, Outline.lexemes_inert hinert, Outline.lexemes_inert hinert', Outline.literals_append,
          Outline.literals_plain, List.nil_append, reduceCtorEq, exists_false, not_false_eq_true, imp_true_iff,
          true_and]
        rfl
      | comment t =>
        rw [Mode.after_comment hinert, ← ih (.comment (t ++ d.text)) fun h => nomatch h]
        simp only [Mode.resume, Outline.commentFrom_inert hinert, Outline.commentFrom_inert hinert',
          Outline.literals_commentFrom, reduceCtorEq, exists_false, not_false_eq_true, imp_true_iff, true_and]
        rfl
      | string q t =>
        refine iff_of_false (literals_string_ne spacing hwritten hgains q t) fun hall => ?_
        exact hall.1 hgains ⟨q, t, rfl⟩
    · obtain ⟨ls, hls⟩ := m.exists_resume_append d.text
      rw [Decl.rewritten_of_not_gains spacing hgains, hls, hls, Outline.literals_append, Outline.literals_append,
        List.append_cancel_left_eq, ← ih (m.after d.text) fun h => nomatch h]
      exact ⟨fun h => ⟨fun h' => absurd h' hgains, h⟩, And.right⟩
  | pass lead c s hnone ih =>
    obtain ⟨ls, hls⟩ := m.exists_resume_cons c
    rw [rewriteAt_none spacing hnone, rewriteFrom_cons, hls, hls, Outline.literals_append, Outline.literals_append,
      List.append_cancel_left_eq, outsideStrings_of_none hnone]
    exact ih (m.next c) fun h => m.rests_next (isInert_of_isLead h)

/-- Where a declaration is found, the mode is at rest. -/
theorem Finds.rests_after (h : Finds lead s before d) (hm : lead = true → m.Rests) : (m.after before).Rests := by
  induction h generalizing m with
  | here => exact hm rfl
  | behind hfound _ ih =>
    rw [Mode.after_append]
    exact ih fun h => nomatch h
  | later hnone _ ih => exact ih fun h => m.rests_next (isInert_of_isLead h)

/-- **Which strings stay**: the quoted strings of a stylesheet are the same after rewriting if and only if no declaration
that gains a basis is found in one of them. -/
theorem strings_rewrite_eq_iff (spacing : Spacing) (css : Text) :
    strings (rewrite spacing css) = strings css ↔
      ∀ before d, Finds true css before d → d.Gains → ¬ InString css before := by
  have hmodes := literals_rewriteAt_iff spacing true css .between fun _ => .between
  have hplace {before : Text} {d : Decl} (h : Finds true css before d) :
      InString css before ↔ ∃ q t, Mode.between.after before = .string q t := by
    obtain ⟨hd, hcss⟩ := h.written
    have hne : d.text ++ d.rest ≠ [] := by simp [Decl.text, hd.name.ne_nil]
    rw [← hcss]
    exact Outline.inString_iff (h.rests_after fun _ => .between) hne
  refine hmodes.trans ?_
  constructor
  · exact fun hall before d h hgains hin => hall before d h hgains ((hplace h).1 hin)
  · exact fun hall before d h hgains hin => hall before d h hgains ((hplace h).2 hin)

/-- A stylesheet with a string that reads like a declaration. -/
def flexInString : Text := ".a\x7bcontent:\"; flex:1;\"\x7d".toList

theorem closed_flexInString : Outline.Closed flexInString := by
  have hbody : Outline.StringBody '"' "; flex:1;".toList :=
    Outline.stringBody_inert ⟨'"', .inl rfl⟩ (List.all_eq_true.1 rfl) (by decide)
  have hstring : Outline.Contents .block ('"' :: ("; flex:1;".toList ++ '"' :: [])) := .string (.inl rfl) hbody .nil
  have hblock : Outline.Contents .block "content:\"; flex:1;\"".toList :=
    Outline.Contents.prepend (s := "content:".toList) rfl hstring
  let i : Outline.Item :=
    ⟨".a".toList, some "content:\"; flex:1;\"".toList, .plain rfl, by simpa using hblock, by simp; decide⟩
  exact ⟨[.item i], by simp, rfl⟩

/-- **A string can change**, in a stylesheet with nothing left open. -/
theorem strings_rewrite_flexInString :
    Outline.Closed flexInString ∧ ∀ spacing, strings (rewrite spacing flexInString) ≠ strings flexInString := by
  refine ⟨closed_flexInString, fun spacing => ?_⟩
  cases spacing <;> decide +kernel

end StylePrune.FlexBasis
