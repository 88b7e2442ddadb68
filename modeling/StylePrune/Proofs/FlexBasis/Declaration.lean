import StylePrune.FlexBasis
import StylePrune.Proofs.Text.Basic
import StylePrune.Proofs.Text.Folding

/-!
How a flex declaration is written.

A name is one of three words in any letter case (`name?_eq_some_iff`). What is found at the start of a text is a name, a
colon with white space around it, and a value up to the next semicolon or brace, and such a start is always found
(`decl?_eq_some_iff`). A segment is a text without semicolons and braces: a declaration at the start of a segment runs to
its end, whatever follows the segment (`decl?_segment_append`). Whether one starts there is decided before the colon
(`opens_append_iff`).
-/
namespace StylePrune.FlexBasis

open Text (isBlank fold)

variable {s t n r v : Text} {d : Decl} {b c : Char}

/-! ## Names -/

def names : List Text := ["-ms-flex".toList, "-webkit-flex".toList, "flex".toList]

def IsName (n : Text) : Prop := n.map fold ∈ names

theorem marked?_eq_some_iff {mark : Text} :
    marked? mark s = some (n, r) ↔ n.map fold = mark ++ "flex".toList ∧ n ++ r = s := by
  constructor
  · intro h
    rw [marked?] at h
    split at h
    · next m u hm =>
      obtain ⟨⟨w, q⟩, hw, heq⟩ := Option.map_eq_some_iff.1 h
      obtain ⟨rfl, rfl⟩ := Prod.mk.inj heq
      obtain ⟨hmark, rfl⟩ := Text.dropFolded?_eq_some_iff.1 hm
      obtain ⟨hflex, rfl⟩ := Text.dropFolded?_eq_some_iff.1 hw
      exact ⟨by rw [List.map_append, hmark, hflex], List.append_assoc _ _ _⟩
    · cases h
  · rintro ⟨hfold, rfl⟩
    obtain ⟨m, w, rfl, hmark, hflex⟩ := List.map_eq_append_iff.1 hfold
    rw [marked?, List.append_assoc, Text.dropFolded?_eq_some_iff.2 ⟨hmark, rfl⟩]
    simp only [Text.dropFolded?_eq_some_iff.2 ⟨hflex, rfl⟩, Option.map_some]

theorem marked?_eq_none {mark : Text} (h : ∀ u, mark ++ u ≠ s.map fold) : marked? mark s = none := by
  rw [Option.eq_none_iff_forall_ne_some]
  rintro ⟨n, r⟩ hn
  obtain ⟨hfold, rfl⟩ := marked?_eq_some_iff.1 hn
  refine h ("flex".toList ++ r.map fold) ?_
  rw [List.map_append, hfold, List.append_assoc]

theorem name?_eq_some_iff : name? s = some (n, r) ↔ IsName n ∧ n ++ r = s := by
  constructor
  · intro h
    rw [name?] at h
    split at h
    · next hm =>
      obtain ⟨hfold, hs⟩ := marked?_eq_some_iff.1 (hm.trans h)
      exact ⟨by rw [IsName, hfold]; exact List.mem_cons_self, hs⟩
    · split at h
      · next hm =>
        obtain ⟨hfold, hs⟩ := marked?_eq_some_iff.1 (hm.trans h)
        exact ⟨by rw [IsName, hfold]; exact List.mem_cons_of_mem _ List.mem_cons_self, hs⟩
      · obtain ⟨hfold, hs⟩ := Text.dropFolded?_eq_some_iff.1 h
        exact ⟨by rw [IsName, hfold]; exact List.mem_cons_of_mem _ (List.mem_cons_of_mem _ List.mem_cons_self), hs⟩
  · rintro ⟨hname, rfl⟩
    rw [IsName, names, List.mem_cons, List.mem_cons, List.mem_singleton] at hname
    rw [name?]
    rcases hname with hfold | hfold | hfold
    · rw [marked?_eq_some_iff.2 ⟨hfold, rfl⟩]
    · rw [marked?_eq_none fun u => by simp [List.map_append, hfold], marked?_eq_some_iff.2 ⟨hfold, rfl⟩]
    · rw [marked?_eq_none fun u => by simp [List.map_append, hfold],
        marked?_eq_none fun u => by simp [List.map_append, hfold]]
      exact Text.dropFolded?_eq_some_iff.2 ⟨hfold, rfl⟩

theorem IsName.fold_mem (h : IsName n) (hc : c ∈ n) : fold c ∈ "-mswebkitflx".toList := by
  have hall : ∀ w ∈ names, w.all (fun k => decide (k ∈ "-mswebkitflx".toList)) = true := by decide
  exact Text.forall_mem_of_all (hall _ h) _ (List.mem_map_of_mem hc)

theorem IsName.notMem (h : IsName n) (hfold : fold c = c) (hc : c ∉ "-mswebkitflx".toList) : c ∉ n := by
  intro hmem
  have := h.fold_mem hmem
  rw [hfold] at this
  exact hc this

theorem IsName.ne_nil (h : IsName n) : n ≠ [] := by
  rintro rfl
  exact absurd h (by rw [IsName]; decide)

theorem IsName.isBlank (h : IsName n) (hc : c ∈ n) : isBlank c = false := by
  rw [Bool.eq_false_iff]
  intro hblank
  have hletter : ∀ k ∈ "-mswebkitflx".toList, Text.isBlank k = false := Text.forall_mem_of_all (by decide)
  have := hletter _ (h.fold_mem hc)
  rw [Text.fold_of_isBlank hblank, hblank] at this
  cases this

/-! ## Segments -/

/-- A text without semicolons and braces. -/
def IsSegment (s : Text) : Prop := ∀ c ∈ s, endsValue c = false

/-- A text that is at its end, or starts where a segment ends. -/
def EndsSegment (r : Text) : Prop := ∀ c ∈ r.head?, endsValue c = true

theorem endsValue_iff : endsValue c = true ↔ c = ';' ∨ c = '{' ∨ c = '}' := by
  simp [endsValue, or_assoc]

theorem isBlank_of_endsValue (h : endsValue c = true) : isBlank c = false := by
  rcases endsValue_iff.1 h with rfl | rfl | rfl <;> decide

theorem endsValue_of_isBlank (h : isBlank c = true) : endsValue c = false := by
  rw [Bool.eq_false_iff]
  intro hc
  rw [isBlank_of_endsValue hc] at h
  cases h

@[simp] theorem isSegment_nil : IsSegment [] := fun _ h => nomatch h

@[simp] theorem isSegment_cons : IsSegment (c :: s) ↔ endsValue c = false ∧ IsSegment s := List.forall_mem_cons

@[simp] theorem isSegment_append : IsSegment (s ++ t) ↔ IsSegment s ∧ IsSegment t := List.forall_mem_append

@[simp] theorem endsSegment_nil : EndsSegment [] := fun _ h => nomatch h

@[simp] theorem endsSegment_cons : EndsSegment (c :: r) ↔ endsValue c = true := by simp [EndsSegment]

theorem IsSegment.of_blanks (h : ∀ c ∈ s, isBlank c = true) : IsSegment s := fun c hc => endsValue_of_isBlank (h c hc)

theorem IsSegment.takeWhile (hs : IsSegment s) (hr : EndsSegment r) :
    (s ++ r).takeWhile (fun c => !endsValue c) = s ∧ (s ++ r).dropWhile (fun c => !endsValue c) = r :=
  Text.takeWhile_run (fun c hc => by rw [hs c hc]; rfl) fun c hc => by rw [hr c hc]; rfl

theorem IsSegment.append_inj {r' : Text} (hs : IsSegment s) (hr : EndsSegment r) (ht : IsSegment t)
    (hr' : EndsSegment r') (h : s ++ r = t ++ r') : s = t ∧ r = r' := by
  obtain ⟨htake, hdrop⟩ := hs.takeWhile hr
  obtain ⟨htake', hdrop'⟩ := ht.takeWhile hr'
  rw [h] at htake hdrop
  exact ⟨htake.symm.trans htake', hdrop.symm.trans hdrop'⟩

/-- A text is a segment, or a segment in front of the character that ends it. -/
theorem exists_segment (s : Text) : IsSegment s ∨ ∃ t c r, s = t ++ c :: r ∧ IsSegment t ∧ endsValue c = true := by
  have hs := (List.takeWhile_append_dropWhile (p := fun c => !endsValue c) (l := s)).symm
  have hseg : IsSegment (s.takeWhile fun c => !endsValue c) := by
    intro c hc
    simpa using List.mem_takeWhile_imp hc
  cases hdrop : s.dropWhile fun c => !endsValue c with
  | nil =>
    rw [hdrop, List.append_nil] at hs
    rw [hs]
    exact .inl hseg
  | cons c r =>
    have hend := List.head?_dropWhile_not (fun c => !endsValue c) s
    rw [hdrop] at hend hs
    exact .inr ⟨_, c, r, hs, hseg, by simpa using hend⟩

@[elab_as_elim]
theorem segment_induction {motive : Text → Prop} (last : ∀ s, IsSegment s → motive s)
    (more : ∀ s c r, IsSegment s → endsValue c = true → motive r → motive (s ++ c :: r)) (s : Text) : motive s := by
  induction hn : s.length using Nat.strong_induction_on generalizing s with
  | _ n ih =>
    rcases exists_segment s with hs | ⟨t, c, r, rfl, ht, hc⟩
    · exact last s hs
    · refine more t c r ht hc (ih r.length ?_ r rfl)
      rw [List.length_append, List.length_cons] at hn
      omega

/-! ## Declarations -/

/-- What is found as a declaration: a name, a colon with white space around it, and a value up to where it ends. -/
structure Decl.IsWritten (d : Decl) : Prop where
  name : IsName d.name
  gap : ∃ v w, d.gap = v ++ ':' :: w ∧ (∀ c ∈ v, isBlank c = true) ∧ ∀ c ∈ w, isBlank c = true
  value : IsSegment d.value
  /-- White space in front of the value belongs to the gap. -/
  start : ∀ c ∈ d.value.head?, isBlank c = false
  rest : EndsSegment d.rest

theorem isBlank_head?_value {t : Text} {c : Char}
    (h : c ∈ ((t.dropWhile isBlank).takeWhile fun c => !endsValue c).head?) : isBlank c = false := by
  have hstart := List.head?_dropWhile_not isBlank t
  cases hv : t.dropWhile isBlank with
  | nil =>
    rw [hv] at h
    cases h
  | cons e u =>
    rw [hv] at h hstart
    rw [List.takeWhile_cons] at h
    split at h
    · obtain rfl := Option.some.inj h
      exact hstart
    · cases h

theorem isWritten_of_decl? (h : decl? s = some d) : d.IsWritten := by
  rw [decl?] at h
  split at h
  · cases h
  next n r hn =>
  split at h
  · next t ht =>
    obtain rfl := Option.some.inj h
    refine ⟨(name?_eq_some_iff.1 hn).1, ⟨_, _, rfl, ?_, ?_⟩, ?_, fun c hc => isBlank_head?_value hc, ?_⟩
    · exact fun c hc => List.mem_takeWhile_imp hc
    · exact fun c hc => List.mem_takeWhile_imp hc
    · exact fun c hc => by simpa using List.mem_takeWhile_imp hc
    · intro c hc
      have hend := List.head?_dropWhile_not (fun c => !endsValue c) (t.dropWhile isBlank)
      rw [hc] at hend
      simpa using hend
  · cases h

theorem Decl.IsWritten.decl?_text (h : d.IsWritten) : decl? (d.text ++ d.rest) = some d := by
  obtain ⟨hname, ⟨v, w, hgap, hv, hw⟩, hvalue, hstart, hrest⟩ := h
  obtain ⟨name, gap, value, rest⟩ := d
  dsimp only at hname hgap hvalue hstart hrest
  subst hgap
  have hname' : name? (name ++ (v ++ ':' :: (w ++ (value ++ rest)))) =
      some (name, v ++ ':' :: (w ++ (value ++ rest))) := name?_eq_some_iff.2 ⟨hname, rfl⟩
  have hhead : ∀ c ∈ (value ++ rest).head?, isBlank c = false := by
    intro c hc
    cases value with
    | nil => exact isBlank_of_endsValue (hrest c hc)
    | cons e u => exact hstart c hc
  have hgap := Text.takeWhile_run hw hhead
  obtain ⟨htake, hdrop⟩ := hvalue.takeWhile hrest
  have hcolon : isBlank ':' = false := by decide
  have htext : (Decl.mk name (v ++ ':' :: w) value rest).text ++ rest =
      name ++ (v ++ ':' :: (w ++ (value ++ rest))) := by
    simp [Decl.text]
  rw [decl?, htext, hname']
  simp only [List.dropWhile_append_of_pos hv, List.takeWhile_append_of_pos hv, List.dropWhile_cons, hcolon,
    List.takeWhile_cons, hgap, htake, hdrop, Bool.false_eq_true, if_false, List.append_nil]

theorem decl?_eq_some_iff : decl? s = some d ↔ d.IsWritten ∧ d.text ++ d.rest = s := by
  constructor
  · exact fun h => ⟨isWritten_of_decl? h, decl?_append h⟩
  · rintro ⟨hwritten, rfl⟩
    exact hwritten.decl?_text

theorem Decl.IsWritten.segment (h : d.IsWritten) : IsSegment d.text := by
  obtain ⟨v, w, hgap, hv, hw⟩ := h.gap
  rw [Decl.text, hgap]
  have hname : IsSegment d.name := by
    intro c hc
    rw [Bool.eq_false_iff]
    intro hend
    rcases endsValue_iff.1 hend with rfl | rfl | rfl <;> exact h.name.notMem (by decide) (by decide) hc
  simp [hname, IsSegment.of_blanks hv, IsSegment.of_blanks hw, h.value, endsValue]

/-- A declaration runs to the end of its segment, whatever follows the segment. -/
theorem decl?_segment_append (hs : IsSegment s) (hr : EndsSegment r) :
    decl? (s ++ r) = (decl? s).map fun d => { d with rest := r } := by
  cases h : decl? s with
  | some d =>
    obtain ⟨hd, heq⟩ := decl?_eq_some_iff.1 h
    obtain ⟨htext, -⟩ := hd.segment.append_inj hd.rest hs endsSegment_nil (heq.trans (List.append_nil s).symm)
    exact decl?_eq_some_iff.2 ⟨{ hd with rest := hr }, congrArg (· ++ r) htext⟩
  | none =>
    rw [Option.map_none, Option.eq_none_iff_forall_ne_some]
    intro d hfound
    obtain ⟨hd, heq⟩ := decl?_eq_some_iff.1 hfound
    obtain ⟨htext, -⟩ := hd.segment.append_inj hd.rest hs hr heq
    have hself : decl? s = some { d with rest := [] } :=
      decl?_eq_some_iff.2 ⟨{ hd with rest := endsSegment_nil }, (List.append_nil _).trans htext⟩
    rw [h] at hself
    cases hself

theorem rest_of_decl? (hs : IsSegment s) (h : decl? s = some d) : d.text = s ∧ d.rest = [] := by
  obtain ⟨hd, heq⟩ := decl?_eq_some_iff.1 h
  exact hd.segment.append_inj hd.rest hs endsSegment_nil (heq.trans (List.append_nil s).symm)

/-! ## Where a declaration starts -/

/-- The text starts with a name and a colon. -/
def Opens (s : Text) : Prop := ∃ n w t, IsName n ∧ (∀ c ∈ w, isBlank c = true) ∧ s = n ++ (w ++ ':' :: t)

theorem opens_iff : Opens s ↔ decl? s ≠ none := by
  constructor
  · rintro ⟨n, w, t, hn, hw, rfl⟩
    have hname : name? (n ++ (w ++ ':' :: t)) = some (n, w ++ ':' :: t) := name?_eq_some_iff.2 ⟨hn, rfl⟩
    have hcolon : isBlank ':' = false := by decide
    rw [decl?, hname]
    simp [List.dropWhile_append_of_pos hw, hcolon]
  · intro h
    obtain ⟨d, hfound⟩ := Option.ne_none_iff_exists'.1 h
    obtain ⟨hd, rfl⟩ := decl?_eq_some_iff.1 hfound
    obtain ⟨v, w, hgap, hv, -⟩ := hd.gap
    exact ⟨d.name, v, w ++ (d.value ++ d.rest), hd.name, hv, by simp [Decl.text, hgap]⟩

theorem Opens.append (h : Opens s) (t : Text) : Opens (s ++ t) := by
  obtain ⟨n, w, u, hn, hw, rfl⟩ := h
  exact ⟨n, w, u ++ t, hn, hw, by simp⟩

/-- If the first colon behind white space is not in front of a given place, it is behind the next character there
that is no white space. -/
theorem colon_in_front {w u q : Text} (hw : ∀ c ∈ w, isBlank c = true) (hb : isBlank b = true)
    (hc : isBlank c = false) (hcolon : c ≠ ':') (h : w ++ ':' :: u = q ++ b :: c :: t) : ∃ p, q = w ++ ':' :: p := by
  have hne : b ≠ ':' := by
    rintro rfl
    exact absurd hb (by decide)
  rcases List.append_eq_append_iff.1 h with ⟨p, rfl, hp⟩ | ⟨p, rfl, hp⟩
  · cases p with
    | nil => exact absurd (List.cons.inj hp).1.symm hne
    | cons e p =>
      obtain ⟨rfl, -⟩ := List.cons.inj hp
      exact ⟨p, rfl⟩
  · -- the place lies in the white space: then the next character is the colon or white space too
    match p, hp with
    | [], hp => exact absurd (List.cons.inj hp).1 hne
    | [e], hp => exact absurd (List.cons.inj (List.cons.inj hp).2).1 hcolon
    | e :: f :: p, hp =>
      have hf : c = f := (List.cons.inj (List.cons.inj hp).2).1
      have := hw c (by simp [hf])
      rw [hc] at this
      cases this

/-- White space with something other than a colon behind it comes too late for the colon: a declaration starts in front
of it or not at all. -/
theorem opens_append_iff (hb : isBlank b = true) (hc : isBlank c = false) (hcolon : c ≠ ':') :
    Opens (s ++ b :: c :: t) ↔ Opens s := by
  refine ⟨?_, fun h => h.append _⟩
  rintro ⟨n, w, u, hn, hw, heq⟩
  rcases List.append_eq_append_iff.1 heq.symm with ⟨q, rfl, hq⟩ | ⟨q, rfl, hq⟩
  · obtain ⟨p, rfl⟩ := colon_in_front hw hb hc hcolon hq
    exact ⟨n, w, p, hn, hw, rfl⟩
  · cases q with
    | nil =>
      obtain ⟨p, hp⟩ := colon_in_front (q := []) hw hb hc hcolon hq.symm
      cases w <;> cases hp
    | cons e q =>
      obtain ⟨rfl, -⟩ := List.cons.inj hq
      have := hn.isBlank (c := b) (by simp)
      rw [hb] at this
      cases this

end StylePrune.FlexBasis
