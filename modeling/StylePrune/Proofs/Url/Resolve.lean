import StylePrune.Url.Parse

/-!
What stands in an address that a path leads to.

An address of the web has an authority and a path of segments (`parse_web`). A path that is resolved against it leads
to an address whose characters come from the directory of the first address, from the path, and from the signs between
the parts and in escapes (`mem_text_resolve?`). The path of one dot and a slash leads to the directory itself
(`text_resolve?_here`).
-/
namespace StylePrune.Url

variable {s t p : Text} {c : Char} {u v : Url}

/-! ## Parts of a path -/

theorem mem_clean (h : c ∈ clean s) : c ∈ s := by
  have hfilter := (List.mem_filter.1 h).1
  rw [Text.dropEndWhile, List.mem_reverse] at hfilter
  have hdrop := (List.dropWhile_sublist _).subset hfilter
  rw [List.mem_reverse] at hdrop
  exact (List.dropWhile_sublist _).subset hdrop

theorem mem_cutAt {sign : Char} :
    (c ∈ (cutAt sign s).1 → c ∈ s) ∧ ∀ q ∈ (cutAt sign s).2, c ∈ q → c ∈ s := by
  induction s with
  | nil => exact ⟨id, fun q hq => nomatch hq⟩
  | cons d s ih =>
    rw [cutAt]
    split
    · refine ⟨(nomatch ·), fun q hq hc => ?_⟩
      cases hq
      exact List.mem_cons_of_mem d hc
    · refine ⟨fun h => ?_, fun q hq hc => List.mem_cons_of_mem d (ih.2 q hq hc)⟩
      rcases List.mem_cons.1 h with rfl | h
      · exact List.mem_cons_self
      · exact List.mem_cons_of_mem d (ih.1 h)

theorem mem_cut :
    (c ∈ (cut s).body → c ∈ s) ∧ (∀ q ∈ (cut s).query, c ∈ q → c ∈ s) ∧ ∀ f ∈ (cut s).fragment, c ∈ f → c ∈ s := by
  rw [cut]
  exact ⟨fun h => mem_cutAt.1 (mem_cutAt.1 h), fun q hq h => mem_cutAt.1 (mem_cutAt.2 q hq h), mem_cutAt.2⟩

theorem mem_of_mem_splitPath {special : Bool} (ht : t ∈ splitPath special s) (hc : c ∈ t) : c ∈ s := by
  induction s generalizing t with
  | nil =>
    rw [splitPath, List.mem_singleton] at ht
    exact ht ▸ hc
  | cons d s ih =>
    rw [splitPath] at ht
    split at ht
    · next hnil =>
      rw [List.mem_singleton] at ht
      rw [ht, List.mem_singleton] at hc
      exact hc ▸ List.mem_cons_self
    · next q qs hcons =>
      rw [hcons] at ih
      split at ht
      · rcases List.mem_cons.1 ht with rfl | ht
        · cases hc
        · exact List.mem_cons_of_mem d (ih ht hc)
      · rcases List.mem_cons.1 ht with rfl | ht
        · rcases List.mem_cons.1 hc with rfl | hc
          · exact List.mem_cons_self
          · exact List.mem_cons_of_mem d (ih List.mem_cons_self hc)
        · exact List.mem_cons_of_mem d (ih (List.mem_cons_of_mem q ht) hc)

/-! ## Escapes -/

def escapeSigns : Text := "%0123456789ABCDEF".toList

theorem upperHexDigit_mem : ∀ n < 16, upperHexDigit n ∈ escapeSigns := by decide

/-- What is escaped keeps some characters and has escapes in place of the others. -/
theorem mem_escape {part : Part} (h : c ∈ escape part s) : c ∈ s ∨ c ∈ escapeSigns := by
  obtain ⟨d, hd, hc⟩ := List.mem_flatMap.1 h
  rw [escapeChar] at hc
  split at hc
  · obtain ⟨b, -, hb⟩ := List.mem_flatMap.1 hc
    have hbyte := b.toNat_lt
    right
    rw [escapeByte, List.mem_cons, List.mem_cons, List.mem_singleton] at hb
    rcases hb with rfl | rfl | rfl
    · decide
    · exact upperHexDigit_mem _ (by omega)
    · exact upperHexDigit_mem _ (by omega)
  · rw [List.mem_singleton] at hc
    exact .inl (hc ▸ hd)

/-! ## Segments -/

theorem mem_shorten {ss : List Text} (h : t ∈ shorten ss) : t ∈ ss := by
  rw [shorten] at h
  split at h
  · split at h
    · exact h
    · exact List.dropLast_subset _ h
  · cases h

theorem mem_addSegment {ss : List Text} {last : Bool} (h : t ∈ addSegment .web ss s last) :
    t ∈ ss ∨ t = [] ∨ t = s := by
  have hconcat {us : List Text} (h : t ∈ us ++ [[]]) (hus : t ∈ us → t ∈ ss) : t ∈ ss ∨ t = [] ∨ t = s := by
    rw [List.mem_append, List.mem_singleton] at h
    exact h.elim (fun h => .inl (hus h)) fun h => .inr (.inl h)
  rw [addSegment] at h
  split at h
  · split at h
    · exact hconcat h mem_shorten
    · exact .inl (mem_shorten h)
  · split at h
    · split at h
      · exact hconcat h id
      · exact .inl h
    · rw [if_neg (by simp), List.mem_append, List.mem_singleton] at h
      exact h.elim .inl fun h => .inr (.inr h)

theorem mem_addSegments {ss more : List Text} (h : t ∈ addSegments .web ss more) :
    t ∈ ss ∨ t = [] ∨ ∃ m ∈ more, t = escape .path m := by
  induction more generalizing ss with
  | nil => exact .inl h
  | cons m more ih =>
    rw [addSegments] at h
    rcases ih h with h | h | ⟨n, hn, h⟩
    · exact (mem_addSegment h).imp_right fun h => h.imp_right fun h => ⟨m, List.mem_cons_self, h⟩
    · exact .inr (.inl h)
    · exact .inr (.inr ⟨n, List.mem_cons_of_mem m hn, h⟩)

/-! ## Addresses of the web -/

/-- The address of the directory that an address stands in, without a slash at its end. -/
def front (u : Url) : Text :=
  match u.path with
  | .segments ss => text { u with path := .segments ss.dropLast, query := none, fragment := none }
  | .formless _ => []

/-- An address with a host and a path of segments. -/
structure IsHosted (u : Url) (a : Authority) (ss : List Text) : Prop where
  form : formOf u.scheme = .web
  authority : u.authority = some a
  path : u.path = .segments ss

variable {a : Authority} {ss : List Text}

theorem parse_web (h : parse s = .ok u) (hform : formOf u.scheme = .web) : ∃ a ss, u.IsHosted a ss := by
  rw [parse] at h
  split at h
  · cases h
  · next scheme rest hscheme =>
    split at h
    · cases h
    · next authority path hparts =>
      cases h
      have hweb : formOf scheme = .web := hform
      simp only [parts, hweb, afterSlashes] at hparts
      split at hparts
      · cases hparts
      · cases hparts
        exact ⟨_, _, hform, rfl, rfl⟩

theorem IsHosted.text_eq (h : u.IsHosted a ss) :
    u.text = u.scheme ++ "://".toList ++ a.text ++ segmentsText ss ++ after '?' u.query ++ after '#' u.fragment := by
  have hpath : Path.text true (.segments ss) = segmentsText ss := by
    rw [Path.text.eq_def]
    split <;> simp_all
  rw [text, h.authority, h.path]
  simp only [Option.isSome_some, hpath]
  simp

theorem IsHosted.front_eq (h : u.IsHosted a ss) :
    u.front = u.scheme ++ "://".toList ++ a.text ++ segmentsText ss.dropLast := by
  have hdirectory : IsHosted { u with path := .segments ss.dropLast, query := none, fragment := none } a ss.dropLast :=
    ⟨h.form, h.authority, rfl⟩
  rw [front, h.path]
  simp only [hdirectory.text_eq, after, List.append_nil]

theorem IsHosted.exists_resolve? (h : u.IsHosted a ss) (p : Text) :
    ∃ v, resolve? u p = some v ∧ v.scheme = u.scheme ∧
      v.IsHosted a (addSegments .web ss.dropLast (splitPath true (cut (clean p)).body)) ∧
      v.query = (cut (clean p)).query.map (escapeQuery .web) ∧
      v.fragment = (cut (clean p)).fragment.map (escape .fragment) := by
  have hdirectory : directory .web ss = ss.dropLast := by
    cases hss : ss.getLast? <;> simp_all [directory]
  have hform := h.form
  rw [resolve?, h.path]
  simp only [hform, hdirectory]
  exact ⟨_, rfl, rfl, ⟨h.form, h.authority, rfl⟩, rfl, rfl⟩

theorem mem_segmentsText (h : c ∈ segmentsText ss) : c = '/' ∨ ∃ t ∈ ss, c ∈ t := by
  obtain ⟨t, ht, hc⟩ := List.mem_flatMap.1 h
  exact (List.mem_cons.1 hc).imp_right fun hc => ⟨t, ht, hc⟩

theorem mem_after {sign : Char} {q : Option Text} (h : c ∈ after sign q) : c = sign ∨ ∃ t ∈ q, c ∈ t := by
  cases q with
  | none => cases h
  | some t => exact (List.mem_cons.1 h).imp_right fun hc => ⟨t, rfl, hc⟩

/-- Where the characters of an address come from that a path leads to. -/
theorem IsHosted.mem_text_resolve? (h : u.IsHosted a ss) (hv : resolve? u p = some v) (hc : c ∈ v.text) :
    c ∈ u.front ∨ c ∈ p ∨ c ∈ "/?#".toList ++ escapeSigns := by
  have hsign {d : Char} (hd : d ∈ "/?#".toList) (hcd : c = d) :
      c ∈ u.front ∨ c ∈ p ∨ c ∈ "/?#".toList ++ escapeSigns :=
    .inr (.inr (List.mem_append_left _ (hcd ▸ hd)))
  have hescape {part : Part} {q : Text} (hq : ∀ d ∈ q, d ∈ clean p) (hd : c ∈ escape part q) :
      c ∈ u.front ∨ c ∈ p ∨ c ∈ "/?#".toList ++ escapeSigns :=
    (mem_escape hd).elim (fun hd => .inr (.inl (mem_clean (hq c hd))))
      fun hd => .inr (.inr (List.mem_append_right _ hd))
  obtain ⟨x, hx, hscheme, hhosted, hquery, hfragment⟩ := h.exists_resolve? p
  obtain rfl := Option.some.inj (hx.symm.trans hv)
  rw [hhosted.text_eq, hscheme, hquery, hfragment, List.mem_append, List.mem_append, List.mem_append] at hc
  rcases hc with ((hc | hc) | hc) | hc
  · rw [h.front_eq]
    exact .inl (List.mem_append_left _ hc)
  · rcases mem_segmentsText hc with hc | ⟨t, ht, hc⟩
    · exact hsign (by decide) hc
    · rcases mem_addSegments ht with ht | rfl | ⟨m, hm, rfl⟩
      · rw [h.front_eq]
        exact .inl (List.mem_append_right _ (List.mem_flatMap.2 ⟨t, ht, List.mem_cons_of_mem _ hc⟩))
      · cases hc
      · exact hescape (fun d hd => mem_cut.1 (mem_of_mem_splitPath hm hd)) hc
  · rcases mem_after hc with hc | ⟨t, ht, hc⟩
    · exact hsign (by decide) hc
    · obtain ⟨q, hq, rfl⟩ := Option.map_eq_some_iff.1 ht
      exact hescape (fun d hd => mem_cut.2.1 q hq hd) hc
  · rcases mem_after hc with hc | ⟨t, ht, hc⟩
    · exact hsign (by decide) hc
    · obtain ⟨q, hq, rfl⟩ := Option.map_eq_some_iff.1 ht
      exact hescape (fun d hd => mem_cut.2.2 q hq hd) hc

theorem IsHosted.text_resolve?_here (h : u.IsHosted a ss) :
    (resolve? u "./".toList).map text = some (u.front ++ ['/']) := by
  have hadd : addSegments .web ss.dropLast (splitPath true (cut (clean "./".toList)).body) = ss.dropLast ++ [[]] := rfl
  obtain ⟨v, hv, hscheme, hhosted, hquery, hfragment⟩ := h.exists_resolve? "./".toList
  rw [hadd] at hhosted
  rw [hv, Option.map_some, hhosted.text_eq, hscheme, hquery, hfragment, h.front_eq, segmentsText, List.flatMap_append,
    ← segmentsText, ← List.append_assoc]
  simp [after, cut, clean, cutAt, Text.dropEndWhile]

end StylePrune.Url
