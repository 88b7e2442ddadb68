import StylePrune.Proofs.Run.SplitOutput
import StylePrune.Proofs.Text.WordCase

/-!
The names of the groups of a split stylesheet.

A key made from a condition is `media-` before words of name characters with single hyphens between them
(`Hyphenated`), whatever the condition holds, and a number at its end keeps it so. A group has the key of its condition
if that is free, else the one with the least number that makes it free (`freshKey_assigned`). Keys are distinct, so a
group is found under its key and no entry of the map is lost; `split_named` puts this together.
-/
namespace StylePrune.Split

open Run.Workspace (groupFileName indexFileName)

/-! ## Hyphenated words -/

/-- Words of name characters joined by single hyphens: so something, and no hyphen at the ends. -/
inductive Hyphenated : Text → Prop where
  | single {c : Char} : Text.isWord c = true → Hyphenated [c]
  | cons {c : Char} {s : Text} : Text.isWord c = true → Hyphenated s → Hyphenated (c :: s)
  | hyphen {c : Char} {s : Text} : Text.isWord c = true → Hyphenated s → Hyphenated (c :: '-' :: s)

variable {s w : Text}

theorem Hyphenated.of_word (hne : w ≠ []) (hw : ∀ c ∈ w, Text.isWord c = true) : Hyphenated w := by
  induction w with
  | nil => exact absurd rfl hne
  | cons c w ih =>
    obtain ⟨hc, hw⟩ := List.forall_mem_cons.1 hw
    by_cases hnil : w = []
    · subst hnil
      exact .single hc
    · exact .cons hc (ih hnil hw)

theorem Hyphenated.prepend (hne : w ≠ []) (hw : ∀ c ∈ w, Text.isWord c = true) (hs : Hyphenated s) :
    Hyphenated (w ++ s) ∧ Hyphenated (w ++ '-' :: s) := by
  induction w with
  | nil => exact absurd rfl hne
  | cons c w ih =>
    obtain ⟨hc, hw⟩ := List.forall_mem_cons.1 hw
    by_cases hnil : w = []
    · subst hnil
      exact ⟨.cons hc hs, .hyphen hc hs⟩
    · exact ⟨.cons hc (ih hnil hw).1, .cons hc (ih hnil hw).2⟩

theorem Hyphenated.append (hs : Hyphenated s) (hw : Hyphenated w) : Hyphenated (s ++ '-' :: w) := by
  induction hs with
  | single hc => exact .hyphen hc hw
  | cons hc _ ih => exact .cons hc ih
  | hyphen hc _ ih => exact .hyphen hc ih

/-- Words are hyphenated if no hyphen stands at an end and no two stand together. -/
theorem Hyphenated.of_chars : ∀ {s : Text}, s ≠ [] → (∀ c ∈ s, Text.isWord c = true ∨ c = '-') → ¬ ['-', '-'] <:+: s →
    s.head? ≠ some '-' → s.getLast? ≠ some '-' → Hyphenated s
  | [], hne, _, _, _, _ => absurd rfl hne
  | [c], _, hchars, _, hhead, _ =>
    .single ((hchars c List.mem_cons_self).resolve_right fun hc => hhead (by rw [hc]; rfl))
  | c :: d :: s, _, hchars, hdouble, hhead, hlast => by
    have hc : Text.isWord c = true :=
      (hchars c List.mem_cons_self).resolve_right fun hc => hhead (by rw [hc]; rfl)
    have hchars' : ∀ e ∈ d :: s, Text.isWord e = true ∨ e = '-' := fun e he => hchars e (List.mem_cons_of_mem c he)
    have hdouble' : ¬ ['-', '-'] <:+: d :: s := fun h => hdouble (h.trans (List.suffix_cons c _).isInfix)
    have hlast' : (d :: s).getLast? ≠ some '-' := by rwa [List.getLast?_cons_cons] at hlast
    rcases hchars' d List.mem_cons_self with hd | rfl
    · refine .cons hc (.of_chars (List.cons_ne_nil d s) hchars' hdouble' ?_ hlast')
      rintro hhead
      obtain rfl := Option.some.inj hhead
      exact absurd hd (by decide)
    · -- a hyphen inside has a word behind it
      have hne : s ≠ [] := by
        rintro rfl
        exact hlast' rfl
      refine .hyphen hc (.of_chars hne (fun e he => hchars' e (List.mem_cons_of_mem _ he)) ?_ ?_ ?_)
      · exact fun h => hdouble' (h.trans (List.suffix_cons _ s).isInfix)
      · intro hhead
        obtain ⟨t, rfl⟩ := List.head?_eq_some_iff.1 hhead
        exact hdouble' (List.prefix_append ['-', '-'] t).isInfix
      · obtain ⟨e, t, rfl⟩ := List.exists_cons_of_ne_nil hne
        rwa [List.getLast?_cons_cons] at hlast'

theorem Hyphenated.lowerFrom (h : Hyphenated s) (before : Text) : Hyphenated (Text.lowerFrom before s) := by
  induction h generalizing before with
  | single hc =>
    obtain ⟨w, hne, hw, heq⟩ := Text.lowerFrom_word hc before []
    rw [heq, Text.lowerFrom, List.append_nil]
    exact .of_word hne hw
  | @cons c s hc _ ih =>
    obtain ⟨w, hne, hw, heq⟩ := Text.lowerFrom_word hc before s
    rw [heq]
    exact ((ih _).prepend hne hw).1
  | @hyphen c s hc _ ih =>
    obtain ⟨w, hne, hw, heq⟩ := Text.lowerFrom_word hc before ('-' :: s)
    rw [heq, Text.lowerFrom_hyphen]
    exact ((ih _).prepend hne hw).2

/-! ## The key of a condition -/

theorem head?_squeezeHyphens (c : Char) (s : Text) : (squeezeHyphens (c :: s)).head? = some c := by
  induction s generalizing c with
  | nil => rfl
  | cons d s ih =>
    rw [squeezeHyphens]
    split
    · next h => rw [ih, h.1, h.2]
    · rfl

theorem double_not_infix_squeezeHyphens (s : Text) : ¬ ['-', '-'] <:+: squeezeHyphens s := by
  induction s with
  | nil => simp [squeezeHyphens]
  | cons c s ih =>
    cases s with
    | nil => simp [squeezeHyphens, List.infix_cons_iff]
    | cons d s =>
      rw [squeezeHyphens]
      split
      · exact ih
      · next hne =>
        rw [List.infix_cons_iff, List.cons_prefix_cons]
        rintro (⟨rfl, hpre⟩ | h)
        · -- the character behind it is the next one of the text
          obtain ⟨t, ht⟩ := hpre
          have hhead := head?_squeezeHyphens d s
          rw [← ht] at hhead
          exact hne ⟨rfl, (Option.some.inj hhead).symm⟩
        · exact ih h

theorem isInfix_trimHyphens (s : Text) : trimHyphens s <:+: s :=
  (List.rdropWhile_prefix _ _).isInfix.trans (List.dropWhile_suffix _).isInfix

theorem head?_trimHyphens (s : Text) : (trimHyphens s).head? ≠ some '-' := by
  intro h
  obtain ⟨t, ht⟩ : trimHyphens s <+: s.dropWhile (· == '-') := List.rdropWhile_prefix _ _
  obtain ⟨u, hu⟩ := List.head?_eq_some_iff.1 h
  have hhead := List.head?_dropWhile_not (· == '-') s
  rw [← ht, hu, List.cons_append, List.head?_cons] at hhead
  exact absurd hhead (by decide)

theorem getLast?_trimHyphens (s : Text) : (trimHyphens s).getLast? ≠ some '-' := by
  intro h
  have hne : trimHyphens s ≠ [] := by
    intro hnil
    rw [hnil] at h
    cases h
  have hlast := List.rdropWhile_last_not (· == '-') (s.dropWhile (· == '-')) hne
  rw [List.getLast?_eq_getLast_of_ne_nil hne, Option.some_inj] at h
  exact hlast (beq_iff_eq.2 h)

theorem slug_eq_nil_or (condition : Text) : slug condition = [] ∨ Hyphenated (slug condition) := by
  rw [slug, Text.lower]
  by_cases hnil : trimHyphens (squeezeHyphens (hyphenate condition)) = []
  · rw [hnil]
    exact .inl rfl
  · refine .inr (Hyphenated.lowerFrom (.of_chars hnil ?_ ?_ (head?_trimHyphens _) (getLast?_trimHyphens _)) [])
    · intro c hc
      have hkept := mem_hyphenate ((squeezeHyphens_sublist _).mem ((trimHyphens_sublist _).mem hc))
      rwa [isSeparator, Bool.not_eq_false', Bool.or_eq_true, beq_iff_eq] at hkept
    · exact fun h => double_not_infix_squeezeHyphens _ (h.trans (isInfix_trimHyphens _))

/-- A key that is made from a condition. -/
def IsMediaKey (key : Text) : Prop := ∃ s, key = "media-".toList ++ s ∧ Hyphenated s

theorem isMediaKey_mediaKey (condition : Text) : IsMediaKey (mediaKey condition) := by
  rw [mediaKey]
  split
  · exact ⟨"all".toList, rfl, .of_word (by decide) (Text.forall_mem_of_all (by decide))⟩
  · next hne =>
    exact ⟨_, rfl, (slug_eq_nil_or condition).resolve_left fun hnil => hne (by rw [hnil]; rfl)⟩

theorem IsMediaKey.numbered {key : Text} (h : IsMediaKey key) (n : Nat) : IsMediaKey (numbered key n) := by
  obtain ⟨s, rfl, hs⟩ := h
  have hdigits : Hyphenated (Text.ofNat n) := by
    refine .of_word ?_ fun c hc => Text.isWord_of_isDigit (Text.isDigit_of_mem_ofNat hc)
    rw [Text.ofNat, Nat.toString_eq_repr, Nat.toList_repr]
    exact Nat.toDigits_ne_nil
  exact ⟨_, List.append_assoc _ _ _, hs.append hdigits⟩

/-! ## The least number -/

/-- A search goes through taken keys to the key that it gives. -/
theorem firstFree_eq (candidate : Text) (taken : List Text) (tries n : Nat) :
    ∃ k, firstFree candidate taken tries n = numbered candidate (n + k) ∧
      ∀ m, n ≤ m → m < n + k → numbered candidate m ∈ taken := by
  induction tries generalizing n with
  | zero => exact ⟨0, rfl, fun m hn hm => absurd hm (Nat.not_lt.2 hn)⟩
  | succ tries ih =>
    rw [firstFree]
    split
    · next htaken =>
      obtain ⟨k, heq, hall⟩ := ih (n + 1)
      refine ⟨k + 1, by rw [heq, Nat.add_right_comm, Nat.add_assoc], fun m hn hm => ?_⟩
      rcases Nat.eq_or_lt_of_le hn with rfl | hn
      · exact List.contains_iff_mem.1 htaken
      · exact hall m hn (by omega)
    · exact ⟨0, rfl, fun m hn hm => absurd hm (Nat.not_lt.2 hn)⟩

/-- The key for a condition where these keys are taken. -/
structure Assigned (condition : Text) (taken : List Text) (key : Text) : Prop where
  /-- It is the key of the condition if that is free. -/
  plain : mediaKey condition ∉ taken → key = mediaKey condition
  /-- Otherwise it has the least number from 2 on that makes it free, which is at most one more than there are
  keys. -/
  least : mediaKey condition ∈ taken → ∃ n, 2 ≤ n ∧ n ≤ taken.length + 1 ∧ key = numbered (mediaKey condition) n ∧
    numbered (mediaKey condition) n ∉ taken ∧ ∀ m, 2 ≤ m → m < n → numbered (mediaKey condition) m ∈ taken

theorem ne_numbered (candidate : Text) (n : Nat) : candidate ≠ numbered candidate n := by
  intro h
  have hlength := congrArg List.length h
  rw [numbered, List.length_append, List.length_cons] at hlength
  omega

/-- A candidate that is taken and its numbers that are taken are not more than there are keys. -/
theorem le_length_of_taken {candidate : Text} {taken : List Text} {n : Nat} (h : candidate ∈ taken)
    (hall : ∀ m, 2 ≤ m → m < 2 + n → numbered candidate m ∈ taken) : n + 1 ≤ taken.length := by
  have hnodup : (candidate :: (List.range n).map fun i => numbered candidate (2 + i)).Nodup := by
    refine List.nodup_cons.2 ⟨fun hmem => ?_, List.nodup_range.map fun i j hij => ?_⟩
    · obtain ⟨i, -, hi⟩ := List.mem_map.1 hmem
      exact ne_numbered candidate _ hi.symm
    · exact Nat.add_left_cancel (numbered_inj.1 hij)
  have hsubset : (candidate :: (List.range n).map fun i => numbered candidate (2 + i)) ⊆ taken := by
    refine List.cons_subset.2 ⟨h, fun k hk => ?_⟩
    obtain ⟨i, hi, rfl⟩ := List.mem_map.1 hk
    exact hall _ (Nat.le_add_right 2 i) (Nat.add_lt_add_left (List.mem_range.1 hi) 2)
  have hlength := hnodup.length_le_of_subset hsubset
  rwa [List.length_cons, List.length_map, List.length_range] at hlength

/-- A fresh key has the least number that it needs. -/
theorem freshKey_assigned (condition : Text) (taken : List Text) :
    Assigned condition taken (freshKey (mediaKey condition) taken) where
  plain := by
    intro h
    rw [freshKey, if_neg fun hmem => h (List.contains_iff_mem.1 hmem)]
  least := by
    intro h
    obtain ⟨k, heq, hall⟩ := firstFree_eq (mediaKey condition) taken taken.length 2
    have hkey : freshKey (mediaKey condition) taken = numbered (mediaKey condition) (2 + k) := by
      rw [freshKey, if_pos (List.contains_iff_mem.2 h), heq]
    have hbound := le_length_of_taken h hall
    refine ⟨2 + k, Nat.le_add_right 2 k, by omega, hkey, ?_, hall⟩
    rw [← hkey]
    exact freshKey_notMem _ _

theorem IsMediaKey.of_assigned {condition key : Text} {taken : List Text} (h : Assigned condition taken key) :
    IsMediaKey key := by
  by_cases htaken : mediaKey condition ∈ taken
  · obtain ⟨n, -, -, rfl, -⟩ := h.least htaken
    exact (isMediaKey_mediaKey condition).numbered n
  · rw [h.plain htaken]
    exact isMediaKey_mediaKey condition

/-- A media group has a condition, and the key for it where the keys of the groups in front are taken. -/
theorem assigned_of_mediaGroups {taken : List Text} {bs : Bodies} {earlier later : List SplitGroup} {g : SplitGroup}
    (h : mediaGroups taken bs = earlier ++ g :: later) :
    ∃ c, g.media = some c ∧ Assigned c (taken ++ earlier.map SplitGroup.key) g.key := by
  induction bs generalizing taken earlier with
  | nil => simp [mediaGroups] at h
  | cons e bs ih =>
    rw [mediaGroups] at h
    cases earlier with
    | nil =>
      obtain ⟨rfl, -⟩ := List.cons.inj h
      refine ⟨e.1, rfl, ?_⟩
      rw [List.map_nil, List.append_nil]
      exact freshKey_assigned e.1 taken
    | cons f earlier =>
      obtain ⟨rfl, hrest⟩ := List.cons.inj h
      obtain ⟨c, hc, hassigned⟩ := ih hrest
      refine ⟨c, hc, ?_⟩
      rwa [List.append_assoc] at hassigned

/-! ## Groups by their keys -/

theorem find?_key_of_nodup {α κ : Type} [BEq κ] [LawfulBEq κ] (key : α → κ) {as : List α} (h : (as.map key).Nodup) {a : α}
    (ha : a ∈ as) : as.find? (fun b => key b == key a) = some a := by
  induction as with
  | nil => cases ha
  | cons b as ih =>
    rw [List.map_cons] at h
    obtain ⟨hb, has⟩ := List.nodup_cons.1 h
    rcases List.mem_cons.1 ha with rfl | ha
    · rw [List.find?_cons_of_pos (by simp)]
    · have hne : key b ≠ key a := fun heq => hb (heq ▸ List.mem_map_of_mem ha)
      rw [List.find?_cons_of_neg (by simpa using hne), ih has ha]

theorem mem_keys_insertEntry {k key css : Text} {m : List (Text × Text)} :
    k ∈ (insertEntry key css m).map Prod.fst ↔ k = key ∨ k ∈ m.map Prod.fst := by
  induction m with
  | nil => simp [insertEntry]
  | cons e m ih =>
    rw [insertEntry]
    cases hcompare : Text.compareCodes key e.1 with
    | lt => simp
    | eq => simp [Text.eq_of_compareCodes_eq hcompare]
    | gt =>
      simp only [List.map_cons, List.mem_cons, ih]
      exact or_left_comm

theorem length_insertEntry {key : Text} (css : Text) {m : List (Text × Text)} (h : key ∉ m.map Prod.fst) :
    (insertEntry key css m).length = m.length + 1 := by
  induction m with
  | nil => rfl
  | cons e m ih =>
    rw [List.map_cons, List.mem_cons, not_or] at h
    rw [insertEntry]
    cases hcompare : Text.compareCodes key e.1 with
    | lt => rfl
    | eq => exact absurd (Text.eq_of_compareCodes_eq hcompare) h.1
    | gt => rw [List.length_cons, ih h.2, List.length_cons]

theorem length_foldl_insertEntry {gs : List SplitGroup} {m : List (Text × Text)}
    (hnodup : (gs.map SplitGroup.key).Nodup) (hnew : ∀ g ∈ gs, g.key ∉ m.map Prod.fst) :
    (gs.foldl (fun m g => insertEntry g.key g.css m) m).length = m.length + gs.length := by
  induction gs generalizing m with
  | nil => rfl
  | cons g gs ih =>
    rw [List.map_cons] at hnodup
    obtain ⟨hg, hnodup⟩ := List.nodup_cons.1 hnodup
    have hnew' : ∀ f ∈ gs, f.key ∉ (insertEntry g.key g.css m).map Prod.fst := by
      intro f hf hmem
      rcases mem_keys_insertEntry.1 hmem with heq | hmem
      · exact hg (heq ▸ List.mem_map_of_mem hf)
      · exact hnew f (List.mem_cons_of_mem g hf) hmem
    rw [List.foldl_cons, ih hnodup hnew', length_insertEntry _ (hnew g List.mem_cons_self), List.length_cons]
    omega

/-! ## The names of a split stylesheet -/

/-- How groups are named. -/
structure Named (gs : List SplitGroup) : Prop where
  /-- The base group comes first. -/
  base : ∃ css, gs.head? = some ⟨baseKey, none, css⟩
  /-- Every other group has a condition, and the key for it where the keys of the groups in front are taken. -/
  assigned : ∀ earlier g later, gs = earlier ++ g :: later → earlier ≠ [] →
    ∃ c, g.media = some c ∧ Assigned c (earlier.map SplitGroup.key) g.key
  /-- Its key is made of words with single hyphens between them. -/
  words : ∀ g ∈ gs.tail, IsMediaKey g.key
  distinct : (gs.map SplitGroup.key).Nodup
  /-- A file named by a key is one file of a directory, and not the index. -/
  file : ∀ g ∈ gs, Path.Plain (groupFileName g) ∧ groupFileName g ≠ indexFileName
  /-- Only the base group has the file of the base group. -/
  baseFile : ∀ g ∈ gs.tail, groupFileName g ≠ baseKey ++ ".css".toList
  /-- Every group is found under its key. -/
  found : ∀ g ∈ gs, get? gs g.key = some g
  /-- The map has an entry for each group. -/
  entries : (toMap gs).length = gs.length

/-- **How the groups of a stylesheet are named.** -/
theorem split_named (css : Text) : Named (split css) where
  base := ⟨_, rfl⟩
  assigned := by
    intro earlier g later h hne
    obtain ⟨b, earlier, rfl⟩ := List.exists_cons_of_ne_nil hne
    rw [split, List.cons_append] at h
    obtain ⟨rfl, hrest⟩ := List.cons.inj h
    exact assigned_of_mediaGroups hrest
  words := by
    intro g hg
    obtain ⟨earlier, later, h⟩ := List.append_of_mem hg
    obtain ⟨c, -, hassigned⟩ := assigned_of_mediaGroups h
    exact .of_assigned hassigned
  distinct := nodup_keys css
  file := fun g hg => ⟨Run.Workspace.plain_groupFileName (slash_notMem_key hg), Run.Workspace.groupFileName_ne g⟩
  baseFile := by
    intro g hg heq
    have hkeys := nodup_keys css
    rw [split, List.map_cons] at hkeys
    have hkey : g.key = baseKey := List.append_cancel_right heq
    exact (List.nodup_cons.1 hkeys).1 (List.mem_map.2 ⟨g, hg, hkey⟩)
  found := fun g hg => find?_key_of_nodup SplitGroup.key (nodup_keys css) hg
  entries := by
    rw [toMap, length_foldl_insertEntry (nodup_keys css) (by simp), List.length_nil, Nat.zero_add]

end StylePrune.Split
