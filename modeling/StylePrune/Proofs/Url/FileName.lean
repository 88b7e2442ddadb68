import StylePrune.Proofs.Text.Basic
import StylePrune.Proofs.Url.Resolve

/-!
The name of the file that an address leads to.

The body of an address of the web ends at the first question mark or number sign. What trails it has no part in the
path, nor in what is wrong with a text that is no address (`IsBody.map_path_parse`). So it has no part in the name of the
file (`IsBody.fileName_append`), which has no slash in it, whether or not the text is an address
(`IsBody.slash_notMem_fileName`).
-/
namespace StylePrune.Url

variable {s t u r : Text} {sign : Char}

/-! ## Cutting -/

/-- What stands behind the body of an address: nothing, a query or a fragment. -/
def Trails (r : Text) : Prop := ∀ c ∈ r.head?, c = '?' ∨ c = '#'

theorem cutAt_append (h : sign ∉ s) (r : Text) : cutAt sign (s ++ r) = (s ++ (cutAt sign r).1, (cutAt sign r).2) := by
  induction s with
  | nil => rfl
  | cons c s ih =>
    rw [List.mem_cons, not_or] at h
    rw [List.cons_append, cutAt, if_neg (Ne.symm h.1), ih h.2]
    rfl

theorem body_cut_append (hquery : '?' ∉ s) (hfragment : '#' ∉ s) (hr : Trails r) : (cut (s ++ r)).body = s := by
  have hfront : (cutAt '#' (s ++ r)).1 = s ++ (cutAt '#' r).1 := by
    rw [cutAt_append hfragment]
  show (cutAt '?' (cutAt '#' (s ++ r)).1).1 = s
  rw [hfront, cutAt_append hquery]
  cases r with
  | nil => simp [cutAt]
  | cons c r =>
    rcases hr c rfl with rfl | rfl
    · simp [cutAt]
    · simp [cutAt]

/-! ## Cleaning -/

def isOuter (c : Char) : Bool := c.toNat ≤ 32

def isInner (c : Char) : Bool := !(c == '\t' || c == '\n' || c == '\r')

theorem clean_eq (s : Text) : clean s = (Text.dropEndWhile isOuter (s.dropWhile isOuter)).filter isInner := rfl

/-- An address of the web without query and fragment, and without anything at its end that is taken away. -/
structure IsBody (u : Text) : Prop where
  web : "http://".toList <+: u ∨ "https://".toList <+: u
  query : '?' ∉ u
  fragment : '#' ∉ u
  ending : ∀ c ∈ u.getLast?, 32 < c.toNat

theorem IsBody.start (h : IsBody u) (r : Text) : (u ++ r).dropWhile isOuter = u ++ r := by
  rcases h.web with ⟨x, rfl⟩ | ⟨x, rfl⟩
  · rfl
  · rfl

theorem IsBody.clean_eq_filter (h : IsBody u) : clean u = u.filter isInner := by
  have hstart := h.start []
  rw [List.append_nil] at hstart
  have hend : Text.dropEndWhile isOuter u = u := by
    rcases List.eq_nil_or_concat u with rfl | ⟨s, c, rfl⟩
    · rfl
    · have hc : 32 < c.toNat := h.ending c (by simp)
      have hlast : Text.dropEndWhile isOuter [c] = [c] := by
        simp [Text.dropEndWhile, isOuter, Nat.not_le.2 hc]
      rw [List.concat_eq_append, Text.dropEndWhile_append, hlast]
      rfl
  rw [clean_eq, hstart, hend]

theorem IsBody.exists_clean_append (h : IsBody u) (hr : Trails r) :
    ∃ r', Trails r' ∧ clean (u ++ r) = clean u ++ r' := by
  cases r with
  | nil => exact ⟨[], by simp [Trails], by simp⟩
  | cons c r =>
    have hc := hr c rfl
    have hkept : isOuter c = false := by
      rcases hc with rfl | rfl <;> rfl
    have hsign : isInner c = true := by
      rcases hc with rfl | rfl <;> rfl
    have hclean : clean (u ++ c :: r) = clean u ++ c :: (Text.dropEndWhile isOuter r).filter isInner := by
      rw [h.clean_eq_filter, clean_eq, h.start, Text.dropEndWhile_append, Text.dropEndWhile_cons_of_neg r hkept,
        List.isEmpty_cons, if_neg Bool.false_ne_true, List.filter_append, List.filter_cons_of_pos hsign]
    refine ⟨_, ?_, hclean⟩
    intro d hd
    obtain rfl : c = d := by simpa using hd
    exact hc

theorem IsBody.body_eq (h : IsBody u) (hr : Trails r) : (cut (clean (u ++ r))).body = clean u := by
  obtain ⟨r', hr', hclean⟩ := h.exists_clean_append hr
  rw [hclean]
  exact body_cut_append (fun hmem => h.query (mem_clean hmem)) (fun hmem => h.fragment (mem_clean hmem)) hr'

theorem IsBody.body_self (h : IsBody u) : (cut (clean u)).body = clean u := by
  simpa using h.body_eq (r := []) (by simp [Trails])

/-! ## Reading -/

theorem IsBody.exists_scheme? (h : IsBody u) : ∃ scheme rest, scheme? (clean u) = some (scheme, rest) ∧
    formOf scheme = .web := by
  rw [h.clean_eq_filter]
  rcases h.web with ⟨x, rfl⟩ | ⟨x, rfl⟩
  · exact ⟨"http".toList, _, rfl, rfl⟩
  · exact ⟨"https".toList, _, rfl, rfl⟩

/-- What follows decides nothing about an authority that must have a host. -/
theorem readAuthority_web (scheme s : Text) (followed : Bool) :
    readAuthority .web scheme s followed = readAuthority .web scheme s false := by
  -- where a user has nothing behind it there is no host either, and that is the same fault
  rw [readAuthority, readAuthority]
  rcases hcut : cutUser s with ⟨user, place⟩
  by_cases hempty : user = some [] ∧ place = []
  · obtain ⟨rfl, rfl⟩ := hempty
    cases followed <;> rfl
  · have hfollowed (b : Bool) : (user == some [] && place.isEmpty && b) = false := by
      rw [Bool.and_eq_false_iff, Bool.and_eq_false_iff]
      simp only [beq_eq_false_iff_ne, List.isEmpty_eq_false_iff]
      tauto
    simp only [hfollowed]

theorem parts_web {scheme : Text} (hform : formOf scheme = .web) (s : Text) (followed : Bool) :
    parts scheme s followed = parts scheme s false := by
  simp only [parts, hform, afterSlashes]
  rw [readAuthority_web, readAuthority_web _ _ (false || _)]

/-- Whatever trails a body, the path is the same, and so is what is wrong if it is no address. -/
theorem IsBody.map_path_parse (h : IsBody u) (hr : Trails r) :
    (parse (u ++ r)).map Url.path = (parse u).map Url.path := by
  obtain ⟨scheme, rest, hscheme, hform⟩ := h.exists_scheme?
  simp only [parse, h.body_eq hr, h.body_self, hscheme]
  rw [parts_web hform, parts_web hform rest (_ || _)]
  cases parts scheme rest false with
  | ok p => rfl
  | error fault => rfl

/-! ## Names -/

theorem splitPath_ne_nil (special : Bool) (s : Text) : splitPath special s ≠ [] := by
  cases s with
  | nil => exact List.cons_ne_nil _ _
  | cons c s =>
    rw [splitPath]
    split
    · exact List.cons_ne_nil _ _
    · split <;> exact List.cons_ne_nil _ _

theorem slash_notMem_splitPath {special : Bool} (ht : t ∈ splitPath special s) : '/' ∉ t := by
  induction s generalizing t with
  | nil =>
    rw [splitPath, List.mem_singleton] at ht
    simp [ht]
  | cons c s ih =>
    rw [splitPath] at ht
    cases hs : splitPath special s with
    | nil => exact absurd hs (splitPath_ne_nil special s)
    | cons p ps =>
      rw [hs] at ht ih
      simp only at ht
      split at ht
      · rcases List.mem_cons.1 ht with rfl | ht
        · simp
        · exact ih ht
      · next hslash =>
        have hc : '/' ≠ c := by
          rintro rfl
          exact hslash rfl
        rcases List.mem_cons.1 ht with rfl | ht
        · simp [hc, ih List.mem_cons_self]
        · exact ih (List.mem_cons_of_mem p ht)

theorem slash_notMem_segmentsOf (ht : t ∈ segmentsOf .web s) : '/' ∉ t := by
  intro hslash
  have hsettle : segmentsOf .web s = addSegments .web [] (splitPath true s) := rfl
  rw [hsettle] at ht
  rcases mem_addSegments ht with ht | rfl | ⟨m, hm, rfl⟩
  · cases ht
  · cases hslash
  · rcases mem_escape hslash with hslash | hslash
    · exact slash_notMem_splitPath hm hslash
    · exact absurd hslash (by decide)

theorem slash_notMem_rootedSegments (ht : t ∈ rootedSegments .web s) : '/' ∉ t := by
  cases s with
  | nil => exact slash_notMem_segmentsOf (s := []) ht
  | cons c r => exact slash_notMem_segmentsOf ht

theorem IsBody.exists_rootedSegments (h : IsBody u) {v : Url} (hparse : parse u = .ok v) :
    ∃ x, v.path = .segments (rootedSegments .web x) := by
  obtain ⟨scheme, rest, hscheme, hform⟩ := h.exists_scheme?
  simp only [parse, h.body_self, hscheme] at hparse
  split at hparse
  · cases hparse
  next authority path hparts =>
  cases hparse
  simp only [parts, hform, afterSlashes] at hparts
  split at hparts
  · cases hparts
  · cases hparts
    exact ⟨_, rfl⟩

theorem slash_notMem_textualName (s : Text) : '/' ∉ textualName s := by
  intro hslash
  rw [textualName, List.mem_reverse] at hslash
  simpa using List.mem_takeWhile_imp hslash

/-- What follows a body does not count for the name that is read off it without reading it as an address. -/
theorem IsBody.textualName_append (h : IsBody u) (hr : Trails r) : textualName (u ++ r) = textualName u := by
  have hu : ∀ c ∈ u, (!(c == '?' || c == '#')) = true := by
    intro c hc
    have hquery : c ≠ '?' := fun hq => h.query (hq ▸ hc)
    have hfragment : c ≠ '#' := fun hf => h.fragment (hf ▸ hc)
    simp [hquery, hfragment]
  have hends : ∀ c ∈ r.head?, (!(c == '?' || c == '#')) = false := by
    intro c hc
    rcases hr c hc with rfl | rfl <;> rfl
  rw [textualName, textualName, (Text.takeWhile_run hu hends).1, List.takeWhile_eq_self_iff.2 hu]

/-- Whatever trails a body, the name of the file is the same. -/
theorem IsBody.fileName_append (h : IsBody u) (hr : Trails r) : fileName (u ++ r) = fileName u := by
  have hpath := h.map_path_parse hr
  rw [fileName, fileName, h.textualName_append hr]
  cases hlong : parse (u ++ r) with
  | ok v =>
    cases hshort : parse u with
    | ok w =>
      rw [hlong, hshort] at hpath
      have hsame : v.path = w.path := Except.ok.inj hpath
      simp only [lastSegment, hsame]
    | error f =>
      rw [hlong, hshort] at hpath
      cases hpath
  | error f =>
    cases hshort : parse u with
    | ok w =>
      rw [hlong, hshort] at hpath
      cases hpath
    | error g => rfl

theorem IsBody.slash_notMem_fileName (h : IsBody u) : '/' ∉ fileName u := by
  rw [fileName]
  cases hparse : parse u with
  | ok v =>
    obtain ⟨x, hpath⟩ := h.exists_rootedSegments hparse
    show '/' ∉ v.lastSegment
    rw [lastSegment, hpath]
    cases hlast : (rootedSegments .web x).getLast? with
    | none => simp [hlast]
    | some t => simpa [hlast] using slash_notMem_rootedSegments (List.mem_of_getLast? hlast)
  | error f => exact slash_notMem_textualName u

end StylePrune.Url
