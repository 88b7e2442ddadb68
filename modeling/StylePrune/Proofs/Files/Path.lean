import Mathlib.Data.List.Basic
import Mathlib.Data.List.TakeWhile
import StylePrune.Files.Path

/-!
Paths that are put together.

A plain name put below a path adds that name at the end of the names of the path (`names_join`) and starts where
the path starts (`isAbsolute_join`). If the path ends with neither a slash nor a dot, it is what is left when the
last name is taken off again (`parent?_join`).
-/
namespace StylePrune.Path

/-- A name that stands for something in a directory: not blank, without a slash, and neither one dot nor two. -/
structure Plain (n : Text) : Prop where
  nonempty : n ≠ []
  slash : '/' ∉ n
  dot : n ≠ ['.']
  dots : n ≠ ['.', '.']

variable {n : Text}

theorem isAbsolute_cons (c : Char) (r : Text) : isAbsolute (c :: r) = (c == '/') := by
  unfold isAbsolute
  split
  · next heq => simp [(List.cons.inj heq).1]
  · next hne =>
    have hc : c ≠ '/' := by
      rintro rfl
      exact hne r rfl
    simp [hc]

theorem Plain.isAbsolute (h : Plain n) : isAbsolute n = false := by
  cases n with
  | nil => rfl
  | cons c r =>
    have hc : c ≠ '/' := fun hc => h.slash (by rw [hc]; exact List.mem_cons_self)
    rw [isAbsolute_cons]
    simp [hc]

/-! ## Names -/

theorem splitOnChar_ne_nil (sep : Char) (s : Text) : Text.splitOnChar sep s ≠ [] := by
  cases s with
  | nil => exact List.cons_ne_nil _ _
  | cons c s =>
    rw [Text.splitOnChar]
    split
    · exact List.cons_ne_nil _ _
    · split <;> exact List.cons_ne_nil _ _

theorem splitOnChar_append_cons (sep : Char) (a b : Text) :
    Text.splitOnChar sep (a ++ sep :: b) = Text.splitOnChar sep a ++ Text.splitOnChar sep b := by
  induction a with
  | nil =>
    rw [List.nil_append, Text.splitOnChar]
    cases h : Text.splitOnChar sep b with
    | nil => exact absurd h (splitOnChar_ne_nil sep b)
    | cons p ps => simp [Text.splitOnChar, h]
  | cons c a ih =>
    rw [List.cons_append, Text.splitOnChar, Text.splitOnChar, ih]
    cases h : Text.splitOnChar sep a with
    | nil => exact absurd h (splitOnChar_ne_nil sep a)
    | cons p ps =>
      rw [List.cons_append]
      by_cases hc : c = sep <;> simp [hc]

theorem splitOnChar_of_notMem {sep : Char} {s : Text} (h : sep ∉ s) : Text.splitOnChar sep s = [s] := by
  induction s with
  | nil => rfl
  | cons c s ih =>
    rw [List.mem_cons, not_or] at h
    rw [Text.splitOnChar, ih h.2]
    simp [Ne.symm h.1]

theorem names_append_cons (a b : Text) : names (a ++ '/' :: b) = names a ++ names b := by
  rw [names, splitOnChar_append_cons, List.filter_append]
  rfl

theorem names_of_word {w : Text} (hne : w ≠ []) (hslash : '/' ∉ w) : names w = [w] := by
  rw [names, splitOnChar_of_notMem hslash]
  simp [hne]

theorem Plain.names (h : Plain n) : names n = [n] := names_of_word h.nonempty h.slash

theorem exists_of_endsWithSlash {path : Text} (h : endsWithSlash path = true) : ∃ p, path = p ++ ['/'] := by
  rcases List.eq_nil_or_concat path with rfl | ⟨p, c, rfl⟩
  · cases h
  · rw [List.concat_eq_append] at h ⊢
    rw [endsWithSlash, List.getLast?_concat, beq_iff_eq] at h
    exact ⟨p, by rw [Option.some.inj h]⟩

theorem names_join (d : Text) (hn : Plain n) : names (join d n) = names d ++ [n] := by
  rw [join, hn.isAbsolute, if_neg (by decide)]
  split
  · next hd =>
    rw [List.isEmpty_iff.1 hd, hn.names]
    rfl
  · split
    · next hslash =>
      obtain ⟨p, rfl⟩ := exists_of_endsWithSlash hslash
      have hempty : names [] = [] := rfl
      rw [List.append_assoc, List.singleton_append, names_append_cons, names_append_cons, hn.names, hempty,
        List.append_nil]
    · rw [names_append_cons, hn.names]

theorem isAbsolute_join (d : Text) (hn : Plain n) : isAbsolute (join d n) = isAbsolute d := by
  rw [join, hn.isAbsolute, if_neg (by decide)]
  cases d with
  | nil => exact hn.isAbsolute
  | cons c r =>
    rw [if_neg (by simp), isAbsolute_cons]
    split <;> exact isAbsolute_cons c _

theorem exists_join (d : Text) (hn : Plain n) : ∃ p, join d n = p ++ n := by
  rw [join, hn.isAbsolute, if_neg (by decide)]
  split
  · exact ⟨[], rfl⟩
  · split
    · exact ⟨d, rfl⟩
    · exact ⟨d ++ ['/'], by simp⟩

/-! ## Taking the last name off -/

theorem dropIdleTail_cons {c : Char} (r : Text) (hslash : c ≠ '/') (hdot : c ≠ '.') :
    dropIdleTail (c :: r) = c :: r := by
  unfold dropIdleTail
  split
  · next heq => exact absurd (List.cons.inj heq).1 hslash
  · next heq => exact absurd (List.cons.inj heq).1 hslash
  · next heq => exact absurd (List.cons.inj heq).1 hdot
  · rfl

/-- A plain name at the end of a path is not idle. -/
theorem dropIdleTail_plain (hn : Plain n) (r : Text) :
    dropIdleTail (n.reverse ++ '/' :: r) = n.reverse ++ '/' :: r := by
  have hslash : '/' ∉ n.reverse := fun h => hn.slash (List.mem_reverse.1 h)
  have hdot : n.reverse ≠ ['.'] := fun h => hn.dot (List.reverse_injective h)
  have hne : n.reverse ≠ [] := fun h => hn.nonempty (List.reverse_injective h)
  match hrev : n.reverse, hslash, hdot, hne with
  | [c], hslash, hdot, _ =>
    have hc : c ≠ '/' := fun h => hslash (by rw [h]; exact List.mem_cons_self)
    exact dropIdleTail_cons _ hc fun h => hdot (by rw [h])
  | c :: e :: s, hslash, _, _ =>
    have hc : c ≠ '/' := fun h => hslash (by rw [h]; exact List.mem_cons_self)
    have he : e ≠ '/' := fun h => hslash (by rw [h]; simp)
    rw [List.cons_append, List.cons_append]
    unfold dropIdleTail
    split
    · next heq => exact absurd (List.cons.inj heq).1 hc
    · next heq => exact absurd (List.cons.inj heq).1 hc
    · next heq => exact absurd (List.cons.inj (List.cons.inj heq).2).1 he
    · rfl

theorem parent?_join {d : Text} {c : Char} (hn : Plain n) (hslash : c ≠ '/') (hdot : c ≠ '.') :
    parent? (join (d ++ [c]) n) = some (d ++ [c]) := by
  have hends : endsWithSlash (d ++ [c]) = false := by
    rw [endsWithSlash, List.getLast?_concat]
    simpa using hslash
  have hjoin : join (d ++ [c]) n = d ++ [c] ++ '/' :: n := by
    rw [join, hn.isAbsolute, if_neg (by decide), if_neg (by simp), hends, if_neg (by decide)]
  have hrev : (join (d ++ [c]) n).reverse = n.reverse ++ '/' :: c :: d.reverse := by
    rw [hjoin]
    simp
  have hdrop : (n.reverse ++ '/' :: c :: d.reverse).dropWhile (· != '/') = '/' :: c :: d.reverse := by
    rw [List.dropWhile_append_of_pos, List.dropWhile_cons_of_neg (by decide)]
    intro e he
    rw [bne_iff_ne]
    rintro rfl
    exact hn.slash (List.mem_reverse.1 he)
  have hidle : dropIdleTail ('/' :: c :: d.reverse) = c :: d.reverse := by
    rw [dropIdleTail, dropIdleTail_cons _ hslash hdot]
  -- read backwards, the name is dropped, and then the slash that joins it to the path
  rw [parent?, hrev, dropIdleTail_plain hn]
  split
  · next heq => exact absurd heq (by simp)
  · next heq =>
    have hlength := congrArg List.length heq
    simp only [List.length_append, List.length_cons, List.length_nil] at hlength
    omega
  · rw [hdrop, hidle]
    simp

/-- The directory of a plain name without dots is found again below any path. -/
theorem parent?_join_join {m : Text} (d : Text) (hm : Plain m) (hdot : '.' ∉ m) (hn : Plain n) :
    parent? (join (join d m) n) = some (join d m) := by
  obtain ⟨p, hp⟩ := exists_join d hm
  obtain ⟨s, c, rfl⟩ : ∃ s c, m = s ++ [c] := by
    rcases List.eq_nil_or_concat m with rfl | ⟨s, c, h⟩
    · exact absurd rfl hm.nonempty
    · exact ⟨s, c, h.trans (List.concat_eq_append ..)⟩
  have hc : c ∈ s ++ [c] := List.mem_append_right s (List.mem_singleton_self c)
  rw [hp, ← List.append_assoc]
  apply parent?_join hn
  · rintro rfl
    exact hm.slash hc
  · rintro rfl
    exact hdot hc

/-! ## Paths that only lead down -/

/-- None of the names stands for the directory itself or for the one above. -/
def Dotless (ns : List Text) : Prop := ∀ n ∈ ns, n ≠ ['.'] ∧ n ≠ ['.', '.']

/-- A path that goes down at every name, from where it starts. -/
def Downward (path : Text) : Prop := Dotless (names path)

section Dotless

variable {ns ms : List Text}

theorem Dotless.dot_notMem (h : Dotless ns) : ['.'] ∉ ns := fun hmem => (h _ hmem).1 rfl

theorem Dotless.cons (h : Dotless (n :: ns)) : n ≠ ['.'] ∧ n ≠ ['.', '.'] ∧ Dotless ns :=
  ⟨(h n List.mem_cons_self).1, (h n List.mem_cons_self).2, fun m hm => h m (List.mem_cons_of_mem n hm)⟩

theorem Dotless.of_prefix (h : Dotless ns) (hms : ms <+: ns) : Dotless ms := fun n hn => h n (hms.subset hn)

end Dotless

theorem isAbsolute_of_start {p path : Text} (hp : p <+: path) (hne : p ≠ []) : isAbsolute p = isAbsolute path := by
  obtain ⟨r, rfl⟩ := hp
  cases p with
  | nil => exact absurd rfl hne
  | cons c p => rw [List.cons_append, isAbsolute_cons, isAbsolute_cons]

theorem dropIdleTail_suffix (s : Text) : dropIdleTail s <:+ s := by
  fun_induction dropIdleTail s with
  | case1 => exact List.suffix_rfl
  | case2 c r ih => exact ih.trans (List.suffix_cons '/' (c :: r))
  | case3 r ih => exact ih.trans (List.suffix_cons '.' ('/' :: r))
  | case4 s => exact List.suffix_rfl

theorem dropIdleTail_ne_nil {s : Text} (h : s ≠ []) : dropIdleTail s ≠ [] := by
  fun_induction dropIdleTail s with
  | case1 => exact h
  | case2 c r ih => exact ih (List.cons_ne_nil c r)
  | case3 r ih => exact ih (List.cons_ne_nil '/' r)
  | case4 s => exact h

theorem eq_nil_of_dropIdleTail {s r : Text} (h : dropIdleTail s = '/' :: r) : r = [] := by
  fun_induction dropIdleTail s with
  | case1 => exact (List.cons.inj h).2.symm
  | case2 c t ih => exact ih h
  | case3 t ih => exact ih h
  | case4 s hroot hslash hdot =>
    subst h
    cases r with
    | nil => rfl
    | cons c t => exact absurd rfl (hslash c t)

theorem names_dropIdleTail {s : Text} (hdot : ['.'] ∉ names s.reverse) :
    names (dropIdleTail s).reverse = names s.reverse := by
  fun_induction dropIdleTail s with
  | case1 => rfl
  | case2 c r ih =>
    have hslash : names ('/' :: c :: r).reverse = names (c :: r).reverse := by
      rw [List.reverse_cons, names_append_cons]
      exact List.append_nil _
    rw [hslash] at hdot ⊢
    exact ih hdot
  | case3 r ih =>
    have hname : names ('.' :: '/' :: r).reverse = names r.reverse ++ [['.']] := by
      rw [List.reverse_cons, List.reverse_cons, List.append_assoc, List.singleton_append, names_append_cons]
      rfl
    exact absurd (by rw [hname]; simp) hdot
  | case4 s => rfl

theorem names_last {s : Text} (hslash : ∀ r, s ≠ '/' :: r) (hne : s ≠ []) :
    names s.reverse = names (s.dropWhile (· != '/')).reverse ++ [(s.takeWhile (· != '/')).reverse] := by
  have hword : names (s.takeWhile (· != '/')).reverse = [(s.takeWhile (· != '/')).reverse] := by
    apply names_of_word
    · cases s with
      | nil => exact absurd rfl hne
      | cons c r =>
        have hc : c ≠ '/' := fun hc => hslash r (by rw [hc])
        simp [hc]
    · intro hmem
      simpa using List.mem_takeWhile_imp (List.mem_reverse.1 hmem)
  have hsplit : s.reverse = (s.dropWhile (· != '/')).reverse ++ (s.takeWhile (· != '/')).reverse := by
    rw [← List.reverse_append, List.takeWhile_append_dropWhile]
  -- what stands in front of the first slash is the last name, and the slash ends the names before it
  rw [hsplit, ← hword]
  cases hrest : s.dropWhile (· != '/') with
  | nil => rfl
  | cons c r =>
    have hc : c = '/' := by
      have := List.head?_dropWhile_not (· != '/') s
      rw [hrest] at this
      simpa using this
    subst hc
    have hempty : names [] = [] := rfl
    rw [List.reverse_cons, List.append_assoc, List.singleton_append, names_append_cons, names_append_cons, hempty,
      List.append_nil]

/-- An absolute path has a slash in front, so there is one before its last name. -/
theorem slash_mem_of_suffix {s path : Text} (hsuffix : s <:+ path.reverse) (hne : s ≠ [])
    (habsolute : isAbsolute path = true) : '/' ∈ s := by
  cases path with
  | nil => cases habsolute
  | cons c r =>
    rw [isAbsolute_cons, beq_iff_eq] at habsolute
    subst habsolute
    obtain ⟨b, hb⟩ := hsuffix
    obtain ⟨a, d, rfl⟩ : ∃ a d, s = a ++ [d] := (List.eq_nil_or_concat' s).resolve_left hne
    rw [← List.append_assoc, List.reverse_cons] at hb
    rw [(List.append_inj' hb rfl).2]
    simp

/-- The path without its last name, for a path that only leads down: there is one if there is a name, and it
starts where the path starts. -/
theorem Downward.parent?_cases {path : Text} (h : Downward path) :
    (names path = [] ∧ parent? path = none) ∨
      (names path ≠ [] ∧ ∃ dir, parent? path = some dir ∧ dir <+: path ∧ isAbsolute dir = isAbsolute path ∧
        names dir = (names path).dropLast) := by
  have hnames := names_dropIdleTail (s := path.reverse) (by rw [List.reverse_reverse]; exact h.dot_notMem)
  rw [List.reverse_reverse] at hnames
  have hsuffix := dropIdleTail_suffix path.reverse
  rw [parent?]
  generalize hs : dropIdleTail path.reverse = s at hnames hsuffix
  split
  · exact .inl ⟨hnames.symm, rfl⟩
  · exact .inl ⟨hnames.symm, rfl⟩
  · next hnil hroot =>
    have hslash : ∀ r, s ≠ '/' :: r := by
      rintro r rfl
      exact hroot (by rw [eq_nil_of_dropIdleTail hs])
    have hlast := names_last hslash hnil
    rw [hnames] at hlast
    have hprefix : (dropIdleTail (s.dropWhile (· != '/'))).reverse <+: path := by
      rw [← List.reverse_suffix, List.reverse_reverse]
      exact ((dropIdleTail_suffix _).trans (List.dropWhile_suffix _)).trans hsuffix
    refine .inr ⟨by rw [hlast]; simp, _, rfl, hprefix, ?_, ?_⟩
    · cases habsolute : isAbsolute path with
      | true =>
        have hrest : s.dropWhile (· != '/') ≠ [] := by
          rw [Ne, List.dropWhile_eq_nil_iff]
          intro hall
          exact absurd (hall '/' (slash_mem_of_suffix hsuffix hnil habsolute)) (by decide)
        rw [isAbsolute_of_start hprefix (by simpa using dropIdleTail_ne_nil hrest), habsolute]
      | false =>
        by_cases hempty : (dropIdleTail (s.dropWhile (· != '/'))).reverse = []
        · rw [hempty]
          rfl
        · rw [isAbsolute_of_start hprefix hempty, habsolute]
    · rw [names_dropIdleTail, hlast, List.dropLast_concat]
      intro hdot
      exact h.dot_notMem (by rw [hlast]; exact List.mem_append_left _ hdot)

end StylePrune.Path
