import StylePrune.Text.LetterCase

/-!
The `url()` tokens of a stylesheet text.

`Sheet.mapUrls` replaces paths inside `url()` tokens and leaves everything else as written, quotes
included. A token is `url(`, a quoted path without its quote or a bare path without quotes, white
space and closing parenthesis, and `)`, with white space allowed inside the parentheses.
-/
namespace StylePrune.Sheet

/-- How a path is quoted inside `url()`. -/
inductive Quoting where
  | double
  | single
  | bare
deriving DecidableEq, Repr

/-- The quote as written. -/
def Quoting.text : Quoting → Text
  | .double => ['"']
  | .single => ['\'']
  | .bare => []

/-- A `url()` token, its text as written and what follows it. -/
structure UrlToken where
  quoting : Quoting
  path : Text
  text : Text
  rest : Text

/-- A character of a bare path. -/
def isBareChar (c : Char) : Bool := !(c == '\'' || c == '"' || c == ')' || Text.isBlank c)

/-- The closing parenthesis after optional white space. -/
def close? (s : Text) : Option (Text × Text) :=
  match s.dropWhile Text.isBlank with
  | ')' :: r => some (s.takeWhile Text.isBlank ++ [')'], r)
  | _ => none

/-- A path in the given quotes and the closing parenthesis; `s` starts after the opening quote. -/
def quotedPath? (q : Char) (s : Text) : Option (Text × Text × Text) :=
  match s.dropWhile (· != q) with
  | _ :: r => (close? r).map fun (c, t) => (s.takeWhile (· != q), c, t)
  | [] => none

/-- The token at the start of a text. -/
def urlToken? (s : Text) : Option UrlToken :=
  match Text.dropFolded? "url(".toList s with
  | none => none
  | some (word, r) =>
    let gap := r.takeWhile Text.isBlank
    match r.dropWhile Text.isBlank with
    | '"' :: t =>
      (quotedPath? '"' t).map fun (p, c, u) => ⟨.double, p, word ++ gap ++ '"' :: p ++ '"' :: c, u⟩
    | '\'' :: t =>
      (quotedPath? '\'' t).map fun (p, c, u) => ⟨.single, p, word ++ gap ++ '\'' :: p ++ '\'' :: c, u⟩
    | t =>
      (close? (t.dropWhile isBareChar)).map fun (c, u) =>
        ⟨.bare, t.takeWhile isBareChar, word ++ gap ++ t.takeWhile isBareChar ++ c, u⟩

theorem close?_append {s c r : Text} (h : close? s = some (c, r)) : c ++ r = s := by
  simp only [close?] at h
  split at h
  · rename_i t ht
    simp only [Option.some.injEq, Prod.mk.injEq] at h
    rw [← h.1, ← h.2, List.append_assoc, List.singleton_append, ← ht]
    exact List.takeWhile_append_dropWhile
  · simp at h

theorem quotedPath?_append {q : Char} {s p c r : Text} (h : quotedPath? q s = some (p, c, r)) :
    p ++ q :: c ++ r = s := by
  simp only [quotedPath?] at h
  split at h
  · rename_i d t ht
    obtain ⟨⟨c', r'⟩, h1, h2⟩ := Option.map_eq_some_iff.1 h
    simp only [Prod.mk.injEq] at h2
    obtain ⟨hp, hc, hr⟩ := h2
    have hd : d = q := by
      have := List.head?_dropWhile_not (p := (· != q)) (l := s)
      rw [ht] at this
      simpa using this
    subst hp hc hr hd
    have := List.takeWhile_append_dropWhile (p := (· != d)) (l := s)
    rw [ht] at this
    simp only [List.append_assoc, List.cons_append, close?_append h1, this]
  · simp at h

/-- A token is a start of the text it was found in. -/
theorem urlToken?_append {s : Text} {u : UrlToken} (h : urlToken? s = some u) : u.text ++ u.rest = s := by
  simp only [urlToken?] at h
  split at h
  · simp at h
  · rename_i word r hw
    have hs := Text.dropFolded?_append hw
    have hr := List.takeWhile_append_dropWhile (p := Text.isBlank) (l := r)
    split at h
    · rename_i t ht
      obtain ⟨⟨p, c, v⟩, h1, rfl⟩ := Option.map_eq_some_iff.1 h
      rw [ht] at hr
      have := quotedPath?_append h1
      simp only [List.append_assoc, List.cons_append] at this
      simp only [List.append_assoc, List.cons_append, this, hr, hs]
    · rename_i t ht
      obtain ⟨⟨p, c, v⟩, h1, rfl⟩ := Option.map_eq_some_iff.1 h
      rw [ht] at hr
      have := quotedPath?_append h1
      simp only [List.append_assoc, List.cons_append] at this
      simp only [List.append_assoc, List.cons_append, this, hr, hs]
    · rename_i t h1 h2
      obtain ⟨⟨c, v⟩, h1, rfl⟩ := Option.map_eq_some_iff.1 h
      simp only [List.append_assoc, close?_append h1, List.takeWhile_append_dropWhile, hs]

theorem dropFolded?_lt {s w r : Text} {a : Char} {p : Text} (h : Text.dropFolded? (a :: p) s = some (w, r)) :
    r.length < s.length := by
  cases s with
  | nil => simp [Text.dropFolded?] at h
  | cons c cs =>
    simp only [Text.dropFolded?] at h
    split at h
    · obtain ⟨⟨w', r'⟩, h1, h2⟩ := Option.map_eq_some_iff.1 h
      simp only [Prod.mk.injEq] at h2
      have := Text.dropFolded?_length h1
      rw [← h2.2]; simp; omega
    · simp at h

theorem urlToken?_rest_length {s : Text} {u : UrlToken} (h : urlToken? s = some u) :
    u.rest.length < s.length := by
  have ha := congrArg List.length (urlToken?_append h)
  have : 0 < u.text.length := by
    simp only [urlToken?] at h
    split at h
    · simp at h
    · rename_i word r hw
      have hword : 0 < word.length := by
        have h1 := dropFolded?_lt (a := 'u') (p := "rl(".toList) hw
        have h2 := congrArg List.length (Text.dropFolded?_append hw)
        simp at h2; omega
      split at h <;>
      · obtain ⟨_, _, rfl⟩ := Option.map_eq_some_iff.1 h
        simp only [List.length_append]; omega
  simp at ha; omega

/-- Replaces paths of `url()` tokens; a path without replacement leaves its token as written. -/
def mapUrls (f : Text → Option Text) : Text → Text
  | [] => []
  | c :: r =>
    match _h : urlToken? (c :: r) with
    | some u =>
      (match f u.path with
        | some p => "url(".toList ++ u.quoting.text ++ p ++ u.quoting.text ++ [')']
        | none => u.text) ++ mapUrls f u.rest
    | none => c :: mapUrls f r
termination_by s => s.length
decreasing_by
  · exact urlToken?_rest_length _h
  · simp

/-- The path starts with a step that is relative to its stylesheet. -/
def isDotRelative (path : Text) : Bool :=
  Text.startsWith "./".toList path || Text.startsWith "../".toList path

/-- Resolves the relative paths of a stylesheet, given how a path is joined to the stylesheet's own
address. -/
def absolutize (joinBase : Text → Option Text) (css : Text) : Text :=
  mapUrls (fun p => if isDotRelative p then joinBase p else none) css

end StylePrune.Sheet
