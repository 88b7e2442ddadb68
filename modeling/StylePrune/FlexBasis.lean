import StylePrune.Text.Word
import StylePrune.Text.LetterCase

/-!
Explicit flex bases.

Some engines mishandle a `flex` value whose basis is left out or is a zero without a unit. A value of
one number, two numbers, or two numbers and `0` is rewritten to three parts with the basis `0%`; all
other text stays as it is. A declaration starts at the start of the text or after a brace, a semicolon
or white space, and its value runs to the next brace or semicolon.
-/
namespace StylePrune.FlexBasis

/-- How a rewritten declaration is spaced. -/
inductive Spacing where
  /-- A space after the colon and before a priority. -/
  | loose
  /-- No space that can be left out. -/
  | compact
deriving DecidableEq, Repr

/-- A declaration of a flex value: everything up to the value, and what follows it. -/
structure Decl where
  name : Text
  /-- The colon and the white space around it. -/
  gap : Text
  value : Text
  rest : Text

/-- A declaration may start after this character. -/
def isLead (c : Char) : Bool := c == '{' || c == ';' || Text.isBlank c

/-- A value ends before this character. -/
def endsValue (c : Char) : Bool := c == ';' || c == '{' || c == '}'

/-- The property name after a vendor mark at the start of a text. -/
def marked? (mark s : Text) : Option (Text × Text) :=
  match Text.dropFolded? mark s with
  | some (m, r) => (Text.dropFolded? "flex".toList r).map fun (w, t) => (m ++ w, t)
  | none => none

/-- The property name at the start of a text, with its vendor mark if it has one. -/
def name? (s : Text) : Option (Text × Text) :=
  match marked? "-ms-".toList s with
  | some n => some n
  | none =>
    match marked? "-webkit-".toList s with
    | some n => some n
    | none => Text.dropFolded? "flex".toList s

/-- The declaration at the start of a text. -/
def decl? (s : Text) : Option Decl :=
  match name? s with
  | none => none
  | some (name, r) =>
    match r.dropWhile Text.isBlank with
    | ':' :: t =>
      let v := t.dropWhile Text.isBlank
      some
        { name
          gap := r.takeWhile Text.isBlank ++ ':' :: t.takeWhile Text.isBlank
          value := v.takeWhile fun c => !endsValue c
          rest := v.dropWhile fun c => !endsValue c }
    | _ => none

/-- The declaration as it was written. -/
def Decl.text (d : Decl) : Text := d.name ++ d.gap ++ d.value

theorem marked?_append {mark s n r : Text} (h : marked? mark s = some (n, r)) : n ++ r = s := by
  simp only [marked?] at h
  split at h
  · rename_i m t ht
    obtain ⟨⟨w, u⟩, h1, h2⟩ := Option.map_eq_some_iff.1 h
    simp only [Prod.mk.injEq] at h2
    rw [← h2.1, ← h2.2, List.append_assoc, Text.dropFolded?_append h1, Text.dropFolded?_append ht]
  · simp at h

theorem name?_append {s n r : Text} (h : name? s = some (n, r)) : n ++ r = s := by
  simp only [name?] at h
  split at h
  · rename_i m hm
    cases h
    exact marked?_append hm
  · split at h
    · rename_i m hm
      cases h
      exact marked?_append hm
    · exact Text.dropFolded?_append h

/-- A declaration is a start of the text it was found in. -/
theorem decl?_append {s : Text} {d : Decl} (h : decl? s = some d) : d.text ++ d.rest = s := by
  simp only [decl?] at h
  split at h
  · simp at h
  · rename_i n r hn
    split at h
    · rename_i t ht
      cases h
      have h1 := List.takeWhile_append_dropWhile (p := Text.isBlank) (l := r)
      rw [ht] at h1
      have h2 := List.takeWhile_append_dropWhile (p := Text.isBlank) (l := t)
      have h3 := List.takeWhile_append_dropWhile (p := fun c => !endsValue c) (l := t.dropWhile Text.isBlank)
      simp only [Decl.text, List.append_assoc, List.cons_append, h3, h2, h1]
      exact name?_append hn
    · simp at h

theorem decl?_rest_length {s : Text} {d : Decl} (h : decl? s = some d) : d.rest.length ≤ s.length := by
  have := congrArg List.length (decl?_append h)
  simp at this; omega

/-- Digits with at most one point, at least one of them at the end. -/
def isNumber (t : Text) : Bool :=
  match t.dropWhile Text.isDecimal with
  | [] => !t.isEmpty
  | '.' :: r => !r.isEmpty && r.all Text.isDecimal
  | _ => false

/-- The value with an explicit basis, when it needs one. -/
def explicit? (value : Text) : Option Text :=
  match Text.words value with
  | [grow] => if isNumber grow then some (grow ++ " 1 0%".toList) else none
  | [grow, shrink] =>
    if isNumber grow && isNumber shrink then some (grow ++ ' ' :: shrink ++ " 0%".toList) else none
  | [grow, shrink, ['0']] =>
    if isNumber grow && isNumber shrink then some (grow ++ ' ' :: shrink ++ " 0%".toList) else none
  | _ => none

/-- A value without white space at its end, parted before a priority that ends it. -/
def partPriority (value : Text) : Text × Text :=
  let whole := Text.trimEnd value
  let at_ := whole.length - "!important".toList.length
  if "!important".toList.length ≤ whole.length ∧
      Text.lowerAscii (whole.drop at_) = "!important".toList then
    (Text.trimEnd (whole.take at_), whole.drop at_)
  else (whole, [])

/-- The declaration with an explicit basis, as written when it needs none. -/
def Decl.rewritten (spacing : Spacing) (d : Decl) : Text :=
  if d.rest.head? = some '{' then d.text
  else
    let (value, priority) := partPriority d.value
    match explicit? value, spacing with
    | some v, .compact => d.name ++ ':' :: v ++ priority
    | some v, .loose => d.name ++ ": ".toList ++ v ++ (if priority.isEmpty then [] else ' ' :: priority)
    | none, _ => d.text

/-- Rewrites the rest of a text in which no declaration starts before the next lead character. -/
def rewriteFrom (spacing : Spacing) : Text → Text
  | [] => []
  | c :: r =>
    if isLead c then
      match _h : decl? r with
      | some d => c :: d.rewritten spacing ++ rewriteFrom spacing d.rest
      | none => c :: rewriteFrom spacing r
    else c :: rewriteFrom spacing r
termination_by s => s.length
decreasing_by
  · have := decl?_rest_length _h; simp; omega
  · simp
  · simp

/-- Makes the basis of every flex declaration explicit. -/
def rewrite (spacing : Spacing) (css : Text) : Text :=
  match decl? css with
  | some d => d.rewritten spacing ++ rewriteFrom spacing d.rest
  | none => rewriteFrom spacing css

end StylePrune.FlexBasis
