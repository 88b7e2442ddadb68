import StylePrune.Outline.Node
import StylePrune.Proofs.Text.Basic

/-!
The grammar of the top level of a stylesheet, and how texts of the grammar are cut into lexemes.

A stylesheet is a list of parts (`Part`): white space, closed comments, closing braces that close
nothing, and items. An item (`Item`) is a prelude that ends in a semicolon or in a block. What may stand
in a prelude and in a block is said by `Contents`: characters that stand for themselves, closed comments,
strings that end on their line, escapes of characters other than white space and, in blocks only,
semicolons and nested blocks. `Closed` is a stylesheet in which every brace closes something.

`lexemes_append` is what scanning rests on: where contents end, a lexeme ends, so the lexemes of contents
do not depend on what follows them.
-/
namespace StylePrune.Outline

/-- A character that stands for itself: no quote, no backslash, no brace, and no white space but that of
ASCII. -/
def isBare (c : Char) : Bool :=
  c != '"' && c != '\'' && c != '\\' && c != '{' && c != '}' && (Text.isAsciiBlank c || !Text.isBlank c)

/-- The two places of an item where text of the author's choice stands. -/
inductive Region where
  | prelude
  | block
deriving DecidableEq

/-- A character that may stand for itself in a region. A semicolon would end a prelude. -/
def Region.admits : Region → Char → Bool
  | prelude, c => isBare c && c != ';'
  | block, c => isBare c

/-- What may stand between the quotes `q` of a string. A backslash takes the next character along. -/
inductive StringBody (q : Char) : Text → Prop where
  | nil : StringBody q []
  | escape {c : Char} {s : Text} : StringBody q s → StringBody q ('\\' :: c :: s)
  | char {c : Char} {s : Text} : c ≠ q → c ≠ '\\' → c ≠ '\n' → StringBody q s → StringBody q (c :: s)

def CommentBody (s : Text) : Prop := ¬ ['*', '/'] <:+: s

theorem CommentBody.of_cons {c : Char} {s : Text} (h : CommentBody (c :: s)) : CommentBody s :=
  fun hi => h (hi.trans (List.suffix_cons c s).isInfix)

/-- What may stand in a region. -/
inductive Contents : Region → Text → Prop where
  | nil {r : Region} : Contents r []
  /-- A character that stands for itself and does not open a comment. -/
  | char {r : Region} {c : Char} {s : Text} : r.admits c = true → (c = '/' → s.head? ≠ some '*') →
      Contents r s → Contents r (c :: s)
  | comment {r : Region} {t s : Text} : CommentBody t → Contents r s →
      Contents r ('/' :: '*' :: (t ++ '*' :: '/' :: s))
  | string {r : Region} {q : Char} {t s : Text} : q = '"' ∨ q = '\'' → StringBody q t → Contents r s →
      Contents r (q :: (t ++ q :: s))
  | escape {r : Region} {c : Char} {s : Text} : Text.isBlank c = false → Contents r s →
      Contents r ('\\' :: c :: s)
  | block {t s : Text} : Contents .block t → Contents .block s → Contents .block ('{' :: (t ++ '}' :: s))

/-- A statement or block of the top level. -/
structure Item where
  prelude : Text
  /-- The inside of the block; none if a semicolon ends the item. -/
  block : Option Text
  prelude_contents : Contents .prelude prelude
  block_contents : ∀ b ∈ block, Contents .block b
  /-- White space and comments in front of an item are no part of it. -/
  starts : (∀ c ∈ prelude.head?, Text.isAsciiBlank c = false) ∧ ¬ ['/', '*'] <+: prelude

namespace Item

def tail (i : Item) : Text :=
  match i.block with
  | none => [';']
  | some b => '{' :: (b ++ ['}'])

def text (i : Item) : Text := i.prelude ++ i.tail

def node (i : Item) : Node :=
  match i.prelude with
  | '@' :: r => .atRule (r.takeWhile isNameChar) (Text.trim (r.dropWhile isNameChar)) i.block i.text
  | _ => .rule i.text

theorem node_of_at {i : Item} {r : Text} (h : i.prelude = '@' :: r) :
    i.node = .atRule (r.takeWhile isNameChar) (Text.trim (r.dropWhile isNameChar)) i.block i.text := by
  rw [node, h]
  rfl

theorem node_of_not_at {i : Item} (h : i.prelude.head? ≠ some '@') : i.node = .rule i.text := by
  unfold node
  split
  · next r hr => exact absurd (by rw [hr]; rfl) h
  · rfl

theorem node_text (i : Item) : i.node.text = i.text := by
  unfold node
  split <;> rfl

end Item

inductive Part where
  | blank (c : Char) (h : Text.isAsciiBlank c = true)
  | comment (t : Text) (h : CommentBody t)
  /-- A closing brace that closes nothing. -/
  | stray
  | item (i : Item)

namespace Part

def text : Part → Text
  | blank c _ => [c]
  | comment t _ => '/' :: '*' :: (t ++ ['*', '/'])
  | stray => ['}']
  | item i => i.text

def item? : Part → Option Item
  | item i => some i
  | _ => none

def textOf (ps : List Part) : Text := ps.flatMap text

def items (ps : List Part) : List Item := ps.filterMap item?

@[simp] theorem textOf_nil : textOf [] = [] := rfl
@[simp] theorem textOf_cons (p : Part) (ps : List Part) : textOf (p :: ps) = p.text ++ textOf ps := rfl
@[simp] theorem textOf_append (ps qs : List Part) : textOf (ps ++ qs) = textOf ps ++ textOf qs := by
  simp [textOf]

@[simp] theorem items_append (ps qs : List Part) : items (ps ++ qs) = items ps ++ items qs := by
  simp [items]

end Part

/-- A stylesheet whose comments, strings and blocks are closed and that closes nothing else. -/
def Closed (css : Text) : Prop := ∃ ps : List Part, Part.stray ∉ ps ∧ Part.textOf ps = css

/-! ## Cutting texts of the grammar -/

theorem cutComment_closed {t : Text} (h : CommentBody t) (r : Text) :
    cutComment (t ++ '*' :: '/' :: r) = (t ++ ['*', '/'], r) := by
  induction t with
  | nil => simp [cutComment]
  | cons c t ih =>
    have hend : ∀ u, c = '*' → t ++ '*' :: '/' :: r = '/' :: u → False := by
      rintro u rfl heq
      cases t with
      | nil => simp at heq
      | cons d t =>
        rw [List.cons_append, List.cons.injEq] at heq
        rw [heq.1] at h
        exact h (List.prefix_append ['*', '/'] t).isInfix
    rw [List.cons_append, cutComment, ih h.of_cons]
    · rfl
    · exact hend

/-- A comment that does not end takes up everything. -/
theorem cutComment_open {t : Text} (h : CommentBody t) : cutComment t = (t, []) := by
  induction t with
  | nil => rfl
  | cons c t ih =>
    have hend : ∀ v, c = '*' → t = '/' :: v → False := by
      rintro v rfl rfl
      exact h (List.prefix_append ['*', '/'] v).isInfix
    rw [cutComment, ih h.of_cons]
    exact hend

theorem commentBody_or (t : Text) : CommentBody t ∨ ∃ v w, CommentBody v ∧ t = v ++ '*' :: '/' :: w := by
  induction t with
  | nil => exact .inl (by rw [CommentBody]; simp)
  | cons c t ih =>
    by_cases hend : ['*', '/'] <+: c :: t
    · obtain ⟨w, hw⟩ := hend
      exact .inr ⟨[], w, by rw [CommentBody]; simp, hw.symm⟩
    · rcases ih with ht | ⟨v, w, hv, rfl⟩
      · exact .inl fun hi => (List.infix_cons_iff.1 hi).elim hend ht
      · refine .inr ⟨c :: v, w, fun hi => (List.infix_cons_iff.1 hi).elim (fun hp => hend ?_) hv, rfl⟩
        exact hp.trans (List.prefix_append (c :: v) ('*' :: '/' :: w))

theorem cutString_closed {q : Char} {t : Text} (hq : q = '"' ∨ q = '\'') (h : StringBody q t) (r : Text) :
    cutString q (t ++ q :: r) = (t ++ [q], r) := by
  induction h with
  | nil =>
    have hne : q ≠ '\\' := by rintro rfl; simp at hq
    cases r with
    | nil => rfl
    | cons d r => simp [cutString, hne]
  | escape _ ih => simp [cutString, ih]
  | @char c s h1 h2 h3 _ ih =>
    obtain ⟨d, u, hu⟩ : ∃ d u, s ++ q :: r = d :: u := by cases s <;> simp
    rw [hu] at ih
    rw [List.cons_append, hu, cutString, if_neg h2, if_neg (by simp [h1, h3]), ih]
    rfl

theorem lexemes_string {q : Char} {t : Text} (hq : q = '"' ∨ q = '\'') (h : StringBody q t) (r : Text) :
    lexemes (q :: (t ++ q :: r)) = .quoted q (t ++ [q]) :: lexemes r := by
  rw [lexemes, if_pos hq, cutString_closed hq h]

theorem lexemes_opened (r : Text) :
    lexemes ('/' :: '*' :: r) = .comment (cutComment r).1 :: lexemes (cutComment r).2 := by
  rw [lexemes, if_neg (by decide), if_neg (by decide), if_pos ⟨rfl, rfl⟩, List.tail_cons]

theorem lexemes_comment {t : Text} (h : CommentBody t) (r : Text) :
    lexemes ('/' :: '*' :: (t ++ '*' :: '/' :: r)) = .comment (t ++ ['*', '/']) :: lexemes r := by
  rw [lexemes_opened, cutComment_closed h]

theorem lexemes_openComment {t : Text} (ht : CommentBody t) : lexemes ('/' :: '*' :: t) = [.comment t] := by
  rw [lexemes_opened, cutComment_open ht, lexemes]

theorem lexemes_escape (c : Char) (r : Text) : lexemes ('\\' :: c :: r) = .escape (some c) :: lexemes r := by
  rw [lexemes, if_neg (by simp), if_pos rfl]
  rfl

theorem lexemes_plain {c : Char} {r : Text} (hq : c ≠ '"' ∧ c ≠ '\'') (he : c ≠ '\\')
    (hc : c = '/' → r.head? ≠ some '*') : lexemes (c :: r) = .plain c :: lexemes r := by
  rw [lexemes, if_neg (by simp [hq]), if_neg he, if_neg (fun h => hc h.1 h.2)]

theorem lexemes_brace {c : Char} (hc : c = '{' ∨ c = '}') (r : Text) :
    lexemes (c :: r) = .plain c :: lexemes r := by
  rcases hc with rfl | rfl <;> exact lexemes_plain (by simp) (by simp) (by simp)

theorem Region.bare_of_admits {r : Region} {c : Char} (h : r.admits c = true) : isBare c = true := by
  cases r with
  | prelude => exact (Bool.and_eq_true_iff.1 h).1
  | block => exact h

theorem lexemes_bare {c : Char} {r : Text} (h : isBare c = true) (hc : c = '/' → r.head? ≠ some '*') :
    lexemes (c :: r) = .plain c :: lexemes r := by
  simp only [isBare, Bool.and_eq_true, bne_iff_ne, ne_eq] at h
  exact lexemes_plain ⟨h.1.1.1.1.1, h.1.1.1.1.2⟩ h.1.1.1.2 hc

/-- Where contents end, a lexeme ends. The lexemes of contents are the same whatever follows, unless
that makes a slash at their end open a comment. -/
theorem lexemes_append {r : Region} {s : Text} (h : Contents r s) {rest : Text}
    (hr : rest.head? ≠ some '*') : lexemes (s ++ rest) = lexemes s ++ lexemes rest := by
  induction h generalizing rest with
  | nil => simp [lexemes]
  | @char r c s hb hc _ ih =>
    have hc' : c = '/' → (s ++ rest).head? ≠ some '*' := fun h => by
      cases s with
      | nil => exact hr
      | cons d s => exact hc h
    rw [List.cons_append, lexemes_bare (Region.bare_of_admits hb) hc', ih hr,
      lexemes_bare (Region.bare_of_admits hb) hc, List.cons_append]
  | @comment r t s ht _ ih =>
    have := lexemes_comment ht (s ++ rest)
    simp only [List.cons_append, List.append_assoc] at this ⊢
    rw [this, lexemes_comment ht, ih hr, List.cons_append]
  | @string r q t s hq ht _ ih =>
    have := lexemes_string hq ht (s ++ rest)
    simp only [List.cons_append, List.append_assoc] at this ⊢
    rw [this, lexemes_string hq ht, ih hr, List.cons_append]
  | @escape r c s _ _ ih =>
    rw [List.cons_append, List.cons_append, lexemes_escape, ih hr, lexemes_escape, List.cons_append]
  | @block t s _ _ iht ihs =>
    have hs : ∀ u : Text, lexemes ('{' :: (t ++ '}' :: u)) =
        .plain '{' :: (lexemes t ++ .plain '}' :: lexemes u) := fun u => by
      rw [lexemes_brace (.inl rfl), iht (by simp), lexemes_brace (.inr rfl)]
    rw [List.cons_append, List.append_assoc, List.cons_append, hs, hs, ihs hr]
    simp

end StylePrune.Outline
