import StylePrune.Text.Basic

/-!
The pieces that an outline of a stylesheet is read from.

A stylesheet is cut into plain characters, escapes, quoted strings and comments. Braces and
semicolons count only as plain characters, so everything above this module recurses on a list of
lexemes and never looks inside a string. `text_lexemes` says that cutting loses nothing.
-/
namespace StylePrune

/-- One piece of a stylesheet. -/
inductive Lexeme where
  /-- A character that stands for itself. -/
  | plain (c : Char)
  /-- A backslash with the character it takes along, if there is one. -/
  | escape (next : Option Char)
  /-- A quote, what follows it, and the end of the string if it is closed. -/
  | quoted (quote : Char) (rest : Text)
  /-- What follows the opening of a comment, its end included if it is closed. -/
  | comment (rest : Text)
deriving DecidableEq, Repr

namespace Lexeme

/-- The characters that a lexeme was cut from. -/
def text : Lexeme → Text
  | plain c => [c]
  | escape none => ['\\']
  | escape (some c) => ['\\', c]
  | quoted q r => q :: r
  | comment r => '/' :: '*' :: r

end Lexeme

namespace Outline

/-- The rest of a comment up to and including its end, and what follows. -/
def cutComment : Text → Text × Text
  | [] => ([], [])
  | c :: r =>
    match c, r with
    | '*', '/' :: s => (['*', '/'], s)
    | _, _ => let (a, b) := cutComment r; (c :: a, b)

/-- The rest of a string up to and including its closing quote or a line end, and what follows.
A backslash takes the next character along. -/
def cutString (quote : Char) : Text → Text × Text
  | [] => ([], [])
  | [c] => ([c], [])
  | c :: d :: r =>
    if c = '\\' then let (a, b) := cutString quote r; (c :: d :: a, b)
    else if c = quote ∨ c = '\n' then ([c], d :: r)
    else let (a, b) := cutString quote (d :: r); (c :: a, b)

theorem cutComment_append (s : Text) : (cutComment s).1 ++ (cutComment s).2 = s := by
  induction s with
  | nil => rfl
  | cons c r ih =>
    unfold cutComment
    split
    · rfl
    · simp [ih]

theorem cutString_append (q : Char) (s : Text) : (cutString q s).1 ++ (cutString q s).2 = s := by
  fun_induction cutString q s with
  | case1 => rfl
  | case2 => rfl
  | case3 d r ih a b h => simp_all
  | case4 => rfl
  | case5 c d r h1 h2 ih a b h => simp_all

theorem cutComment_length (s : Text) : (cutComment s).2.length ≤ s.length := by
  have h := congrArg List.length (cutComment_append s)
  simp at h; omega

theorem cutString_length (q : Char) (s : Text) : (cutString q s).2.length ≤ s.length := by
  have h := congrArg List.length (cutString_append q s)
  simp at h; omega

/-- Cuts a stylesheet into lexemes. -/
def lexemes : Text → List Lexeme
  | [] => []
  | c :: r =>
    if c = '"' ∨ c = '\'' then
      .quoted c (cutString c r).1 :: lexemes (cutString c r).2
    else if c = '\\' then .escape r.head? :: lexemes r.tail
    else if c = '/' ∧ r.head? = some '*' then
      .comment (cutComment r.tail).1 :: lexemes (cutComment r.tail).2
    else .plain c :: lexemes r
termination_by s => s.length
decreasing_by
  · have := cutString_length c r; simp; omega
  · simp only [List.length_tail, List.length_cons]; omega
  · have := cutComment_length r.tail; simp at *; omega
  · simp

/-- The text of a run of lexemes. -/
def textOf (ls : List Lexeme) : Text := ls.flatMap Lexeme.text

theorem textOf_cons (l : Lexeme) (ls : List Lexeme) : textOf (l :: ls) = l.text ++ textOf ls := rfl

/-- Cutting into lexemes loses nothing. -/
theorem textOf_lexemes (s : Text) : textOf (lexemes s) = s := by
  fun_induction lexemes s with
  | case1 => rfl
  | case2 c r h ih => simp [textOf_cons, Lexeme.text, ih, cutString_append]
  | case3 r h ih => cases r <;> simp_all [textOf_cons, Lexeme.text]
  | case4 c r h1 h2 h ih =>
    obtain ⟨hc, hr⟩ := h
    cases r with
    | nil => simp at hr
    | cons d t => simp_all [textOf_cons, Lexeme.text, cutComment_append]
  | case5 => simp_all [textOf_cons, Lexeme.text]

end Outline
end StylePrune
