import StylePrune.Markup.Rules

/-!
Links of a markup: the tokens are taken one after another, and what stands in an element that holds no
markup is passed over.
-/
namespace StylePrune.Markup

namespace Builder

/-- A section without markup may stand where the innermost open element is of another vocabulary. -/
def allowsSection (b : Builder) : Bool := b.currentIs fun e => e.vocabulary != .html

/-- What is left to read once the content of an element that holds no markup is passed over. -/
def afterRaw (b : Builder) (s : Text) : Text :=
  match b.raw with
  | none => s
  | some [] => []
  | some name => if name == "script".toList then afterScript .plain 0 s else afterRawText name s

/-- Takes the next tokens of a markup; what is left comes with the new state. -/
def step (b : Builder) (s : Text) : Builder × Text :=
  let (toks, r) := next b.allowsSection s
  let b' := toks.foldl (fun b tok => b.take tok) b
  ({ b' with raw := none }, b'.afterRaw r)

/-- The state after a markup; `fuel` bounds the steps, each of which takes at least one character. -/
def readBy : Nat → Builder → Text → Builder
  | 0, b, _ => b
  | _ + 1, b, [] => b
  | fuel + 1, b, s => let (b', r) := b.step s; readBy fuel b' r

/-- The state after a markup. -/
def read (b : Builder) (s : Text) : Builder :=
  let t := unifyLines (match s with
    | '\uFEFF' :: r => r
    | _ => s)
  b.readBy t.length t

end Builder

/-- The links of a page, in the order of their tags. -/
def pageLinks (s : Text) : List Link := (Builder.page.read s).links

/-- The links of a part of a page that stands in its body. -/
def partLinks (s : Text) : List Link := (Builder.part.read s).links

end StylePrune.Markup
