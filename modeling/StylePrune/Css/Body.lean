import StylePrune.Css.Reader

/-!
Blocks that hold declarations only.

`Body.items` reads such a block declaration by declaration. What has a fault takes the place of a
declaration, up to its semicolon or through its block, so that the reader of the block may skip it.
-/
namespace StylePrune.Css

/-- What a step reads or why it cannot, and where reading goes on in either case. -/
abbrev Step (α : Type) := Except Fault α × Stream

namespace Stream

/-- Runs a reader on what stands before a component of a kind. -/
def before {α : Type} (s : Stream) (stop : Token → Bool) (p : Reader α) : Step α :=
  let (a, b) := s.cut stop
  (Reader.whole p a, b)

/-- Drops the first component. -/
def tail (s : Stream) : Stream := { s with items := s.items.tail }

/-- Behind an item without a meaning: a rule with its block or semicolon, or all up to a semicolon. -/
def afterItem (s : Stream) : Stream := (s.cut fun t => t == .semicolon || t == .opening .curly).2.tail

end Stream

/-- A token between two items of a block. -/
def isFiller : Token → Bool
  | .blank _ | .comment _ | .semicolon | .closing .curly => true
  | _ => false

namespace Body

/-- The declarations of a block, of which each step takes one component at least. -/
def itemsFrom {α : Type} (afterName : Text → Reader α) : Nat → Stream → List (Except Fault α)
  | 0, _ => []
  | fuel + 1, s =>
    match s.items with
    | [] => []
    | c :: _ =>
      if isFiller c.token then itemsFrom afterName fuel s.tail
      else match c.token with
        | .ident name =>
          let (r, rest) := s.tail.before (· == .semicolon) (afterName name)
          r :: itemsFrom afterName fuel rest.tail
        | .atKeyword name =>
          .error ⟨.unknownAtRule name, s.tail.place⟩ :: itemsFrom afterName fuel s.tail.afterItem
        | t => .error ⟨.unexpected t, s.place⟩ :: itemsFrom afterName fuel (s.cut (· == .semicolon)).2.tail

/-- The declarations of a block, each read behind its name. -/
def items {α : Type} (afterName : Text → Reader α) (s : Stream) : List (Except Fault α) :=
  itemsFrom afterName (s.items.length + 1) s

/-- What can be read of a block. -/
def sound {α : Type} (afterName : Text → Reader α) (s : Stream) : List α :=
  (items afterName s).filterMap Except.toOption

end Body
end StylePrune.Css
