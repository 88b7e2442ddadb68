import StylePrune.Css.Lexer

/-!
A stylesheet as a tree of components.

A component is a token or a block: an opening token, what stands inside, and the closing token, which
the end of the text stands in for. A closing token that ends no open block stays a token.
-/
namespace StylePrune.Css

/-- A token, or a block with everything inside it. -/
inductive Component where
  | leaf (token : Token) (place : Place) (written : Text)
  /-- A block: its opening token, its parts, and the place and text of its end. -/
  | block (first : Token) (place : Place) (written : Text) (parts : List Component)
      (finish : Place) (ending : Text)
deriving Repr

namespace Component

/-- The token that the component starts with. -/
def token : Component → Token
  | leaf t _ _ => t
  | block t _ _ _ _ _ => t

/-- Where the component starts. -/
def place : Component → Place
  | leaf _ p _ => p
  | block _ p _ _ _ _ => p

mutual
/-- The characters of a component. -/
def source : Component → Text
  | leaf _ _ w => w
  | block _ _ w parts _ ending => w ++ sources parts ++ ending

/-- The characters of a list of components. -/
def sources : List Component → Text
  | [] => []
  | c :: r => source c ++ sources r
end

mutual
/-- How many tokens a component holds. -/
def size : Component → Nat
  | leaf _ _ _ => 1
  | block _ _ _ parts _ _ => sizes parts + 2

/-- How many tokens a list of components holds. -/
def sizes : List Component → Nat
  | [] => 0
  | c :: r => size c + sizes r
end

mutual
/-- The first token in the component that makes a value invalid, with its place. -/
def broken? : Component → Option (Token × Place)
  | leaf t place _ => if t.isBroken then some (t, place) else none
  | block _ _ _ parts _ _ => anyBroken? parts

/-- The first token in the list that makes a value invalid, with its place. -/
def anyBroken? : List Component → Option (Token × Place)
  | [] => none
  | c :: r => (broken? c).or (anyBroken? r)
end

/-- A block that is still open, with the parts before it in reverse. -/
structure Open where
  first : TokenAt
  bracket : Bracket
  before : List Component

/-- Closes a block and puts it behind the parts before it. -/
def Open.close (o : Open) (parts : List Component) (finish : Place) (ending : Text) : List Component :=
  .block o.first.token o.first.place o.first.written parts.reverse finish ending :: o.before

/-- Builds the tree from tokens. The parts of the innermost open block come in reverse, and the end of
the text closes what is still open. -/
def build (finish : Place) : List Open → List Component → List TokenAt → List Component
  | [], acc, [] => acc.reverse
  | o :: os, acc, [] => build finish os (o.close acc finish []) []
  | os, acc, t :: ts =>
    match t.token.opens with
    | some b => build finish (⟨t, b, acc⟩ :: os) [] ts
    | none =>
      match t.token, os with
      | .closing b, o :: rest =>
        if o.bracket = b then build finish rest (o.close acc t.place t.written) ts
        else build finish (o :: rest) (.leaf t.token t.place t.written :: acc) ts
      | _, _ => build finish os (.leaf t.token t.place t.written :: acc) ts
termination_by os _ ts => (ts.length, os.length)

end Component

/-- Components that are still to be read, and the place where they end. -/
structure Stream where
  items : List Component
  finish : Place
deriving Repr

namespace Stream

/-- A whole stylesheet. -/
def ofText (s : Text) : Stream :=
  let finish := Place.start.behind s
  ⟨Component.build finish [] [] (lexemes s), finish⟩

/-- Where reading goes on. -/
def place (s : Stream) : Place := match s.items with
  | c :: _ => c.place
  | [] => s.finish

/-- Removes white space and comments from the start. -/
def skipSpace (s : Stream) : Stream := { s with items := s.items.dropWhile (·.token.isSpace) }

/-- What stands before the first component of a kind, and the rest from there on. -/
def cut (stop : Token → Bool) (s : Stream) : Stream × Stream :=
  let (a, b) := s.items.span fun c => !stop c.token
  let rest : Stream := ⟨b, s.finish⟩
  (⟨a, rest.place⟩, rest)

/-- How many tokens are left. -/
def size (s : Stream) : Nat := Component.sizes s.items

end Stream
end StylePrune.Css
