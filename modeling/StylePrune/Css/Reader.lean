import StylePrune.Css.Component
import StylePrune.Css.Fault

/-!
Reading components one after another.

A `Reader` takes components from a stream or stops with a fault. Trying a reader that fails leaves the
stream as it was, because a failed reader gives no stream back.
-/
namespace StylePrune.Css

/-- A word that every property has, so that it names nothing. -/
def isWide (w : Text) : Bool :=
  ["initial", "inherit", "unset", "default", "revert", "revert-layer"].any (·.toList = Text.lowerAscii w)

/-- A reader of components. -/
abbrev Reader := StateT Stream (Except Fault)

namespace Reader

/-- The place where reading goes on. -/
def here : Reader Place := do return (← get).place

/-- Stops with a cause at a place. -/
def failAt {α : Type} (cause : Cause) (place : Place) : Reader α := throw ⟨cause, place⟩

/-- Stops with a cause where reading goes on. -/
def fail {α : Type} (cause : Cause) : Reader α := do failAt cause (← here)

/-- The next component of any kind. -/
def nextAny : Reader Component := do
  match (← get).items with
  | [] => fail .endOfInput
  | c :: r => modify ({ · with items := r }); return c

/-- Removes white space and comments. -/
def skipSpace : Reader Unit := modify Stream.skipSpace

/-- Removes comments. -/
def skipComments : Reader Unit :=
  modify fun s => { s with items := s.items.dropWhile fun c => c.token.isSpace && !isBlank c.token }
where
  /-- White space. -/
  isBlank : Token → Bool
    | .blank _ => true
    | _ => false

/-- The next component that is not white space or a comment. -/
def next : Reader Component := do skipSpace; nextAny

/-- The next component that is not a comment. -/
def nextTight : Reader Component := do skipComments; nextAny

/-- Tries a reader. -/
def attempt {α : Type} (p : Reader α) : Reader (Option α) := fun s =>
  match p s with
  | .ok (a, t) => .ok (some a, t)
  | .error _ => .ok (none, s)

/-- Whether a reader succeeds; what it reads is taken if it does. -/
def takes {α : Type} (p : Reader α) : Reader Bool := do return (← attempt p).isSome

/-- The first reader, or the second where the first fails. -/
def orTry {α : Type} (p q : Reader α) : Reader α := fun s =>
  match p s with
  | .ok r => .ok r
  | .error _ => q s

/-- Nothing but white space and comments is left. -/
def atEnd : Reader Bool := do return (← get).skipSpace.items.isEmpty

/-- Stops unless everything has been read. -/
def expectEnd : Reader Unit := do
  let s ← get
  match s.skipSpace.items with
  | [] => return
  | c :: _ => failAt (.unexpected c.token) s.place

/-- Runs a reader on a stream that it has to read to its end. -/
def whole {α : Type} (p : Reader α) (s : Stream) : Except Fault α :=
  match (do let a ← p; expectEnd; return a : Reader α) s with
  | .ok (a, _) => .ok a
  | .error e => .error e

/-- Runs a reader on everything up to the first component of a kind. -/
def upTo {α : Type} (stop : Token → Bool) (p : Reader α) : Reader α := do
  let (a, b) := (← get).cut stop
  match whole p a with
  | .ok v => set b; return v
  | .error e => throw e

/-- Runs a reader on the parts of a block. -/
def inside {α : Type} (c : Component) (p : Reader α) : Reader α :=
  match c with
  | .block _ _ _ parts finish _ =>
    match whole p ⟨parts, finish⟩ with
    | .ok v => return v
    | .error e => throw e
  | .leaf t place _ => failAt (.unexpected t) place

/-- The next component, chosen by its token. -/
def expect {α : Type} (choose : Token → Option α) : Reader α := do
  let place ← here
  let c ← next
  match choose c.token with
  | some a => return a
  | none => failAt (.unexpected c.token) place

/-- An identifier. -/
def ident : Reader Text := expect fun
  | .ident n => some n
  | _ => none

/-- A given word in any letter case. -/
def word (w : String) : Reader Unit := expect fun
  | .ident n => if Text.eqIgnoringAsciiCase n w.toList then some () else none
  | _ => none

/-- A given delimiter. -/
def delim (c : Char) : Reader Unit := expect fun t => if t = .delim c then some () else none

/-- A comma. -/
def comma : Reader Unit := expect fun t => if t = .comma then some () else none

/-- A colon. -/
def colon : Reader Unit := expect fun t => if t = .colon then some () else none

/-- A quoted string. -/
def string : Reader Text := expect fun
  | .string s => some s
  | _ => none

/-- A block that a given token opens, as a component. -/
def blockOf (opens : Token → Bool) : Reader Component := do
  let place ← here
  let c ← next
  if opens c.token then return c else failAt (.unexpected c.token) place

/-- A block in round brackets. -/
def parentheses : Reader Component := blockOf (· = .opening .round)

/-- A call of a given function. -/
def call (name : String) : Reader Component := blockOf fun
  | .function n => Text.eqIgnoringAsciiCase n name.toList
  | _ => false

/-- A path in `url()`, bare or quoted. -/
def url : Reader Text := do
  let place ← here
  let c ← next
  match c.token with
  | .url u => return u
  | .function n =>
    if Text.eqIgnoringAsciiCase n "url".toList then inside c string
    else failAt (.unexpected c.token) place
  | t => failAt (.unexpected t) place

/-- A path in `url()` or a string. -/
def urlOrString : Reader Text := orTry url string

/-- Parts separated by commas, each read to its end. -/
def commaParts {α : Type} (p : Reader α) : Nat → Reader (List α)
  | 0 => return []
  | fuel + 1 => do
    skipSpace
    let a ← upTo (· = .comma) p
    match (← get).items with
    | _ :: r =>
      modify ({ · with items := r })
      return a :: (← commaParts p fuel)
    | [] => return [a]

/-- One or more parts separated by commas. -/
def separated {α : Type} (p : Reader α) : Reader (List α) := do
  commaParts p ((← get).items.length + 1)

/-- As many parts as there are. -/
def repeated {α : Type} (p : Reader α) : Nat → Reader (List α)
  | 0 => return []
  | fuel + 1 => do
    match ← attempt p with
    | some a => return a :: (← repeated p fuel)
    | none => return []

/-- As many parts as there are. -/
def many {α : Type} (p : Reader α) : Reader (List α) := do
  repeated p (← get).items.length

end Reader
end StylePrune.Css
