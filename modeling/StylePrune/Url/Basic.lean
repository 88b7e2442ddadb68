import StylePrune.Url.Host

/-!
Addresses.

An address has a scheme, then a path of segments or a path without form, then a query and a fragment.
`Url.text` writes it.
-/
namespace StylePrune

/-- The host of an address, who asks for it, and where. -/
structure Url.Authority where
  username : Text
  password : Text
  /-- None when an address names no host though it has the place for one. -/
  host : Option Url.Host
  /-- None when it is the usual one of the scheme. -/
  port : Option Nat
deriving DecidableEq, Repr

/-- The path of an address. -/
inductive Url.Path where
  | segments (ss : List Text)
  /-- A path that relative addresses cannot be resolved against. -/
  | formless (s : Text)
deriving DecidableEq, Repr

/-- An address. -/
structure Url where
  scheme : Text
  authority : Option Url.Authority
  path : Url.Path
  query : Option Text
  fragment : Option Text
deriving DecidableEq, Repr

namespace Url

/-- Why a text is no address. -/
inductive Fault where
  | emptyHost
  | badName
  | badPort
  | badShort
  | badLong
  | badHostCharacter
  | relative
deriving DecidableEq, Repr

/-- What is said about a fault. -/
def Fault.text : Fault → Text
  | emptyHost => "empty host".toList
  | badName => "invalid international domain name".toList
  | badPort => "invalid port number".toList
  | badShort => "invalid IPv4 address".toList
  | badLong => "invalid IPv6 address".toList
  | badHostCharacter => "invalid domain character".toList
  | relative => "relative URL without a base".toList

/-- The user of an authority as written, with the sign that ends it. -/
def Authority.userText (a : Authority) : Text :=
  if a.username.isEmpty && a.password.isEmpty then []
  else a.username ++ (if a.password.isEmpty then [] else ':' :: a.password) ++ ['@']

/-- An authority as written. -/
def Authority.text (a : Authority) : Text :=
  a.userText ++ ((a.host.map Host.text).getD []) ++
    match a.port with
    | some p => ':' :: Text.ofNat p
    | none => []

/-- Segments as written, each after a slash. -/
def segmentsText (ss : List Text) : Text := ss.flatMap fun s => '/' :: s

/-- A path as written. Without an authority it must not start with two slashes. -/
def Path.text (hasAuthority : Bool) : Path → Text
  | .segments ([] :: s :: ss) =>
    (if hasAuthority then [] else ['/', '.']) ++ segmentsText ([] :: s :: ss)
  | .segments ss => segmentsText ss
  | .formless s => s

/-- A part that follows a sign, when there is one. -/
def after (sign : Char) : Option Text → Text
  | some s => sign :: s
  | none => []

/-- An address as written. -/
def text (u : Url) : Text :=
  u.scheme ++ ':' :: (match u.authority with
    | some a => '/' :: '/' :: a.text
    | none => []) ++ u.path.text u.authority.isSome ++ after '?' u.query ++ after '#' u.fragment

/-- The last segment of the path, if it has segments. -/
def lastSegment (u : Url) : Text :=
  match u.path with
  | .segments ss => (ss.getLast?).getD []
  | .formless _ => []

end Url
end StylePrune
