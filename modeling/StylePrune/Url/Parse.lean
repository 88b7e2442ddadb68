import StylePrune.Idna.Domain
import StylePrune.Url.Basic

/-!
Reading addresses.

A fragment starts at the first number sign and a query at the first question mark before it, whatever
stands there, so both are cut off first; what is left has a scheme, perhaps an authority, and a path.
A path is cut into segments, and segments of one or two dots are worked off from the left.
-/
namespace StylePrune.Url

/-! ## Schemes -/

/-- What the scheme says about the form of an address. -/
inductive Form where
  /-- The address of a local file. -/
  | file
  /-- An address that must have a host. -/
  | web
  | free
deriving DecidableEq, Repr

/-- Schemes whose addresses must have a host, with the usual port. -/
def webSchemes : List (Text × Nat) :=
  [("http".toList, 80), ("https".toList, 443), ("ws".toList, 80), ("wss".toList, 443), ("ftp".toList, 21)]

/-- The form of the addresses of a scheme. -/
def formOf (scheme : Text) : Form :=
  if scheme = "file".toList then .file
  else if (webSchemes.lookup scheme).isSome then .web
  else .free

/-- A backslash separates segments as a slash does. -/
def Form.isSpecial : Form → Bool
  | file => true
  | web => true
  | free => false

/-- A character of a scheme. -/
def isSchemeChar (c : Char) : Bool := c.isAlphanum || c == '+' || c == '-' || c == '.'

/-- A scheme in lower case, and what follows its colon. -/
def scheme? (s : Text) : Option (Text × Text) :=
  match s with
  | [] => none
  | c :: _ =>
    if !c.isAlpha then none
    else
      match s.dropWhile isSchemeChar with
      | ':' :: r => some ((s.takeWhile isSchemeChar).map Char.toLower, r)
      | _ => none

/-! ## Cutting -/

/-- A text up to a sign, and what follows the sign when it occurs. -/
def cutAt (sign : Char) : Text → Text × Option Text
  | [] => ([], none)
  | c :: r =>
    if c = sign then ([], some r)
    else
      let (a, b) := cutAt sign r
      (c :: a, b)

/-- An address without control characters and blanks around it, and without tabs and line ends. -/
def clean (s : Text) : Text :=
  (Text.dropEndWhile (fun c => c.toNat ≤ 32) (s.dropWhile fun c => c.toNat ≤ 32)).filter
    fun c => !(c == '\t' || c == '\n' || c == '\r')

/-- The parts of an address around its question mark and number sign. -/
structure Cut where
  body : Text
  query : Option Text
  fragment : Option Text

/-- Cuts off fragment and query. -/
def cut (s : Text) : Cut :=
  let (front, fragment) := cutAt '#' s
  let (body, query) := cutAt '?' front
  ⟨body, query, fragment⟩

/-- A query as it is kept. -/
def escapeQuery (form : Form) (q : Text) : Text :=
  escape (if form.isSpecial then .webQuery else .query) q

/-! ## Paths -/

/-- A character that separates segments. -/
def isSlash (special : Bool) (c : Char) : Bool := c == '/' || (special && c == '\\')

/-- Cuts a path at its separators; there is always one more segment than separators. -/
def splitPath (special : Bool) : Text → List Text
  | [] => [[]]
  | c :: r =>
    match splitPath special r with
    | [] => [[c]]
    | p :: ps => if isSlash special c then [] :: p :: ps else (c :: p) :: ps

/-- A letter and a colon or a bar. -/
def isDrive : Text → Bool
  | [a, b] => a.isAlpha && (b == ':' || b == '|')
  | _ => false

/-- A letter and a colon. -/
def isUsualDrive (s : Text) : Bool := isDrive s && s.getLast? == some ':'

/-- A drive with a colon. -/
def usualDrive : Text → Text
  | [a, b] => if isDrive [a, b] then [a, ':'] else [a, b]
  | s => s

/-- Ways to write a dot in a segment. -/
def dots : List Text := [['.'], ['%', '2', 'e'], ['%', '2', 'E']]

/-- A segment that names the directory itself. -/
def isSingleDot (s : Text) : Bool := dots.contains s

/-- A segment that names the directory above. -/
def isDoubleDot (s : Text) : Bool := dots.any fun a => dots.any fun b => s == a ++ b

/-- Segments without the last one. A drive stays. -/
def shorten (ss : List Text) : List Text :=
  match ss.getLast? with
  | some s => if isDrive s then ss else ss.dropLast
  | none => []

/-- Segments with one more; `last` when none follows. -/
def addSegment (form : Form) (ss : List Text) (s : Text) (last : Bool) : List Text :=
  if isDoubleDot s then if last then shorten ss ++ [[]] else shorten ss
  else if isSingleDot s then if last then ss ++ [[]] else ss
  else ss ++ [if form = .file ∧ ss.isEmpty then usualDrive s else s]

/-- Segments with more of them, worked off from the left. -/
def addSegments (form : Form) : List Text → List Text → List Text
  | ss, [] => ss
  | ss, s :: r => addSegments form (addSegment form ss (escape .path s) r.isEmpty) r

/-- The path of a file does not start with an empty segment, unless it has no other. -/
def dropEmptyLead : List Text → List Text
  | [] :: s :: ss => dropEmptyLead (s :: ss)
  | ss => ss

/-- Segments as the form of an address has them. -/
def settle (form : Form) (ss : List Text) : List Text :=
  if form = .file then dropEmptyLead ss else ss

/-- The segments of a path that follows a slash. -/
def segmentsOf (form : Form) (s : Text) : List Text :=
  settle form (addSegments form [] (splitPath form.isSpecial s))

/-- The segments of a path that may start with a separator. -/
def rootedSegments (form : Form) (s : Text) : List Text :=
  match s with
  | c :: r => segmentsOf form (if isSlash form.isSpecial c then r else s)
  | [] => if form = .free then [] else segmentsOf form []

/-! ## Authorities -/

/-- A host as an address of the form has it. -/
def readHost (form : Form) (s : Text) : Except Fault Host :=
  match s with
  | '[' :: r =>
    if r.getLast? == some ']' then
      match longNumber? r.dropLast with
      | some ps => .ok (.long ps)
      | none => .error .badLong
    else .error .badLong
  | _ =>
    if form.isSpecial then
      match Idna.toAscii? (unescape (Text.toBytes s)) with
      | none => .error .badName
      | some name =>
        if name.isEmpty then .error .emptyHost
        else if endsInNumber name then
          match shortNumber? name with
          | some n => .ok (.short n)
          | none => .error .badShort
        else .ok (.name name)
    else if s.any fun c => "\x00\t\n\r #/:<>?@[\\]^|".toList.contains c then .error .badHostCharacter
    else .ok (.name (escape .freeHost s))

/-- The host at the start of an authority, up to a colon outside of square brackets. -/
def hostPart : Bool → Text → Text × Text
  | _, [] => ([], [])
  | inside, c :: r =>
    if c = ':' ∧ !inside then ([], c :: r)
    else
      let (a, b) := hostPart (c == '[' || (inside && c != ']')) r
      (c :: a, b)

/-- A port, none when it is the usual one of the scheme, and what follows its digits. -/
def readPort (scheme s : Text) : Except Fault (Option Nat × Text) :=
  let digits := s.takeWhile Char.isDigit
  let rest := s.dropWhile Char.isDigit
  let n := digits.foldl (fun n d => n * 10 + (d.toNat - 48)) 0
  if 65535 < n then .error .badPort
  else
    match rest with
    | [] | '\\' :: _ =>
      .ok (if digits.isEmpty || webSchemes.lookup scheme == some n then none else some n, rest)
    | _ :: _ => .error .badPort

/-- The text up to the last at sign, when there is one, and what follows it. -/
def cutUser : Text → Option Text × Text
  | [] => (none, [])
  | c :: r =>
    match cutUser r with
    | (some u, t) => (some (c :: u), t)
    | (none, t) => if c = '@' then (some [], t) else (none, c :: t)

/-- A user's name and password. -/
def userOf (u : Text) : Text × Text :=
  let (name, password) := cutAt ':' u
  (escape .userinfo name, escape .userinfo (password.getD []))

/-- An authority and what follows its port. `s` has no separator; `followed` when more stands after it. -/
def readAuthority (form : Form) (scheme s : Text) (followed : Bool) : Except Fault (Authority × Text) :=
  let (user, place) := cutUser s
  if user == some [] && place.isEmpty && followed then .error .emptyHost
  else
    let (username, password) := userOf (user.getD [])
    let (name, tail) := hostPart false place
    if form = .web ∧ name.isEmpty then .error .emptyHost
    else
      match readHost form name with
      | .error f => .error f
      | .ok h =>
        let unnamed : Bool := h == .name []
        if unnamed && (!tail.isEmpty || !username.isEmpty || !password.isEmpty) then .error .emptyHost
        else
          match tail with
          | ':' :: digits =>
            match readPort scheme digits with
            | .error f => .error f
            | .ok (p, rest) => .ok (⟨username, password, some h, p⟩, rest)
          | _ => .ok (⟨username, password, if unnamed then none else some h, none⟩, [])

/-! ## Addresses -/

/-- Authority and path after the two slashes of an address that is no file's. -/
def afterSlashes (form : Form) (scheme s : Text) (followed : Bool) :
    Except Fault (Option Authority × Path) :=
  let special := form.isSpecial
  let place := s.takeWhile fun c => !isSlash special c
  let path := s.dropWhile fun c => !isSlash special c
  match readAuthority form scheme place (followed || !path.isEmpty) with
  | .error f => .error f
  | .ok (a, rest) => .ok (some a, .segments (rootedSegments form (rest ++ path)))

/-- A drive at the start of a path keeps the sign that it was written with. -/
def keepingBar (path : Text) (ss : List Text) : List Text :=
  match (splitPath true path).drop 1, ss with
  | first :: _, s :: r => if isDrive first && usualDrive first == s then first :: r else s :: r
  | _, ss => ss

/-- Authority and path of a file's address after its scheme. -/
def fileParts (s : Text) : Except Fault (Option Authority × Path) :=
  let unnamed : Option Authority := some ⟨[], [], none, none⟩
  match s with
  | c :: d :: r =>
    if isSlash true c && isSlash true d then
      let name := r.takeWhile fun c => !isSlash true c
      let path := r.dropWhile fun c => !isSlash true c
      if isDrive name then .ok (unnamed, .segments (segmentsOf .file r))
      else if name.isEmpty then .ok (unnamed, .segments (keepingBar path (rootedSegments .file path)))
      else
        match readHost .file name with
        | .error f => .error f
        | .ok h =>
          let ss := addSegments .file [] (splitPath true (path.drop 1))
          let onDrive : Bool := (ss.head?.map isDrive).getD false
          .ok (if h == .name "localhost".toList || onDrive then unnamed else some ⟨[], [], some h, none⟩,
            .segments (settle .file ss))
    else .ok (unnamed, .segments (rootedSegments .file s))
  | _ => .ok (unnamed, .segments (rootedSegments .file s))

/-- Authority and path of an address after its scheme; `followed` when more stands after them. -/
def parts (scheme s : Text) (followed : Bool) : Except Fault (Option Authority × Path) :=
  match formOf scheme with
  | .file => fileParts s
  | .web => afterSlashes .web scheme (s.dropWhile (isSlash true)) followed
  | .free =>
    match s with
    | '/' :: '/' :: r => afterSlashes .free scheme r followed
    | '/' :: r => .ok (none, .segments (segmentsOf .free r))
    | _ => .ok (none, .formless (escape .freeHost s))

/-- The address that a text writes. -/
def parse (s : Text) : Except Fault Url :=
  let c := cut (clean s)
  match scheme? c.body with
  | none => .error .relative
  | some (scheme, rest) =>
    match parts scheme rest (c.query.isSome || c.fragment.isSome) with
    | .error f => .error f
    | .ok (a, path) =>
      .ok ⟨scheme, a, path, c.query.map (escapeQuery (formOf scheme)), c.fragment.map (escape .fragment)⟩

/-- The segments that relative addresses count from. -/
def directory (form : Form) (ss : List Text) : List Text :=
  match ss.getLast? with
  | some s => if form = .file ∧ isUsualDrive s then ss else ss.dropLast
  | none => []

/-- The address that a relative path leads to, if the address it counts from has segments. -/
def resolve? (base : Url) (path : Text) : Option Url :=
  match base.path with
  | .formless _ => none
  | .segments ss =>
    let form := formOf base.scheme
    let c := cut (clean path)
    let more := splitPath form.isSpecial c.body
    some { base with
      path := .segments (settle form (addSegments form (directory form ss) more)),
      query := c.query.map (escapeQuery form),
      fragment := c.fragment.map (escape .fragment) }

/-- What follows the last slash of a text before any question mark or number sign. -/
def textualName (s : Text) : Text :=
  let front := s.takeWhile fun c => !(c == '?' || c == '#')
  (front.reverse.takeWhile (· != '/')).reverse

/-- The name of the file that an address leads to, without query and fragment. -/
def fileName (s : Text) : Text :=
  match parse s with
  | .ok u => u.lastSegment
  | .error _ => textualName s

/-- A text is the address of something on the web. -/
def isWeb (s : Text) : Bool :=
  match parse s with
  | .ok u => u.scheme == "http".toList || u.scheme == "https".toList
  | .error _ => false

/-- A stylesheet with its relative paths made absolute, if the address it came from is one. -/
def joinTo (base : Text) (path : Text) : Option Text :=
  match parse base with
  | .ok u => (resolve? u path).map text
  | .error _ => none

end StylePrune.Url
