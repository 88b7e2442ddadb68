import StylePrune.Markup.Reference

/-!
Tokens of markup.

Only what decides which elements there are is kept: tags, and of each character of text whether it is
white space. Comments and document types leave nothing. Elements such as `script` hold text that is no
markup; `afterRawText` finds its end.
-/
namespace StylePrune.Markup

/-- A tag with its name in lower case and the first attribute of each name. -/
structure Tag where
  name : Text
  attributes : List (Text × Text)
  selfClosing : Bool
deriving DecidableEq, Repr

/-- What a character of text is. -/
inductive CharKind where
  | blank
  | zero
  | other
deriving DecidableEq, Repr

/-- A token. -/
inductive Token where
  | opening (t : Tag)
  | closing (t : Tag)
  | text (k : CharKind)
deriving DecidableEq, Repr

/-- What a character of text is. -/
def kindOf (c : Char) : CharKind :=
  if c = '\x00' then .zero else if Text.isAsciiBlank c then .blank else .other

/-- A character in lower case; the character of code zero is replaced. -/
def lowered (c : Char) : Char := if c = '\x00' then replacement else c.toLower

/-! ## Attributes -/

/-- A value up to a character that ends it, with its references; `fuel` bounds the characters. -/
def value (ends : Char → Bool) : Nat → Text → Text × Text
  | 0, s => ([], s)
  | _ + 1, [] => ([], [])
  | fuel + 1, c :: r =>
    if ends c then ([], c :: r)
    else if c = '&' then
      let (cs, r') := reference true r
      let (v, t) := value ends fuel r'
      (cs ++ v, t)
    else
      let (v, t) := value ends fuel r
      ((if c = '\x00' then replacement else c) :: v, t)

/-- The value of an attribute after its equals sign, and what follows it; none when it does not end. -/
def attributeValue? (s : Text) : Option (Text × Text) :=
  let fuel := s.length + 1
  match s.dropWhile Text.isAsciiBlank with
  | [] => none
  | '"' :: r =>
    match value (· == '"') fuel r with
    | (v, _ :: t) => some (v, t)
    | (_, []) => none
  | '\'' :: r =>
    match value (· == '\'') fuel r with
    | (v, _ :: t) => some (v, t)
    | (_, []) => none
  | '>' :: r => some ([], '>' :: r)
  | r =>
    match value (fun c => Text.isAsciiBlank c || c == '>') fuel r with
    | (_, []) => none
    | (v, t) => some (v, t)

/-- A character that ends the name of a tag or attribute. -/
def endsName (c : Char) : Bool := Text.isAsciiBlank c || c == '/' || c == '>'

/-- Adds an attribute unless there is one of its name. -/
def addAttribute (name value : Text) (as : List (Text × Text)) : List (Text × Text) :=
  if as.any fun a => a.1 == name then as else as ++ [(name, value)]

/-- The attributes of a tag, whether it closes itself, and what follows it; none when the tag does not
end. `fuel` bounds the attributes. -/
def attributes? : Nat → List (Text × Text) → Text → Option (List (Text × Text) × Bool × Text)
  | 0, _, _ => none
  | fuel + 1, as, s =>
    match s.dropWhile Text.isAsciiBlank with
    | [] => none
    | '>' :: r => some (as, false, r)
    | '/' :: '>' :: r => some (as, true, r)
    | '/' :: r => attributes? fuel as r
    | c :: r =>
      let name := lowered c :: (r.takeWhile fun d => !(endsName d || d == '=')).map lowered
      let rest := (r.dropWhile fun d => !(endsName d || d == '=')).dropWhile Text.isAsciiBlank
      match rest with
      | '=' :: t =>
        match attributeValue? t with
        | some (v, u) => attributes? fuel (addAttribute name v as) u
        | none => none
      | t => attributes? fuel (addAttribute name [] as) t

/-- A tag that starts with its name, and what follows it. -/
def tag? (s : Text) : Option (Tag × Text) :=
  let name := (s.takeWhile fun c => !endsName c).map lowered
  match attributes? (s.length + 1) [] (s.dropWhile fun c => !endsName c) with
  | some (as, closed, r) => some (⟨name, as, closed⟩, r)
  | none => none

/-! ## What is passed over -/

/-- What follows the first greater-than sign. -/
def afterAngle : Text → Text
  | [] => []
  | '>' :: r => r
  | _ :: r => afterAngle r

/-- What follows the end of a comment. -/
def afterDashes : Text → Text
  | [] => []
  | '-' :: '-' :: '>' :: r => r
  | '-' :: '-' :: '!' :: '>' :: r => r
  | _ :: r => afterDashes r

/-- What follows a comment after its opening. -/
def afterComment : Text → Text
  | '>' :: r => r
  | '-' :: '>' :: r => r
  | s => afterDashes s

/-- The text of a section that holds no markup, and what follows its end. -/
def sectionText : Text → Text × Text
  | [] => ([], [])
  | ']' :: ']' :: '>' :: r => ([], r)
  | c :: r =>
    let (t, u) := sectionText r
    (c :: t, u)

/-- What follows a word, in any letter case, at the start of a text. -/
def afterWord? (word s : Text) : Option Text :=
  if (s.take word.length).map Char.toLower == word then some (s.drop word.length) else none

/-- A text starts with the closing tag of an element. -/
def startsClosing (name s : Text) : Bool :=
  match s with
  | '<' :: '/' :: r =>
    match afterWord? name r with
    | some (c :: _) => endsName c
    | _ => false
  | _ => false

/-- The text from the closing tag of an element on. -/
def afterRawText (name : Text) : Text → Text
  | [] => []
  | c :: r => if startsClosing name (c :: r) then c :: r else afterRawText name r

/-- How deep a script stands in what looks like a comment. -/
inductive ScriptDepth where
  | plain
  /-- Inside a comment; a closing tag still ends the script. -/
  | comment
  /-- Inside an element inside a comment. -/
  | inner
deriving DecidableEq, Repr

/-- A text starts with a word that ends where a name of a tag ends. -/
def startsWord (word s : Text) : Bool :=
  match afterWord? word s with
  | some (c :: _) => endsName c
  | _ => false

/-- The text from the closing tag of a script on; `dashes` counts the hyphens just passed, up to two. -/
def afterScript : ScriptDepth → Nat → Text → Text
  | _, _, [] => []
  | .plain, _, c :: r =>
    if startsClosing "script".toList (c :: r) then c :: r
    else if c = '<' ∧ Text.startsWith "!--".toList r then afterScript .comment 0 r
    else afterScript .plain 0 r
  | .comment, dashes, c :: r =>
    if startsClosing "script".toList (c :: r) then c :: r
    else if c = '-' then afterScript .comment (min 2 (dashes + 1)) r
    else if c = '>' ∧ dashes = 2 then afterScript .plain 0 r
    else if c = '<' ∧ startsWord "script".toList r then afterScript .inner 0 r
    else afterScript .comment 0 r
  | .inner, dashes, c :: r =>
    if startsClosing "script".toList (c :: r) then afterScript .comment 0 r
    else if c = '-' then afterScript .inner (min 2 (dashes + 1)) r
    else if c = '>' ∧ dashes = 2 then afterScript .plain 0 r
    else afterScript .inner 0 r

/-! ## Tokens -/

/-- Tokens of characters. -/
def textTokens (cs : Text) : List Token := cs.map fun c => .text (kindOf c)

/-- A declaration after its less-than sign and exclamation mark. -/
def declaration (sections : Bool) (s : Text) : List Token × Text :=
  match s with
  | '-' :: '-' :: r => ([], afterComment r)
  | _ =>
    match Text.dropPrefix? "[CDATA[".toList s, sections with
    | some r, true =>
      let (t, u) := sectionText r
      (textTokens t, u)
    | _, _ => ([], afterAngle s)

/-- What follows a less-than sign. -/
def afterLess (sections : Bool) (s : Text) : List Token × Text :=
  match s with
  | '!' :: r => declaration sections r
  | '?' :: r => ([], afterAngle r)
  | '/' :: c :: r =>
    if c.isAlpha then
      match tag? (c :: r) with
      | some (t, u) => ([.closing t], u)
      | none => ([], [])
    else if c = '>' then ([], r)
    else ([], afterAngle (c :: r))
  | c :: r =>
    if c.isAlpha then
      match tag? (c :: r) with
      | some (t, u) => ([.opening t], u)
      | none => ([], [])
    else ([.text .other], c :: r)
  | [] => ([.text .other], [])

/-- The next tokens of a markup and what follows them; `sections` when a section without markup may
stand here. -/
def next (sections : Bool) : Text → List Token × Text
  | [] => ([], [])
  | '<' :: r => afterLess sections r
  | '&' :: r =>
    let (cs, t) := reference false r
    (textTokens cs, t)
  | c :: r => ([.text (kindOf c)], r)

/-- Markup with every line end as one character, without the mark that may start a text. -/
def unifyLines : Text → Text
  | [] => []
  | '\r' :: '\n' :: r => '\n' :: unifyLines r
  | '\r' :: r => '\n' :: unifyLines r
  | c :: r => c :: unifyLines r

end StylePrune.Markup
