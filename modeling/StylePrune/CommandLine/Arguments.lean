import StylePrune.CommandLine.Similarity

/-!
The arguments of the program.

There is one target, which may stand anywhere, and there are options, each at most once. What follows
two hyphens is no option. The first argument that does not fit is what the person is told of.
-/
namespace StylePrune.CommandLine

/-- An option of the program. -/
inductive Flag where
  | split
  | config
  | out
  | stdout
  | help
  | version
deriving DecidableEq, Repr

namespace Flag

/-- All options in the order in which they are shown. -/
def all : List Flag := [split, config, out, stdout, help, version]

/-- Name of an option after its hyphens. -/
def name : Flag → Text
  | split => "split".toList
  | config => "config".toList
  | out => "out".toList
  | stdout => "stdout".toList
  | help => "help".toList
  | version => "version".toList

/-- What the value of an option is called, if it takes one. -/
def valueName? : Flag → Option Text
  | config => some "FILE".toList
  | out => some "DIR".toList
  | _ => none

/-- An option with its value as it is shown. -/
def text (f : Flag) : Text :=
  ['-', '-'] ++ f.name ++ match f.valueName? with
    | some v => [' ', '<'] ++ v ++ ['>']
    | none => []

/-- The option of a name. -/
def ofName? (n : Text) : Option Flag := all.find? fun f => f.name == n

end Flag

/-- What the arguments say so far. -/
structure Options where
  target : Option Text
  /-- Options that were given, in order. -/
  given : List Flag
  config : Option Text
  out : Option Text
deriving DecidableEq, Repr

namespace Options

/-- Nothing was said. -/
def empty : Options := ⟨none, [], none, none⟩

/-- The result is split. -/
def isSplit (o : Options) : Bool := o.given.contains .split

/-- The purged stylesheet is printed too. -/
def prints (o : Options) : Bool := o.given.contains .stdout

end Options

/-! ## What is said about arguments that do not fit -/

/-- What is shown as the way to call the program: the general form, or the target with some options. -/
inductive Usage where
  | general
  | exactly (flags : List Flag)
deriving DecidableEq, Repr

/-- The usage with the options that were given. -/
def Usage.ofGiven (o : Options) (more : List Flag) : Usage :=
  let flags := o.given ++ more.filter fun f => !o.given.contains f
  if flags.isEmpty && o.target.isNone then .general else .exactly flags

/-- A usage as it is shown. -/
def Usage.text : Usage → Text
  | general => "Usage: css-purge [OPTIONS] <TARGET>".toList
  | exactly flags =>
    "Usage: css-purge".toList ++ flags.flatMap (fun f => ' ' :: f.text) ++ " <TARGET>".toList

/-- A hint on an argument that was not expected. -/
inductive Hint where
  | none
  /-- It may be an option that was misspelt. -/
  | similar (name : Text)
  /-- It may be meant as the target. -/
  | asValue
deriving DecidableEq, Repr

/-- Why arguments do not fit. -/
inductive UsageFault where
  | unexpected (argument : Text) (hint : Hint) (usage : Usage)
  | unexpectedValue (value : Text) (flag : Flag) (usage : Usage)
  | valueMissing (flag : Flag)
  | twice (flag : Flag)
  | targetMissing (usage : Usage)
deriving DecidableEq, Repr

namespace UsageFault

/-- A text between single quotes. -/
def quoted (s : Text) : Text := '\'' :: s ++ ['\'']

/-- A hint as it is shown. -/
def hintText (argument : Text) : Hint → Text
  | .none => []
  | .similar n => "\n\n  tip: a similar argument exists: ".toList ++ quoted n
  | .asValue =>
    "\n\n  tip: to pass ".toList ++ quoted argument ++ " as a value, use ".toList ++
      quoted ("-- ".toList ++ argument)

/-- What is wrong, and the usage if it is shown. -/
def parts : UsageFault → Text × Option Usage
  | unexpected a h u =>
    ("unexpected argument ".toList ++ quoted a ++ " found".toList ++ hintText a h, some u)
  | unexpectedValue v f u =>
    ("unexpected value ".toList ++ quoted v ++ " for ".toList ++ quoted f.text ++
      " found; no more were expected".toList, some u)
  | valueMissing f =>
    ("a value is required for ".toList ++ quoted f.text ++ " but none was supplied".toList, none)
  | twice f =>
    ("the argument ".toList ++ quoted f.text ++ " cannot be used multiple times".toList, some .general)
  | targetMissing u =>
    ("the following required arguments were not provided:\n  <TARGET>".toList, some u)

/-- What a person is shown. -/
def message (f : UsageFault) : Text :=
  let (wrong, usage) := f.parts
  "error: ".toList ++ wrong ++ ['\n', '\n'] ++
    (match usage with
      | some u => u.text ++ ['\n', '\n']
      | none => []) ++
    "For more information, try '--help'.\n".toList

end UsageFault

/-! ## Reading arguments -/

/-- What the program is asked to do. -/
inductive Request where
  | purge (target : Text) (o : Options)
  | help
  | version
deriving DecidableEq, Repr

/-- An option that takes a value, with its value once that was read. -/
structure Pending where
  flag : Flag
  value : Option Text
deriving DecidableEq, Repr

/-- Notes an option without a value. -/
def Options.give (f : Flag) (o : Options) : Except UsageFault Options :=
  if o.given.contains f then .error (.twice f) else .ok { o with given := o.given ++ [f] }

/-- Notes an option with its value. -/
def Options.giveValue (f : Flag) (value : Text) (o : Options) : Except UsageFault Options :=
  (o.give f).bind fun o' =>
    if value.isEmpty then .error (.valueMissing f)
    else
      match f with
      | .config => .ok { o' with config := some value }
      | .out => .ok { o' with out := some value }
      | _ => .ok o'

/-- Notes an option that was read, once the next argument is. -/
def Options.settle (p : Option Pending) (o : Options) : Except UsageFault Options :=
  match p with
  | none => .ok o
  | some ⟨f, none⟩ => .error (.valueMissing f)
  | some ⟨f, some v⟩ => o.giveValue f v

/-- Notes the target. -/
def Options.setTarget (p : Option Pending) (value : Text) (o : Options) : Except UsageFault Options :=
  match o.target with
  | none => (o.settle p).map fun o' => { o' with target := some value }
  | some _ => .error (.unexpected value .none .general)

/-- The options with one that was read, if it can be noted. -/
def Options.settled (p : Option Pending) (o : Options) : Options :=
  match o.settle p with
  | .ok o' => o'
  | .error _ => o

/-- The fault for an unknown name after two hyphens. -/
def unknownName (name : Text) (o : Options) : UsageFault :=
  let argument := ['-', '-'] ++ name
  match guess? name (Flag.all.map Flag.name) with
  | some n => .unexpected argument (.similar (['-', '-'] ++ n)) (.ofGiven o (Flag.ofName? n).toList)
  | none => .unexpected argument .asValue (.ofGiven o [])

/-- What an argument is. -/
inductive Argument where
  | separator
  /-- A name after two hyphens, perhaps with a value after an equals sign. -/
  | long (name : Text) (value : Option Text)
  /-- A letter after one hyphen. -/
  | short (letter : Char)
  | plain (value : Text)
deriving DecidableEq, Repr

/-- What an argument is. -/
def Argument.ofText : Text → Argument
  | ['-', '-'] => .separator
  | '-' :: '-' :: r =>
    match r.dropWhile (· != '=') with
    | _ :: v => .long (r.takeWhile (· != '=')) (some v)
    | [] => .long r none
  | '-' :: c :: _ => .short c
  | s => .plain s

/-- How reading goes on after an argument. -/
inductive Reading where
  | going (p : Option Pending) (o : Options)
  | ended (r : Request)

/-- Reads a known option. -/
def readFlag (f : Flag) (value : Option Text) (p : Option Pending) (o : Options) :
    Except UsageFault Reading :=
  match f.valueName?, value with
  | none, some v => .error (.unexpectedValue v f (.ofGiven o [f]))
  | some _, some v => ((o.settle p).bind (·.giveValue f v)).map (.going none)
  | some _, none => (o.settle p).map (.going (some ⟨f, none⟩))
  | none, none =>
    (o.settle p).bind fun o' =>
      match f with
      | .help => .ok (.ended .help)
      | .version => .ok (.ended .version)
      | _ => (o'.give f).map (.going none)

/-- Reads a letter after one hyphen. -/
def readLetter (c : Char) (p : Option Pending) (o : Options) : Except UsageFault Reading :=
  if c = 'h' then readFlag .help none p o
  else if c = 'V' then readFlag .version none p o
  else .error (.unexpected ['-', c] .asValue .general)

/-- Reads an argument that is no separator. -/
def readOne (a : Text) (p : Option Pending) (o : Options) : Except UsageFault Reading :=
  match Argument.ofText a, p with
  | .plain v, some ⟨f, none⟩ => .ok (.going (some ⟨f, some v⟩) o)
  | .plain v, p => (o.setTarget p v).map (.going none)
  | .separator, p => (o.setTarget p a).map (.going none)
  | .short c, p => readLetter c p o
  | .long n v, p =>
    match Flag.ofName? n with
    | some f => readFlag f v p o
    | none => .error (unknownName n (o.settled p))

/-- Reads what follows two hyphens. -/
def readPlain : Option Pending → Options → List Text → Except UsageFault Options
  | p, o, [] => o.settle p
  | p, o, a :: r => (o.setTarget p a).bind fun o' => readPlain none o' r

/-- The request of options that were read to the end. -/
def requestOf (o : Options) : Except UsageFault Request :=
  match o.target with
  | some t => .ok (.purge t o)
  | none => .error (.targetMissing (.exactly o.given))

/-- Reads arguments. -/
def readFrom : Option Pending → Options → List Text → Except UsageFault Request
  | p, o, [] => (o.settle p).bind requestOf
  | p, o, a :: r =>
    if Argument.ofText a = .separator then (readPlain p o r).bind requestOf
    else
      match readOne a p o with
      | .error f => .error f
      | .ok (.ended q) => .ok q
      | .ok (.going p' o') => readFrom p' o' r

/-- What the arguments ask for. -/
def readArguments (args : List Text) : Except UsageFault Request := readFrom none .empty args

end StylePrune.CommandLine
