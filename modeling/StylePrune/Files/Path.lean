import StylePrune.Text.Basic

/-!
Paths as they are written.

A path is cut at its slashes into names; a single dot names the directory itself, two dots the one
above. `Path.parent?` is the path without its last name, and `Path.join` puts one path below another.
-/
namespace StylePrune.Path

/-- The path starts at the root. -/
def isAbsolute : Text → Bool
  | '/' :: _ => true
  | _ => false

/-- The names of a path in order, dots included. -/
def names (path : Text) : List Text := (Text.splitOnChar '/' path).filter fun n => !n.isEmpty

/-- The path ends with a slash. -/
def endsWithSlash (path : Text) : Bool := path.getLast? == some '/'

/-- A path below another one. An absolute path stands for itself. -/
def join (base path : Text) : Text :=
  if isAbsolute path then path
  else if base.isEmpty then path
  else if endsWithSlash base then base ++ path
  else base ++ '/' :: path

/-- Removes slashes and names of a single dot from the end of a path, given backwards. The slash of the
root and a dot that starts the path stay. -/
def dropIdleTail : Text → Text
  | ['/'] => ['/']
  | '/' :: c :: r => dropIdleTail (c :: r)
  | '.' :: '/' :: r => dropIdleTail ('/' :: r)
  | s => s

/-- The path without its last name; nothing for the root and for the empty path. -/
def parent? (path : Text) : Option Text :=
  match dropIdleTail path.reverse with
  | [] => none
  | ['/'] => none
  | s => some (dropIdleTail (s.dropWhile (· != '/'))).reverse

end StylePrune.Path
