import StylePrune.Text.Word
import StylePrune.Text.LetterCase

/-!
Names of the groups that a stylesheet is split into.

`Split.mediaKey` turns a media condition into a word of name characters and single hyphens;
`Split.freshKey` adds the least number that makes it new.
-/
namespace StylePrune.Split

/-- Key of the group that holds everything outside media blocks. -/
def baseKey : Text := "base".toList

/-- Neither a word character nor a hyphen. -/
def isSeparator (c : Char) : Bool := !(Text.isWord c || c == '-')

/-- Every run of separators becomes one hyphen. -/
def hyphenate : Text → Text
  | [] => []
  | c :: r =>
    if isSeparator c then
      match r with
      | [] => ['-']
      | d :: _ => if isSeparator d then hyphenate r else '-' :: hyphenate r
    else c :: hyphenate r

/-- Every run of hyphens becomes one hyphen. -/
def squeezeHyphens : Text → Text
  | [] => []
  | c :: r =>
    match r with
    | [] => [c]
    | d :: _ => if c = '-' ∧ d = '-' then squeezeHyphens r else c :: squeezeHyphens r

/-- Removes hyphens from both ends. -/
def trimHyphens (s : Text) : Text := Text.dropEndWhile (· == '-') (s.dropWhile (· == '-'))

/-- The part of a key that is made from a condition. -/
def slug (condition : Text) : Text := Text.lower (trimHyphens (squeezeHyphens (hyphenate condition)))

/-- Key of the group for a condition, before keys that are taken are looked at. -/
def mediaKey (condition : Text) : Text :=
  let s := slug condition
  if s.isEmpty then "media-all".toList else "media-".toList ++ s

/-- The candidate with a number. -/
def numbered (candidate : Text) (n : Nat) : Text := candidate ++ '-' :: Text.ofNat n

/-- The first of the numbered candidates from `n` on that is not taken, of `tries` that are tried. -/
def firstFree (candidate : Text) (taken : List Text) : Nat → Nat → Text
  | 0, n => numbered candidate n
  | tries + 1, n =>
    if taken.contains (numbered candidate n) then firstFree candidate taken tries (n + 1)
    else numbered candidate n

/-- The candidate itself when it is new, else with the least number from 2 on that makes it new. One
of as many numbers as there are taken keys is free, or the one after them. -/
def freshKey (candidate : Text) (taken : List Text) : Text :=
  if taken.contains candidate then firstFree candidate taken taken.length 2 else candidate

end StylePrune.Split
