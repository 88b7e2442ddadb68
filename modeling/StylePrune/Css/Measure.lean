import StylePrune.Css.Term

/-!
Reading terms: numbers, lengths, percentages, paths and words.

A calculation is worked out as far as its units allow; `Term.ofCalc` keeps what stays open.
-/
namespace StylePrune.Css.Measure

open Calculation

/-- A number as a term. -/
def numberTerm : Reader Term := do return .number (← number)

/-- An integer as a term. -/
def integerTerm : Reader Term := do return .integer (← integer)

/-- A number or a percentage, as a number. -/
def fraction : Reader Term :=
  Reader.orTry numberTerm (do return .number (← definite .percent).size)

/-- A length; a number counts pixels. -/
def length : Reader Term := Reader.orTry (do return .ofCalc (← calculation .length)) (Reader.expect fun
  | .number n => some (.quantity (.pixels n.value))
  | t => ((Quantity.ofToken? t).filter Kind.length.holds).map .quantity)

/-- A length or a percentage. -/
def lengthPercent : Reader Term := Reader.orTry (do return .ofCalc (← calculation .lengthPercent)) (Reader.expect fun
  | .number n => some (.quantity (.pixels n.value))
  | t => ((Quantity.ofToken? t).filter Kind.lengthPercent.holds).map .quantity)

/-- A colour. -/
def color : Reader Term := do return .color (← Color.read)

/-- A path. -/
def url : Reader Term := do return .url (← Reader.url)

/-- One of some words, in lower case. -/
def oneOf (ws : List String) : Reader Term := Reader.expect fun
  | .ident n =>
    let l := Text.lowerAscii n
    if ws.any (·.toList = l) then some (.word l) else none
  | _ => none

/-- The word `auto`, or what another reader reads. -/
def orAuto (p : Reader Term) : Reader Term := Reader.orTry (oneOf ["auto"]) p

end StylePrune.Css.Measure
