import StylePrune.Text.Basic

/-!
Identifiers of runs.

An identifier is the second in which a run starts, in universal time, and some random digits.
-/
namespace StylePrune.Run

/-- A number in decimal with at least so many digits. -/
def padded (width n : Nat) : Text :=
  let digits := Text.ofNat n
  List.replicate (width - digits.length) '0' ++ digits

/-- Year, month and day that lie so many days after the first of January 1970. Years are counted from
March, so that the day that is added to some of them is their last. -/
def civilDate (days : Nat) : Nat × Nat × Nat :=
  let fromMarch := days + 719468
  let era := fromMarch / 146097
  let dayOfEra := fromMarch % 146097
  let yearOfEra := (dayOfEra - dayOfEra / 1460 + dayOfEra / 36524 - dayOfEra / 146096) / 365
  let dayOfYear := dayOfEra - (365 * yearOfEra + yearOfEra / 4 - yearOfEra / 100)
  let shifted := (5 * dayOfYear + 2) / 153
  let month := if shifted < 10 then shifted + 3 else shifted - 9
  let year := yearOfEra + 400 * era + if month ≤ 2 then 1 else 0
  (year, month, dayOfYear - (153 * shifted + 2) / 5 + 1)

/-- A time as it stands in identifiers; it lies so many seconds after the start of 1970. -/
def stamp (seconds : Nat) : Text :=
  let (year, month, day) := civilDate (seconds / 86400)
  let time := seconds % 86400
  padded 4 year ++ padded 2 month ++ padded 2 day ++ 'T' ::
    (padded 2 (time / 3600) ++ padded 2 (time / 60 % 60) ++ padded 2 (time % 60) ++ ['Z'])

/-- A byte in two digits. -/
def hexByte (b : UInt8) : Text :=
  [Nat.digitChar (b.toNat / 16), Nat.digitChar (b.toNat % 16)]

/-- The identifier of a run that starts at a time. -/
def identifier (seconds : Nat) (random : List UInt8) : Text :=
  stamp seconds ++ '-' :: random.flatMap hexByte

end StylePrune.Run
