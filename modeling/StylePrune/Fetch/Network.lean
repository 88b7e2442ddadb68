import StylePrune.Failure

/-!
What answers requests for pages and stylesheets.

Time is counted, not passed: a reply says how long it takes, and a request that may take so many seconds
gets the reply exactly if it does not take longer.
-/
namespace StylePrune.Fetch

/-- What a request is for. -/
inductive Kind where
  | page
  | stylesheet
deriving DecidableEq, Repr

/-- The word for what a request is for. -/
def Kind.name : Kind → Text
  | page => "page".toList
  | stylesheet => "stylesheet".toList

/-- A request that was made. -/
structure Call where
  kind : Kind
  url : Text
deriving DecidableEq, Repr

/-- What comes of a request. -/
structure Reply where
  /-- How long it takes, in thousandths of a second. -/
  delay : Nat
  /-- The text, or why there is none. -/
  outcome : Except Cause Text

/-- What answers requests; the same request always gets the same reply. -/
abbrev Network := Kind → Text → Reply

namespace Reply

/-- The reply is there as soon as it is asked for. -/
def isImmediate (r : Reply) : Bool := r.delay == 0

/-- How long a request for it takes when it may take so many seconds. -/
def duration (seconds : Nat) (r : Reply) : Nat := min r.delay (seconds * 1000)

/-- What a request gets that may take so many seconds, with the cause on one line. -/
def within (seconds : Nat) (r : Reply) : Except Text Text :=
  if r.delay ≤ seconds * 1000 then r.outcome.mapError Cause.text
  else .error ("timed out after ".toList ++ Text.ofNat seconds ++ ['s'])

end Reply
end StylePrune.Fetch
