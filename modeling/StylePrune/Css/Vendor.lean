import StylePrune.Text.LetterCase

/-!
Vendor forms of names, such as `-webkit-` and `-moz-`, and sets of them.
-/
namespace StylePrune.Css

/-- A vendor that a name can be marked for, or the standard, which has no mark. -/
inductive Vendor where
  | webkit
  | moz
  | ms
  | o
  | standard
deriving DecidableEq, Repr

namespace Vendor

/-- The mark in front of a name. -/
def mark : Vendor → Text
  | webkit => "-webkit-".toList
  | moz => "-moz-".toList
  | ms => "-ms-".toList
  | o => "-o-".toList
  | standard => []

/-- All vendors in the order in which they are written, the standard last. -/
def all : List Vendor := [webkit, moz, ms, o, standard]

/-- Splits a lower-case name into its mark and the rest. -/
def split (name : Text) : Vendor × Text :=
  match [webkit, moz, ms, o].findSome? fun v => (Text.dropPrefix? v.mark name).map fun r => (v, r) with
  | some r => r
  | none => (standard, name)

end Vendor

/-- A set of vendors. -/
structure Vendors where
  webkit : Bool
  moz : Bool
  ms : Bool
  o : Bool
  standard : Bool
deriving DecidableEq, Repr

namespace Vendors

/-- No vendor at all. -/
def empty : Vendors := ⟨false, false, false, false, false⟩

/-- Membership. -/
def has (s : Vendors) : Vendor → Bool
  | .webkit => s.webkit
  | .moz => s.moz
  | .ms => s.ms
  | .o => s.o
  | .standard => s.standard

/-- The set with one member. -/
def only (v : Vendor) : Vendors :=
  ⟨v == .webkit, v == .moz, v == .ms, v == .o, v == .standard⟩

/-- The standard alone. -/
def plain : Vendors := only .standard

/-- The members of either set. -/
def union (a b : Vendors) : Vendors :=
  ⟨a.webkit || b.webkit, a.moz || b.moz, a.ms || b.ms, a.o || b.o, a.standard || b.standard⟩

/-- The members of both sets. -/
def inter (a b : Vendors) : Vendors :=
  ⟨a.webkit && b.webkit, a.moz && b.moz, a.ms && b.ms, a.o && b.o, a.standard && b.standard⟩

/-- The members of the first set that are not in the second. -/
def without (a b : Vendors) : Vendors :=
  ⟨a.webkit && !b.webkit, a.moz && !b.moz, a.ms && !b.ms, a.o && !b.o, a.standard && !b.standard⟩

/-- The set has no member. -/
def isEmpty (s : Vendors) : Bool := s == empty

/-- The members in the order in which they are written. -/
def toList (s : Vendors) : List Vendor := Vendor.all.filter s.has

end Vendors
end StylePrune.Css
