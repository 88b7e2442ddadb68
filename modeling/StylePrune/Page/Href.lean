import StylePrune.Text.Basic

/-!
Addresses in stylesheet links.

Only absolute web addresses can be fetched without knowing where the page came from, so every other
address is left out; one that leaves out its scheme is taken as secure.
-/
namespace StylePrune.Page

/-- The absolute address that a link names. -/
def absoluteHref? (href : Text) : Option Text :=
  let h := Text.trim href
  if Text.startsWith "http://".toList h || Text.startsWith "https://".toList h then some h
  else match h with
    | '/' :: '/' :: r => if r.isEmpty then none else some ("https://".toList ++ r)
    | _ => none

end StylePrune.Page
