import StylePrune.Proofs.Url.FileName
import StylePrune.Resolution.Stylesheet

/-!
Which local file stands in for a stylesheet.

A local file is chosen for the name of the file that an address leads to. Addresses that differ in their query and
fragment alone lead to files of the same name, so the same local file stands in for all of them, or none does
(`World.resolve_suffixed`).
-/
namespace StylePrune.Resolution.World

/-- What a link is resolved to is decided by the local file for the name that its address leads to. -/
theorem resolve_of_fileName {w : World} {l : Page.StyleLink} {name : Text} (h : Url.fileName l.url = name) :
    w.resolve l = match w.config.overrideFor? name with
      | some o => w.readOverride l o
      | none => w.download l := by
  subst h
  rfl

/-- **Query and fragment never choose the local file.** Behind an address of the web, or a text that starts like one, a
query or a fragment leaves the name of the file as it is, and that name is one part of a path. So in every world the
links with and without them are resolved from the same local file, or each is downloaded. -/
theorem resolve_suffixed {u : Text} (hweb : "http://".toList <+: u ∨ "https://".toList <+: u) (hquery : '?' ∉ u)
    (hfragment : '#' ∉ u) (hend : ∀ c ∈ u.getLast?, 32 < c.toNat) (q : Text) :
    Url.fileName (u ++ '?' :: q) = Url.fileName u ∧ Url.fileName (u ++ '#' :: q) = Url.fileName u ∧
      '/' ∉ Url.fileName u ∧
      ∀ (w : World) (media : Option Text), ∀ url ∈ [u, u ++ '?' :: q, u ++ '#' :: q],
        w.resolve ⟨url, media⟩ = match w.config.overrideFor? (Url.fileName u) with
          | some o => w.readOverride ⟨url, media⟩ o
          | none => w.download ⟨url, media⟩ := by
  have hbody : Url.IsBody u := ⟨hweb, hquery, hfragment, hend⟩
  have hname : ∀ url ∈ [u, u ++ '?' :: q, u ++ '#' :: q], Url.fileName url = Url.fileName u := by
    intro url hurl
    simp only [List.mem_cons, List.not_mem_nil, or_false] at hurl
    rcases hurl with rfl | rfl | rfl
    · rfl
    · exact hbody.fileName_append (by simp [Url.Trails])
    · exact hbody.fileName_append (by simp [Url.Trails])
  refine ⟨hname _ (by simp), hname _ (by simp), hbody.slash_notMem_fileName, ?_⟩
  intro w media url hurl
  exact resolve_of_fileName (hname url hurl)

def brokenAddress : Text := "http://[/c/site.css".toList

/-- A world with a local file for one name, in which nothing is downloaded. -/
def standingIn : World where
  config := { Config.usual with overrides := [⟨"site.css".toList, "local/site.css".toList⟩] }
  files := .empty
  network := fun _ _ => ⟨0, .error ["refused".toList]⟩

/-- The local file stands in for such a text, also with a query that has slashes and another sign in it. -/
theorem resolve_suffixed_broken :
    Url.parse brokenAddress = .error .badLong ∧
      ("http://".toList <+: brokenAddress ∨ "https://".toList <+: brokenAddress) ∧ '?' ∉ brokenAddress ∧
      '#' ∉ brokenAddress ∧ (∀ c ∈ brokenAddress.getLast?, 32 < c.toNat) ∧
      Url.fileName (brokenAddress ++ '?' :: "v=/3#a@b".toList) = "site.css".toList ∧
      Url.fileName (brokenAddress ++ '#' :: "v=/3#a@b".toList) = "site.css".toList ∧
      '/' ∉ Url.fileName brokenAddress ∧
      standingIn.resolve ⟨brokenAddress ++ '?' :: "v=/3#a@b".toList, none⟩ =
        standingIn.readOverride ⟨brokenAddress ++ '?' :: "v=/3#a@b".toList, none⟩
          ⟨"site.css".toList, "local/site.css".toList⟩ := by
  have hweb : "http://".toList <+: brokenAddress ∨ "https://".toList <+: brokenAddress := by decide
  have hquery : '?' ∉ brokenAddress := by decide
  have hfragment : '#' ∉ brokenAddress := by decide
  have hend : ∀ c ∈ brokenAddress.getLast?, 32 < c.toNat := by
    intro c hc
    obtain rfl : 's' = c := Option.some.inj hc
    decide
  have hname : Url.fileName brokenAddress = "site.css".toList := rfl
  obtain ⟨hwith, hbehind, hslash, hresolve⟩ := resolve_suffixed hweb hquery hfragment hend "v=/3#a@b".toList
  refine ⟨rfl, hweb, hquery, hfragment, hend, hwith.trans hname, hbehind.trans hname, hslash, ?_⟩
  exact (hresolve standingIn none _ (by simp)).trans rfl

end StylePrune.Resolution.World
