import StylePrune.Proofs.Outline.Address
import StylePrune.Proofs.Split.Groups

/-!
Splitting stylesheets with addresses without quotes.

Splitting puts what a node holds into a group in one piece (`exists_group`), so an address in `url(…)` stays in one
piece if the outline does not cut it. Which addresses the outline and the split do not cut, whatever stylesheet they
stand in, is said by `inert_iff`: those that are harmless, and no others.
-/
namespace StylePrune.Split

open Outline (Region Contents Item Part Harmless LinkedItem LinkedPart isAddressChar urlToken nodes sampleRule)

/-- What a node puts into a group: the inside of a media block, or the whole node. -/
def content (n : Node) : Text := if n.mediaCondition.isSome then n.body.getD [] else n.text

/-- What a node holds stands in a group in one piece, white space at its ends aside. -/
theorem exists_group {css : Text} {n : Node} (hn : n ∈ nodes css) (ht : n.mediaCondition = none → Text.Tight n.text) :
    ∃ g ∈ split css, g.media = n.mediaCondition ∧ Text.trim (content n) <:+: g.css := by
  suffices h : ∃ css', (n.mediaCondition, css') ∈ (split css).map (fun g => (g.media, g.css)) ∧
      Text.trim (content n) <:+: css' by
    obtain ⟨css', hmem, hin⟩ := h
    obtain ⟨g, hg, hgcss⟩ := List.mem_map.1 hmem
    obtain ⟨hmedia, rfl⟩ := Prod.mk.inj hgcss
    exact ⟨g, hg, hmedia, hin⟩
  rw [split_map Prod.mk]
  cases hc : n.mediaCondition with
  | none =>
    have hmem : n.text ∈ baseTexts (nodes css) := by
      refine List.mem_map.2 ⟨n, List.mem_filter.2 ⟨hn, by simp [hc]⟩, rfl⟩
    have hcontent : Text.trim (content n) = n.text := by
      rw [content, hc]
      exact (ht hc).trim
    rw [hcontent]
    exact ⟨_, List.mem_cons_self, Text.infix_join ['\n'] hmem⟩
  | some c =>
    have hknown : c ∈ conditions (nodes css) := mem_conditions.2 ⟨n, hn, hc⟩
    refine ⟨groupCss c (nodes css), List.mem_cons_of_mem _ (List.mem_map.2 ⟨c, hknown, rfl⟩), ?_⟩
    by_cases hempty : Text.trim (content n) = []
    · rw [hempty]
      exact List.nil_infix
    · have hcontent : content n = n.body.getD [] := by simp [content, hc]
      rw [hcontent] at hempty ⊢
      have hblock : n.body.getD [] ∈ blockBodies c (nodes css) :=
        List.mem_map.2 ⟨n, List.mem_filter.2 ⟨hn, by simp [hc]⟩, rfl⟩
      have hbody : Text.trim (n.body.getD []) ∈ bodiesUnder c (nodes css) :=
        List.mem_filter.2 ⟨List.mem_map_of_mem hblock, by simpa using hempty⟩
      exact Text.infix_join ['\n'] hbody

/-! ## Inert addresses -/

/-- The addresses that are `allowed` are inert: whatever stylesheet they stand in, what they are does not show. -/
structure Inert (allowed : Region → Text → Prop) : Prop where
  /-- The stylesheet has one node for each item, with the text of the item. -/
  nodes : ∀ ps : List (LinkedPart allowed), nodes (LinkedPart.textOf ps) = (LinkedPart.items ps).map LinkedItem.node
  /-- An item in the place of another, such as the same one with other addresses, leaves all other nodes as they are. -/
  replaced : ∀ (ps qs : List (LinkedPart allowed)) (i j : LinkedItem allowed), ∃ before after,
    Outline.nodes (LinkedPart.textOf (ps ++ .item i :: qs)) = before ++ i.node :: after ∧
      Outline.nodes (LinkedPart.textOf (ps ++ .item j :: qs)) = before ++ j.node :: after
  /-- What an item holds stands in its group in one piece, and so does every address in it. -/
  split : ∀ ps : List (LinkedPart allowed), ∀ i ∈ LinkedPart.items ps, ∃ g ∈ split (LinkedPart.textOf ps),
    g.media = i.node.mediaCondition ∧ Text.trim (content i.node) <:+: g.css ∧
      ∀ u, urlToken u <:+: content i.node → urlToken u <:+: g.css

variable {allowed : Region → Text → Prop}

theorem tight_urlToken (u : Text) : Text.Tight (urlToken u) := by
  refine ⟨by simp [urlToken], fun c hc => ?_, fun c hc => ?_⟩
  · obtain rfl : 'u' = c := by simpa [urlToken] using hc
    decide
  · rw [urlToken, List.getLast?_concat] at hc
    obtain rfl := Option.some.inj hc
    decide

theorem inert_of_harmless (h : ∀ r u, u.all isAddressChar = true → allowed r u → Harmless r 0 u) : Inert allowed where
  nodes := Outline.nodes_linked h
  replaced := by
    intro ps qs i j
    have hread (k : LinkedItem allowed) : Outline.nodes (LinkedPart.textOf (ps ++ .item k :: qs)) =
        (LinkedPart.items ps).map LinkedItem.node ++ k.node :: (LinkedPart.items qs).map LinkedItem.node := by
      rw [Outline.nodes_linked h]
      simp [LinkedPart.items, LinkedPart.item?]
    exact ⟨_, _, hread i, hread j⟩
  split := by
    intro ps i hi
    have hn : i.node ∈ nodes (LinkedPart.textOf ps) := by
      rw [Outline.nodes_linked h]
      exact List.mem_map_of_mem hi
    obtain ⟨g, hg, hmedia, hwhole⟩ := exists_group hn fun _ => i.node_text ▸ i.tight_text
    exact ⟨g, hg, hmedia, hwhole, fun u hu => ((tight_urlToken u).infix_trim hu).trans hwhole⟩

def importItem {u : Text} (hu : u.all isAddressChar = true) (ha : allowed .prelude u) : LinkedItem allowed where
  prelude := "@import ".toList ++ (urlToken u ++ [])
  block := none
  prelude_linked := .contents (.plain rfl) (by simp [urlToken]) (.url hu ha .nil)
  block_linked := by simp
  starts := ⟨by simp; decide, by simp⟩

def addressRule {u : Text} (hu : u.all isAddressChar = true) (ha : allowed .block u) : LinkedItem allowed where
  prelude := "a".toList ++ []
  block := some ("b:".toList ++ (urlToken u ++ []))
  prelude_linked := .contents (.plain rfl) (by simp) .nil
  block_linked := by
    rintro b ⟨⟩
    exact .contents (.plain rfl) (by simp [urlToken]) (.url hu ha .nil)
  starts := ⟨by simp; decide, by simp⟩

def emptyRule : LinkedItem allowed where
  prelude := "a".toList ++ []
  block := some []
  prelude_linked := .contents (.plain rfl) (by simp) .nil
  block_linked := by
    rintro b ⟨⟩
    exact .nil
  starts := ⟨by simp; decide, by simp⟩

theorem Inert.nodes_pair (h : Inert allowed) (i : LinkedItem allowed) :
    Outline.nodes (i.text ++ sampleRule) = [i.node, (emptyRule : LinkedItem allowed).node] := by
  have htext : LinkedPart.textOf [.item i, .item emptyRule] = i.text ++ sampleRule := by
    rw [LinkedPart.textOf, List.flatMap_cons, List.flatMap_singleton]
    rfl
  rw [← htext, h.nodes]
  rfl

/-- Inert addresses are harmless: a statement or a block with the address shows it. -/
theorem Inert.harmless (h : Inert allowed) {r : Region} {u : Text} (hu : u.all isAddressChar = true)
    (ha : allowed r u) : Harmless r 0 u := by
  cases r with
  | prelude =>
    have htext : (importItem hu ha).text = "@import ".toList ++ urlToken u ++ [';'] := by
      change "@import ".toList ++ (urlToken u ++ []) ++ [';'] = _
      rw [List.append_nil]
    have hnodes := h.nodes_pair (importItem hu ha)
    rw [htext] at hnodes
    refine Outline.harmless_of_nodes_import hu hnodes ?_
    rw [LinkedItem.node_text, htext]
  | block =>
    have htext : (addressRule hu ha).text = "a\x7bb:".toList ++ urlToken u ++ ['}'] := by
      change "a".toList ++ [] ++ '{' :: ("b:".toList ++ (urlToken u ++ []) ++ ['}']) = _
      rw [List.append_nil, List.append_nil]
      rfl
    have hnodes := h.nodes_pair (addressRule hu ha)
    rw [htext] at hnodes
    refine Outline.harmless_of_nodes_rule hu hnodes ?_
    rw [LinkedItem.node_text, htext]

/-- **Exactly the harmless addresses are inert.** An address without quotes does not show in the outline and is not cut
by the split, in whatever stylesheet it stands, exactly if its comments end and, outside them, its braces close each
other in a block, and in a statement it has neither a semicolon nor an opening brace. -/
theorem inert_iff (allowed : Region → Text → Prop) :
    Inert allowed ↔ ∀ r u, u.all isAddressChar = true → allowed r u → Harmless r 0 u :=
  ⟨fun h _ _ hu ha => h.harmless hu ha, inert_of_harmless⟩

/-- The statement `@import url(data:text/css;base64,YQ==);`, whose address holds what it imports. -/
def dataImport : LinkedItem fun _ _ => True := importItem (u := "data:text/css;base64,YQ==".toList) rfl trivial

/-- What the scanner takes for a statement: `@import url(data:text/css;`. -/
def dataImportStart : Item where
  prelude := "@import url(data:text/css".toList
  block := none
  prelude_contents := by
    have hslash : Contents .prelude "/css".toList := .char rfl (by decide) (.plain rfl)
    exact Contents.prepend (s := "@import url(data:text".toList) rfl hslash
  block_contents := by simp
  starts := ⟨by rintro c ⟨⟩; rfl, by decide⟩

/-- What the scanner takes for another statement: `base64,YQ==);`. -/
def dataImportEnd : Item where
  prelude := "base64,YQ==)".toList
  block := none
  prelude_contents := .plain rfl
  block_contents := by simp
  starts := ⟨by rintro c ⟨⟩; rfl, by decide⟩

/-- A statement with a data address is read as two, and the split writes a line end into the address. -/
theorem nodes_dataImport :
    LinkedPart.textOf [.item dataImport] = "@import url(data:text/css;base64,YQ==);".toList ∧
      (nodes (LinkedPart.textOf [.item dataImport])).map Node.text =
        ["@import url(data:text/css;".toList, "base64,YQ==);".toList] ∧
      base (split (LinkedPart.textOf [.item dataImport])) = "@import url(data:text/css;\nbase64,YQ==);".toList := by
  have hwritten : LinkedPart.textOf [.item dataImport] = Part.textOf [.item dataImportStart, .item dataImportEnd] := rfl
  have hnodes : nodes (LinkedPart.textOf [.item dataImport]) = [dataImportStart.node, dataImportEnd.node] := by
    rw [hwritten, Outline.nodes_textOf]
    rfl
  refine ⟨rfl, ?_, ?_⟩
  · rw [hnodes]
    rfl
  · rw [split, hnodes]
    rfl

end StylePrune.Split
