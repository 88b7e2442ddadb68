import StylePrune.Proofs.Usage.Tokens

/-!
The elements of a page and the names they carry.

A page is written from its trees (`Page.Tree.markupAll`): an element has a tag, perhaps an id and any number of
classes, and its attributes stand in double quotes. An element that stands anywhere in the trees
(`Page.StandsIn`) has its start tag in the markup, and in a start tag every name is delimited by characters
that no token holds. So the page mentions every name of its elements that is a token as it stands
(`Page.StandsIn.mem_tokenList`).
-/
namespace StylePrune.Page

/-! ## Elements and their markup -/

structure Element where
  tag : Text
  id : Option Text
  classes : List Text
deriving DecidableEq

namespace Element

/-- What a selector can call an element by: its tag, its id and its classes. -/
def names (e : Element) : List Text := e.tag :: e.id.toList ++ e.classes

def idAttribute (e : Element) : Text :=
  match e.id with
  | some x => " id=\"".toList ++ x ++ ['"']
  | none => []

def classAttribute (e : Element) : Text :=
  match e.classes with
  | [] => []
  | x :: r => " class=\"".toList ++ Text.join [' '] (x :: r) ++ ['"']

def startTag (e : Element) : Text := '<' :: e.tag ++ e.idAttribute ++ e.classAttribute ++ ['>']

def endTag (e : Element) : Text := "</".toList ++ e.tag ++ ['>']

end Element

/-- A piece of a page. A void element has no end tag. -/
inductive Tree where
  | text (t : Text)
  | void (e : Element)
  | element (e : Element) (inside : List Tree)

mutual
/-- The markup of a piece of a page. -/
def Tree.markup : Tree → Text
  | .text t => t
  | .void e => e.startTag
  | .element e inside => e.startTag ++ Tree.markupAll inside ++ e.endTag

def Tree.markupAll : List Tree → Text
  | [] => []
  | t :: ts => t.markup ++ Tree.markupAll ts
end

/-- An element stands in trees. The chain holds the element and then those it is in, from the inside
outwards. -/
inductive StandsIn : List Tree → List Element → Prop where
  | void {ts : List Tree} {e : Element} : .void e ∈ ts → StandsIn ts [e]
  | element {ts inside : List Tree} {e : Element} : .element e inside ∈ ts → StandsIn ts [e]
  | inside {ts inside : List Tree} {e : Element} {chain : List Element} :
      .element e inside ∈ ts → StandsIn inside chain → StandsIn ts (chain ++ [e])

/-! ## Where the names stand -/

theorem Tree.markup_isInfix {t : Tree} {ts : List Tree} (h : t ∈ ts) : t.markup <:+: Tree.markupAll ts := by
  induction ts with
  | nil => cases h
  | cons u ts ih =>
    rw [Tree.markupAll]
    rcases List.mem_cons.1 h with rfl | h
    · exact (List.prefix_append _ _).isInfix
    · exact (ih h).trans (List.suffix_append _ _).isInfix

theorem StandsIn.startTag_isInfix {ts : List Tree} {chain : List Element} (h : StandsIn ts chain) :
    ∀ e ∈ chain, e.startTag <:+: Tree.markupAll ts := by
  have start {ts inside : List Tree} {e : Element} (h : .element e inside ∈ ts) :
      e.startTag <:+: Tree.markupAll ts := by
    refine List.IsInfix.trans ?_ (Tree.markup_isInfix h)
    rw [Tree.markup, List.append_assoc]
    exact (List.prefix_append _ _).isInfix
  induction h with
  | @void ts e h =>
    intro e' he'
    rw [List.mem_singleton] at he'
    subst he'
    exact Tree.markup_isInfix h
  | element h =>
    intro e' he'
    rw [List.mem_singleton] at he'
    subst he'
    exact start h
  | @inside ts inside e chain h _ ih =>
    intro e' he'
    rcases List.mem_append.1 he' with he' | he'
    · refine (ih e' he').trans (List.IsInfix.trans ?_ (Tree.markup_isInfix h))
      exact ⟨e.startTag, e.endTag, rfl⟩
    · rw [List.mem_singleton] at he'
      subst he'
      exact start h

theorem Element.delimited_tag (e : Element) : Text.Delimited Usage.isTokenChar e.startTag e.tag := by
  obtain ⟨d, r, hr, hd⟩ : ∃ d r, e.idAttribute ++ e.classAttribute ++ ['>'] = d :: r ∧
      Usage.isTokenChar d = false := by
    rw [idAttribute, classAttribute]
    cases e.id with
    | some x => exact ⟨' ', _, rfl, by decide⟩
    | none =>
      cases e.classes with
      | nil => exact ⟨'>', _, rfl, by decide⟩
      | cons x r => exact ⟨' ', _, rfl, by decide⟩
  refine ⟨[], r, '<', d, ?_, by decide, hd⟩
  rw [startTag, ← hr]
  simp

theorem Element.delimited_idAttribute {e : Element} {x : Text} (h : e.id = some x) :
    Text.Delimited Usage.isTokenChar e.idAttribute x := by
  rw [idAttribute, h]
  exact ⟨" id=".toList, [], '"', '"', rfl, by decide, by decide⟩

theorem Element.delimited_classAttribute {e : Element} {x : Text} (h : x ∈ e.classes) :
    Text.Delimited Usage.isTokenChar e.classAttribute x := by
  rw [classAttribute]
  cases hc : e.classes with
  | nil =>
    rw [hc] at h
    cases h
  | cons y r =>
    rw [hc] at h
    have hspace : Usage.isTokenChar ' ' = false := by decide
    have hquote : Usage.isTokenChar '"' = false := by decide
    have hjoin := Text.delimited_join hspace hquote hquote h
    exact hjoin.of_isInfix ⟨" class=".toList, [], by simp⟩

/-- In a start tag no name touches a character of a token. -/
theorem Element.delimited_startTag {e : Element} {x : Text} (h : x ∈ e.names) :
    Text.Delimited Usage.isTokenChar e.startTag x := by
  rw [names, List.cons_append, List.mem_cons, List.mem_append, Option.mem_toList] at h
  rcases h with rfl | hid | hclass
  · exact e.delimited_tag
  · refine (delimited_idAttribute hid).of_isInfix ⟨'<' :: e.tag, e.classAttribute ++ ['>'], ?_⟩
    simp [startTag]
  · refine (delimited_classAttribute hclass).of_isInfix ⟨'<' :: e.tag ++ e.idAttribute, ['>'], ?_⟩
    simp [startTag]

/-- A page mentions the names of its elements, those that are tokens as they stand. -/
theorem StandsIn.mem_tokenList {ts : List Tree} {chain : List Element} {e : Element} {x : Text}
    (h : StandsIn ts chain) (he : e ∈ chain) (hx : x ∈ e.names) (htoken : Usage.isToken x = true) :
    x ∈ Usage.tokenList (Tree.markupAll ts) :=
  Usage.mem_tokenList_of_delimited htoken ((Element.delimited_startTag hx).of_isInfix (h.startTag_isInfix e he))

end StylePrune.Page
