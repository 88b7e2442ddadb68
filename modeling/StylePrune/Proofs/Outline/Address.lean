import StylePrune.Proofs.Outline.Closure

/-!
Addresses without quotes.

An address may stand in `url(…)` without quotes, and braces, semicolons and slashes in it mean nothing. The scanner
does not know such addresses: it reads them like everything around them. `Harmless` says for which ones this is no
matter. With harmless addresses in it, a stylesheet still has one node for each statement (`nodes_linked`). With any
other address in it, some stylesheet has not: a block with the address (`harmless_of_nodes_rule`), or a statement with
it (`harmless_of_nodes_import`), is not read as one node.
-/
namespace StylePrune.Outline

/-! ## Addresses -/

def isAddressChar (c : Char) : Bool :=
  32 < c.toNat && c.toNat != 127 && !(['"', '\'', '(', ')', '\\'].contains c)

def urlToken (address : Text) : Text := "url(".toList ++ address ++ [')']

/-- A character that does nothing to the scanner where it stands for itself. -/
def Region.ignores : Region → Char → Bool
  | prelude, c => !(['"', '\'', '\\', ';', '{'].contains c)
  | block, c => !(['"', '\'', '\\', '{', '}'].contains c)

/-- A text that leaves the outline as it is, if it has to close so many open braces. Its comments end; outside them, it
has neither a semicolon nor an opening brace in a prelude, and in a block its braces close each other and those that are
open. -/
inductive Harmless : Region → Nat → Text → Prop where
  | nil {r : Region} : Harmless r 0 []
  | char {r : Region} {depth : Nat} {c : Char} {s : Text} : r.ignores c = true → (c = '/' → s.head? ≠ some '*') →
      Harmless r depth s → Harmless r depth (c :: s)
  | comment {r : Region} {depth : Nat} {t s : Text} : CommentBody t → Harmless r depth s →
      Harmless r depth ('/' :: '*' :: (t ++ '*' :: '/' :: s))
  | opening {depth : Nat} {s : Text} : Harmless .block (depth + 1) s → Harmless .block depth ('{' :: s)
  | closing {depth : Nat} {s : Text} : Harmless .block depth s → Harmless .block (depth + 1) ('}' :: s)

variable {r : Region} {depth : Nat} {c : Char} {s u : Text}

theorem Region.ne_of_ignores (h : r.ignores c = true) :
    (c ≠ '"' ∧ c ≠ '\'') ∧ c ≠ '\\' ∧ c ≠ '{' ∧ (r = .prelude → c ≠ ';') ∧ (r = .block → c ≠ '}') := by
  cases r
  all_goals
    simp only [ignores, List.contains_cons, List.contains_nil, Bool.or_false, Bool.not_or, Bool.and_eq_true,
      Bool.not_eq_true', beq_eq_false_iff_ne] at h
    simp [h]

theorem lexemes_ignored (h : r.ignores c = true) (hc : c = '/' → s.head? ≠ some '*') :
    lexemes (c :: s) = .plain c :: lexemes s :=
  lexemes_plain (Region.ne_of_ignores h).1 (Region.ne_of_ignores h).2.1 hc

/-! ## Harmless addresses -/

theorem Harmless.lexemes_append (h : Harmless r depth s) {rest : Text} (hr : rest.head? ≠ some '*') :
    lexemes (s ++ rest) = lexemes s ++ lexemes rest := by
  induction h with
  | nil => simp [lexemes]
  | @char r depth c s hi hc _ ih =>
    have hc' : c = '/' → (s ++ rest).head? ≠ some '*' := by
      intro h
      cases s with
      | nil => exact hr
      | cons d s => exact hc h
    rw [List.cons_append, lexemes_ignored hi hc', ih, lexemes_ignored hi hc, List.cons_append]
  | @comment r depth t s ht _ ih =>
    have := lexemes_comment ht (s ++ rest)
    simp only [List.cons_append, List.append_assoc] at this ⊢
    rw [this, lexemes_comment ht, ih, List.cons_append]
  | opening _ ih => rw [List.cons_append, lexemes_brace (.inl rfl), ih, lexemes_brace (.inl rfl), List.cons_append]
  | closing _ ih => rw [List.cons_append, lexemes_brace (.inr rfl), ih, lexemes_brace (.inr rfl), List.cons_append]

theorem Harmless.scan_inPrelude (h : Harmless r depth s) (hr : r = .prelude) (p ls : List Lexeme) :
    scan (.inPrelude p) (lexemes s ++ ls) = scan (.inPrelude ((lexemes s).reverse ++ p)) ls := by
  induction h generalizing p with
  | nil => simp [lexemes]
  | char hi hc _ ih =>
    obtain ⟨-, -, hopen, hend, -⟩ := Region.ne_of_ignores hi
    rw [lexemes_ignored hi hc, List.cons_append, Outline.scan_inPrelude (by simpa using hend hr) (by simpa using hopen),
      ih hr]
    simp
  | comment ht _ ih =>
    rw [lexemes_comment ht, List.cons_append, Outline.scan_inPrelude (by simp) (by simp), ih hr]
    simp
  | opening => cases hr
  | closing => cases hr

/-- The braces that the text closes are closed afterwards, and the others are as they were. -/
theorem Harmless.scan_inBlock (h : Harmless r depth s) (hr : r = .block) (p b ls : List Lexeme) (d : Nat) :
    scan (.inBlock p b (d + depth)) (lexemes s ++ ls) = scan (.inBlock p ((lexemes s).reverse ++ b) d) ls := by
  induction h generalizing b with
  | nil => simp [lexemes]
  | char hi hc _ ih =>
    obtain ⟨-, -, hopen, -, hclose⟩ := Region.ne_of_ignores hi
    rw [lexemes_ignored hi hc, List.cons_append, Outline.scan_inBlock (by simpa using hopen) (by simpa using hclose hr),
      ih hr]
    simp
  | comment ht _ ih =>
    rw [lexemes_comment ht, List.cons_append, Outline.scan_inBlock (by simp) (by simp), ih hr]
    simp
  | opening _ ih =>
    rw [lexemes_brace (.inl rfl), List.cons_append, scan_inBlock_open, Nat.add_assoc, ih rfl]
    simp
  | closing _ ih =>
    rw [lexemes_brace (.inr rfl), List.cons_append, ← Nat.add_assoc, scan_inBlock_close, ih rfl]
    simp

theorem Harmless.stays (h : Harmless r 0 s) : Stays r s :=
  ⟨h.lexemes_append, h.scan_inPrelude, fun hr p b ls d => h.scan_inBlock hr p b ls d⟩

/-! ## Where the scanner stays where it is -/

theorem Stays.nil : Stays r [] := Contents.nil.stays

theorem Stays.append {t : Text} (hs : Stays r s) (ht : Stays r t) (h : t.head? ≠ some '*') : Stays r (s ++ t) where
  cut := by
    intro rest hrest
    have hhead : (t ++ rest).head? ≠ some '*' := by
      cases t with
      | nil => exact hrest
      | cons d t => exact h
    rw [List.append_assoc, hs.cut hhead, ht.cut hrest, hs.cut h, List.append_assoc]
  inPrelude := by
    intro hr p ls
    rw [hs.cut h, List.append_assoc, hs.inPrelude hr, ht.inPrelude hr, List.reverse_append, List.append_assoc]
  inBlock := by
    intro hr p b ls d
    rw [hs.cut h, List.append_assoc, hs.inBlock hr, ht.inBlock hr, List.reverse_append, List.append_assoc]

theorem Stays.cons (hi : r.ignores c = true) (hc : c ≠ '/') (h : Stays r s) : Stays r (c :: s) := by
  obtain ⟨-, -, hopen, hend, hclose⟩ := Region.ne_of_ignores hi
  have hcut (t : Text) : lexemes (c :: t) = .plain c :: lexemes t := lexemes_ignored hi fun hslash => absurd hslash hc
  refine ⟨fun hrest => ?_, fun hr p ls => ?_, fun hr p b ls d => ?_⟩
  · rw [List.cons_append, hcut, h.cut hrest, hcut, List.cons_append]
  · rw [hcut, List.cons_append, scan_inPrelude (by simpa using hend hr) (by simpa using hopen), h.inPrelude hr]
    simp
  · rw [hcut, List.cons_append, scan_inBlock (by simpa using hopen) (by simpa using hclose hr), h.inBlock hr]
    simp

theorem Stays.block {t : Text} (ht : Stays .block t) (hs : Stays .block s) : Stays .block ('{' :: (t ++ '}' :: s)) := by
  have hcut (v : Text) : lexemes ('{' :: (t ++ '}' :: v)) = .plain '{' :: (lexemes t ++ .plain '}' :: lexemes v) := by
    rw [lexemes_brace (.inl rfl), ht.cut (by simp), lexemes_brace (.inr rfl)]
  refine ⟨fun hrest => ?_, fun hr => Region.noConfusion hr, fun hr p b ls d => ?_⟩
  · rw [List.cons_append, List.append_assoc, List.cons_append, hcut, hcut, hs.cut hrest]
    simp
  · rw [hcut, List.cons_append, scan_inBlock_open, List.append_assoc, ht.inBlock rfl, List.cons_append,
      scan_inBlock_close, hs.inBlock rfl]
    simp

theorem Harmless.prepend (h : Harmless r depth s) {w : Text}
    (hw : w.all (fun c => r.ignores c && c != '/') = true) : Harmless r depth (w ++ s) := by
  induction w with
  | nil => exact h
  | cons c w ih =>
    rw [List.all_cons, Bool.and_eq_true, Bool.and_eq_true, bne_iff_ne] at hw
    obtain ⟨⟨hc, hslash⟩, hw⟩ := hw
    exact .char hc (fun h => absurd h hslash) (ih hw)

theorem Harmless.stays_urlToken (hu : Harmless r 0 u) (h : Stays r s) : Stays r (urlToken u ++ s) := by
  have hopened : Harmless r 0 ("url(".toList ++ u) := hu.prepend (by cases r <;> rfl)
  have hparen : r.ignores ')' = true := by cases r <;> rfl
  rw [urlToken, List.append_assoc, List.singleton_append]
  exact hopened.stays.append (h.cons hparen (by decide)) (by simp)

/-! ## Stylesheets with addresses -/

/-- What may stand in a region if addresses without quotes may, those that are `allowed` there. -/
inductive Linked (allowed : Region → Text → Prop) : Region → Text → Prop where
  | nil {r : Region} : Linked allowed r []
  | contents {r : Region} {s t : Text} : Contents r s → t.head? ≠ some '*' → Linked allowed r t →
      Linked allowed r (s ++ t)
  | url {r : Region} {u s : Text} : u.all isAddressChar = true → allowed r u → Linked allowed r s →
      Linked allowed r (urlToken u ++ s)
  | block {t s : Text} : Linked allowed .block t → Linked allowed .block s →
      Linked allowed .block ('{' :: (t ++ '}' :: s))

/-- A statement or block of the top level in which addresses may stand. -/
structure LinkedItem (allowed : Region → Text → Prop) where
  prelude : Text
  /-- The inside of the block; none if a semicolon ends the item. -/
  block : Option Text
  prelude_linked : Linked allowed .prelude prelude
  block_linked : ∀ b ∈ block, Linked allowed .block b
  starts : (∀ c ∈ prelude.head?, Text.isAsciiBlank c = false) ∧ ¬ ['/', '*'] <+: prelude

/-- A part of a stylesheet in which addresses may stand. -/
inductive LinkedPart (allowed : Region → Text → Prop) where
  /-- White space or a comment. -/
  | gap (p : Part) (h : p.item? = none ∧ p ≠ .stray)
  | item (i : LinkedItem allowed)

variable {allowed : Region → Text → Prop}

namespace LinkedItem

def text (i : LinkedItem allowed) : Text := i.prelude ++ tailOf i.block

def node (i : LinkedItem allowed) : Node := nodeOf i.prelude i.block i.text

theorem node_text (i : LinkedItem allowed) : i.node.text = i.text := nodeOf_text _ _ _

end LinkedItem

namespace LinkedPart

def text : LinkedPart allowed → Text
  | gap p _ => p.text
  | item i => i.text

def item? : LinkedPart allowed → Option (LinkedItem allowed)
  | gap _ _ => none
  | item i => some i

def textOf (ps : List (LinkedPart allowed)) : Text := ps.flatMap text

def items (ps : List (LinkedPart allowed)) : List (LinkedItem allowed) := ps.filterMap item?

end LinkedPart

theorem Linked.head (h : Linked allowed r s) :
    ∀ c ∈ s.head?, (Text.isAsciiBlank c = false → Text.isBlank c = false) ∧ c ≠ '}' := by
  induction h with
  | nil => simp
  | @contents r s t hs _ _ ih =>
    cases s with
    | nil => exact ih
    | cons d s => exact hs.head
  | url _ _ _ _ =>
    intro c hc
    obtain rfl : 'u' = c := by simpa [urlToken] using hc
    decide
  | block _ _ _ _ =>
    intro c hc
    obtain rfl : '{' = c := by simpa using hc
    decide

theorem Linked.stays (hallowed : ∀ r u, u.all isAddressChar = true → allowed r u → Harmless r 0 u)
    (h : Linked allowed r s) : Stays r s := by
  induction h with
  | nil => exact .nil
  | contents hs hstar _ ih => exact hs.stays.append ih hstar
  | url hu hok _ ih => exact (hallowed _ _ hu hok).stays_urlToken ih
  | block _ _ iht ihs => exact iht.block ihs

theorem LinkedItem.head_prelude (i : LinkedItem allowed) :
    ∀ c ∈ i.prelude.head?, Text.isBlank c = false ∧ c ≠ '}' := by
  intro c hc
  obtain ⟨hblank, hclose⟩ := i.prelude_linked.head c hc
  exact ⟨hblank (i.starts.1 c hc), hclose⟩

theorem LinkedItem.tight_text (i : LinkedItem allowed) : Text.Tight i.text := tight_statement i.head_prelude i.block

theorem scan_linkedItem (hallowed : ∀ r u, u.all isAddressChar = true → allowed r u → Harmless r 0 u)
    (i : LinkedItem allowed) (rest : Text) :
    scan .between (lexemes (i.text ++ rest)) = i.node :: scan .between (lexemes rest) := by
  have hblock : ∀ b ∈ i.block, Stays .block b := fun b hb => (i.block_linked b hb).stays hallowed
  rw [LinkedItem.text, List.append_assoc]
  exact scan_statement (i.prelude_linked.stays hallowed) hblock i.head_prelude i.starts.2 rest

/-- **Harmless addresses leave the outline as it is**: one node for each item, in order, with the text of the item. -/
theorem nodes_linked (hallowed : ∀ r u, u.all isAddressChar = true → allowed r u → Harmless r 0 u)
    (ps : List (LinkedPart allowed)) :
    nodes (LinkedPart.textOf ps) = (LinkedPart.items ps).map LinkedItem.node := by
  induction ps with
  | nil => exact nodes_nil
  | cons p ps ih =>
    rw [nodes] at ih
    rw [LinkedPart.textOf, List.flatMap_cons, ← LinkedPart.textOf, nodes]
    cases p with
    | gap p h =>
      rw [LinkedPart.text, scan_part, h.1, ih]
      rfl
    | item i =>
      rw [LinkedPart.text, scan_linkedItem hallowed, ih]
      rfl

/-! ## Comments that do not end -/

/-- Without a slash behind it, a comment that does not end takes up everything. -/
theorem CommentBody.append {t v : Text} (ht : CommentBody t) (hv : '/' ∉ v) : CommentBody (t ++ v) := by
  induction t with
  | nil => exact fun hi => hv (hi.subset (by simp))
  | cons c t ih =>
    intro hi
    rw [List.cons_append, List.infix_cons_iff] at hi
    rcases hi with hprefix | hi
    · obtain ⟨hc, hslash⟩ := List.cons_prefix_cons.1 hprefix
      cases t with
      | nil => exact hv (hslash.subset (by simp))
      | cons d t =>
        obtain ⟨hd, -⟩ := List.cons_prefix_cons.1 hslash
        subst hc hd
        exact ht (List.prefix_append ['*', '/'] t).isInfix
    · exact ih ht.of_cons hi

/-! ## Addresses that are not harmless -/

/-- Something has been read that does not start with white space. -/
def Begun (p : List Lexeme) : Prop := ∃ c s, readBack p = c :: s ∧ Text.isBlank c = false

/-- The scanner is in a region of a node, and so many braces are open in it. -/
inductive Place.In : Region → Nat → Place → Prop where
  | prelude {p : List Lexeme} : Begun p → In .prelude 0 (.inPrelude p)
  | block {p b : List Lexeme} {depth : Nat} : Begun p → In .block depth (.inBlock p b depth)

theorem Begun.cons {p : List Lexeme} (h : Begun p) (l : Lexeme) : Begun (l :: p) := by
  obtain ⟨c, s, hp, hc⟩ := h
  exact ⟨c, s ++ l.text, by rw [readBack_cons, hp, List.cons_append], hc⟩

/-- The node of what has been read has its text, if that ends in no white space. -/
theorem Begun.makeNode {p : List Lexeme} (h : Begun p) (body : Option Text) (t : Text) (hc : Text.isBlank c = false) :
    ∃ n, Outline.makeNode (readBack p) body (readBack p ++ (t ++ [c])) = some n ∧
      n.text = readBack p ++ (t ++ [c]) := by
  obtain ⟨d, s, hp, hd⟩ := h
  have htight : Text.Tight (readBack p ++ (t ++ [c])) := by
    refine ⟨by simp, fun e he => ?_, fun e he => ?_⟩
    · obtain rfl : d = e := by simpa [hp] using he
      exact hd
    · obtain rfl : c = e := by simpa [← List.append_assoc] using he
      exact hc
  refine ⟨_, makeNode_of_tight (fun e he => ?_) htight body, nodeOf_text _ _ _⟩
  obtain rfl : d = e := by simpa [hp] using he
  exact hd

variable {p : List Lexeme} {st : Place} {n m : Node}

/-- What does nothing to the scanner becomes part of the node. -/
theorem Place.In.read (h : st.In r depth) {l : Lexeme} (hl : ∀ c, l = .plain c → r.ignores c = true) :
    ∃ st' : Place, st'.In r depth ∧ st'.text = st.text ++ l.text ∧ ∀ ls, scan st (l :: ls) = scan st' ls := by
  cases h with
  | @prelude p hp =>
    have hs : l ≠ .plain ';' := fun h => nomatch hl _ h
    have ho : l ≠ .plain '{' := fun h => nomatch hl _ h
    exact ⟨.inPrelude (l :: p), .prelude (hp.cons l), readBack_cons l p, fun ls => scan_inPrelude hs ho p ls⟩
  | @block p b _ hp =>
    have ho : l ≠ .plain '{' := fun h => nomatch hl _ h
    have hc : l ≠ .plain '}' := fun h => nomatch hl _ h
    refine ⟨.inBlock p (l :: b) depth, .block hp, ?_, fun ls => scan_inBlock ho hc p b ls depth⟩
    rw [Place.text, readBack_cons, Place.text, List.append_assoc, List.cons_append]

theorem length_scan_nil (st : Place) : (scan st []).length ≤ 1 := by
  rw [scan]
  cases unfinished st <;> simp

theorem scan_inPrelude_end (hp : Begun p) (ls : List Lexeme) :
    ∃ n, n.text = readBack p ++ [';'] ∧ scan (.inPrelude p) (.plain ';' :: ls) = n :: scan .between ls := by
  obtain ⟨n, hn, htext⟩ := hp.makeNode none [] (c := ';') (by decide)
  rw [List.nil_append] at hn htext
  refine ⟨n, htext, ?_⟩
  rw [scan, step, stepPrelude, hn]
  rfl

theorem scan_inBlock_end (hp : Begun p) (b ls : List Lexeme) :
    ∃ n, n.text = readBack p ++ ('{' :: readBack b ++ ['}']) ∧
      scan (.inBlock p b 0) (.plain '}' :: ls) = n :: scan .between ls := by
  obtain ⟨n, hn, htext⟩ := hp.makeNode (some (readBack b)) ('{' :: readBack b) (c := '}') (by decide)
  refine ⟨n, htext, ?_⟩
  rw [scan, step, stepBlock, List.append_assoc, hn]
  rfl

/-- A block that ends has a closing brace at its end, and one that does not is the last node. -/
theorem scan_inBlock_getLast? (hp : Begun p) (b ls : List Lexeme) (d : Nat) :
    (scan (.inBlock p b d) ls).length ≤ 1 ∨
      ∃ n ns, scan (.inBlock p b d) ls = n :: ns ∧ n.text.getLast? = some '}' := by
  induction ls generalizing b d with
  | nil => exact .inl (length_scan_nil _)
  | cons l ls ih =>
    by_cases ho : l = .plain '{'
    · subst ho
      rw [scan_inBlock_open]
      exact ih _ _
    by_cases hc : l = .plain '}'
    · subst hc
      cases d with
      | zero =>
        obtain ⟨n, htext, hn⟩ := scan_inBlock_end hp b ls
        refine .inr ⟨n, _, hn, ?_⟩
        rw [htext, ← List.append_assoc, List.getLast?_concat]
      | succ d =>
        rw [scan_inBlock_close]
        exact ih _ _
    · rw [scan_inBlock ho hc]
      exact ih _ _

theorem lexemes_address (h : isAddressChar c = true) (hc : c = '/' → s.head? ≠ some '*') :
    lexemes (c :: s) = .plain c :: lexemes s := by
  simp only [isAddressChar, Bool.and_eq_true, Bool.not_eq_true', List.contains_cons, List.contains_nil, Bool.or_false,
    Bool.or_eq_false_iff, beq_eq_false_iff_ne, ne_eq] at h
  exact lexemes_plain ⟨h.2.1, h.2.2.1⟩ h.2.2.2.2.2 hc

theorem Region.special_of_not_ignores (hc : isAddressChar c = true) (hi : ¬ r.ignores c = true) :
    c = '{' ∨ (r = .prelude ∧ c = ';') ∨ (r = .block ∧ c = '}') := by
  simp only [isAddressChar, Bool.and_eq_true, Bool.not_eq_true', List.contains_cons, List.contains_nil, Bool.or_false,
    Bool.or_eq_false_iff, beq_eq_false_iff_ne, ne_eq] at hc
  obtain ⟨-, hdouble, hsingle, -, -, hescape⟩ := hc
  cases r
  all_goals
    simp [ignores, hdouble, hsingle, hescape] at hi
    tauto

/-- What ends the node of a sample behind its address. -/
def Region.ending : Region → Text
  | prelude => [')', ';']
  | block => [')', '}']

def sampleRule : Text := "a{}".toList

/-- The scanner reads on as it should: the address and what ends its node become the rest of the node, and the rule
that follows is another one. -/
def ReadsOn (r : Region) (st : Place) (u : Text) : Prop :=
  ∃ n m, scan st (lexemes (u ++ (r.ending ++ sampleRule))) = [n, m] ∧ n.text = st.text ++ (u ++ r.ending)

theorem ReadsOn.two_le (h : ReadsOn r st u) : 2 ≤ (scan st (lexemes (u ++ (r.ending ++ sampleRule)))).length := by
  obtain ⟨n, m, hscan, -⟩ := h
  rw [hscan]
  exact Nat.le_refl 2

theorem ReadsOn.behind {st st' : Place} {l : Lexeme} (h : ReadsOn r st (l.text ++ s))
    (hcut : ∀ t, t = s ++ (r.ending ++ sampleRule) → lexemes (l.text ++ t) = l :: lexemes t)
    (hread : ∀ ls, scan st (l :: ls) = scan st' ls) (htext : st'.text = st.text ++ l.text) : ReadsOn r st' s := by
  obtain ⟨n, m, hscan, hn⟩ := h
  rw [List.append_assoc, hcut _ rfl, hread] at hscan
  refine ⟨n, m, hscan, ?_⟩
  rw [hn, htext]
  simp only [List.append_assoc]

/-- A block that is left open takes up the rule that follows. -/
theorem not_readsOn_nil (b : List Lexeme) (d : Nat) : ¬ ReadsOn .block (.inBlock p b (d + 1)) [] := by
  intro h
  have htwo := h.two_le
  have hcut : lexemes ([] ++ (Region.block.ending ++ sampleRule)) =
      [.plain ')', .plain '}', .plain 'a', .plain '{', .plain '}'] := by
    change lexemes [')', '}', 'a', '{', '}'] = _
    simp [lexemes]
  rw [hcut, scan_inBlock (by simp) (by simp), scan_inBlock_close, scan_inBlock (by simp) (by simp), scan_inBlock_open,
    scan_inBlock_close] at htwo
  have hone := length_scan_nil (.inBlock p (.plain '}' :: .plain '{' :: .plain 'a' :: .plain '}' :: .plain ')' :: b) d)
  omega

theorem not_readsOn_comment (hst : st.In r depth) {t : Text} (ht : CommentBody t) :
    ¬ ReadsOn r st ('/' :: '*' :: t) := by
  intro h
  have htwo := h.two_le
  have hopen : CommentBody (t ++ (r.ending ++ sampleRule)) := ht.append (by cases r <;> decide)
  obtain ⟨st', -, -, hread⟩ := hst.read (l := .comment (t ++ (r.ending ++ sampleRule))) (by simp)
  rw [List.cons_append, List.cons_append, lexemes_openComment hopen, hread] at htwo
  have hone := length_scan_nil st'
  omega

theorem not_readsOn_semicolon (hp : Begun p) : ¬ ReadsOn .prelude (.inPrelude p) (';' :: s) := by
  rintro ⟨n, m, hscan, htext⟩
  obtain ⟨k, hktext, hk⟩ := scan_inPrelude_end hp (lexemes (s ++ (Region.prelude.ending ++ sampleRule)))
  rw [List.cons_append, lexemes_plain (by decide) (by decide) (by simp), hk] at hscan
  obtain rfl := (List.cons.inj hscan).1
  rw [htext] at hktext
  simp [Place.text, Region.ending] at hktext

theorem not_readsOn_open (hp : Begun p) : ¬ ReadsOn .prelude (.inPrelude p) ('{' :: s) := by
  intro h
  have htwo := h.two_le
  obtain ⟨n, m, hscan, htext⟩ := h
  rw [List.cons_append, lexemes_brace (.inl rfl), scan_inPrelude_open] at hscan htwo
  rcases scan_inBlock_getLast? hp [] (lexemes (s ++ (Region.prelude.ending ++ sampleRule))) 0 with
    hone | ⟨k, ks, hk, hlast⟩
  · omega
  · rw [hk] at hscan
    obtain rfl := (List.cons.inj hscan).1
    rw [htext, ← List.append_assoc] at hlast
    have hsemicolon : Region.prelude.ending = [')'] ++ [';'] := rfl
    rw [hsemicolon, ← List.append_assoc, List.getLast?_concat] at hlast
    cases hlast

theorem not_readsOn_close (hp : Begun p) (b : List Lexeme) : ¬ ReadsOn .block (.inBlock p b 0) ('}' :: s) := by
  rintro ⟨n, m, hscan, htext⟩
  obtain ⟨k, hktext, hk⟩ := scan_inBlock_end hp b (lexemes (s ++ (Region.block.ending ++ sampleRule)))
  rw [List.cons_append, lexemes_brace (.inr rfl), hk] at hscan
  obtain rfl := (List.cons.inj hscan).1
  rw [htext] at hktext
  simp [Place.text, Region.ending] at hktext

/-- An address behind which the scanner reads on as it should is harmless. -/
theorem ReadsOn.harmless {r : Region} {depth : Nat} {st : Place} {u : Text} (h : ReadsOn r st u)
    (hst : st.In r depth) (hu : u.all isAddressChar = true) : Harmless r depth u := by
  -- the recursion is on the address, and the scanner stands where it has read what is in front of the rest
  match u with
  | [] =>
    cases hst with
    | prelude => exact .nil
    | @block p b depth _ =>
      cases depth with
      | zero => exact .nil
      | succ d => exact absurd h (not_readsOn_nil b d)
  | c :: s =>
    rw [List.all_cons, Bool.and_eq_true] at hu
    by_cases hcomment : c = '/' ∧ s.head? = some '*'
    · obtain ⟨rfl, hstar⟩ := hcomment
      obtain ⟨t, rfl⟩ := List.head?_eq_some_iff.1 hstar
      rcases commentBody_or t with ht | ⟨v, w, hv, rfl⟩
      · exact absurd h (not_readsOn_comment hst ht)
      · obtain ⟨st', hst', htext, hread⟩ := hst.read (l := .comment (v ++ ['*', '/'])) (by simp)
        have hw : w.all isAddressChar = true := by
          simp only [List.all_cons, List.all_append, Bool.and_eq_true] at hu
          exact hu.2.2.2.2.2
        have hbehind : ReadsOn r st' w := by
          refine ReadsOn.behind (by simpa [Lexeme.text] using h) (fun t _ => ?_) hread htext
          have := lexemes_comment hv t
          simpa [Lexeme.text] using this
        exact .comment hv (hbehind.harmless hst' hw)
    have hcut : ∀ t, t = s ++ (r.ending ++ sampleRule) → lexemes (c :: t) = .plain c :: lexemes t := by
      rintro t rfl
      refine lexemes_address hu.1 fun hslash => ?_
      cases s with
      | nil => cases r <;> simp [Region.ending]
      | cons d s => exact fun hstar => hcomment ⟨hslash, hstar⟩
    by_cases hi : r.ignores c = true
    · obtain ⟨st', hst', htext, hread⟩ := hst.read (l := .plain c) (by simpa using hi)
      have hbehind : ReadsOn r st' s := h.behind (l := .plain c) hcut hread htext
      exact .char hi (fun hc hstar => hcomment ⟨hc, hstar⟩) (hbehind.harmless hst' hu.2)
    rcases Region.special_of_not_ignores hu.1 hi with rfl | ⟨rfl, rfl⟩ | ⟨rfl, rfl⟩
    · cases hst with
      | prelude hp => exact absurd h (not_readsOn_open hp)
      | @block p b _ hp =>
        have hbehind : ReadsOn .block (.inBlock p (.plain '{' :: b) (depth + 1)) s :=
          h.behind (l := .plain '{') hcut (fun ls => scan_inBlock_open p b ls depth)
            (by simp [Place.text, readBack_cons])
        exact .opening (hbehind.harmless (.block hp) hu.2)
    · cases hst with
      | prelude hp => exact absurd h (not_readsOn_semicolon hp)
    · cases hst with
      | @block p b _ hp =>
        cases depth with
        | zero => exact absurd h (not_readsOn_close hp b)
        | succ d =>
          have hbehind : ReadsOn .block (.inBlock p (.plain '}' :: b) d) s :=
            h.behind (l := .plain '}') hcut (fun ls => scan_inBlock_close p b ls d) (by simp [Place.text, readBack_cons])
          exact .closing (hbehind.harmless (.block hp) hu.2)
  termination_by u.length

theorem scan_between_contents {w rest : Text} (hw : Contents .prelude w) (hne : w ≠ [])
    (hhead : ∀ c ∈ w.head?, Text.isBlank c = false ∧ c ≠ '}') (hopen : ¬ ['/', '*'] <+: w)
    (hrest : rest.head? ≠ some '*') :
    scan .between (lexemes (w ++ rest)) = scan (.inPrelude (lexemes w).reverse) (lexemes rest) := by
  obtain ⟨l, ls, hls, hl⟩ := exists_lexeme hne hhead hopen
  rw [lexemes_append hw hrest, hls, List.cons_append, scan_between_item hl, ← List.cons_append, ← hls,
    scan_prelude hw rfl, List.append_nil]

theorem harmless_of_nodes_import {u : Text} (hu : u.all isAddressChar = true) {n m : Node}
    (hnodes : nodes ("@import ".toList ++ urlToken u ++ [';'] ++ sampleRule) = [n, m])
    (htext : n.text = "@import ".toList ++ urlToken u ++ [';']) : Harmless .prelude 0 u := by
  have hw : Contents .prelude "@import url".toList := .plain rfl
  have hhead : ∀ c ∈ "@import url".toList.head?, Text.isBlank c = false ∧ c ≠ '}' := by rintro c ⟨⟩; decide
  have hcut (t : Text) : lexemes ('(' :: t) = .plain '(' :: lexemes t :=
    lexemes_plain (by decide) (by decide) (by simp)
  have hread : readBack (.plain '(' :: (lexemes "@import url".toList).reverse) = "@import url(".toList := by
    rw [readBack_cons, readBack, List.reverse_reverse, textOf_lexemes]
    rfl
  -- the scanner stands in the prelude, behind the opening parenthesis
  have hreads : ReadsOn .prelude (.inPrelude (.plain '(' :: (lexemes "@import url".toList).reverse)) u := by
    refine ⟨n, m, ?_, ?_⟩
    · have hwritten : "@import ".toList ++ urlToken u ++ [';'] ++ sampleRule =
          "@import url".toList ++ '(' :: (u ++ (Region.prelude.ending ++ sampleRule)) := by
        simp [urlToken, Region.ending]
      rw [hwritten, nodes, scan_between_contents hw (by decide) hhead (by decide) (by simp), hcut,
        scan_inPrelude (by simp) (by simp)] at hnodes
      exact hnodes
    · rw [htext, Place.text, hread]
      simp [urlToken, Region.ending]
  exact hreads.harmless (.prelude ⟨'@', _, hread, by decide⟩) hu

theorem harmless_of_nodes_rule {u : Text} (hu : u.all isAddressChar = true) {n m : Node}
    (hnodes : nodes ("a\x7bb:".toList ++ urlToken u ++ ['}'] ++ sampleRule) = [n, m])
    (htext : n.text = "a\x7bb:".toList ++ urlToken u ++ ['}']) : Harmless .block 0 u := by
  have hw : Contents .prelude "a".toList := .plain rfl
  have hhead : ∀ c ∈ "a".toList.head?, Text.isBlank c = false ∧ c ≠ '}' := by rintro c ⟨⟩; decide
  have hv : Contents .block "b:url".toList := .plain rfl
  have hcut (t : Text) : lexemes ('(' :: t) = .plain '(' :: lexemes t :=
    lexemes_plain (by decide) (by decide) (by simp)
  have hprelude : readBack (lexemes "a".toList).reverse = "a".toList := by
    rw [readBack, List.reverse_reverse, textOf_lexemes]
  have hinside : readBack (.plain '(' :: ((lexemes "b:url".toList).reverse ++ [])) = "b:url(".toList := by
    rw [readBack_cons, readBack_lexemes]
    rfl
  have hreads : ReadsOn .block
      (.inBlock (lexemes "a".toList).reverse (.plain '(' :: ((lexemes "b:url".toList).reverse ++ [])) 0) u := by
    refine ⟨n, m, ?_, ?_⟩
    · have hwritten : "a\x7bb:".toList ++ urlToken u ++ ['}'] ++ sampleRule =
          "a".toList ++ '{' :: ("b:url".toList ++ '(' :: (u ++ (Region.block.ending ++ sampleRule))) := by
        simp [urlToken, Region.ending]
      rw [hwritten, nodes, scan_between_contents hw (by decide) hhead (by decide) (by simp),
        lexemes_brace (.inl rfl), scan_inPrelude_open, lexemes_append hv (by simp), scan_block hv, hcut,
        scan_inBlock (by simp) (by simp)] at hnodes
      exact hnodes
    · rw [htext, Place.text, hprelude, hinside]
      simp [urlToken, Region.ending]
  exact hreads.harmless (.block ⟨'a', _, hprelude, by decide⟩) hu

end StylePrune.Outline
