import Mathlib.Data.List.Forall2
import StylePrune.Proofs.Outline.Grammar

/-!
The scanner reads the grammar.

The scanner is followed lexeme by lexeme: contents of a prelude keep it inside the prelude
(`scan_prelude`), and contents of a block keep it inside the block and bring it back to the depth at which
they started (`scan_block`), so the closing brace after them is the one that ends the block. What is
between two items adds no node, and an item adds the node it stands for (`scan_item`). Over a list of
parts this gives the nodes of every text of the grammar (`nodes_standFor_items`), and the nodes of such a
text do not depend on what follows it (`nodes_textOf_append`).
-/
namespace StylePrune.Outline

/-! ## What stands at the ends of contents and items -/

theorem isBlank_of_isAsciiBlank {c : Char} (h : Text.isAsciiBlank c = true) : Text.isBlank c = true := by
  simp only [Text.isAsciiBlank, Bool.or_eq_true, beq_iff_eq] at h
  rcases h with (((rfl | rfl) | rfl) | rfl) | rfl <;> decide

theorem isBlank_eq_false_of_isBare {c : Char} (h : isBare c = true) (ha : Text.isAsciiBlank c = false) :
    Text.isBlank c = false := by
  simp only [isBare, Bool.and_eq_true, ha, Bool.false_or, Bool.not_eq_true'] at h
  exact h.2

/-- Contents start with white space only if it is that of ASCII, and never with a closing brace. -/
theorem Contents.head {r : Region} {s : Text} (h : Contents r s) :
    ∀ c ∈ s.head?, (Text.isAsciiBlank c = false → Text.isBlank c = false) ∧ c ≠ '}' := by
  intro c hc
  cases h with
  | nil => simp at hc
  | char hb _ _ =>
    obtain rfl : _ = c := by simpa using hc
    have hbare := Region.bare_of_admits hb
    refine ⟨isBlank_eq_false_of_isBare hbare, ?_⟩
    rintro rfl
    cases hbare
  | comment _ _ =>
    obtain rfl : '/' = c := by simpa using hc
    decide
  | string hq _ _ =>
    obtain rfl : _ = c := by simpa using hc
    rcases hq with rfl | rfl <;> decide
  | escape _ _ =>
    obtain rfl : '\\' = c := by simpa using hc
    decide
  | block _ _ =>
    obtain rfl : '{' = c := by simpa using hc
    decide

def tailOf : Option Text → Text
  | none => [';']
  | some b => '{' :: (b ++ ['}'])

theorem head_tailOf (b : Option Text) : (tailOf b).head? = some ';' ∨ (tailOf b).head? = some '{' := by
  cases b with
  | none => exact .inl rfl
  | some b => exact .inr rfl

theorem getLast?_tailOf (b : Option Text) : (tailOf b).getLast? = some ';' ∨ (tailOf b).getLast? = some '}' := by
  cases b with
  | none => exact .inl rfl
  | some b => exact .inr (by rw [tailOf, ← List.cons_append, List.getLast?_concat])

theorem head_statement {p : Text} (hp : ∀ c ∈ p.head?, Text.isBlank c = false ∧ c ≠ '}') (b : Option Text)
    (rest : Text) : ∀ c ∈ (p ++ (tailOf b ++ rest)).head?, Text.isBlank c = false ∧ c ≠ '}' := by
  intro c hc
  cases p with
  | cons d p => exact hp c hc
  | nil =>
    rw [List.nil_append, List.head?_append] at hc
    rcases head_tailOf b with h | h
    all_goals
      rw [h] at hc
      obtain rfl := Option.some.inj hc
      decide

theorem tight_statement {p : Text} (hp : ∀ c ∈ p.head?, Text.isBlank c = false ∧ c ≠ '}') (b : Option Text) :
    Text.Tight (p ++ tailOf b) := by
  have htail : tailOf b ≠ [] := by
    intro h
    rcases head_tailOf b with hb | hb <;> simp [h] at hb
  refine ⟨by simp [htail], fun c hc => ?_, fun c hc => ?_⟩
  · have := head_statement hp b []
    rw [List.append_nil] at this
    exact (this c hc).1
  · rw [List.getLast?_append_of_ne_nil _ htail] at hc
    rcases getLast?_tailOf b with h | h
    all_goals
      rw [h] at hc
      obtain rfl := Option.some.inj hc
      decide

theorem not_prefix_statement {p : Text} (hp : ¬ ['/', '*'] <+: p) (b : Option Text) (rest : Text) :
    ¬ ['/', '*'] <+: p ++ (tailOf b ++ rest) := by
  intro h
  obtain ⟨c, u, hu, hc⟩ : ∃ c u, tailOf b ++ rest = c :: u ∧ c ≠ '/' ∧ c ≠ '*' := by
    cases b with
    | none => exact ⟨_, _, rfl, by decide, by decide⟩
    | some t => exact ⟨_, _, rfl, by decide, by decide⟩
  rw [hu] at h
  match p with
  | [] => exact hc.1 (List.cons_prefix_cons.1 h).1.symm
  | [d] => exact hc.2 (List.cons_prefix_cons.1 (List.cons_prefix_cons.1 h).2).1.symm
  | d :: e :: q =>
    obtain ⟨hd, h⟩ := List.cons_prefix_cons.1 h
    obtain ⟨he, -⟩ := List.cons_prefix_cons.1 h
    exact hp (hd ▸ he ▸ List.prefix_append ['/', '*'] q)

namespace Item

theorem head_prelude (i : Item) : ∀ c ∈ i.prelude.head?, Text.isBlank c = false ∧ c ≠ '}' := by
  intro c hc
  obtain ⟨hblank, hclose⟩ := i.prelude_contents.head c hc
  exact ⟨hblank (i.starts.1 c hc), hclose⟩

theorem tight_text (i : Item) : Text.Tight i.text := tight_statement i.head_prelude i.block

end Item

/-! ## The node of an item -/

theorem isBlank_eq_false_of_isNameChar {c : Char} (h : isNameChar c = true) : Text.isBlank c = false := by
  have key : 45 ≤ c.toNat ∧ c.toNat ≤ 122 := by
    simp only [isNameChar, Bool.or_eq_true, beq_iff_eq] at h
    rcases h with (h | rfl) | rfl
    · have hranges : (decide ('A'.val ≤ c.val ∧ c.val ≤ 'Z'.val) || 'a'.val ≤ c.val && c.val ≤ 'z'.val ||
          '0'.val ≤ c.val && c.val ≤ '9'.val) = true := h
      simp only [Bool.or_eq_true, Bool.and_eq_true, decide_eq_true_eq, UInt32.le_iff_toNat_le,
        Char.toNat_val] at hranges
      simp at hranges
      omega
    · decide
    · decide
  have hs : c ≠ ' ' := by rintro rfl; simp at key
  simp only [Text.isBlank, Text.inRanges, Text.blankRanges, List.any_cons, List.any_nil]
  simp [hs]
  omega

/-- Trimming a prelude changes neither the name in it nor, once they are trimmed, the parameters. -/
theorem name_trimEnd (r : Text) : (Text.trimEnd r).takeWhile isNameChar = r.takeWhile isNameChar ∧
    Text.trim ((Text.trimEnd r).dropWhile isNameChar) = Text.trim (r.dropWhile isNameChar) := by
  obtain ⟨w, hw, hr⟩ := Text.exists_trimEnd_append r
  have hhead : ∀ c ∈ w.head?, isNameChar c = false := by
    intro c hc
    cases h : isNameChar c with
    | false => rfl
    | true =>
      have := hw c (List.mem_of_mem_head? hc)
      rw [isBlank_eq_false_of_isNameChar h] at this
      contradiction
  obtain ⟨htake, hdrop⟩ := Text.takeWhile_append_of_head (Text.trimEnd r) hhead
  rw [← hr] at htake hdrop
  rw [htake, hdrop, Text.trim_append_blanks _ hw]
  exact ⟨rfl, rfl⟩

/-- The node of a prelude that does not start with white space. -/
def nodeOf (prelude : Text) (block : Option Text) (whole : Text) : Node :=
  match prelude with
  | '@' :: r => .atRule (r.takeWhile isNameChar) (Text.trim (r.dropWhile isNameChar)) block whole
  | _ => .rule whole

theorem nodeOf_text (prelude : Text) (block : Option Text) (whole : Text) :
    (nodeOf prelude block whole).text = whole := by
  unfold nodeOf
  split <;> rfl

theorem makeNode_of_tight {prelude whole : Text} (hp : ∀ c ∈ prelude.head?, Text.isBlank c = false)
    (hw : Text.Tight whole) (block : Option Text) :
    makeNode prelude block whole = some (nodeOf prelude block whole) := by
  have hne : whole.isEmpty = false := List.isEmpty_eq_false_iff.2 hw.nonempty
  rw [makeNode, hw.trim]
  simp only [hne, Bool.false_eq_true, if_false]
  cases prelude with
  | nil => rfl
  | cons c r =>
    rw [Text.trim_cons_of_neg r (hp c rfl)]
    by_cases hc : c = '@'
    · subst hc
      simp only [nodeOf, (name_trimEnd r).1, (name_trimEnd r).2]
    · unfold nodeOf
      split
      · next heq => exact absurd (List.cons.inj heq).1 hc
      · split
        · next heq => exact absurd (List.cons.inj heq).1 hc
        · rfl

/-! ## Following the scanner -/

def Place.text : Place → Text
  | .between => []
  | .inPrelude p => readBack p
  | .inBlock p b _ => readBack p ++ '{' :: readBack b

theorem readBack_cons (l : Lexeme) (p : List Lexeme) : readBack (l :: p) = readBack p ++ l.text := by
  simp [readBack, textOf]

theorem scan_between_filler {l : Lexeme} (h : isFiller l = true) (ls : List Lexeme) :
    scan .between (l :: ls) = scan .between ls := by
  simp [scan, step, h]

theorem lexemes_filler {c : Char} (h : isFiller (.plain c) = true) (r : Text) :
    lexemes (c :: r) = .plain c :: lexemes r := by
  simp only [isFiller, Text.isAsciiBlank, Bool.or_eq_true, beq_iff_eq] at h
  rcases h with ((((rfl | rfl) | rfl) | rfl) | rfl) | rfl
  all_goals exact lexemes_plain (by decide) (by decide) (by simp)

theorem scan_between_item {l : Lexeme} (h : isFiller l = false) (ls : List Lexeme) :
    scan .between (l :: ls) = scan (.inPrelude []) (l :: ls) := by
  simp [scan, step, h]

theorem scan_inPrelude {l : Lexeme} (hs : l ≠ .plain ';') (hb : l ≠ .plain '{') (p ls : List Lexeme) :
    scan (.inPrelude p) (l :: ls) = scan (.inPrelude (l :: p)) ls := by
  rw [scan, step, stepPrelude]
  · rfl
  · exact hs
  · exact hb

theorem scan_inBlock {l : Lexeme} (ho : l ≠ .plain '{') (hc : l ≠ .plain '}') (p b ls : List Lexeme)
    (d : Nat) : scan (.inBlock p b d) (l :: ls) = scan (.inBlock p (l :: b) d) ls := by
  rw [scan, step, stepBlock]
  · rfl
  · exact ho
  · exact fun h _ => hc h
  · exact fun _ h _ => hc h

theorem scan_inPrelude_open (p ls : List Lexeme) :
    scan (.inPrelude p) (.plain '{' :: ls) = scan (.inBlock p [] 0) ls := by
  rw [scan, step, stepPrelude]
  rfl

theorem scan_inBlock_open (p b ls : List Lexeme) (d : Nat) :
    scan (.inBlock p b d) (.plain '{' :: ls) = scan (.inBlock p (.plain '{' :: b) (d + 1)) ls := by
  rw [scan, step, stepBlock]
  rfl

theorem scan_inBlock_close (p b ls : List Lexeme) (d : Nat) :
    scan (.inBlock p b (d + 1)) (.plain '}' :: ls) = scan (.inBlock p (.plain '}' :: b) d) ls := by
  rw [scan, step, stepBlock]
  rfl

theorem Region.ne_of_admits {r : Region} {c : Char} (h : r.admits c = true) :
    c ≠ '{' ∧ c ≠ '}' ∧ (r = .prelude → c ≠ ';') := by
  have hb := Region.bare_of_admits h
  simp only [isBare, Bool.and_eq_true, bne_iff_ne, ne_eq] at hb
  refine ⟨hb.1.1.2, hb.1.2, ?_⟩
  rintro rfl
  simpa using (Bool.and_eq_true_iff.1 h).2

/-- Contents of a prelude keep the scanner inside the prelude. -/
theorem scan_prelude {r : Region} {s : Text} (h : Contents r s) (hr : r = .prelude) (p ls : List Lexeme) :
    scan (.inPrelude p) (lexemes s ++ ls) = scan (.inPrelude ((lexemes s).reverse ++ p)) ls := by
  induction h generalizing p with
  | nil => simp [lexemes]
  | @char r c s hb hc _ ih =>
    obtain ⟨ho, -, hs⟩ := Region.ne_of_admits hb
    rw [lexemes_bare (Region.bare_of_admits hb) hc, List.cons_append,
      scan_inPrelude (by simpa using hs hr) (by simpa using ho), ih hr]
    simp
  | comment ht _ ih =>
    rw [lexemes_comment ht, List.cons_append, scan_inPrelude (by simp) (by simp), ih hr]
    simp
  | string hq ht _ ih =>
    rw [lexemes_string hq ht, List.cons_append, scan_inPrelude (by simp) (by simp), ih hr]
    simp
  | escape _ _ ih =>
    rw [lexemes_escape, List.cons_append, scan_inPrelude (by simp) (by simp), ih hr]
    simp
  | block => cases hr

/-- Contents of a block keep the scanner inside the block, at the depth at which they started. -/
theorem scan_block {r : Region} {s : Text} (h : Contents r s) (p b ls : List Lexeme) (d : Nat) :
    scan (.inBlock p b d) (lexemes s ++ ls) = scan (.inBlock p ((lexemes s).reverse ++ b) d) ls := by
  induction h generalizing b ls d with
  | nil => simp [lexemes]
  | @char r c s hb hc _ ih =>
    obtain ⟨ho, hcl, -⟩ := Region.ne_of_admits hb
    rw [lexemes_bare (Region.bare_of_admits hb) hc, List.cons_append,
      scan_inBlock (by simpa using ho) (by simpa using hcl), ih]
    simp
  | comment ht _ ih =>
    rw [lexemes_comment ht, List.cons_append, scan_inBlock (by simp) (by simp), ih]
    simp
  | string hq ht _ ih =>
    rw [lexemes_string hq ht, List.cons_append, scan_inBlock (by simp) (by simp), ih]
    simp
  | escape _ _ ih =>
    rw [lexemes_escape, List.cons_append, scan_inBlock (by simp) (by simp), ih]
    simp
  | @block t s ht _ iht ihs =>
    -- the nested block is read one level deeper, and its closing brace leads back
    rw [lexemes_brace (.inl rfl), lexemes_append ht (by simp), lexemes_brace (.inr rfl), List.cons_append,
      scan_inBlock_open, List.append_assoc, iht, List.cons_append, scan_inBlock_close, ihs]
    simp

/-- The scanner stays where it is while it reads a text: in a prelude it stays inside it, and in a block it is at the
same depth afterwards. Where the text ends, a lexeme ends. -/
structure Stays (r : Region) (s : Text) : Prop where
  cut : ∀ {rest : Text}, rest.head? ≠ some '*' → lexemes (s ++ rest) = lexemes s ++ lexemes rest
  inPrelude : r = .prelude → ∀ p ls,
    scan (.inPrelude p) (lexemes s ++ ls) = scan (.inPrelude ((lexemes s).reverse ++ p)) ls
  inBlock : r = .block → ∀ p b ls d,
    scan (.inBlock p b d) (lexemes s ++ ls) = scan (.inBlock p ((lexemes s).reverse ++ b) d) ls

theorem Contents.stays {r : Region} {s : Text} (h : Contents r s) : Stays r s :=
  ⟨lexemes_append h, scan_prelude h, fun _ => scan_block h⟩

/-! ## Statements and stylesheets -/

/-- A text that starts with no white space, no comment and no closing brace starts with a lexeme that is no filler. -/
theorem exists_lexeme {s : Text} (hne : s ≠ []) (hhead : ∀ c ∈ s.head?, Text.isBlank c = false ∧ c ≠ '}')
    (hopen : ¬ ['/', '*'] <+: s) : ∃ l ls, lexemes s = l :: ls ∧ isFiller l = false := by
  fun_cases lexemes s with
  | case1 => exact absurd rfl hne
  | case2 c r hq => exact ⟨_, _, rfl, rfl⟩
  | case3 r hq => exact ⟨_, _, rfl, rfl⟩
  | case4 c r hq he hc =>
    obtain ⟨rfl, hstar⟩ := hc
    obtain ⟨r, rfl⟩ := List.head?_eq_some_iff.1 hstar
    exact absurd (List.prefix_append ['/', '*'] r) hopen
  | case5 c r hq he hc =>
    obtain ⟨hblank, hclose⟩ := hhead c rfl
    have hascii : Text.isAsciiBlank c = false :=
      Bool.eq_false_iff.2 fun h => Bool.eq_false_iff.1 hblank (isBlank_of_isAsciiBlank h)
    exact ⟨_, _, rfl, by simp [isFiller, hascii, hclose]⟩

theorem readBack_lexemes (s : Text) : readBack ((lexemes s).reverse ++ []) = s := by
  rw [readBack, List.append_nil, List.reverse_reverse, textOf_lexemes]

/-- A prelude with what follows it is one node, if the scanner stays inside the prelude while it reads it, and
inside the block if there is one. -/
theorem scan_statement {p : Text} {b : Option Text} (hp : Stays .prelude p) (hb : ∀ t ∈ b, Stays .block t)
    (hhead : ∀ c ∈ p.head?, Text.isBlank c = false ∧ c ≠ '}') (hopen : ¬ ['/', '*'] <+: p) (rest : Text) :
    scan .between (lexemes (p ++ (tailOf b ++ rest))) = nodeOf p b (p ++ tailOf b) :: scan .between (lexemes rest) := by
  have hne : p ++ (tailOf b ++ rest) ≠ [] := by
    rw [← List.append_assoc]
    exact List.append_ne_nil_of_left_ne_nil (tight_statement hhead b).nonempty rest
  have htail : (tailOf b ++ rest).head? ≠ some '*' := by
    rw [List.head?_append]
    rcases head_tailOf b with h | h <;> simp [h]
  have hnode : makeNode p b (p ++ tailOf b) = some (nodeOf p b (p ++ tailOf b)) :=
    makeNode_of_tight (fun c hc => (hhead c hc).1) (tight_statement hhead b) b
  obtain ⟨l, ls, hls, hl⟩ := exists_lexeme hne (head_statement hhead b rest) (not_prefix_statement hopen b rest)
  rw [hls, scan_between_item hl, ← hls, hp.cut htail, hp.inPrelude rfl]
  cases b with
  | none =>
    rw [tailOf] at hnode ⊢
    rw [List.singleton_append, lexemes_plain (by simp) (by simp) (by simp), scan, step, stepPrelude, readBack_lexemes,
      hnode]
    rfl
  | some t =>
    have ht := hb t rfl
    simp only [tailOf, List.cons_append, List.append_assoc, List.nil_append] at hnode ⊢
    rw [lexemes_brace (.inl rfl), ht.cut (by simp), lexemes_brace (.inr rfl), scan_inPrelude_open, ht.inBlock rfl,
      scan, step, stepBlock, readBack_lexemes, readBack_lexemes]
    simp only [List.append_assoc, List.cons_append, hnode]
    rfl

theorem scan_item (i : Item) (rest : Text) :
    scan .between (lexemes (i.text ++ rest)) = i.node :: scan .between (lexemes rest) := by
  have hblock : ∀ b ∈ i.block, Stays .block b := fun b hb => (i.block_contents b hb).stays
  rw [Item.text, List.append_assoc]
  exact scan_statement i.prelude_contents.stays hblock i.head_prelude i.starts.2 rest

theorem scan_part (p : Part) (rest : Text) :
    scan .between (lexemes (p.text ++ rest)) =
      (p.item?.map Item.node).toList ++ scan .between (lexemes rest) := by
  cases p with
  | blank c h =>
    have hf : isFiller (.plain c) = true := by simp [isFiller, h]
    rw [Part.text, List.singleton_append, lexemes_filler hf, scan_between_filler hf]
    rfl
  | comment t h =>
    have := lexemes_comment h rest
    simp only [Part.text, List.cons_append, List.append_assoc, List.nil_append]
    rw [this, scan_between_filler rfl]
    rfl
  | stray =>
    rw [Part.text, List.singleton_append, lexemes_brace (.inr rfl), scan_between_filler rfl]
    rfl
  | item i => exact scan_item i rest

theorem nodes_nil : nodes [] = [] := by simp [nodes, lexemes, scan, unfinished]

/-- **The nodes of a text of the grammar do not depend on what follows it.** -/
theorem nodes_textOf_append (ps : List Part) (rest : Text) :
    nodes (Part.textOf ps ++ rest) = (Part.items ps).map Item.node ++ nodes rest := by
  induction ps with
  | nil => rfl
  | cons p ps ih =>
    rw [Part.textOf_cons, List.append_assoc, nodes, scan_part]
    rw [nodes] at ih
    rw [ih, Part.items, Part.items, List.filterMap_cons]
    cases p.item? <;> rfl

theorem nodes_textOf (ps : List Part) : nodes (Part.textOf ps) = (Part.items ps).map Item.node := by
  have h := nodes_textOf_append ps []
  rwa [List.append_nil, nodes_nil, List.append_nil] at h

/-- What a node says about an item: the item as written and, exactly if the prelude starts with an at sign,
the name after it, the rest of the prelude and what stands in the block. -/
structure StandsFor (n : Node) (i : Item) : Prop where
  text : n.text = i.text
  isAtRule : (∃ name params body t, n = .atRule name params body t) ↔ i.prelude.head? = some '@'
  atRule : ∀ {name params body t}, n = .atRule name params body t →
    name = i.prelude.tail.takeWhile isNameChar ∧
    params = Text.trim (i.prelude.tail.dropWhile isNameChar) ∧ body = i.block

theorem Item.standsFor_node (i : Item) : StandsFor i.node i := by
  by_cases h : i.prelude.head? = some '@'
  · obtain ⟨r, hr⟩ := List.head?_eq_some_iff.1 h
    rw [node_of_at hr]
    refine ⟨rfl, iff_of_true ⟨_, _, _, _, rfl⟩ h, ?_⟩
    intro name params body t heq
    obtain ⟨rfl, rfl, rfl, -⟩ := Node.atRule.inj heq
    rw [hr, List.tail_cons]
    exact ⟨rfl, rfl, rfl⟩
  · rw [node_of_not_at h]
    refine ⟨rfl, iff_of_false ?_ h, fun heq => Node.noConfusion heq⟩
    rintro ⟨_, _, _, _, heq⟩
    cases heq

/-- **The scanner reads the grammar.** A stylesheet that is written as a list of parts has one node for
each item, in order, and each node stands for its item. -/
theorem nodes_standFor_items (ps : List Part) :
    List.Forall₂ StandsFor (nodes (Part.textOf ps)) (Part.items ps) := by
  rw [nodes_textOf, List.forall₂_map_left_iff]
  exact List.forall₂_same.2 fun i _ => i.standsFor_node

end StylePrune.Outline
