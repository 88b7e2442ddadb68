import StylePrune.Proofs.Outline.Closure
import StylePrune.Resolution.Session

/-!
Stylesheets that are joined.

A stylesheet of the grammar may stand in a block (`Closed.contents`), so the scanner that enters a media block
around it comes out at the closing brace that was written for the block, and the block is one node whatever
follows (`nodes_wrapInMedia_append`). A text with which the nodes of what follows start afresh is called apart
(`Apart`); stylesheets are apart with and without a media block, so the nodes of stylesheets that are joined are
those of one stylesheet after the other (`Outcome.nodes_css`).
-/
namespace StylePrune.Outline

/-! ## Characters that open nothing -/

/-- A character that opens neither a string nor an escape, and neither opens nor ends a block or a statement. -/
def isIdle (c : Char) : Bool := c != '"' && c != '\'' && c != '\\' && c != '{' && c != '}' && c != ';'

/-- A text of which every character is a lexeme of its own, with no meaning to the outline. -/
structure Idle (s : Text) : Prop where
  chars : ∀ c ∈ s, isIdle c = true
  comment : ¬ ['/', '*'] <:+: s

theorem ne_of_isIdle {c : Char} (h : isIdle c = true) :
    c ≠ '"' ∧ c ≠ '\'' ∧ c ≠ '\\' ∧ c ≠ '{' ∧ c ≠ ';' := by
  simp only [isIdle, Bool.and_eq_true, bne_iff_ne, ne_eq] at h
  exact ⟨h.1.1.1.1.1, h.1.1.1.1.2, h.1.1.1.2, h.1.1.2, h.2⟩

theorem Idle.of_cons {c : Char} {s : Text} (h : Idle (c :: s)) : Idle s :=
  ⟨fun d hd => h.chars d (List.mem_cons_of_mem c hd), fun hi => h.comment (hi.trans (List.suffix_cons c s).isInfix)⟩

theorem idle_of_slash_notMem {s : Text} (h : s.all isIdle = true) (hslash : '/' ∉ s) : Idle s :=
  ⟨List.all_eq_true.1 h, fun hi => hslash (hi.subset List.mem_cons_self)⟩

theorem lexemes_idle {s rest : Text} (h : Idle s) (hr : s.getLast? = some '/' → rest.head? ≠ some '*') :
    lexemes (s ++ rest) = s.map Lexeme.plain ++ lexemes rest := by
  induction s with
  | nil => rfl
  | cons c s ih =>
    obtain ⟨hq, ha, he, -, -⟩ := ne_of_isIdle (h.chars c List.mem_cons_self)
    have hopen : c = '/' → (s ++ rest).head? ≠ some '*' := by
      rintro rfl
      cases s with
      | nil => exact hr rfl
      | cons d s =>
        intro hd
        obtain rfl : d = '*' := by simpa using hd
        exact h.comment (List.prefix_append ['/', '*'] s).isInfix
    have hlast : s.getLast? = some '/' → rest.head? ≠ some '*' := by
      intro hs
      apply hr
      rw [List.getLast?_cons, hs]
      rfl
    rw [List.cons_append, lexemes_plain ⟨hq, ha⟩ he hopen, ih h.of_cons hlast]
    rfl

theorem scan_prelude_idle {s : Text} (h : ∀ c ∈ s, isIdle c = true) (p ls : List Lexeme) :
    scan (.inPrelude p) (s.map Lexeme.plain ++ ls) = scan (.inPrelude ((s.map Lexeme.plain).reverse ++ p)) ls := by
  induction s generalizing p with
  | nil => rfl
  | cons c s ih =>
    obtain ⟨-, -, -, ho, hs⟩ := ne_of_isIdle (h c List.mem_cons_self)
    rw [List.map_cons, List.cons_append, scan_inPrelude (by simpa using hs) (by simpa using ho),
      ih fun d hd => h d (List.mem_cons_of_mem c hd)]
    simp

theorem textOf_plain (s : Text) : textOf (s.map Lexeme.plain) = s := by
  induction s with
  | nil => rfl
  | cons c s ih =>
    rw [List.map_cons, textOf_cons, ih]
    rfl

/-! ## A stylesheet inside a block -/

theorem Contents.block_of_prelude {r : Region} {s : Text} (h : Contents r s) (hr : r = .prelude) :
    Contents .block s := by
  induction h with
  | nil => exact .nil
  | char hb hc _ ih => exact .char (Region.bare_of_admits hb) hc (ih hr)
  | comment hb _ ih => exact .comment hb (ih hr)
  | string hq hb _ ih => exact .string hq hb (ih hr)
  | escape hb _ ih => exact .escape hb (ih hr)
  | block => cases hr

theorem Item.contents_append (i : Item) {s : Text} (hs : Contents .block s) : Contents .block (i.text ++ s) := by
  have hhead : (tailOf i.block ++ s).head? ≠ some '*' := by
    rw [List.head?_append]
    rcases head_tailOf i.block with h | h <;> simp [h]
  have htail : Contents .block (i.tail ++ s) := by
    unfold Item.tail
    split
    · exact .char (by decide) (fun h => absurd h (by decide)) hs
    · next b hb => simpa using Contents.block (i.block_contents b hb) hs
  rw [Item.text, List.append_assoc]
  exact (i.prelude_contents.block_of_prelude rfl).append htail hhead

theorem Closed.contents {css : Text} (h : Closed css) : Contents .block css := by
  obtain ⟨ps, hstray, rfl⟩ := h
  induction ps with
  | nil => exact .nil
  | cons p ps ih =>
    rw [List.mem_cons, not_or] at hstray
    have hps := ih hstray.2
    cases p with
    | blank c hc =>
      have hplain : ∀ d, Text.isAsciiBlank d = true → isBare d = true ∧ d ≠ '/' := by
        intro d hd
        simp only [Text.isAsciiBlank, Bool.or_eq_true, beq_iff_eq] at hd
        rcases hd with (((rfl | rfl) | rfl) | rfl) | rfl <;> decide
      exact .char (hplain c hc).1 (fun h => absurd h (hplain c hc).2) hps
    | comment t ht => simpa [Part.text] using Contents.comment ht hps
    | stray => exact absurd rfl hstray.1
    | item i => exact i.contents_append hps

/-! ## Media blocks -/

/-- A condition that a media block can be written for: it is there, it has no white space at its ends, and
nothing in it has a meaning to the outline. -/
structure Condition (c : Text) : Prop where
  nonempty : c ≠ []
  trimmed : Text.trim c = c
  idle : Idle c

def mediaPrelude (c : Text) : Text := "@media ".toList ++ c ++ [' ']

/-- What a stylesheet becomes inside the block: it has lines of its own. -/
def onOwnLines (css : Text) : Text := '\n' :: (css ++ ['\n'])

theorem wrapInMedia_eq (css c rest : Text) :
    Sheet.wrapInMedia css c ++ rest = mediaPrelude c ++ '{' :: (onOwnLines css ++ '}' :: rest) := by
  unfold Sheet.wrapInMedia mediaPrelude onOwnLines
  simp only [List.append_assoc, List.cons_append, List.nil_append]

theorem Condition.isIdle_mediaPrelude {c : Text} (h : Condition c) : ∀ d ∈ mediaPrelude c, isIdle d = true := by
  intro d hd
  unfold mediaPrelude at hd
  rw [List.mem_append, List.mem_append] at hd
  rcases hd with (hd | hd) | hd
  · have hword : "@media ".toList.all isIdle = true := rfl
    exact List.all_eq_true.1 hword d hd
  · exact h.idle.chars d hd
  · obtain rfl := List.mem_singleton.1 hd
    decide

theorem Condition.lexemes_mediaPrelude {c : Text} (h : Condition c) (rest : Text) (hr : rest.head? ≠ some '*') :
    lexemes (mediaPrelude c ++ rest) = (mediaPrelude c).map Lexeme.plain ++ lexemes rest := by
  have hword : Idle "@media ".toList := idle_of_slash_notMem (by decide) (by decide)
  have hblank : Idle [' '] := idle_of_slash_notMem (by decide) (by decide)
  have hslash : "@media ".toList.getLast? ≠ some '/' := by decide
  -- no comment is opened where the three pieces meet, since there is a blank on one side
  unfold mediaPrelude
  calc lexemes ("@media ".toList ++ c ++ [' '] ++ rest)
      = lexemes ("@media ".toList ++ (c ++ ([' '] ++ rest))) := by rw [List.append_assoc, List.append_assoc]
    _ = "@media ".toList.map Lexeme.plain ++ lexemes (c ++ ([' '] ++ rest)) :=
        lexemes_idle hword fun h => absurd h hslash
    _ = "@media ".toList.map Lexeme.plain ++ (c.map Lexeme.plain ++ lexemes ([' '] ++ rest)) := by
        rw [lexemes_idle h.idle fun _ => by simp]
    _ = "@media ".toList.map Lexeme.plain ++ (c.map Lexeme.plain ++ ([' '].map Lexeme.plain ++ lexemes rest)) := by
        rw [lexemes_idle hblank fun _ => hr]
    _ = ("@media ".toList ++ c ++ [' ']).map Lexeme.plain ++ lexemes rest := by
        rw [List.map_append, List.map_append, List.append_assoc, List.append_assoc]

def mediaBlock (c css : Text) : Node :=
  .atRule "media".toList c (some (onOwnLines css)) (Sheet.wrapInMedia css c)

theorem Condition.trim_mediaPrelude {c : Text} (h : Condition c) :
    Text.trim (mediaPrelude c) = "@media ".toList ++ c := by
  have htight : Text.Tight c := h.trimmed ▸ Text.tight_trim (by rw [h.trimmed]; exact h.nonempty)
  have hword : Text.Tight "@media".toList := ⟨by decide, by rintro c ⟨⟩; rfl, by rintro c ⟨⟩; rfl⟩
  calc Text.trim (mediaPrelude c)
      = Text.trim ("@media ".toList ++ c) := Text.trim_append_blanks _ (List.all_eq_true.1 rfl)
    _ = Text.trim ("@media".toList ++ [' '] ++ c) := rfl
    _ = "@media".toList ++ [' '] ++ c := (hword.append [' '] htight).trim

theorem trim_wrapInMedia (css c : Text) : Text.trim (Sheet.wrapInMedia css c) = Sheet.wrapInMedia css c := by
  apply Text.trim_eq_self
  · intro d hd
    obtain rfl : '@' = d := Option.some.inj hd
    decide
  · intro d hd
    unfold Sheet.wrapInMedia at hd
    rw [List.getLast?_append_of_ne_nil _ (by simp)] at hd
    obtain rfl : '}' = d := Option.some.inj hd
    decide

/-- Whatever stands in the block, its node has the condition. -/
theorem Condition.makeNode_mediaPrelude {c : Text} (h : Condition c) (body : Text) {t : Text}
    (ht : (Text.trim t).isEmpty = false) :
    makeNode (mediaPrelude c) (some body) t = some (.atRule "media".toList c (some body) (Text.trim t)) := by
  have hname : ("media ".toList ++ c).takeWhile isNameChar = "media".toList := rfl
  have hparams : Text.trim (("media ".toList ++ c).dropWhile isNameChar) = c := by
    show Text.trim (' ' :: c) = c
    rw [Text.trim, Text.trimStart_cons_of_pos _ rfl, ← Text.trim, h.trimmed]
  have hprelude : Text.trim (mediaPrelude c) = '@' :: ("media ".toList ++ c) := h.trim_mediaPrelude
  rw [makeNode, hprelude]
  simp only [ht, Bool.false_eq_true, if_false, hname, hparams]

theorem Condition.makeNode_mediaBlock {c : Text} (h : Condition c) (css : Text) :
    makeNode (mediaPrelude c) (some (onOwnLines css)) (Sheet.wrapInMedia css c) = some (mediaBlock c css) := by
  have hwhole : Text.trim (Sheet.wrapInMedia css c) = Sheet.wrapInMedia css c := trim_wrapInMedia css c
  rw [h.makeNode_mediaPrelude _ (by rw [hwhole]; rfl), hwhole]
  rfl

/-- The scanner enters the block that is written for a stylesheet. -/
theorem Condition.nodes_wrapInMedia {c : Text} (h : Condition c) (css rest : Text) :
    nodes (Sheet.wrapInMedia css c ++ rest) =
      scan (.inBlock ((mediaPrelude c).map Lexeme.plain).reverse [] 0) (lexemes (onOwnLines css ++ '}' :: rest)) := by
  have hstart : ∀ ls, scan .between ((mediaPrelude c).map Lexeme.plain ++ ls) =
      scan (.inPrelude []) ((mediaPrelude c).map Lexeme.plain ++ ls) := by
    intro ls
    exact scan_between_item (l := .plain '@') rfl _
  rw [nodes, wrapInMedia_eq, h.lexemes_mediaPrelude _ (by simp), hstart, lexemes_brace (.inl rfl),
    scan_prelude_idle h.isIdle_mediaPrelude, List.append_nil, scan_inPrelude_open]

theorem contents_onOwnLines {css : Text} (h : Contents .block css) : Contents .block (onOwnLines css) := by
  have hline : Contents .block ['\n'] := .plain rfl
  exact .char (by decide) (fun h => absurd h (by decide)) (h.append hline (by simp))

/-- A stylesheet does not get out of its media block: whatever follows, there is one node for it. -/
theorem Condition.nodes_wrapInMedia_append {c css : Text} (h : Condition c) (hcss : Contents .block css) (rest : Text) :
    nodes (Sheet.wrapInMedia css c ++ rest) = mediaBlock c css :: nodes rest := by
  have hbody := contents_onOwnLines hcss
  have hread : readBack ((mediaPrelude c).map Lexeme.plain).reverse = mediaPrelude c := by
    rw [readBack, List.reverse_reverse, textOf_plain]
  have hwhole : mediaPrelude c ++ '{' :: onOwnLines css ++ ['}'] = Sheet.wrapInMedia css c := by
    have := wrapInMedia_eq css c []
    rw [List.append_nil] at this
    rw [this, List.append_assoc, List.cons_append]
  -- the scanner comes back to the depth at which it entered, so the brace that was written ends the block
  rw [h.nodes_wrapInMedia, lexemes_append hbody (by simp), scan_block hbody, lexemes_brace (.inr rfl), scan, step,
    stepBlock, hread, readBack_lexemes, hwhole, h.makeNode_mediaBlock]
  rfl

theorem Condition.apart_wrapInMedia {c css : Text} (h : Condition c) (hcss : Contents .block css) :
    Apart (Sheet.wrapInMedia css c) := by
  intro rest
  have halone := h.nodes_wrapInMedia_append hcss []
  rw [List.append_nil, nodes_nil] at halone
  rw [h.nodes_wrapInMedia_append hcss, halone]
  rfl

theorem nodes_onOwnLines {css : Text} (h : Written css) : nodes (onOwnLines css) = nodes css := by
  have hend : nodes ['\n'] = [] := (nodes_newline []).trans nodes_nil
  rw [onOwnLines, nodes_newline, nodes_append h, hend, List.append_nil]

end StylePrune.Outline

namespace StylePrune.Resolution

open Outline (Closed Condition Apart)

/-- What the outline of joined stylesheets has for one of them: its nodes as they are or, if it has a condition,
one media block that has this condition and whose body has these nodes. -/
def Contributes (css : Text) (media : Option Text) (ns : List Node) : Prop :=
  match media with
  | none => ns = Outline.nodes css
  | some c => ∃ n body, ns = [n] ∧ n.mediaCondition = some c ∧ n.text = Sheet.wrapInMedia css c ∧
      n.body = some body ∧ Outline.nodes body = Outline.nodes css

theorem contributes_forMedium {css : Text} {media : Option Text} (hcss : Closed css)
    (hmedia : ∀ c ∈ media, Condition c) : Contributes css media (Outline.nodes (forMedium media css)) := by
  cases media with
  | none => rfl
  | some c =>
    have hnodes := (hmedia c rfl).nodes_wrapInMedia_append hcss.contents []
    rw [List.append_nil, Outline.nodes_nil] at hnodes
    exact ⟨_, _, hnodes, rfl, rfl, rfl, Outline.nodes_onOwnLines hcss.written⟩

theorem apart_forMedium {css : Text} {media : Option Text} (hcss : Closed css) (hmedia : ∀ c ∈ media, Condition c) :
    Apart (forMedium media css) := by
  cases media with
  | none => exact hcss.written.apart
  | some c => exact (hmedia c rfl).apart_wrapInMedia hcss.contents

/-- **Joined stylesheets do not get into each other.** The outline of closed stylesheets that are joined has, one
stylesheet after the other, what each of them contributes: none swallows, cuts short or moves another one, and
none leaves its media block. -/
theorem Outcome.nodes_css (o : Outcome) (sheets : List (Text × Option Text))
    (hcss : o.stylesheets.map Stylesheet.css = sheets.map fun s => forMedium s.2 s.1)
    (hclosed : ∀ s ∈ sheets, Closed s.1) (hmedia : ∀ s ∈ sheets, ∀ c ∈ s.2, Condition c) :
    ∃ parts : List (List Node), Outline.nodes o.css = parts.flatten ∧
      List.Forall₂ (fun s ns => Contributes s.1 s.2 ns) sheets parts := by
  refine ⟨sheets.map fun s => Outline.nodes (forMedium s.2 s.1), ?_, ?_⟩
  · have hapart : ∀ t ∈ sheets.map fun s => forMedium s.2 s.1, Apart t := by
      intro t ht
      obtain ⟨s, hs, rfl⟩ := List.mem_map.1 ht
      exact apart_forMedium (hclosed s hs) (hmedia s hs)
    rw [Outcome.css, hcss, Outline.nodes_join_of_apart hapart, List.flatMap_map]
    rfl
  · rw [List.forall₂_map_right_iff]
    exact List.forall₂_same.2 fun s hs => contributes_forMedium (hclosed s hs) (hmedia s hs)

/-- A stylesheet with closing braces in a comment and in a string. -/
def bracesInside : Text := "/*\x7d*/a\x7bb:\"\x7d\"\x7d".toList

theorem closed_bracesInside : Closed bracesInside := by
  have hcomment : Outline.CommentBody ['}'] := fun h => absurd h.length_le (by decide)
  have hstring : Outline.Contents .block ('"' :: (['}'] ++ '"' :: [])) :=
    .string (.inl rfl) (.char (by decide) (by decide) (by decide) .nil) .nil
  have hbody : Outline.Contents .block "b:\"\x7d\"".toList := Outline.Contents.prepend (s := "b:".toList) rfl hstring
  let i : Outline.Item := ⟨['a'], some "b:\"\x7d\"".toList, .plain rfl, by simpa using hbody, by simp; decide⟩
  exact ⟨[.comment ['}'] hcomment, .item i], by simp, rfl⟩

theorem condition_print : Condition "print".toList :=
  ⟨by decide, by decide, Outline.idle_of_slash_notMem (by decide) (by decide)⟩

def joinedSheets : Outcome :=
  let sheet (media : Option Text) : Stylesheet := ⟨[], [], forMedium media bracesInside, .remote, media⟩
  ⟨[sheet (some "print".toList), sheet none], []⟩

theorem nodes_css_bracesInside :
    ∃ parts : List (List Node), Outline.nodes joinedSheets.css = parts.flatten ∧
      List.Forall₂ (fun s ns => Contributes s.1 s.2 ns)
        [(bracesInside, some "print".toList), (bracesInside, none)] parts := by
  refine joinedSheets.nodes_css _ rfl ?_ ?_
  · intro s hs
    rcases List.mem_pair.1 hs with rfl | rfl <;> exact closed_bracesInside
  · intro s hs c hc
    rcases List.mem_pair.1 hs with rfl | rfl
    · obtain rfl := Option.some.inj hc
      exact condition_print
    · cases hc

end StylePrune.Resolution
