import StylePrune.Proofs.Outline.Grammar

/-!
Cutting a stylesheet character by character.

What has been read of a stylesheet bears on the rest only through a mode: between two lexemes, behind a slash or a
backslash, in a string or in a comment. `Mode.resume` says how cutting goes on in a mode, `Mode.next` what a character
does to it, and `Mode.exists_resume_append` that both agree on every text. Characters that neither open nor end
anything (`isInert`) leave it as it is between two lexemes and in a comment.

With this, the string that a place lies in is the mode at that place (`inString_iff`).
-/
namespace StylePrune.Outline

abbrev Quote := { q : Char // q = '"' ∨ q = '\'' }

/-- How far the cutting of a stylesheet has come. -/
inductive Mode where
  | between
  /-- Behind a slash, which may open a comment. -/
  | slash
  /-- Behind a backslash outside strings and comments. -/
  | escape
  /-- In a string, with what has been read of it behind its quote. -/
  | string (q : Quote) (read : Text)
  /-- Behind a backslash in a string. -/
  | stringEscape (q : Quote) (read : Text)
  /-- In a comment, with what has been read of it behind its opening. -/
  | comment (read : Text)
  /-- Behind a star in a comment, which may end it. -/
  | star (read : Text)

variable {m : Mode} {q : Quote} {c : Char} {s t u y before : Text} {ls : List Lexeme}

namespace Mode

/-- What a character does to the mode between two lexemes. -/
def start (c : Char) : Mode :=
  if h : c = '"' ∨ c = '\'' then string ⟨c, h⟩ []
  else if c = '\\' then escape
  else if c = '/' then slash
  else between

/-- What a character does to a mode. -/
def next : Mode → Char → Mode
  | between, c => start c
  | slash, c => if c = '*' then comment [] else start c
  | escape, _ => between
  | string q t, c =>
    if c = '\\' then stringEscape q t else if c = q.1 ∨ c = '\n' then between else string q (t ++ [c])
  | stringEscape q t, c => string q (t ++ ['\\', c])
  | comment t, c => if c = '*' then star t else comment (t ++ [c])
  | star t, c => if c = '/' then between else if c = '*' then star (t ++ ['*']) else comment (t ++ ['*', c])

/-- The mode behind a text. -/
def after (m : Mode) (s : Text) : Mode := s.foldl next m

@[simp] theorem after_nil (m : Mode) : m.after [] = m := rfl

@[simp] theorem after_cons (m : Mode) (c : Char) (s : Text) : m.after (c :: s) = (m.next c).after s := rfl

@[simp] theorem after_append (m : Mode) (s t : Text) : m.after (s ++ t) = (m.after s).after t := List.foldl_append

/-- What has been read of a lexeme that is not at its end. -/
def taken : Mode → Text
  | between => []
  | slash => ['/']
  | escape => ['\\']
  | string q t => q.1 :: t
  | stringEscape q t => q.1 :: (t ++ ['\\'])
  | comment t => '/' :: '*' :: t
  | star t => '/' :: '*' :: (t ++ ['*'])

end Mode

/-! ## Going on -/

/-- The lexemes of a text that goes on with a string of which something has been read. -/
def stringFrom (q : Quote) (t s : Text) : List Lexeme := .quoted q.1 (t ++ (cutString q.1 s).1) :: lexemes (cutString q.1 s).2

/-- The lexemes of a text that goes on with a comment of which something has been read. -/
def commentFrom (t s : Text) : List Lexeme := .comment (t ++ (cutComment s).1) :: lexemes (cutComment s).2

/-- How cutting goes on in a mode. -/
def Mode.resume : Mode → Text → List Lexeme
  | between, s => lexemes s
  | slash, s => lexemes ('/' :: s)
  | escape, s => lexemes ('\\' :: s)
  | string q t, s => stringFrom q t s
  | stringEscape q t, s => stringFrom q t ('\\' :: s)
  | comment t, s => commentFrom t s
  | star t, s => commentFrom t ('*' :: s)

theorem cutString_end {q : Char} (hc : c = q ∨ c = '\n') (hesc : c ≠ '\\') (s : Text) :
    cutString q (c :: s) = ([c], s) := by
  cases s with
  | nil => rfl
  | cons d s => rw [cutString, if_neg hesc, if_pos hc]

theorem cutString_cons {q : Char} (hc : ¬ (c = q ∨ c = '\n')) (hesc : c ≠ '\\') (s : Text) :
    cutString q (c :: s) = (c :: (cutString q s).1, (cutString q s).2) := by
  cases s with
  | nil => rfl
  | cons d s => rw [cutString, if_neg hesc, if_neg hc]

theorem cutComment_cons (h : ∀ u, c = '*' → s ≠ '/' :: u) :
    cutComment (c :: s) = (c :: (cutComment s).1, (cutComment s).2) := by
  rw [cutComment]
  exact fun u hc hs => h u hc hs

theorem stringFrom_end (hc : c = q.1 ∨ c = '\n') (hesc : c ≠ '\\') (t s : Text) :
    stringFrom q t (c :: s) = .quoted q.1 (t ++ [c]) :: lexemes s := by
  rw [stringFrom, cutString_end hc hesc]

theorem stringFrom_cons (hc : ¬ (c = q.1 ∨ c = '\n')) (hesc : c ≠ '\\') (t s : Text) :
    stringFrom q t (c :: s) = stringFrom q (t ++ [c]) s := by
  rw [stringFrom, stringFrom, cutString_cons hc hesc, List.append_assoc, List.singleton_append]

theorem stringFrom_escape (q : Quote) (c : Char) (t s : Text) :
    stringFrom q t ('\\' :: c :: s) = stringFrom q (t ++ ['\\', c]) s := by
  rw [stringFrom, stringFrom, cutString, if_pos rfl, List.append_assoc]
  rfl

theorem commentFrom_end (t s : Text) : commentFrom t ('*' :: '/' :: s) = .comment (t ++ ['*', '/']) :: lexemes s := rfl

theorem commentFrom_cons (h : ∀ u, c = '*' → s ≠ '/' :: u) (t : Text) :
    commentFrom t (c :: s) = commentFrom (t ++ [c]) s := by
  rw [commentFrom, commentFrom, cutComment_cons h, List.append_assoc, List.singleton_append]

theorem Mode.exists_lexemes_cons (c : Char) : ∃ ls, ∀ s, lexemes (c :: s) = ls ++ (start c).resume s := by
  rw [start]
  split
  · next hq => exact ⟨[], fun s => by rw [lexemes, if_pos hq]; rfl⟩
  · next hq =>
    split
    · next hesc => exact ⟨[], fun s => by rw [hesc]; rfl⟩
    · next hesc =>
      split
      · next hslash => exact ⟨[], fun s => by rw [hslash]; rfl⟩
      · next hslash =>
        exact ⟨[.plain c], fun s => lexemes_plain (not_or.1 hq) hesc fun h => absurd h hslash⟩

/-- One character: some lexemes end with it, and cutting goes on in the next mode. -/
theorem Mode.exists_resume_cons (m : Mode) (c : Char) : ∃ ls, ∀ s, m.resume (c :: s) = ls ++ (m.next c).resume s := by
  cases m with
  | between => exact exists_lexemes_cons c
  | slash =>
    -- only here does a lexeme end in front of the character: a slash that opens no comment
    rw [next]
    split
    · next hstar => exact ⟨[], fun s => by rw [hstar]; exact lexemes_opened s⟩
    · next hstar =>
      obtain ⟨ls, hls⟩ := exists_lexemes_cons c
      refine ⟨.plain '/' :: ls, fun s => ?_⟩
      have hplain : lexemes ('/' :: c :: s) = .plain '/' :: lexemes (c :: s) :=
        lexemes_plain (by decide) (by decide) fun _ h => hstar (Option.some.inj h)
      rw [resume, hplain, hls, List.cons_append]
  | escape => exact ⟨[.escape (some c)], fun s => lexemes_escape c s⟩
  | string q t =>
    rw [next]
    split
    · next hesc => exact ⟨[], fun s => by rw [hesc]; rfl⟩
    · next hesc =>
      split
      · next hend => exact ⟨[.quoted q.1 (t ++ [c])], fun s => stringFrom_end hend hesc t s⟩
      · next hend => exact ⟨[], fun s => stringFrom_cons hend hesc t s⟩
  | stringEscape q t => exact ⟨[], fun s => stringFrom_escape q c t s⟩
  | comment t =>
    rw [next]
    split
    · next hstar => exact ⟨[], fun s => by rw [hstar]; rfl⟩
    · next hstar => exact ⟨[], fun s => commentFrom_cons (fun _ h => absurd h hstar) t⟩
  | star t =>
    rw [next]
    split
    · next hslash => exact ⟨[.comment (t ++ ['*', '/'])], fun s => by rw [hslash]; exact commentFrom_end t s⟩
    · next hslash =>
      have hstays (s : Text) : commentFrom t ('*' :: c :: s) = commentFrom (t ++ ['*']) (c :: s) :=
        commentFrom_cons (fun u _ h => hslash (List.cons.inj h).1) t
      split
      · next hstar => exact ⟨[], fun s => by rw [resume, hstays, hstar]; rfl⟩
      · next hstar =>
        refine ⟨[], fun s => (hstays s).trans ?_⟩
        rw [commentFrom_cons fun _ h => absurd h hstar, List.append_assoc]
        rfl

/-- A text: some lexemes end in it, and cutting goes on in the mode behind it. -/
theorem Mode.exists_resume_append (m : Mode) (s : Text) : ∃ ls, ∀ y, m.resume (s ++ y) = ls ++ (m.after s).resume y := by
  induction s generalizing m with
  | nil => exact ⟨[], fun y => rfl⟩
  | cons c s ih =>
    obtain ⟨ls, hls⟩ := m.exists_resume_cons c
    obtain ⟨ms, hms⟩ := ih (m.next c)
    exact ⟨ls ++ ms, fun y => by rw [List.cons_append, hls, hms, List.append_assoc, after_cons]⟩

/-- Cutting loses nothing, in any mode. -/
theorem Mode.textOf_resume (m : Mode) (s : Text) : textOf (m.resume s) = m.taken ++ s := by
  have hstring (q : Quote) (t s : Text) : textOf (stringFrom q t s) = q.1 :: (t ++ s) := by
    rw [stringFrom, textOf_cons, textOf_lexemes, Lexeme.text, List.cons_append, List.append_assoc, cutString_append]
  have hcomment (t s : Text) : textOf (commentFrom t s) = '/' :: '*' :: (t ++ s) := by
    rw [commentFrom, textOf_cons, textOf_lexemes, Lexeme.text, List.cons_append, List.cons_append, List.append_assoc,
      cutComment_append]
  cases m <;> simp [resume, taken, textOf_lexemes, hstring, hcomment]

/-! ## Characters without a meaning -/

/-- A character that neither opens nor ends a string, an escape or a comment; but a line end ends a string. -/
def isInert (c : Char) : Bool := c != '"' && c != '\'' && c != '\\' && c != '/' && c != '*'

theorem ne_of_isInert (h : isInert c = true) : (c ≠ '"' ∧ c ≠ '\'') ∧ c ≠ '\\' ∧ c ≠ '/' ∧ c ≠ '*' := by
  simp only [isInert, Bool.and_eq_true, bne_iff_ne, ne_eq] at h
  exact ⟨⟨h.1.1.1.1, h.1.1.1.2⟩, h.1.1.2, h.1.2, h.2⟩

theorem ne_quote_of_isInert (h : isInert c = true) (q : Quote) : c ≠ q.1 := by
  obtain ⟨⟨hdouble, hsingle⟩, -⟩ := ne_of_isInert h
  rcases q.2 with hq | hq <;> rw [hq]
  · exact hdouble
  · exact hsingle

namespace Mode

/-- The mode between two lexemes, in a string or in a comment. -/
inductive Rests : Mode → Prop where
  | between : Rests between
  | string (q : Quote) (t : Text) : Rests (string q t)
  | comment (t : Text) : Rests (comment t)

theorem start_inert (h : isInert c = true) : start c = between := by
  obtain ⟨⟨hdouble, hsingle⟩, hesc, hslash, -⟩ := ne_of_isInert h
  rw [start, dif_neg (not_or.2 ⟨hdouble, hsingle⟩), if_neg hesc, if_neg hslash]

theorem rests_next (m : Mode) (h : isInert c = true) : (m.next c).Rests := by
  obtain ⟨-, hesc, hslash, hstar⟩ := ne_of_isInert h
  cases m with
  | between => rw [next, start_inert h]; exact .between
  | slash => rw [next, if_neg hstar, start_inert h]; exact .between
  | escape => exact .between
  | string q t =>
    rw [next, if_neg hesc]
    split
    · exact .between
    · exact .string q _
  | stringEscape q t => exact .string q _
  | comment t => rw [next, if_neg hstar]; exact .comment _
  | star t => rw [next, if_neg hslash, if_neg hstar]; exact .comment _

end Mode

theorem lexemes_inert (h : ∀ c ∈ s, isInert c = true) (y : Text) : lexemes (s ++ y) = s.map .plain ++ lexemes y := by
  induction s with
  | nil => rfl
  | cons c s ih =>
    rw [List.forall_mem_cons] at h
    obtain ⟨hquote, hesc, hslash, -⟩ := ne_of_isInert h.1
    rw [List.cons_append, lexemes_plain hquote hesc fun hc => absurd hc hslash, ih h.2]
    rfl

theorem cutString_inert (q : Quote) (h : ∀ c ∈ s, isInert c = true) (hline : '\n' ∉ s) (y : Text) :
    cutString q.1 (s ++ y) = (s ++ (cutString q.1 y).1, (cutString q.1 y).2) := by
  induction s with
  | nil => rfl
  | cons c s ih =>
    rw [List.forall_mem_cons] at h
    rw [List.mem_cons, not_or] at hline
    have hend : ¬ (c = q.1 ∨ c = '\n') := not_or.2 ⟨ne_quote_of_isInert h.1 q, fun hc => hline.1 hc.symm⟩
    rw [List.cons_append, cutString_cons hend (ne_of_isInert h.1).2.1, ih h.2 hline.2]
    rfl

theorem stringBody_inert (q : Quote) (h : ∀ c ∈ s, isInert c = true) (hline : '\n' ∉ s) : StringBody q.1 s := by
  induction s with
  | nil => exact .nil
  | cons c s ih =>
    rw [List.forall_mem_cons] at h
    rw [List.mem_cons, not_or] at hline
    exact .char (ne_quote_of_isInert h.1 q) (ne_of_isInert h.1).2.1 (fun hc => hline.1 hc.symm) (ih h.2 hline.2)

theorem commentFrom_inert (h : ∀ c ∈ s, isInert c = true) (t y : Text) :
    commentFrom t (s ++ y) = commentFrom (t ++ s) y := by
  induction s generalizing t with
  | nil => rw [List.nil_append, List.append_nil]
  | cons c s ih =>
    rw [List.forall_mem_cons] at h
    obtain ⟨-, -, -, hstar⟩ := ne_of_isInert h.1
    rw [List.cons_append, commentFrom_cons fun _ hc => absurd hc hstar, ih h.2, List.append_assoc,
      List.singleton_append]

theorem Mode.after_between (h : ∀ c ∈ s, isInert c = true) : between.after s = between := by
  induction s with
  | nil => rfl
  | cons c s ih =>
    rw [List.forall_mem_cons] at h
    rw [after_cons, next, start_inert h.1, ih h.2]

theorem Mode.after_comment (h : ∀ c ∈ s, isInert c = true) (t : Text) : (comment t).after s = comment (t ++ s) := by
  induction s generalizing t with
  | nil => rw [after_nil, List.append_nil]
  | cons c s ih =>
    rw [List.forall_mem_cons] at h
    rw [after_cons, next, if_neg (ne_of_isInert h.1).2.2.2, ih h.2, List.append_assoc, List.singleton_append]

/-! ## Strings -/

/-- The string that a lexeme is, with its quotes. -/
def literal? : Lexeme → Option Text
  | .quoted q r => some (q :: r)
  | _ => none

def literals (ls : List Lexeme) : List Text := ls.filterMap literal?

/-- The quoted strings of a stylesheet in order, with their quotes. -/
def strings (css : Text) : List Text := literals (lexemes css)

theorem literals_append (ls ms : List Lexeme) : literals (ls ++ ms) = literals ls ++ literals ms :=
  List.filterMap_append

theorem literals_plain (s : Text) : literals (s.map .plain) = [] := by
  rw [literals, List.filterMap_eq_nil_iff]
  intro l hl
  obtain ⟨c, -, rfl⟩ := List.mem_map.1 hl
  rfl

theorem literals_stringFrom (q : Quote) (t s : Text) :
    literals (stringFrom q t s) = (q.1 :: (t ++ (cutString q.1 s).1)) :: strings (cutString q.1 s).2 := rfl

theorem literals_commentFrom (t s : Text) : literals (commentFrom t s) = strings (cutComment s).2 := rfl

/-- A place in a stylesheet that lies in a string: behind its first quote, and in front of its end. -/
def InString (css before : Text) : Prop :=
  ∃ ls q t u ms, lexemes css = ls ++ .quoted q (t ++ u) :: ms ∧ u ≠ [] ∧ before = textOf ls ++ q :: t

/-- A text shorter than a lexeme does not go on behind it. -/
theorem ne_textOf_cons_append {l : Lexeme} (h : t.length < l.text.length) (ls : List Lexeme) (u : Text) :
    t ≠ textOf (l :: ls) ++ u := by
  rintro rfl
  rw [textOf_cons, List.length_append, List.length_append] at h
  omega

/-- A place inside a lexeme determines the lexeme. -/
theorem lexeme_at_place {ls ls' ms ms' : List Lexeme} {l l' : Lexeme} {a b : Text}
    (h : ls ++ l :: ms = ls' ++ l' :: ms') (htext : textOf ls ++ a = textOf ls' ++ b)
    (ha : a.length < l.text.length) (hb : b.length < l'.text.length) : l = l' ∧ a = b := by
  induction ls generalizing ls' with
  | nil =>
    cases ls' with
    | nil => exact ⟨(List.cons.inj h).1, htext⟩
    | cons k ls' =>
      obtain ⟨rfl, -⟩ := List.cons.inj h
      exact absurd htext (ne_textOf_cons_append ha ls' b)
  | cons k ls ih =>
    cases ls' with
    | nil =>
      obtain ⟨rfl, -⟩ := List.cons.inj h
      exact absurd htext.symm (ne_textOf_cons_append hb ls a)
    | cons k' ls' =>
      obtain ⟨rfl, htail⟩ := List.cons.inj h
      rw [textOf_cons, textOf_cons, List.append_assoc, List.append_assoc] at htext
      exact ih htail (List.append_cancel_left htext)

theorem length_text_pos (l : Lexeme) : 0 < l.text.length := by
  cases l with
  | escape next => cases next <;> exact Nat.succ_pos _
  | _ => exact Nat.succ_pos _

theorem head?_cutString (q : Char) (s : Text) : (cutString q s).1.head? = s.head? := by
  cases s with
  | nil => rfl
  | cons c s =>
    by_cases hesc : c = '\\'
    · subst hesc
      cases s with
      | nil => rfl
      | cons d s => rw [cutString, if_pos rfl]; rfl
    · by_cases hend : c = q ∨ c = '\n'
      · rw [cutString_end hend hesc]
        rfl
      · rw [cutString_cons hend hesc]
        rfl

theorem head?_cutComment (s : Text) : (cutComment s).1.head? = s.head? := by
  cases s with
  | nil => rfl
  | cons c s =>
    by_cases hend : ∃ u, c = '*' ∧ s = '/' :: u
    · obtain ⟨u, rfl, rfl⟩ := hend
      rfl
    · rw [cutComment_cons fun u hc hs => hend ⟨u, hc, hs⟩]
      rfl

theorem ne_nil_of_head?_eq (h : t.head? = s.head?) (hs : s ≠ []) : t ≠ [] := by
  rwa [ne_eq, ← List.head?_eq_none_iff, h, List.head?_eq_none_iff]

/-- What is read up to a place are the lexemes that end there and what the mode has taken of the next one. -/
theorem Mode.eq_textOf_append_taken {ls : List Lexeme}
    (h : ∀ s, Mode.between.resume (before ++ s) = ls ++ (Mode.between.after before).resume s) :
    before = textOf ls ++ (Mode.between.after before).taken := by
  have htext := congrArg textOf (h [])
  rw [Mode.resume, textOf_lexemes, textOf, List.flatMap_append, ← textOf, ← textOf, Mode.textOf_resume,
    ← List.append_assoc] at htext
  exact List.append_cancel_right htext

/-- **A place lies in a string if the mode there does**, where the mode is at rest. -/
theorem inString_iff (hrests : (Mode.between.after before).Rests) (hy : y ≠ []) :
    InString (before ++ y) before ↔ ∃ q t, Mode.between.after before = .string q t := by
  obtain ⟨ls, hls⟩ := Mode.between.exists_resume_append before
  have hbefore := Mode.eq_textOf_append_taken hls
  generalize Mode.between.after before = m at hrests hls hbefore
  constructor
  · rintro ⟨ks, q, t, u, ms, hcut, hu, hplace⟩
    have hlexemes := (hls y).symm.trans hcut
    rw [hbefore] at hplace
    have hin : (q :: t).length < (Lexeme.quoted q (t ++ u)).text.length := by
      have := List.length_pos_iff.2 hu
      simp only [Lexeme.text, List.length_cons, List.length_append]
      omega
    cases hrests with
    | string q t => exact ⟨q, t, rfl⟩
    | between =>
      obtain ⟨l, ms', hl⟩ : ∃ l ms', lexemes y = l :: ms' := by
        refine List.exists_cons_of_ne_nil fun hnil => hy ?_
        rw [← textOf_lexemes y, hnil]
        rfl
      rw [Mode.resume, hl] at hlexemes
      cases (lexeme_at_place hlexemes hplace (length_text_pos l) hin).2
    | comment t' =>
      have ht' : ('/' :: '*' :: t').length < (Lexeme.comment (t' ++ (cutComment y).1)).text.length := by
        have := List.length_pos_iff.2 (ne_nil_of_head?_eq (head?_cutComment y) hy)
        simp only [Lexeme.text, List.length_cons, List.length_append]
        omega
      cases (lexeme_at_place hlexemes hplace ht' hin).1
  · rintro ⟨q, t, rfl⟩
    exact ⟨ls, q.1, t, (cutString q.1 y).1, lexemes (cutString q.1 y).2, hls y,
      ne_nil_of_head?_eq (head?_cutString q.1 y) hy, hbefore⟩

end StylePrune.Outline
