import StylePrune.Proofs.Sheet.UrlTokens
import StylePrune.Proofs.Text.Basic
import StylePrune.Proofs.Text.Folding

/-!
Texts between `url()` tokens.

A stylesheet is written as texts in which no token opens and tokens between them (`Written`). A token at the start of
a text is found whole, whatever follows it (`urlToken?_text_append`), and none is found in front of it
(`urlToken?_plain_append`). So the tokens of such a stylesheet are those it is written with (`urlTokens_text`), and
replacing paths replaces theirs and leaves everything else as it is (`mapUrls_text`, `absolutize_text`).
-/
namespace StylePrune.Sheet

open Text (isBlank)

/-! ## How tokens are written -/

/-- What opens a token, in any letter case. -/
def IsOpening (w : Text) : Prop := Text.lowerAscii w = "url(".toList

instance : DecidablePred IsOpening := fun w => inferInstanceAs (Decidable (Text.lowerAscii w = _))

/-- A text in which no token opens. -/
def IsPlain (t : Text) : Prop := ¬ "url(".toList <:+: Text.lowerAscii t

instance : DecidablePred IsPlain := fun t => inferInstanceAs (Decidable (¬ _ <:+: Text.lowerAscii t))

/-- A path that can be told from what closes it. -/
def Quoting.Fits : Quoting → Text → Prop
  | double, p => '"' ∉ p
  | single, p => '\'' ∉ p
  | bare, p => ∀ c ∈ p, c ≠ '"' ∧ c ≠ '\'' ∧ c ≠ ')' ∧ isBlank c = false

instance : (q : Quoting) → DecidablePred q.Fits
  | .double => fun p => inferInstanceAs (Decidable ('"' ∉ p))
  | .single => fun p => inferInstanceAs (Decidable ('\'' ∉ p))
  | .bare => fun p => List.decidableBAll _ p

/-- A `url()` token as it is written. -/
structure Spelling where
  opening : Text
  /-- White space in front of the path. -/
  before : Text
  quoting : Quoting
  path : Text
  /-- White space behind the path. -/
  behind : Text

namespace Spelling

def text (u : Spelling) : Text :=
  u.opening ++ u.before ++ u.quoting.text ++ u.path ++ u.quoting.text ++ u.behind ++ [')']

structure IsToken (u : Spelling) : Prop where
  opening : IsOpening u.opening
  before : ∀ c ∈ u.before, isBlank c = true
  fits : u.quoting.Fits u.path
  behind : ∀ c ∈ u.behind, isBlank c = true

instance (u : Spelling) : Decidable u.IsToken :=
  decidable_of_iff (IsOpening u.opening ∧ u.before.all isBlank = true ∧ u.quoting.Fits u.path ∧
      u.behind.all isBlank = true)
    ⟨fun h => ⟨h.1, List.all_eq_true.1 h.2.1, h.2.2.1, List.all_eq_true.1 h.2.2.2⟩,
      fun h => ⟨h.opening, List.all_eq_true.2 h.before, h.fits, List.all_eq_true.2 h.behind⟩⟩

/-- A path that starts with a step relative to its stylesheet gives way to what it is joined to, if it is. Then the
token is written in the shortest way, in the same quotes. -/
def rewritten (join : Text → Option Text) (u : Spelling) : Spelling :=
  if "./".toList <+: u.path ∨ "../".toList <+: u.path then
    match join u.path with
    | some p => ⟨"url(".toList, [], u.quoting, p, []⟩
    | none => u
  else u

end Spelling

/-- Tokens, each with the text that follows it. -/
abbrev Parts := List (Spelling × Text)

namespace Parts

def text (ps : Parts) : Text := ps.flatMap fun p => p.1.text ++ p.2

def tokens : Parts → List UrlToken
  | [] => []
  | (u, t) :: ps => ⟨u.quoting, u.path, u.text, t ++ Parts.text ps⟩ :: tokens ps

end Parts

/-- A stylesheet as tokens and the texts around them. -/
structure Written where
  lead : Text
  parts : Parts

namespace Written

def text (w : Written) : Text := w.lead ++ w.parts.text

def tokens (w : Written) : List UrlToken := w.parts.tokens

/-- Between the tokens none opens. -/
structure WellFormed (w : Written) : Prop where
  lead : IsPlain w.lead
  token : ∀ p ∈ w.parts, p.1.IsToken
  tail : ∀ p ∈ w.parts, IsPlain p.2

instance (w : Written) : Decidable w.WellFormed :=
  decidable_of_iff (IsPlain w.lead ∧ (∀ p ∈ w.parts, p.1.IsToken) ∧ ∀ p ∈ w.parts, IsPlain p.2)
    ⟨fun h => ⟨h.1, h.2.1, h.2.2⟩, fun h => ⟨h.lead, h.token, h.tail⟩⟩

/-- Relative paths give way to what they are joined to. -/
def rewritten (join : Text → Option Text) (w : Written) : Written :=
  { w with parts := w.parts.map fun p => (p.1.rewritten join, p.2) }

end Written

/-! ## Finding a token -/

variable {s t w : Text} {u : Spelling}

theorem isOpening_iff : IsOpening w ↔ w.map Text.fold = "url(".toList :=
  (Text.map_fold_eq_iff (by simp)).symm

theorem close?_append_cons {b : Text} (hb : ∀ c ∈ b, isBlank c = true) (s : Text) :
    close? (b ++ ')' :: s) = some (b ++ [')'], s) := by
  obtain ⟨htake, hdrop⟩ := Text.takeWhile_run hb (r := ')' :: s) (by rintro c ⟨⟩; rfl)
  rw [close?, htake, hdrop]
  rfl

theorem quotedPath?_append_cons {q : Char} {p b : Text} (hp : q ∉ p) (hb : ∀ c ∈ b, isBlank c = true) (s : Text) :
    quotedPath? q (p ++ q :: (b ++ ')' :: s)) = some (p, b ++ [')'], s) := by
  have hrun : ∀ c ∈ p, (c != q) = true := fun c hc => bne_iff_ne.2 fun heq => hp (heq ▸ hc)
  obtain ⟨htake, hdrop⟩ := Text.takeWhile_run hrun (r := q :: (b ++ ')' :: s)) (by simp)
  rw [quotedPath?, htake, hdrop]
  simp only [close?_append_cons hb, Option.map_some]

theorem isBareChar_iff {c : Char} :
    isBareChar c = true ↔ c ≠ '"' ∧ c ≠ '\'' ∧ c ≠ ')' ∧ isBlank c = false := by
  simp only [isBareChar, Bool.not_eq_true', Bool.or_eq_false_iff, beq_eq_false_iff_ne, ne_eq]
  tauto

theorem urlToken?_opening {opening : Text} (h : IsOpening opening) (r : Text) :
    Text.dropFolded? "url(".toList (opening ++ r) = some (opening, r) :=
  Text.dropFolded?_eq_some_iff.2 ⟨isOpening_iff.1 h, rfl⟩

theorem urlToken?_quoted (quoting : Quoting) {q : Char} {opening before path behind : Text}
    (hquoting : quoting.text = [q]) (hopening : IsOpening opening) (hbefore : ∀ c ∈ before, isBlank c = true)
    (hpath : q ∉ path) (hbehind : ∀ c ∈ behind, isBlank c = true) (s : Text) :
    urlToken? (opening ++ (before ++ q :: (path ++ q :: (behind ++ ')' :: s)))) =
      some ⟨quoting, path, opening ++ before ++ (q :: path) ++ (q :: (behind ++ [')'])), s⟩ := by
  have hblank : isBlank q = false := by cases quoting <;> cases hquoting <;> rfl
  obtain ⟨htake, hdrop⟩ := Text.takeWhile_run hbefore (r := q :: (path ++ q :: (behind ++ ')' :: s)))
    (by rintro c ⟨⟩; exact hblank)
  rw [urlToken?, urlToken?_opening hopening]
  simp only [htake, hdrop]
  cases quoting with
  | double =>
    cases hquoting
    simp only [quotedPath?_append_cons hpath hbehind, Option.map_some]
  | single =>
    cases hquoting
    simp only [quotedPath?_append_cons hpath hbehind, Option.map_some]
  | bare => cases hquoting

/-- A path without quotes is found. White space around an empty one counts as in front of it. -/
theorem urlToken?_bare {opening before path behind : Text} (hopening : IsOpening opening)
    (hbefore : ∀ c ∈ before, isBlank c = true) (hfits : Quoting.bare.Fits path)
    (hbehind : ∀ c ∈ behind, isBlank c = true) (hempty : path = [] → behind = []) (s : Text) :
    urlToken? (opening ++ (before ++ (path ++ (behind ++ ')' :: s)))) =
      some ⟨.bare, path, opening ++ before ++ path ++ (behind ++ [')']), s⟩ := by
  have hpath : ∀ c ∈ path, isBareChar c = true := fun c hc => isBareChar_iff.2 (hfits c hc)
  have hafter : ∀ c ∈ (behind ++ ')' :: s).head?, isBareChar c = false := by
    intro c hc
    cases behind with
    | nil => cases hc; rfl
    | cons d b =>
      cases hc
      rw [isBareChar, hbehind c List.mem_cons_self, Bool.or_true]
      rfl
  have hhead : ∀ c ∈ (path ++ (behind ++ ')' :: s)).head?, isBlank c = false ∧ c ≠ '"' ∧ c ≠ '\'' := by
    intro c hc
    cases path with
    | nil =>
      rw [hempty rfl] at hc
      cases hc
      decide
    | cons d p =>
      cases hc
      obtain ⟨hdouble, hsingle, -, hblank⟩ := hfits c List.mem_cons_self
      exact ⟨hblank, hdouble, hsingle⟩
  obtain ⟨htake, hdrop⟩ := Text.takeWhile_run hbefore fun c hc => (hhead c hc).1
  obtain ⟨hrun, hrest⟩ := Text.takeWhile_run hpath hafter
  rw [urlToken?, urlToken?_opening hopening]
  simp only [htake, hdrop]
  split
  · next h => exact absurd rfl (hhead _ (by rw [h]; rfl)).2.1
  · next h => exact absurd rfl (hhead _ (by rw [h]; rfl)).2.2
  · rw [hrun, hrest, close?_append_cons hbehind, Option.map_some]

theorem urlToken?_text_append (h : u.IsToken) (s : Text) :
    urlToken? (u.text ++ s) = some ⟨u.quoting, u.path, u.text, s⟩ := by
  obtain ⟨opening, before, quoting, path, behind⟩ := u
  obtain ⟨hopening, hbefore, hfits, hbehind⟩ := h
  cases quoting with
  | double =>
    have := urlToken?_quoted .double rfl hopening hbefore hfits hbehind s
    simpa [Spelling.text, Quoting.text] using this
  | single =>
    have := urlToken?_quoted .single rfl hopening hbefore hfits hbehind s
    simpa [Spelling.text, Quoting.text] using this
  | bare =>
    by_cases hempty : path = []
    · subst hempty
      have hblank : ∀ c ∈ before ++ behind, isBlank c = true := by
        simpa only [List.forall_mem_append] using ⟨hbefore, hbehind⟩
      have hnone : ∀ c ∈ ([] : Text), isBlank c = true := fun c hc => nomatch hc
      have := urlToken?_bare hopening hblank hfits hnone (fun _ => rfl) s
      simpa [Spelling.text, Quoting.text] using this
    · have := urlToken?_bare hopening hbefore hfits hbehind (fun h => absurd h hempty) s
      simpa [Spelling.text, Quoting.text] using this

theorem urlToken?_fits {v : UrlToken} (h : urlToken? s = some v) : v.quoting.Fits v.path := by
  have hquoted {q : Char} {r p c x : Text} (h : quotedPath? q r = some (p, c, x)) : q ∉ p := by
    rw [quotedPath?] at h
    split at h
    · obtain ⟨_, -, heq⟩ := Option.map_eq_some_iff.1 h
      cases heq
      intro hq
      simpa using List.mem_takeWhile_imp hq
    · cases h
  rw [urlToken?] at h
  split at h
  · cases h
  · split at h
    · obtain ⟨⟨p, c, x⟩, hp, rfl⟩ := Option.map_eq_some_iff.1 h
      exact hquoted hp
    · obtain ⟨⟨p, c, x⟩, hp, rfl⟩ := Option.map_eq_some_iff.1 h
      exact hquoted hp
    · obtain ⟨⟨c, x⟩, -, rfl⟩ := Option.map_eq_some_iff.1 h
      exact fun d hd => isBareChar_iff.1 (List.mem_takeWhile_imp hd)

/-! ## Texts between tokens -/

theorem IsPlain.of_cons {c : Char} (h : IsPlain (c :: t)) : IsPlain t :=
  fun hstands => h (hstands.trans (List.suffix_cons _ _).isInfix)

theorem IsPlain.not_infix (h : IsPlain t) (hw : IsOpening w) : ¬ w <:+: t :=
  fun hstands => h (hw ▸ hstands.map Text.lowerAsciiChar)

/-- No token is found in front of one: an opening neither stands in a plain text nor ends behind it. -/
theorem urlToken?_plain_append (ht : IsPlain t) (hne : t ≠ []) (hs : ∀ c ∈ s.head?, Text.lowerAsciiChar c = 'u') :
    urlToken? (t ++ s) = none := by
  cases hword : Text.dropFolded? "url(".toList (t ++ s) with
  | none => rw [urlToken?, hword]
  | some wr =>
    obtain ⟨w, r⟩ := wr
    obtain ⟨hfold, hcut⟩ := Text.dropFolded?_eq_some_iff.1 hword
    have hopening := isOpening_iff.2 hfold
    obtain ⟨a, rfl, -⟩ | ⟨a, rfl, rfl⟩ := List.append_eq_append_iff.1 hcut
    · exact absurd (List.infix_append' [] w a) (ht.not_infix hopening)
    · exfalso
      obtain ⟨d, t, rfl⟩ := List.exists_cons_of_ne_nil hne
      cases a with
      | nil => exact ht.not_infix hopening (by simp)
      | cons c a =>
        -- the opening would end in `s`, so the first character of `s` would be one of its later letters
        have htail : (t ++ c :: a).map Text.lowerAsciiChar = "rl(".toList := (List.cons.inj hopening).2
        have hu : 'u' ∈ "rl(".toList := by
          rw [← htail, ← hs c rfl]
          exact List.mem_map_of_mem (by simp)
        exact absurd hu (by decide)

theorem mapUrls_of_none {f : Text → Option Text} {c : Char} (h : urlToken? (c :: s) = none) :
    mapUrls f (c :: s) = c :: mapUrls f s := by
  rw [mapUrls]
  split
  · next hu => rw [h] at hu; cases hu
  · rfl

theorem mapUrls_of_some {f : Text → Option Text} {v : UrlToken} (h : urlToken? s = some v) :
    mapUrls f s =
      (match f v.path with
        | some p => "url(".toList ++ v.quoting.text ++ p ++ v.quoting.text ++ [')']
        | none => v.text) ++ mapUrls f v.rest := by
  cases s with
  | nil => cases h
  | cons c s =>
    rw [mapUrls]
    split
    · next hu =>
      rw [h] at hu
      obtain rfl := Option.some.inj hu
      rfl
    · next hu => rw [h] at hu; cases hu

theorem urlTokens_of_some {v : UrlToken} (h : urlToken? s = some v) : urlTokens s = v :: urlTokens v.rest := by
  cases s with
  | nil => cases h
  | cons c s => rw [urlTokens_cons, h]

/-- A plain text in front of tokens is left as it is. -/
theorem mapUrls_plain_append {f : Text → Option Text} (ht : IsPlain t)
    (hs : ∀ c ∈ s.head?, Text.lowerAsciiChar c = 'u') : mapUrls f (t ++ s) = t ++ mapUrls f s := by
  induction t with
  | nil => rfl
  | cons c t ih =>
    have hnone := urlToken?_plain_append ht (List.cons_ne_nil c t) hs
    rw [List.cons_append] at hnone ⊢
    rw [mapUrls_of_none hnone, ih ht.of_cons, List.cons_append]

theorem urlTokens_plain_append (ht : IsPlain t) (hs : ∀ c ∈ s.head?, Text.lowerAsciiChar c = 'u') :
    urlTokens (t ++ s) = urlTokens s := by
  induction t with
  | nil => rfl
  | cons c t ih =>
    have hnone := urlToken?_plain_append ht (List.cons_ne_nil c t) hs
    rw [List.cons_append] at hnone ⊢
    rw [urlTokens_cons, hnone, ih ht.of_cons]

/-! ## Whole stylesheets -/

theorem Spelling.IsToken.head (h : u.IsToken) (s : Text) : ∀ c ∈ (u.text ++ s).head?, Text.lowerAsciiChar c = 'u' := by
  obtain ⟨c, w, hw, hc, -⟩ := List.map_eq_cons_iff.1 h.opening
  intro d hd
  rw [Spelling.text, hw] at hd
  cases hd
  exact hc

variable {ps : Parts}

theorem Parts.head_text (h : ∀ p ∈ ps, p.1.IsToken) : ∀ c ∈ ps.text.head?, Text.lowerAsciiChar c = 'u' := by
  cases ps with
  | nil => intro c hc; cases hc
  | cons p ps =>
    rw [Parts.text, List.flatMap_cons, List.append_assoc]
    exact (h p List.mem_cons_self).head _

theorem Parts.urlTokens_text (htoken : ∀ p ∈ ps, p.1.IsToken) (htail : ∀ p ∈ ps, IsPlain p.2) :
    urlTokens ps.text = ps.tokens := by
  induction ps with
  | nil => rw [Parts.text, List.flatMap_nil, urlTokens]; rfl
  | cons p ps ih =>
    rw [List.forall_mem_cons] at htoken htail
    rw [Parts.text, List.flatMap_cons, ← Parts.text, List.append_assoc,
      urlTokens_of_some (urlToken?_text_append htoken.1 _)]
    simp only [urlTokens_plain_append htail.1 (Parts.head_text htoken.2), ih htoken.2 htail.2]
    rfl

theorem Parts.mapUrls_text {f : Text → Option Text} (htoken : ∀ p ∈ ps, p.1.IsToken)
    (htail : ∀ p ∈ ps, IsPlain p.2) :
    mapUrls f ps.text = ps.flatMap fun p =>
      (match f p.1.path with
        | some q => "url(".toList ++ p.1.quoting.text ++ q ++ p.1.quoting.text ++ [')']
        | none => p.1.text) ++ p.2 := by
  induction ps with
  | nil => rw [Parts.text, List.flatMap_nil, mapUrls]; rfl
  | cons p ps ih =>
    rw [List.forall_mem_cons] at htoken htail
    rw [Parts.text, List.flatMap_cons, ← Parts.text, List.append_assoc,
      mapUrls_of_some (urlToken?_text_append htoken.1 _)]
    simp only [mapUrls_plain_append htail.1 (Parts.head_text htoken.2), ih htoken.2 htail.2, List.flatMap_cons,
      List.append_assoc]

theorem isDotRelative_iff {p : Text} : isDotRelative p = true ↔ "./".toList <+: p ∨ "../".toList <+: p := by
  rw [isDotRelative, Bool.or_eq_true, Text.startsWith_iff, Text.startsWith_iff]

theorem Spelling.text_rewritten (join : Text → Option Text) (u : Spelling) :
    (u.rewritten join).text =
      match if isDotRelative u.path then join u.path else none with
      | some p => "url(".toList ++ u.quoting.text ++ p ++ u.quoting.text ++ [')']
      | none => u.text := by
  rw [Spelling.rewritten]
  by_cases h : isDotRelative u.path = true
  · rw [if_pos (isDotRelative_iff.1 h), if_pos h]
    cases join u.path with
    | none => rfl
    | some p => simp [Spelling.text]
  · rw [if_neg (mt isDotRelative_iff.2 h), if_neg h]

namespace Written

variable {w : Written}

theorem urlTokens_text (h : w.WellFormed) : urlTokens w.text = w.tokens := by
  rw [text, urlTokens_plain_append h.lead (Parts.head_text h.token)]
  exact Parts.urlTokens_text h.token h.tail

/-- Rewriting replaces relative paths and nothing else. -/
theorem absolutize_text (h : w.WellFormed) (join : Text → Option Text) :
    absolutize join w.text = (w.rewritten join).text := by
  rw [absolutize, text, mapUrls_plain_append h.lead (Parts.head_text h.token),
    Parts.mapUrls_text h.token h.tail, text, rewritten, Parts.text, List.flatMap_map]
  simp only [Spelling.text_rewritten]

end Written
end StylePrune.Sheet
