import Mathlib.Data.List.DropRight
import StylePrune.Proofs.Outline.Scan

/-!
What may be done to texts of the grammar without leaving it.

Contents stay contents when they are put one after another (`Contents.append`), when characters are
dropped from their start (`Contents.dropWhile`) and when they are trimmed (`Contents.trim`). Escapes of
white space are not in the grammar because of the last one: trimming would cut them in two. A
stylesheet that is trimmed keeps its nodes (`nodes_trim`), and stylesheets stay apart when they are joined by
line ends (`nodes_join_of_apart`).
-/
namespace StylePrune.Outline

/-! ## Contents -/

theorem Contents.append {r : Region} {s t : Text} (hs : Contents r s) (ht : Contents r t)
    (h : t.head? ≠ some '*') : Contents r (s ++ t) := by
  induction hs with
  | nil => exact ht
  | @char r c s hb hc _ ih =>
    refine .char hb (fun he => ?_) (ih ht)
    cases s with
    | nil => exact h
    | cons d s => exact hc he
  | comment hb _ ih => simpa using Contents.comment hb (ih ht)
  | string hq hb _ ih => simpa using Contents.string hq hb (ih ht)
  | escape hb _ ih => exact .escape hb (ih ht)
  | block hb _ _ ih => simpa using Contents.block hb (ih ht)

/-- The characters that something longer than a character starts with. -/
def openers : List Char := ['/', '"', '\'', '\\', '{']

theorem Contents.dropWhile {p : Char → Bool} (hp : openers.all (fun c => !p c) = true) {r : Region} {s : Text}
    (h : Contents r s) : Contents r (s.dropWhile p) := by
  simp only [openers, List.all_cons, List.all_nil, Bool.and_eq_true, Bool.not_eq_true'] at hp
  induction h with
  | nil => exact .nil
  | @char r c s hb hc hs ih =>
    cases h : p c with
    | true => simpa [h] using ih
    | false => simpa [h] using Contents.char hb hc hs
  | comment hb hs _ => simpa [hp] using Contents.comment hb hs
  | @string r q t s hq hb hs _ =>
    have hpq : p q = false := by rcases hq with rfl | rfl <;> simp [hp]
    simpa [hpq] using Contents.string hq hb hs
  | escape hb hs _ => simpa [hp] using Contents.escape hb hs
  | block hb hs _ _ => simpa [hp] using Contents.block hb hs

theorem Contents.of_at {r : Region} {s : Text} (h : Contents r ('@' :: s)) : Contents r s := by
  cases h with
  | char _ _ hs => exact hs
  | string hq => simp at hq

theorem Contents.trimEnd {r : Region} {s : Text} (h : Contents r s) : Contents r (Text.trimEnd s) := by
  induction h with
  | nil => exact .nil
  | @char r c s hb hc _ ih =>
    have key := Text.trimEnd_append [c] s
    rw [List.singleton_append] at key
    rw [key]
    split
    · rw [Text.trimEnd_singleton]
      split
      · exact .nil
      · exact .char hb (by simp) .nil
    · refine .char hb (fun he hstar => hc he ?_) ih
      obtain ⟨w, -, hs⟩ := Text.exists_trimEnd_append s
      rw [hs, List.head?_append]
      exact Option.or_eq_some_iff.2 (.inl hstar)
  -- the last character of each of the others is no white space, so only what follows it loses its end
  | @comment r t s hb _ ih =>
    have key := Text.trimEnd_append_cons (c := '/') ('/' :: '*' :: (t ++ ['*'])) s (by decide)
    simp only [List.cons_append, List.append_assoc, List.nil_append] at key
    rw [key]
    exact .comment hb ih
  | @string r q t s hq hb _ ih =>
    have hblank : Text.isBlank q = false := by rcases hq with rfl | rfl <;> decide
    have key := Text.trimEnd_append_cons (q :: t) s hblank
    rw [List.cons_append, List.cons_append] at key
    rw [key]
    exact .string hq hb ih
  | @escape r c s hb _ ih =>
    have key := Text.trimEnd_append_cons ['\\'] s hb
    rw [List.singleton_append, List.singleton_append] at key
    rw [key]
    exact .escape hb ih
  | @block t s hb _ _ ih =>
    have key := Text.trimEnd_append_cons (c := '}') ('{' :: t) s (by decide)
    rw [List.cons_append, List.cons_append] at key
    rw [key]
    exact .block hb ih

theorem Contents.trim {r : Region} {s : Text} (h : Contents r s) : Contents r (Text.trim s) :=
  (h.dropWhile rfl).trimEnd

/-- Characters that stand for themselves may stand in front of contents if none of them is a slash, which
could open a comment. -/
theorem Contents.prepend {r : Region} {s t : Text} (hs : s.all (fun c => r.admits c && c != '/') = true)
    (ht : Contents r t) : Contents r (s ++ t) := by
  induction s with
  | nil => exact ht
  | cons c s ih =>
    rw [List.all_cons, Bool.and_eq_true, Bool.and_eq_true, bne_iff_ne] at hs
    obtain ⟨⟨hb, hc⟩, hs⟩ := hs
    exact .char hb (fun he => absurd he hc) (ih hs)

theorem Contents.plain {r : Region} {s : Text} (h : s.all (fun c => r.admits c && c != '/') = true) :
    Contents r s := by
  simpa using Contents.prepend h .nil

/-! ## Stylesheets -/

/-- A stylesheet of the grammar, in which closing braces may close nothing. -/
def Written (css : Text) : Prop := ∃ ps : List Part, Part.textOf ps = css

theorem Closed.written {css : Text} (h : Closed css) : Written css := h.imp fun _ hp => hp.2

namespace Part

def isBlank : Part → Bool
  | blank _ _ => true
  | _ => false

theorem text_ends {p : Part} (h : p.isBlank = false) :
    (∃ c r, p.text = c :: r ∧ Text.isBlank c = false) ∧
      ∃ r c, p.text = r ++ [c] ∧ Text.isBlank c = false := by
  cases p with
  | blank c _ => cases h
  | comment t _ => exact ⟨⟨_, _, rfl, by decide⟩, '/' :: '*' :: (t ++ ['*']), '/', by simp [text], by decide⟩
  | stray => exact ⟨⟨_, _, rfl, by decide⟩, [], _, rfl, by decide⟩
  | item i =>
    have hne : i.text ≠ [] := i.tight_text.nonempty
    refine ⟨?_, ?_⟩
    · obtain ⟨c, r, hcr⟩ := List.exists_cons_of_ne_nil hne
      exact ⟨c, r, hcr, i.tight_text.head c (by rw [hcr]; rfl)⟩
    · obtain ⟨r, c, hcr⟩ := (List.eq_nil_or_concat i.text).resolve_left hne
      rw [List.concat_eq_append] at hcr
      exact ⟨r, c, hcr, i.tight_text.last c (by rw [hcr]; simp)⟩

theorem trimStart_textOf (ps : List Part) : Text.trimStart (textOf ps) = textOf (ps.dropWhile isBlank) := by
  induction ps with
  | nil => rfl
  | cons p ps ih =>
    cases h : p.isBlank with
    | true =>
      cases p with
      | blank c hc =>
        rw [textOf_cons, text, List.singleton_append,
          Text.trimStart_cons_of_pos _ (isBlank_of_isAsciiBlank hc), ih, List.dropWhile_cons_of_pos h]
      | _ => cases h
    | false =>
      obtain ⟨⟨c, r, hp, hc⟩, -⟩ := text_ends h
      rw [List.dropWhile_cons_of_neg (by simp [h]), textOf_cons, hp, List.cons_append,
        Text.trimStart_cons_of_neg _ hc]

theorem trimEnd_textOf (ps : List Part) : Text.trimEnd (textOf ps) = textOf (ps.rdropWhile isBlank) := by
  induction ps using List.reverseRecOn with
  | nil => rfl
  | append_singleton ps p ih =>
    rw [textOf_append, textOf_cons, textOf_nil, List.append_nil]
    cases h : p.isBlank with
    | true =>
      cases p with
      | blank c hc =>
        rw [text, Text.trimEnd_append, Text.trimEnd_singleton, if_pos (isBlank_of_isAsciiBlank hc), ih,
          List.rdropWhile_concat_pos _ _ _ h]
        rfl
      | _ => cases h
    | false =>
      obtain ⟨-, r, c, hp, hc⟩ := text_ends h
      rw [List.rdropWhile_concat_neg _ _ _ (by simp [h]), hp, ← List.append_assoc, Text.trimEnd_concat _ hc,
        textOf_append, textOf_cons, textOf_nil, List.append_nil, hp, List.append_assoc]

theorem items_dropWhile (ps : List Part) : items (ps.dropWhile isBlank) = items ps := by
  induction ps with
  | nil => rfl
  | cons p ps ih =>
    cases p with
    | blank c hc => rw [List.dropWhile_cons_of_pos rfl, ih]; rfl
    | _ => rfl

theorem items_rdropWhile (ps : List Part) : items (ps.rdropWhile isBlank) = items ps := by
  induction ps using List.reverseRecOn with
  | nil => rfl
  | append_singleton ps p ih =>
    cases p with
    | blank c hc => rw [List.rdropWhile_concat_pos _ _ _ rfl, ih, items_append]; simp [items, item?]
    | _ => rw [List.rdropWhile_concat_neg _ _ _ (by simp [isBlank])]

theorem trim_textOf (ps : List Part) :
    Text.trim (textOf ps) = textOf ((ps.dropWhile isBlank).rdropWhile isBlank) := by
  rw [Text.trim, trimStart_textOf, trimEnd_textOf]

end Part

theorem Written.trim {css : Text} (h : Written css) : Written (Text.trim css) := by
  obtain ⟨ps, rfl⟩ := h
  exact ⟨_, (Part.trim_textOf ps).symm⟩

theorem nodes_trim {css : Text} (h : Written css) : nodes (Text.trim css) = nodes css := by
  obtain ⟨ps, rfl⟩ := h
  rw [Part.trim_textOf, nodes_textOf, nodes_textOf, Part.items_rdropWhile, Part.items_dropWhile]

/-- Every node of a stylesheet stands for an item. -/
theorem Written.exists_item {css : Text} {n : Node} (h : Written css) (hn : n ∈ nodes css) :
    ∃ i : Item, i.node = n := by
  obtain ⟨ps, rfl⟩ := h
  rw [nodes_textOf] at hn
  obtain ⟨i, -, hi⟩ := List.mem_map.1 hn
  exact ⟨i, hi⟩

theorem Item.written (i : Item) : Written i.text := ⟨[.item i], by simp [Part.text]⟩

theorem nodes_item (i : Item) : nodes i.text = [i.node] := by
  have := nodes_textOf [.item i]
  rwa [Part.textOf_cons, Part.textOf_nil, List.append_nil] at this

theorem Written.nil : Written [] := ⟨[], rfl⟩

theorem Written.append {a b : Text} (ha : Written a) (hb : Written b) : Written (a ++ b) := by
  obtain ⟨ps, rfl⟩ := ha
  obtain ⟨qs, rfl⟩ := hb
  exact ⟨ps ++ qs, Part.textOf_append ps qs⟩

theorem Written.newline : Written ['\n'] := ⟨[.blank '\n' rfl], rfl⟩

theorem nodes_append {a : Text} (h : Written a) (b : Text) : nodes (a ++ b) = nodes a ++ nodes b := by
  obtain ⟨ps, rfl⟩ := h
  rw [nodes_textOf_append, nodes_textOf]

theorem nodes_newline (b : Text) : nodes ('\n' :: b) = nodes b :=
  nodes_textOf_append [.blank '\n' rfl] b

/-- A text after which the outline of what follows starts afresh. -/
def Apart (t : Text) : Prop := ∀ rest : Text, nodes (t ++ rest) = nodes t ++ nodes rest

theorem Written.apart {t : Text} (h : Written t) : Apart t := nodes_append h

/-- Texts that are joined by line ends do not get into each other. -/
theorem nodes_join_of_apart {ts : List Text} (h : ∀ t ∈ ts, Apart t) :
    nodes (Text.join ['\n'] ts) = ts.flatMap nodes := by
  induction ts with
  | nil => exact nodes_nil
  | cons t ts ih =>
    by_cases hts : ts = []
    · subst hts
      simp [Text.join]
    · rw [Text.join_cons _ _ hts, List.append_assoc, h t (by simp), List.singleton_append, nodes_newline,
        ih fun u hu => h u (by simp [hu]), List.flatMap_cons]

theorem nodes_join {ts : List Text} (h : ∀ t ∈ ts, Written t) :
    nodes (Text.join ['\n'] ts) = ts.flatMap nodes :=
  nodes_join_of_apart fun t ht => (h t ht).apart

theorem Written.join {ts : List Text} (h : ∀ t ∈ ts, Written t) : Written (Text.join ['\n'] ts) := by
  induction ts with
  | nil => exact .nil
  | cons t ts ih =>
    have ht := h t (by simp)
    by_cases hts : ts = []
    · subst hts
      exact ht
    · rw [Text.join_cons _ _ hts]
      exact (ht.append .newline).append (ih fun u hu => h u (by simp [hu]))

theorem Contents.join {ts : List Text} (h : ∀ t ∈ ts, Contents .block t) :
    Contents .block (Text.join ['\n'] ts) := by
  induction ts with
  | nil => exact .nil
  | cons t ts ih =>
    have ht := h t (by simp)
    by_cases hts : ts = []
    · subst hts
      exact ht
    · rw [Text.join_cons _ _ hts, List.append_assoc]
      have hrest := ih fun u hu => h u (by simp [hu])
      exact ht.append (.char (by decide) (fun he => absurd he (by decide)) hrest) (by simp)

end StylePrune.Outline
