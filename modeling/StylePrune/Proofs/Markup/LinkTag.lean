import StylePrune.Markup.Links
import StylePrune.Proofs.Text.Basic
import StylePrune.Split.Index

/-!
Link tags that are read back.

A value that was escaped holds no quote and no bare ampersand, so an attribute value that starts with it ends where
it ends and has the characters that were escaped (`value_escapeAttribute`). Attributes of different names are read
back in order (`attributes?_written`), and so is a link tag (`next_linkTag`). The first tag of a page opens the head,
and the head stays open behind every link tag and every line end (`take_first`, `take_link`, `take_blank`), so the
links of a page that is a list of link tags are those that were written (`pageLinks_linkTags`).
-/
namespace StylePrune.Markup

open SplitIndex (escapeChar escapeAttribute linkTag)

/-! ## Escaped values -/

/-- A character that is written by its usual name is read as that character. -/
theorem reference_usual {name cs : Text} (h : (name, cs) ∈ usualCharacterNames) (rest : Text) :
    reference true (name ++ rest) = (cs, rest) := by
  simp only [usualCharacterNames, List.mem_cons, Prod.mk.injEq, List.not_mem_nil, or_false] at h
  rcases h with ⟨rfl, rfl⟩ | ⟨rfl, rfl⟩ | ⟨rfl, rfl⟩ | ⟨rfl, rfl⟩ <;> rfl

theorem value_escapeChar {c : Char} (hc : c ≠ '\x00') (fuel : Nat) (rest : Text) :
    value (· == '"') (fuel + 1) (escapeChar c ++ rest) =
      (c :: (value (· == '"') fuel rest).1, (value (· == '"') fuel rest).2) := by
  have hnamed : ∀ {name : Text}, (name, [c]) ∈ usualCharacterNames →
      value (· == '"') (fuel + 1) ('&' :: name ++ rest) =
        (c :: (value (· == '"') fuel rest).1, (value (· == '"') fuel rest).2) := by
    intro name hname
    simp only [value, List.cons_append, reference_usual hname]
    rfl
  rw [escapeChar]
  split
  · next h => subst h; exact hnamed (by decide)
  split
  · next h => subst h; exact hnamed (by decide)
  split
  · next h => subst h; exact hnamed (by decide)
  split
  · next h => subst h; exact hnamed (by decide)
  · next hand hquote _ _ => simp [value, hquote, hand, hc]

theorem value_escapeAttribute {v : Text} (hv : '\x00' ∉ v) {fuel : Nat} (hfuel : v.length < fuel) (rest : Text) :
    value (· == '"') fuel (escapeAttribute v ++ '"' :: rest) = (v, '"' :: rest) := by
  induction v generalizing fuel with
  | nil =>
    obtain ⟨fuel, rfl⟩ := Nat.exists_eq_succ_of_ne_zero (Nat.ne_of_gt hfuel)
    rfl
  | cons c v ih =>
    rw [List.mem_cons, not_or] at hv
    obtain ⟨fuel, rfl⟩ := Nat.exists_eq_succ_of_ne_zero (Nat.ne_of_gt (Nat.zero_lt_of_lt hfuel))
    have hrest := ih hv.2 (Nat.lt_of_succ_lt_succ hfuel)
    rw [escapeAttribute, List.flatMap_cons, List.append_assoc, value_escapeChar (Ne.symm hv.1),
      ← escapeAttribute, hrest]

theorem length_le_escapeAttribute (v : Text) : v.length ≤ (escapeAttribute v).length := by
  induction v with
  | nil => exact Nat.le_refl _
  | cons c v ih =>
    have hchar : 0 < (escapeChar c).length := by
      unfold escapeChar
      repeat' split
      all_goals simp
    rw [escapeAttribute, List.flatMap_cons, List.length_append, ← escapeAttribute, List.length_cons]
    omega

def quoted (v : Text) : Text := '"' :: (escapeAttribute v ++ ['"'])

theorem attributeValue?_quoted {v : Text} (hv : '\x00' ∉ v) (rest : Text) :
    attributeValue? (quoted v ++ rest) = some (v, rest) := by
  have hfuel : v.length < (quoted v ++ rest).length + 1 := by
    have := length_le_escapeAttribute v
    simp only [quoted, List.length_append, List.length_cons]
    omega
  have hvalue := value_escapeAttribute hv hfuel rest
  have hstart : (quoted v ++ rest).dropWhile Text.isAsciiBlank = '"' :: (escapeAttribute v ++ '"' :: rest) := by
    rw [quoted, List.cons_append, List.append_assoc]
    rfl
  rw [attributeValue?]
  simp only [hstart, hvalue]

/-! ## Attributes -/

def isPlainName (name : Text) : Bool := !name.isEmpty && name.all Char.isLower

theorem lowered_of_isLower {c : Char} (h : c.isLower = true) : lowered c = c := by
  have hzero : c ≠ '\x00' := by
    rintro rfl
    exact absurd h (by decide)
  have hlow : 'a'.val ≤ c.val := of_decide_eq_true (Bool.and_eq_true_iff.1 h).1
  have hkept : c.toLower = c := dif_neg fun hupper => absurd (UInt32.le_trans hlow hupper.2) (by decide)
  rw [lowered, if_neg hzero, hkept]

theorem endsName_of_isLower {c : Char} (h : c.isLower = true) : (endsName c || c == '=') = false := by
  refine Bool.eq_false_iff.2 fun hends => ?_
  simp only [endsName, Text.isAsciiBlank, Bool.or_eq_true, beq_iff_eq] at hends
  rcases hends with ((((((rfl | rfl) | rfl) | rfl) | rfl) | rfl) | rfl) | rfl <;> exact absurd h (by decide)

theorem attributes?_name {name : Text} (hname : isPlainName name = true) (fuel : Nat) (as : List (Text × Text))
    (t : Text) :
    attributes? (fuel + 1) as (' ' :: (name ++ '=' :: t)) =
      (attributeValue? t).bind fun v => attributes? fuel (addAttribute name v.1 as) v.2 := by
  obtain ⟨c, name, rfl⟩ := List.exists_cons_of_ne_nil (l := name) (by rintro rfl; cases hname)
  rw [isPlainName, Bool.and_eq_true, List.all_cons, Bool.and_eq_true, List.all_eq_true] at hname
  obtain ⟨-, hc, hname⟩ := hname
  have hgoesOn : ∀ d ∈ name, (!(endsName d || d == '=')) = true := fun d hd => by
    rw [endsName_of_isLower (hname d hd)]
    rfl
  have hends := endsName_of_isLower hc
  simp only [endsName, Bool.or_eq_false_iff, beq_eq_false_iff_ne, ne_eq] at hends
  obtain ⟨⟨⟨hblank, hslash⟩, hangle⟩, -⟩ := hends
  have hstart : (' ' :: (c :: name ++ '=' :: t)).dropWhile Text.isAsciiBlank = c :: (name ++ '=' :: t) := by
    rw [List.dropWhile_cons_of_pos (by decide), List.cons_append, List.dropWhile_cons_of_neg (by simp [hblank])]
  have htake : (name ++ '=' :: t).takeWhile (fun d => !(endsName d || d == '=')) = name := by
    rw [List.takeWhile_append_of_pos hgoesOn, List.takeWhile_cons_of_neg (by decide), List.append_nil]
  have hdrop : ((name ++ '=' :: t).dropWhile fun d => !(endsName d || d == '=')).dropWhile Text.isAsciiBlank =
      '=' :: t := by
    rw [List.dropWhile_append_of_pos hgoesOn, List.dropWhile_cons_of_neg (by decide),
      List.dropWhile_cons_of_neg (by decide)]
  have hlowered : name.map lowered = name :=
    (List.map_congr_left fun d hd => lowered_of_isLower (hname d hd)).trans (List.map_id _)
  rw [attributes?.eq_def]
  simp only [hstart]
  split
  · next h => cases h
  · next h => exact absurd (List.cons.inj h).1 hangle
  · next h => exact absurd (List.cons.inj h).1 hslash
  · next h => exact absurd (List.cons.inj h).1 hslash
  · next h =>
    cases h
    simp only [htake, hdrop, hlowered, lowered_of_isLower hc]
    cases attributeValue? t <;> rfl

/-- An attribute as it is written behind the name of a tag or another attribute. -/
def attributeText (a : Text × Text) : Text := ' ' :: (a.1 ++ '=' :: quoted a.2)

/-- An attribute is read back. -/
theorem attributes?_attributeText {a : Text × Text} (hname : isPlainName a.1 = true) (hvalue : '\x00' ∉ a.2)
    (fuel : Nat) (as : List (Text × Text)) (rest : Text) :
    attributes? (fuel + 1) as (attributeText a ++ rest) = attributes? fuel (addAttribute a.1 a.2 as) rest := by
  have hassoc : attributeText a ++ rest = ' ' :: (a.1 ++ '=' :: (quoted a.2 ++ rest)) := by
    rw [attributeText, List.cons_append, List.append_assoc, List.cons_append]
  rw [hassoc, attributes?_name hname, attributeValue?_quoted hvalue, Option.bind_some]

/-- Attributes of different names are read back in order. -/
theorem attributes?_written {as : List (Text × Text)} (hname : ∀ a ∈ as, isPlainName a.1 = true)
    (hvalue : ∀ a ∈ as, '\x00' ∉ a.2) {before : List (Text × Text)}
    (hnodup : ((before ++ as).map Prod.fst).Nodup) {fuel : Nat} (hfuel : as.length < fuel) (rest : Text) :
    attributes? fuel before (as.flatMap attributeText ++ '>' :: rest) = some (before ++ as, false, rest) := by
  induction as generalizing before fuel with
  | nil =>
    obtain ⟨fuel, rfl⟩ := Nat.exists_eq_succ_of_ne_zero (Nat.ne_of_gt hfuel)
    rw [List.append_nil]
    rfl
  | cons a as ih =>
    obtain ⟨fuel, rfl⟩ := Nat.exists_eq_succ_of_ne_zero (Nat.ne_of_gt (Nat.zero_lt_of_lt hfuel))
    -- only the first attribute of a name is kept, and this is the first
    have hnew : addAttribute a.1 a.2 before = before ++ [a] := by
      have hother : before.any (fun b => b.1 == a.1) = false := by
        rw [List.map_append, List.nodup_append] at hnodup
        simp only [List.any_eq_false, beq_iff_eq]
        exact fun b hb => hnodup.2.2 _ (List.mem_map_of_mem hb) _ (by simp)
      rw [addAttribute, hother]
      rfl
    rw [List.flatMap_cons, List.append_assoc, attributes?_attributeText (hname a List.mem_cons_self)
      (hvalue a List.mem_cons_self), hnew,
      ih (fun b hb => hname b (List.mem_cons_of_mem a hb)) (fun b hb => hvalue b (List.mem_cons_of_mem a hb))
        (by simpa using hnodup) (Nat.lt_of_succ_lt_succ hfuel)]
    simp

/-! ## Link tags -/

/-- What a link tag says. -/
def linkAttributes (href : Text) (media : Option Text) : List (Text × Text) :=
  ("rel".toList, "stylesheet".toList) :: ("href".toList, href) :: (media.map fun m => ("media".toList, m)).toList

theorem forall_linkAttributes {href : Text} {media : Option Text} {p : Text × Text → Prop}
    (hrel : p ("rel".toList, "stylesheet".toList)) (hhref : p ("href".toList, href))
    (hmedia : ∀ m ∈ media, p ("media".toList, m)) : ∀ a ∈ linkAttributes href media, p a := by
  intro a ha
  simp only [linkAttributes, List.mem_cons, Option.mem_toList, Option.map_eq_some_iff] at ha
  rcases ha with rfl | rfl | ⟨m, hm, rfl⟩
  · exact hrel
  · exact hhref
  · exact hmedia m hm

theorem linkTag_eq (href : Text) (media : Option Text) :
    linkTag href media = '<' :: ("link".toList ++ ((linkAttributes href media).flatMap attributeText ++ ['>'])) := by
  have hrel : "<link rel=\"stylesheet\" href=\"".toList =
      '<' :: ("link".toList ++ (attributeText ("rel".toList, "stylesheet".toList) ++ " href=\"".toList)) := rfl
  have hhref : " href=\"".toList ++ (escapeAttribute href ++ ['"']) = attributeText ("href".toList, href) := rfl
  have hmedia (m : Text) :
      " media=\"".toList ++ (escapeAttribute m ++ ['"']) = attributeText ("media".toList, m) := rfl
  unfold linkTag linkAttributes
  rw [hrel, List.flatMap_cons, List.flatMap_cons, ← hhref]
  cases media with
  | none => simp only [List.append_assoc, List.cons_append, Option.map_none, Option.toList_none, List.flatMap_nil,
      List.nil_append]
  | some m => simp only [List.append_assoc, List.cons_append, Option.map_some, Option.toList_some,
      List.flatMap_singleton, ← hmedia, List.nil_append]

def readTag (href : Text) (media : Option Text) : Tag := ⟨"link".toList, linkAttributes href media, false⟩

theorem tag?_linkTag {href : Text} {media : Option Text} (hhref : '\x00' ∉ href)
    (hmedia : ∀ m ∈ media, '\x00' ∉ m) (rest : Text) :
    tag? ("link".toList ++ ((linkAttributes href media).flatMap attributeText ++ '>' :: rest)) =
      some (readTag href media, rest) := by
  have hnames : ∀ a ∈ linkAttributes href media, isPlainName a.1 = true :=
    forall_linkAttributes rfl rfl fun m _ => rfl
  have hvalues : ∀ a ∈ linkAttributes href media, '\x00' ∉ a.2 :=
    forall_linkAttributes (by decide) hhref hmedia
  have hnodup : (([] ++ linkAttributes href media).map Prod.fst).Nodup := by
    cases media with
    | none => show ["rel".toList, "href".toList].Nodup; decide
    | some m => show ["rel".toList, "href".toList, "media".toList].Nodup; decide
  have hlength : (linkAttributes href media).length < "link".toList.length := by
    cases media with
    | none => show 2 < 4; decide
    | some m => show 3 < 4; decide
  have hname : ("link".toList ++ ((linkAttributes href media).flatMap attributeText ++ '>' :: rest)).takeWhile
      (fun c => !endsName c) = "link".toList := rfl
  have hrest : ("link".toList ++ ((linkAttributes href media).flatMap attributeText ++ '>' :: rest)).dropWhile
      (fun c => !endsName c) = (linkAttributes href media).flatMap attributeText ++ '>' :: rest := rfl
  have hfuel : (linkAttributes href media).length <
      ("link".toList ++ ((linkAttributes href media).flatMap attributeText ++ '>' :: rest)).length + 1 := by
    simp only [List.length_append, List.length_cons]
    omega
  -- the fuel is more than the letters of the name, and these are more than the attributes
  rw [tag?]
  simp only [hname, hrest, attributes?_written hnames hvalues hnodup hfuel rest]
  rfl

theorem afterLess_of_tag? {c : Char} {s r : Text} {t : Tag} {sections : Bool} (hc : c.isAlpha = true)
    (h : tag? (c :: s) = some (t, r)) : afterLess sections (c :: s) = ([.opening t], r) := by
  unfold afterLess
  split
  · next heq => cases heq; exact absurd hc (by decide)
  · next heq => cases heq; exact absurd hc (by decide)
  · next heq => cases heq; exact absurd hc (by decide)
  · next heq =>
    cases heq
    simp only [hc, if_true, h]
  · next heq => cases heq

/-- A link tag is read back with its attributes as they were before they were escaped. -/
theorem next_linkTag {href : Text} {media : Option Text} (hhref : '\x00' ∉ href)
    (hmedia : ∀ m ∈ media, '\x00' ∉ m) (sections : Bool) (rest : Text) :
    next sections (linkTag href media ++ rest) = ([.opening (readTag href media)], rest) := by
  have htext : linkTag href media ++ rest =
      '<' :: ("link".toList ++ ((linkAttributes href media).flatMap attributeText ++ '>' :: rest)) := by
    rw [linkTag_eq]
    simp only [List.cons_append, List.append_assoc, List.nil_append]
  rw [htext, next]
  exact afterLess_of_tag? rfl (tag?_linkTag hhref hmedia rest)

/-! ## Pages of link tags -/

/-- The state in the head of a page, for which there was no tag, with the links that were met there. -/
def inHeadWith (ls : List Link) : Builder :=
  { Builder.page with
    mode := .inHead, stack := [⟨1, .html, "head".toList⟩, ⟨0, .html, "html".toList⟩], headSeen := true,
    fresh := 2, links := ls }

def linkOf (t : Text × Option Text) : Link := ⟨.html, linkAttributes t.1 t.2⟩

theorem take_first (t : Text × Option Text) :
    Builder.page.take (.opening (readTag t.1 t.2)) = inHeadWith [linkOf t] := rfl

theorem take_link (ls : List Link) (t : Text × Option Text) :
    (inHeadWith ls).take (.opening (readTag t.1 t.2)) = inHeadWith (ls ++ [linkOf t]) := rfl

theorem take_blank (ls : List Link) : (inHeadWith ls).take (.text .blank) = inHeadWith ls := rfl

/-- Values without the characters that markup has no way to write. -/
structure Writable (t : Text × Option Text) : Prop where
  href : '\x00' ∉ t.1 ∧ '\r' ∉ t.1
  media : ∀ m ∈ t.2, '\x00' ∉ m ∧ '\r' ∉ m

/-- One token is taken, and what follows it is left. -/
theorem Builder.readBy_of_next {b b' : Builder} {tok : Token} {c : Char} {s r : Text}
    (hnext : next b.allowsSection (c :: s) = ([tok], r)) (htake : b.take tok = b') (hraw : b'.raw = none)
    (fuel : Nat) : Builder.readBy (fuel + 1) b (c :: s) = Builder.readBy fuel b' r := by
  have hstep : b.step (c :: s) = (b', r) := by
    rw [step, hnext]
    simp only [List.foldl_cons, List.foldl_nil, htake, afterRaw, hraw]
    cases b'
    cases hraw
    rfl
  rw [readBy]
  · simp only [hstep]
  · exact List.cons_ne_nil c s

theorem Builder.readBy_linkTag {t : Text × Option Text} (ht : Writable t) {b b' : Builder}
    (htake : b.take (.opening (readTag t.1 t.2)) = b') (hraw : b'.raw = none) (fuel : Nat) (rest : Text) :
    Builder.readBy (fuel + 1) b (linkTag t.1 t.2 ++ rest) = Builder.readBy fuel b' rest := by
  have hnext := next_linkTag ht.href.1 (fun m hm => (ht.media m hm).1) b.allowsSection rest
  rw [linkTag_eq] at hnext ⊢
  exact readBy_of_next hnext htake hraw fuel

/-- What follows the first of some tags, each on a line of its own. -/
def laterLines (ts : List (Text × Option Text)) : Text := ts.flatMap fun t => '\n' :: linkTag t.1 t.2

theorem readBy_laterLines {ts : List (Text × Option Text)} (hts : ∀ t ∈ ts, Writable t) (ls : List Link)
    {fuel : Nat} (hfuel : (laterLines ts).length ≤ fuel) :
    Builder.readBy fuel (inHeadWith ls) (laterLines ts) = inHeadWith (ls ++ ts.map linkOf) := by
  induction ts generalizing ls fuel with
  | nil =>
    rw [List.map_nil, List.append_nil]
    cases fuel <;> rfl
  | cons t ts ih =>
    have htext : laterLines (t :: ts) = '\n' :: (linkTag t.1 t.2 ++ laterLines ts) := by
      rw [laterLines, List.flatMap_cons, List.cons_append, ← laterLines]
    have hlength : 1 ≤ (linkTag t.1 t.2).length := by
      rw [linkTag_eq]
      exact Nat.le_add_left 1 _
    rw [htext, List.length_cons, List.length_append] at hfuel
    obtain ⟨fuel, rfl⟩ : ∃ n, fuel = n + 2 := ⟨fuel - 2, by omega⟩
    have htag := Builder.readBy_linkTag (hts t List.mem_cons_self) (take_link ls t) rfl fuel (laterLines ts)
    rw [htext, Builder.readBy_of_next rfl (take_blank ls) rfl, htag,
      ih (fun u hu => hts u (List.mem_cons_of_mem t hu)) _ (by omega), List.map_cons, List.append_assoc]
    rfl

theorem unifyLines_of_notMem {s : Text} (h : '\r' ∉ s) : unifyLines s = s := by
  fun_induction unifyLines s with
  | case1 => rfl
  | case2 r ih => simp at h
  | case3 r _ ih => simp at h
  | case4 c r _ _ ih => rw [ih fun hr => h (List.mem_cons_of_mem c hr)]

theorem return_notMem_attributeText {a : Text × Text} (hname : '\r' ∉ a.1) (hvalue : '\r' ∉ a.2) :
    '\r' ∉ attributeText a := by
  have hescaped : '\r' ∉ escapeAttribute a.2 := by
    intro h
    obtain ⟨c, hc, h⟩ := List.mem_flatMap.1 h
    unfold escapeChar at h
    split at h
    · exact absurd h (by decide)
    split at h
    · exact absurd h (by decide)
    split at h
    · exact absurd h (by decide)
    split at h
    · exact absurd h (by decide)
    · exact hvalue (List.mem_singleton.1 h ▸ hc)
  simp [attributeText, quoted, hname, hescaped]

theorem Writable.return_notMem {t : Text × Option Text} (ht : Writable t) : '\r' ∉ linkTag t.1 t.2 := by
  have hattributes : ∀ a ∈ linkAttributes t.1 t.2, '\r' ∉ attributeText a :=
    forall_linkAttributes (by decide)
      (return_notMem_attributeText (show '\r' ∉ "href".toList by decide) ht.href.2)
      fun m hm => return_notMem_attributeText (show '\r' ∉ "media".toList by decide) (ht.media m hm).2
  rw [linkTag_eq]
  simpa using fun a b => hattributes (a, b)

theorem return_notMem_laterLines {ts : List (Text × Option Text)} (hts : ∀ t ∈ ts, Writable t) :
    '\r' ∉ laterLines ts := by
  intro h
  obtain ⟨t, ht, h⟩ := List.mem_flatMap.1 h
  rcases List.mem_cons.1 h with h | h
  · exact absurd h (by decide)
  · exact (hts t ht).return_notMem h

theorem Builder.read_of_notMem {b : Builder} {c : Char} {s : Text} (hmark : c ≠ '\uFEFF')
    (hreturn : '\r' ∉ c :: s) : b.read (c :: s) = b.readBy (c :: s).length (c :: s) := by
  rw [Builder.read, unifyLines_of_notMem hreturn]
  exact fun r h => hmark (List.cons.inj h).1

/-- **A page of link tags is read back**: it has the links that the tags were written for, in their order. -/
theorem pageLinks_linkTags {ts : List (Text × Option Text)} (hts : ∀ t ∈ ts, Writable t) :
    pageLinks (Text.join ['\n'] (ts.map fun t => linkTag t.1 t.2)) = ts.map linkOf := by
  cases ts with
  | nil => rfl
  | cons t ts =>
    rw [List.forall_mem_cons] at hts
    obtain ⟨ht, hts⟩ := hts
    have htext : Text.join ['\n'] ((t :: ts).map fun t => linkTag t.1 t.2) = linkTag t.1 t.2 ++ laterLines ts := by
      rw [List.map_cons, Text.join_cons_eq_append, List.flatMap_map]
      rfl
    have hreturn : '\r' ∉ linkTag t.1 t.2 ++ laterLines ts := fun h =>
      (List.mem_append.1 h).elim ht.return_notMem (return_notMem_laterLines hts)
    have hread : Builder.page.read (linkTag t.1 t.2 ++ laterLines ts) =
        Builder.page.readBy (linkTag t.1 t.2 ++ laterLines ts).length (linkTag t.1 t.2 ++ laterLines ts) := by
      rw [linkTag_eq] at hreturn ⊢
      exact Builder.read_of_notMem (by decide) hreturn
    have hlength : (laterLines ts).length + 1 ≤ (linkTag t.1 t.2 ++ laterLines ts).length := by
      rw [linkTag_eq]
      simp only [List.length_append, List.length_cons]
      omega
    obtain ⟨fuel, hfuel⟩ : ∃ n, (linkTag t.1 t.2 ++ laterLines ts).length = n + 1 :=
      ⟨_, (Nat.sub_add_cancel (Nat.le_of_add_left_le hlength)).symm⟩
    rw [htext, pageLinks, hread, hfuel, Builder.readBy_linkTag ht (take_first t) rfl fuel,
      readBy_laterLines hts _ (by omega)]
    rfl

end StylePrune.Markup
