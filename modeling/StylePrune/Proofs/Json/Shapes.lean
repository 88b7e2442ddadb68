import Mathlib.Data.List.Nodup
import StylePrune.Json.Shape
import StylePrune.Proofs.Json.Numbers

/-!
Reading back JSON by its shape.

`Shape.Writes` says which values are written forms of a datum: numbers, truth values and strings for what they are,
null for what may be missing, lists item by item, and records member by member, with distinct names and none missing
that must be given. Such a value, written over several lines, is read as its datum where a value may end after it
(`Shape.Writes.readsBack`, `Shape.Writes.parse`). Lists and records are read alike: the first entry, then one more
for each comma, up to the closing bracket.
-/
namespace StylePrune.Json

/-! ## Between values -/

theorem dropWhile_newLine (level : Nat) {ch : Char} (r : Text) (h : isSpace ch = false) :
    (newLine level ++ ch :: r).dropWhile isSpace = ch :: r := by
  rw [newLine, List.cons_append, List.dropWhile_cons_of_pos (by decide), List.dropWhile_append_of_pos,
    List.dropWhile_cons_of_neg (by simp [h])]
  intro d hd
  rw [(List.mem_replicate.1 hd).2]
  decide

theorem Cursor.skipBlanks_of_rest {c : Cursor} {ch : Char} {r : Text} (hc : c.rest = ch :: r)
    (h : isSpace ch = false) : c.skipBlanks = c := by
  rw [skipBlanks, hc, skipFrom, if_neg (by simp [h]), ← hc]

theorem nextItem_first {c : Cursor} {ch : Char} {r : Text} (hc : c.rest.dropWhile isSpace = ch :: r)
    (h : ch ≠ ']') : ∃ d, nextItem true c = .ok (true, d) ∧ d.rest = ch :: r := by
  have hrest : c.skipBlanks.rest = ch :: r := (Cursor.rest_skipBlanks c).trans hc
  exact ⟨c.skipBlanks, by simp [nextItem, hrest], hrest⟩

theorem nextItem_comma {c : Cursor} {ch : Char} {r r' : Text} (hc : c.rest = ',' :: r)
    (hr : r.dropWhile isSpace = ch :: r') (h : ch ≠ ']') :
    ∃ d, nextItem false c = .ok (true, d) ∧ d.rest = ch :: r' := by
  have hskip : c.skipBlanks = c := Cursor.skipBlanks_of_rest hc (by decide)
  have hrest : c.next.skipBlanks.rest = ch :: r' := by
    rw [Cursor.rest_skipBlanks, Cursor.rest_next hc, hr]
  exact ⟨c.next.skipBlanks, by simp [nextItem, hskip, hc, hrest], hrest⟩

theorem nextItem_end (first : Bool) {c : Cursor} {r : Text} (hc : c.rest.dropWhile isSpace = ']' :: r) :
    ∃ d, nextItem first c = .ok (false, d) ∧ d.rest = ']' :: r := by
  have hrest : c.skipBlanks.rest = ']' :: r := (Cursor.rest_skipBlanks c).trans hc
  exact ⟨c.skipBlanks, by simp [nextItem, hrest], hrest⟩

theorem nextMember_first {c : Cursor} {r : Text} (hc : c.rest.dropWhile isSpace = '"' :: r) :
    ∃ d, nextMember true c = .ok (true, d) ∧ d.rest = '"' :: r := by
  have hrest : c.skipBlanks.rest = '"' :: r := (Cursor.rest_skipBlanks c).trans hc
  exact ⟨c.skipBlanks, by simp [nextMember, hrest], hrest⟩

theorem nextMember_comma {c : Cursor} {r r' : Text} (hc : c.rest = ',' :: r)
    (hr : r.dropWhile isSpace = '"' :: r') : ∃ d, nextMember false c = .ok (true, d) ∧ d.rest = '"' :: r' := by
  have hskip : c.skipBlanks = c := Cursor.skipBlanks_of_rest hc (by decide)
  have hrest : c.next.skipBlanks.rest = '"' :: r' := by
    rw [Cursor.rest_skipBlanks, Cursor.rest_next hc, hr]
  exact ⟨c.next.skipBlanks, by simp [nextMember, hskip, hc, hrest], hrest⟩

theorem nextMember_end (first : Bool) {c : Cursor} {r : Text} (hc : c.rest.dropWhile isSpace = '}' :: r) :
    ∃ d, nextMember first c = .ok (false, d) ∧ d.rest = '}' :: r := by
  have hrest : c.skipBlanks.rest = '}' :: r := (Cursor.rest_skipBlanks c).trans hc
  exact ⟨c.skipBlanks, by simp [nextMember, hrest], hrest⟩

theorem stops_of_dropWhile {t r : Text} {ch : Char} (h : t.dropWhile isSpace = ch :: r) (hch : ch = ']' ∨ ch = '}') :
    Stops t := by
  cases t with
  | nil => exact stops_nil
  | cons e t =>
    by_cases he : isSpace e = true
    · exact stops_cons (.inl he)
    · rw [List.dropWhile_cons_of_neg he] at h
      obtain ⟨rfl, -⟩ := List.cons.inj h
      exact stops_cons (.inr (.inr hch))

/-- A value ends before further entries, each with its comma, as it does where there is none. -/
theorem stops_more {α : Type} {f : α → Text} {as : List α} {t : Text} (h : Stops t) :
    Stops ((as.flatMap fun a => ',' :: f a) ++ t) := by
  cases as with
  | nil => exact h
  | cons a as => exact stops_cons (.inr (.inl rfl))

theorem endList_of_rest {c : Cursor} {r : Text} (hc : c.rest = ']' :: r) :
    ∃ d, endList c = .ok d ∧ d.rest = r := by
  have hskip : c.skipBlanks = c := Cursor.skipBlanks_of_rest hc (by decide)
  exact ⟨c.next, by simp [endList, hskip, hc], Cursor.rest_next hc⟩

theorem endObject_of_rest {c : Cursor} {r : Text} (hc : c.rest = '}' :: r) :
    ∃ d, endObject c = .ok d ∧ d.rest = r := by
  have hskip : c.skipBlanks = c := Cursor.skipBlanks_of_rest hc (by decide)
  exact ⟨c.next, by simp [endObject, hskip, hc], Cursor.rest_next hc⟩

theorem readColon_of_rest {c : Cursor} {r : Text} (hc : c.rest = ':' :: r) :
    ∃ d, readColon c = .ok d ∧ d.rest = r := by
  have hskip : c.skipBlanks = c := Cursor.skipBlanks_of_rest hc (by decide)
  exact ⟨c.next, by simp [readColon, hskip, hc], Cursor.rest_next hc⟩

/-! ## Written values -/

/-- Reading has given a result and stands before a text. -/
def Outcome.Gives {α : Type} (o : Outcome α) (a : α) (rest : Text) : Prop :=
  ∃ c : Cursor, o = .ok a c ∧ c.rest = rest

/-- A member of a record: its name and shape, what is written and what is read. -/
structure Member where
  name : Text
  shape : Shape
  value : Value
  datum : Datum

def Member.read (m : Member) : Text × Datum := (m.name, m.datum)

def Member.written (m : Member) : Text × Value := (m.name, m.value)

/-- A value is a written form of a datum of a shape. -/
inductive Shape.Writes : Shape → Value → Datum → Prop where
  | natural {bound n : Nat} {label : Text} : n < bound → bound ≤ Nat.pow 2 64 →
      Writes (.natural bound label) (.number (.natural n)) (.natural n)
  | flag {b : Bool} : Writes .flag (.bool b) (.flag b)
  | text {label s : Text} : Writes (.text label) (.string s) (.text s)
  | null {s : Shape} : Writes (.optional s) .null .missing
  | optional {s : Shape} {v : Value} {d : Datum} : Writes s v d → Writes (.optional s) v d
  | list {s : Shape} {items : List (Value × Datum)} : (∀ i ∈ items, Writes s i.1 i.2) →
      Writes (.list s) (.array (items.map Prod.fst)) (.list (items.map Prod.snd))
  /-- The members have distinct names that the record knows, and none that must be given is left out. -/
  | record {name : Text} {fields : List (Text × Bool × Shape)} {members : List Member} :
      (∀ m ∈ members, Writes m.shape m.value m.datum) →
      (∀ m ∈ members, ∃ absent, fields.find? (fun f => f.1 == m.name) = some (m.name, absent, m.shape)) →
      (members.map Member.name).Nodup →
      (∀ f ∈ fields, f.2.1 = false → f.1 ∈ members.map Member.name) →
      Writes (.record name fields) (.object (members.map Member.written)) (.record (members.map Member.read))

theorem Shape.Writes.list_map {α : Type} {s : Shape} {value : α → Value} {datum : α → Datum} {as : List α}
    (h : ∀ a ∈ as, s.Writes (value a) (datum a)) :
    (Shape.list s).Writes (.array (as.map value)) (.list (as.map datum)) := by
  let items : List (Value × Datum) := as.map fun a => (value a, datum a)
  have hwrites : (Shape.list s).Writes (.array (items.map Prod.fst)) (.list (items.map Prod.snd)) := by
    refine .list fun i hi => ?_
    obtain ⟨a, ha, rfl⟩ := List.mem_map.1 hi
    exact h a ha
  rwa [List.map_map, List.map_map] at hwrites

/-- A text that starts as values do: with neither white space nor the end of a list. -/
def Opens (s : Text) : Prop := ∃ ch r, s = ch :: r ∧ isSpace ch = false ∧ ch ≠ ']'

theorem opens_ofNat (n : Nat) : Opens (Text.ofNat n) := by
  obtain ⟨ch, ds, hds, -⟩ := exists_ofNat n
  have hdigit : ch.isDigit = true := Text.isDigit_of_mem_ofNat (by rw [hds]; exact List.mem_cons_self)
  refine ⟨ch, ds, hds, ?_, ?_⟩
  · rw [isSpace]
    simp only [Bool.or_eq_false_iff, beq_eq_false_iff_ne]
    refine ⟨⟨⟨?_, ?_⟩, ?_⟩, ?_⟩ <;>
      · rintro rfl
        cases hdigit
  · rintro rfl
    cases hdigit

theorem Shape.Writes.opens {s : Shape} {v : Value} {d : Datum} (h : s.Writes v d) (level : Nat) :
    Opens (v.pretty level) := by
  induction h with
  | natural => exact opens_ofNat _
  | @flag b =>
    cases b with
    | true => exact ⟨'t', _, rfl, by decide⟩
    | false => exact ⟨'f', _, rfl, by decide⟩
  | text => exact ⟨'"', _, rfl, by decide⟩
  | null => exact ⟨'n', _, rfl, by decide⟩
  | optional _ ih => exact ih
  | @list s items _ _ =>
    cases items with
    | nil => exact ⟨'[', _, rfl, by decide⟩
    | cons i items => exact ⟨'[', _, rfl, by decide⟩
  | @record name fields members _ _ _ _ _ =>
    cases members with
    | nil => exact ⟨'{', _, rfl, by decide⟩
    | cons m members => exact ⟨'{', _, rfl, by decide⟩

theorem Shape.Writes.null_or {s : Shape} {v : Value} {d : Datum} (h : s.Writes v d) :
    (v = .null ∧ d = .missing) ∨ ∀ level r, v.pretty level ≠ 'n' :: r := by
  induction h with
  | @natural bound n label hn hbound =>
    right
    intro level r h
    have hdigit : 'n'.isDigit = true := Text.isDigit_of_mem_ofNat (n := n) (by
      rw [Value.pretty, Number.text] at h
      rw [h]
      exact List.mem_cons_self)
    cases hdigit
  | @flag b => exact .inr fun level r h => by cases b <;> cases (List.cons.inj h).1
  | text => exact .inr fun level r h => by cases (List.cons.inj h).1
  | null => exact .inl ⟨rfl, rfl⟩
  | optional _ ih => exact ih
  | @list s items _ _ => exact .inr fun level r h => by cases items <;> cases (List.cons.inj h).1
  | @record name fields members _ _ _ _ _ => exact .inr fun level r h => by cases members <;> cases (List.cons.inj h).1

theorem prettyItems_cons (level : Nat) (v : Value) (vs : List Value) :
    prettyItems level (v :: vs) =
      newLine level ++ (v.pretty level ++ vs.flatMap fun w => ',' :: (newLine level ++ w.pretty level)) := by
  induction vs generalizing v with
  | nil => simp [prettyItems]
  | cons w vs ih => rw [prettyItems, ih, List.flatMap_cons]; simp

/-- A member as it is written, without the line end before it. -/
def memberText (level : Nat) (m : Text × Value) : Text :=
  writeString m.1 ++ ':' :: ' ' :: m.2.pretty level

theorem prettyMembers_cons (level : Nat) (m : Text × Value) (ms : List (Text × Value)) :
    prettyMembers level (m :: ms) =
      newLine level ++
        (memberText level m ++ ms.flatMap fun n => ',' :: (newLine level ++ memberText level n)) := by
  induction ms generalizing m with
  | nil => simp [prettyMembers, memberText]
  | cons n ms ih => rw [prettyMembers, ih, List.flatMap_cons]; simp [memberText]

theorem exists_pretty_array (level : Nat) (vs : List Value) :
    ∃ inside, (Value.array vs).pretty level = '[' :: inside := by
  cases vs with
  | nil => exact ⟨_, rfl⟩
  | cons v vs => exact ⟨_, rfl⟩

theorem exists_pretty_object (level : Nat) (ms : List (Text × Value)) :
    ∃ inside, (Value.object ms).pretty level = '{' :: inside := by
  cases ms with
  | nil => exact ⟨_, rfl⟩
  | cons m ms => exact ⟨_, rfl⟩

/-! ## Reading lists and records -/

theorem readList_item {item : Cursor → Outcome Datum} {first : Bool} {fuel : Nat} {c d : Cursor} {v : Datum}
    {vs : List Datum} {t r : Text} (hnext : nextItem first c = .ok (true, d)) (hitem : (item d).Gives v t)
    (hmore : ∀ e : Cursor, e.rest = t → (readList item fuel false e).Gives vs r) :
    (readList item (fuel + 1) first c).Gives (v :: vs) r := by
  obtain ⟨e, he, herest⟩ := hitem
  obtain ⟨g, hg, hgrest⟩ := hmore e herest
  refine ⟨g, ?_, hgrest⟩
  rw [readList, hnext]
  simp only [he, hg]

theorem readList_rest {item : Cursor → Outcome Datum} {level : Nat} {r rest : Text}
    (hrest : rest.dropWhile isSpace = ']' :: r) {items : List (Value × Datum)}
    (hopens : ∀ i ∈ items, Opens (i.1.pretty level))
    (hitem : ∀ i ∈ items, ∀ (c : Cursor) (t : Text), Stops t → c.rest = i.1.pretty level ++ t →
      (item c).Gives i.2 t) :
    ∀ (fuel : Nat) (c : Cursor), items.length < fuel →
      c.rest = (items.flatMap fun i => ',' :: (newLine level ++ i.1.pretty level)) ++ rest →
      (readList item fuel false c).Gives (items.map Prod.snd) (']' :: r) := by
  -- each item costs one unit of fuel, and the end of the list one more
  induction items with
  | nil =>
    intro fuel c hf hc
    obtain ⟨fuel, rfl⟩ := Nat.exists_eq_succ_of_ne_zero (by omega : fuel ≠ 0)
    have hend : c.rest.dropWhile isSpace = ']' :: r := by rw [hc]; exact hrest
    obtain ⟨d, hd, hdrest⟩ := nextItem_end false hend
    exact ⟨d, by rw [readList, hd]; rfl, hdrest⟩
  | cons i items ih =>
    intro fuel c hf hc
    obtain ⟨fuel, rfl⟩ := Nat.exists_eq_succ_of_ne_zero (by omega : fuel ≠ 0)
    rw [List.length_cons] at hf
    have hi : i ∈ i :: items := List.mem_cons_self
    obtain ⟨ch, t, hpretty, hspace, hbracket⟩ := hopens i hi
    have hstops : Stops ((items.flatMap fun i => ',' :: (newLine level ++ i.1.pretty level)) ++ rest) :=
      stops_more (stops_of_dropWhile hrest (.inl rfl))
    rw [List.flatMap_cons, List.cons_append, List.cons_append, List.append_assoc, List.append_assoc] at hc
    have hdrop : (newLine level ++ (i.1.pretty level ++
          ((items.flatMap fun i => ',' :: (newLine level ++ i.1.pretty level)) ++ rest))).dropWhile isSpace =
        ch :: (t ++ ((items.flatMap fun i => ',' :: (newLine level ++ i.1.pretty level)) ++ rest)) := by
      rw [hpretty, List.cons_append, dropWhile_newLine level _ hspace]
    obtain ⟨d, hd, hdrest⟩ := nextItem_comma hc hdrop hbracket
    refine readList_item hd (hitem i hi d _ hstops (by rw [hdrest, hpretty]; rfl)) fun e he => ?_
    exact ih (fun j hj => hopens j (List.mem_cons_of_mem i hj))
      (fun j hj => hitem j (List.mem_cons_of_mem i hj)) fuel e (by omega) he

/-- The items of a list are read as they were written, after the bracket. -/
theorem readList_of_written {item : Cursor → Outcome Datum} {level : Nat} {items : List (Value × Datum)}
    (hopens : ∀ i ∈ items, Opens (i.1.pretty (level + 1)))
    (hitem : ∀ i ∈ items, ∀ (c : Cursor) (t : Text), Stops t → c.rest = i.1.pretty (level + 1) ++ t →
      (item c).Gives i.2 t)
    {c : Cursor} {r : Text} {fuel : Nat} (hfuel : c.rest.length < fuel)
    (hc : '[' :: c.rest = (Value.array (items.map Prod.fst)).pretty level ++ r) :
    (readList item fuel true c).Gives (items.map Prod.snd) (']' :: r) := by
  obtain ⟨fuel, rfl⟩ := Nat.exists_eq_succ_of_ne_zero (by omega : fuel ≠ 0)
  cases items with
  | nil =>
    obtain ⟨-, hc⟩ := List.cons.inj hc
    have hend : c.rest.dropWhile isSpace = ']' :: r := by
      rw [hc]
      rfl
    obtain ⟨d, hd, hdrest⟩ := nextItem_end true hend
    exact ⟨d, by rw [readList, hd]; rfl, hdrest⟩
  | cons i items =>
    have hi : i ∈ i :: items := List.mem_cons_self
    obtain ⟨ch, t, hpretty, hspace, hbracket⟩ := hopens i hi
    let more : Text := items.flatMap fun i => ',' :: (newLine (level + 1) ++ i.1.pretty (level + 1))
    let close : Text := newLine level ++ ']' :: r
    have hc : c.rest = newLine (level + 1) ++ (i.1.pretty (level + 1) ++ (more ++ close)) := by
      rw [List.map_cons, Value.pretty, prettyItems_cons, List.flatMap_map] at hc
      simpa [more, close] using (List.cons.inj hc).2
    have hclose : close.dropWhile isSpace = ']' :: r := dropWhile_newLine level r (by decide)
    have hlength : items.length ≤ more.length := length_le_flatMap (fun _ => List.cons_ne_nil _ _) items
    have hfuel : items.length < fuel := by
      rw [hc] at hfuel
      simp only [newLine, List.length_append, List.length_cons] at hfuel
      omega
    have hfirst : c.rest.dropWhile isSpace = ch :: (t ++ (more ++ close)) := by
      rw [hc, hpretty, List.cons_append, dropWhile_newLine _ _ hspace]
    obtain ⟨d, hd, hdrest⟩ := nextItem_first hfirst hbracket
    have hstops : Stops (more ++ close) := stops_more (stops_of_dropWhile hclose (.inl rfl))
    refine readList_item hd (hitem i hi d (more ++ close) hstops (by rw [hdrest, hpretty]; rfl)) fun e he => ?_
    exact readList_rest hclose (fun j hj => hopens j (List.mem_cons_of_mem i hj))
      (fun j hj => hitem j (List.mem_cons_of_mem i hj)) fuel e hfuel he

def FieldReader.Reads (f : FieldReader) (level : Nat) (m : Member) : Prop :=
  ∀ (c : Cursor) (t : Text), Stops t → c.rest = m.value.pretty level ++ t → (f.read c).Gives m.datum t

theorem readFields_member {fields : List FieldReader} {field : FieldReader} {level : Nat} {m : Member}
    (hfind : fields.find? (fun f => f.name == m.name) = some field) (hreads : field.Reads level m)
    (hopens : Opens (m.value.pretty level))
    {first : Bool} {given : List (Text × Datum)} (hnew : m.name ∉ given.map Prod.fst) {c d : Cursor} {t : Text}
    (ht : Stops t) (hnext : nextMember first c = .ok (true, d)) (hd : d.rest = memberText level m.written ++ t)
    (fuel : Nat) :
    ∃ e : Cursor, e.rest = t ∧
      readFields fields (fuel + 1) first given c = readFields fields fuel false (given ++ [m.read]) e := by
  have hd : d.rest = '"' :: (m.name.flatMap escapeChar ++ '"' :: ':' :: ' ' :: (m.value.pretty level ++ t)) := by
    rw [hd]
    simp [memberText, Member.written, writeString]
  -- the name, the colon and the value are read one after another
  obtain ⟨k, hk, hkrest⟩ := readString_of_written (Cursor.rest_next hd)
  obtain ⟨v, hv, hvrest⟩ := readColon_of_rest hkrest
  have hvalue : v.skipBlanks.rest = m.value.pretty level ++ t := by
    obtain ⟨ch, t', hpretty, hspace, -⟩ := hopens
    rw [Cursor.rest_skipBlanks, hvrest, List.dropWhile_cons_of_pos (by decide), hpretty, List.cons_append,
      List.dropWhile_cons_of_neg (by simp [hspace])]
  obtain ⟨e, he, herest⟩ := hreads v.skipBlanks t ht hvalue
  have hgiven : (given.any fun g => g.1 == m.name) = false := by
    rw [List.any_eq_false]
    intro g hg hname
    exact hnew (List.mem_map.2 ⟨g, hg, eq_of_beq hname⟩)
  refine ⟨e, herest, ?_⟩
  rw [readFields, hnext]
  simp only [hk, hfind, hgiven, hv, he]
  rfl

theorem readFields_rest {fields : List FieldReader} {level : Nat} {r rest : Text}
    (hrest : rest.dropWhile isSpace = '}' :: r) {members : List Member}
    (hfind : ∀ m ∈ members, ∃ f, fields.find? (fun f => f.name == m.name) = some f ∧ f.Reads level m)
    (hopens : ∀ m ∈ members, Opens (m.value.pretty level)) :
    ∀ (fuel : Nat) (given : List (Text × Datum)) (c : Cursor), members.length < fuel →
      (given.map Prod.fst ++ members.map Member.name).Nodup →
      missing? fields (given ++ members.map Member.read) = none →
      c.rest = (members.flatMap fun m => ',' :: (newLine level ++ memberText level m.written)) ++ rest →
      (readFields fields fuel false given c).Gives (given ++ members.map Member.read) ('}' :: r) := by
  induction members with
  | nil =>
    intro fuel given c hf _ hmissing hc
    obtain ⟨fuel, rfl⟩ := Nat.exists_eq_succ_of_ne_zero (by omega : fuel ≠ 0)
    have hend : c.rest.dropWhile isSpace = '}' :: r := by rw [hc]; exact hrest
    obtain ⟨d, hd, hdrest⟩ := nextMember_end false hend
    rw [List.map_nil, List.append_nil] at hmissing ⊢
    refine ⟨d, ?_, hdrest⟩
    rw [readFields, hd]
    simp only [hmissing]
  | cons m members ih =>
    intro fuel given c hf hnodup hmissing hc
    obtain ⟨fuel, rfl⟩ := Nat.exists_eq_succ_of_ne_zero (by omega : fuel ≠ 0)
    rw [List.length_cons] at hf
    have hm : m ∈ m :: members := List.mem_cons_self
    obtain ⟨field, hfield, hreads⟩ := hfind m hm
    have hnew : m.name ∉ given.map Prod.fst := by
      intro hmem
      exact (List.nodup_append.1 hnodup).2.2 _ hmem _ List.mem_cons_self rfl
    rw [List.flatMap_cons, List.cons_append, List.cons_append, List.append_assoc, List.append_assoc] at hc
    obtain ⟨d, hd, hdrest⟩ := nextMember_comma hc (dropWhile_newLine level _ (by decide))
    have hstops : Stops ((members.flatMap fun m => ',' :: (newLine level ++ memberText level m.written)) ++ rest) :=
      stops_more (stops_of_dropWhile hrest (.inr rfl))
    obtain ⟨e, herest, hstep⟩ := readFields_member hfield hreads (hopens m hm) hnew hstops hd hdrest fuel
    have hgiven : given ++ m.read :: members.map Member.read = given ++ [m.read] ++ members.map Member.read :=
      List.append_cons _ _ _
    rw [List.map_cons, hgiven] at hmissing ⊢
    rw [hstep]
    refine ih (fun n hn => hfind n (List.mem_cons_of_mem m hn)) (fun n hn => hopens n (List.mem_cons_of_mem m hn))
      fuel _ e (by omega) ?_ ?_ herest
    · simpa [Member.read] using hnodup
    · exact hmissing

/-- The members of a record are read as they were written, after the brace. -/
theorem readFields_of_written {fields : List FieldReader} {level : Nat} {members : List Member}
    (hfind : ∀ m ∈ members, ∃ f, fields.find? (fun f => f.name == m.name) = some f ∧ f.Reads (level + 1) m)
    (hopens : ∀ m ∈ members, Opens (m.value.pretty (level + 1)))
    (hnodup : (members.map Member.name).Nodup) (hmissing : missing? fields (members.map Member.read) = none)
    {c : Cursor} {r : Text} {fuel : Nat} (hfuel : c.rest.length < fuel)
    (hc : '{' :: c.rest = (Value.object (members.map Member.written)).pretty level ++ r) :
    (readFields fields fuel true [] c).Gives (members.map Member.read) ('}' :: r) := by
  obtain ⟨fuel, rfl⟩ := Nat.exists_eq_succ_of_ne_zero (by omega : fuel ≠ 0)
  cases members with
  | nil =>
    obtain ⟨-, hc⟩ := List.cons.inj hc
    have hend : c.rest.dropWhile isSpace = '}' :: r := by
      rw [hc]
      rfl
    obtain ⟨d, hd, hdrest⟩ := nextMember_end true hend
    rw [List.map_nil] at hmissing
    refine ⟨d, ?_, hdrest⟩
    rw [readFields, hd]
    simp only [hmissing]
    rfl
  | cons m members =>
    have hm : m ∈ m :: members := List.mem_cons_self
    obtain ⟨field, hfield, hreads⟩ := hfind m hm
    let more : Text := members.flatMap fun m => ',' :: (newLine (level + 1) ++ memberText (level + 1) m.written)
    let close : Text := newLine level ++ '}' :: r
    have hc : c.rest = newLine (level + 1) ++ (memberText (level + 1) m.written ++ (more ++ close)) := by
      rw [List.map_cons, Value.pretty, prettyMembers_cons, List.flatMap_map] at hc
      simpa [more, close] using (List.cons.inj hc).2
    have hclose : close.dropWhile isSpace = '}' :: r := dropWhile_newLine level r (by decide)
    have hlength : members.length ≤ more.length := length_le_flatMap (fun _ => List.cons_ne_nil _ _) members
    have hfuel : members.length < fuel := by
      rw [hc] at hfuel
      simp only [newLine, List.length_append, List.length_cons] at hfuel
      omega
    have hfirst : c.rest.dropWhile isSpace = memberText (level + 1) m.written ++ (more ++ close) := by
      rw [hc]
      exact dropWhile_newLine _ _ (by decide)
    obtain ⟨d, hd, hdrest⟩ := nextMember_first hfirst
    have hnew : m.name ∉ ([] : List (Text × Datum)).map Prod.fst := List.not_mem_nil
    have hstops : Stops (more ++ close) := stops_more (stops_of_dropWhile hclose (.inr rfl))
    obtain ⟨e, herest, hstep⟩ := readFields_member hfield hreads (hopens m hm) hnew hstops hd hdrest fuel
    rw [hstep, List.map_cons]
    exact readFields_rest hclose (fun n hn => hfind n (List.mem_cons_of_mem m hn))
      (fun n hn => hopens n (List.mem_cons_of_mem m hn)) fuel [m.read] e hfuel hnodup hmissing herest

/-! ## Reading by shape -/

theorem fieldReaders_eq_map (fields : List (Text × Bool × Shape)) :
    fieldReaders fields = fields.map fun f => ⟨f.1, f.2.1, fun c => f.2.2.read c⟩ := by
  induction fields with
  | nil => rfl
  | cons f fields ih => rw [fieldReaders, ih, List.map_cons]

theorem missing?_fieldReaders {fields : List (Text × Bool × Shape)} {given : List (Text × Datum)}
    (h : ∀ f ∈ fields, f.2.1 = false → f.1 ∈ given.map Prod.fst) :
    missing? (fieldReaders fields) given = none := by
  rw [missing?, fieldReaders_eq_map, Option.map_eq_none_iff, List.find?_eq_none]
  intro reader hreader
  obtain ⟨f, hf, rfl⟩ := List.mem_map.1 hreader
  rw [Bool.and_eq_true, Bool.not_eq_true', Bool.not_eq_true', List.any_eq_false]
  rintro ⟨hgiven, hnone⟩
  obtain ⟨g, hg, hname⟩ := List.mem_map.1 (h f hf hgiven)
  exact hnone g hg (beq_iff_eq.2 hname)

theorem readWord_of_written {w rest : Text} {c : Cursor} (hc : c.rest = w ++ rest) :
    ∃ e : Cursor, readWord w c = .ok e ∧ e.rest = rest := by
  induction w generalizing c with
  | nil => exact ⟨c, rfl, hc⟩
  | cons ch w ih =>
    obtain ⟨e, he, herest⟩ := ih (Cursor.rest_past c ch (w ++ rest))
    refine ⟨e, ?_, herest⟩
    rw [readWord, hc, List.cons_append]
    simp only [if_true, he]

/-- A reader gives what was written for a value, at every depth, and stops right after it. -/
def Shape.ReadsBack (s : Shape) (v : Value) (d : Datum) : Prop :=
  ∀ (level : Nat) (c : Cursor) (rest : Text), Stops rest → c.rest = v.pretty level ++ rest → (s.read c).Gives d rest

theorem Shape.readsBack_natural {bound n : Nat} (label : Text) (hn : n < bound) (hbound : bound ≤ Nat.pow 2 64) :
    (Shape.natural bound label).ReadsBack (.number (.natural n)) (.natural n) := by
  intro level c rest hstops hc
  obtain ⟨ch, ds, hds, -⟩ := exists_ofNat n
  have hdigit : ch.isDigit = true := Text.isDigit_of_mem_ofNat (by rw [hds]; exact List.mem_cons_self)
  have hminus : ch ≠ '-' := by
    rintro rfl
    cases hdigit
  obtain ⟨d, hd, hdrest⟩ := readNumber_of_written (Nat.lt_of_lt_of_le hn hbound) hstops hc
  refine ⟨d, ?_, hdrest⟩
  have hc : c.rest = ch :: (ds ++ rest) := by rw [hc, Value.pretty, Number.text, hds, List.cons_append]
  rw [Shape.read, readNatural, hc]
  split
  · next h => exact absurd (List.cons.inj h).1 hminus
  · next h =>
    obtain ⟨rfl, -⟩ := List.cons.inj h
    simp only [hdigit, if_true, hd, naturalOf, hn]
  · next h => cases h

theorem Shape.readsBack_flag (b : Bool) : Shape.flag.ReadsBack (.bool b) (.flag b) := by
  intro level c rest _ hc
  cases b with
  | true =>
    have hc : c.rest = 't' :: ("rue".toList ++ rest) := hc
    obtain ⟨e, he, herest⟩ := readWord_of_written (Cursor.rest_next hc)
    refine ⟨e, ?_, herest⟩
    rw [Shape.read, readFlag, hc]
    simp only [he]
  | false =>
    have hc : c.rest = 'f' :: ("alse".toList ++ rest) := hc
    obtain ⟨e, he, herest⟩ := readWord_of_written (Cursor.rest_next hc)
    refine ⟨e, ?_, herest⟩
    rw [Shape.read, readFlag, hc]
    simp only [he]

theorem Shape.readsBack_text (label s : Text) : (Shape.text label).ReadsBack (.string s) (.text s) := by
  intro level c rest _ hc
  have hc : c.rest = '"' :: (s.flatMap escapeChar ++ '"' :: rest) := by
    rw [hc, Value.pretty, writeString]
    simp
  obtain ⟨d, hd, hdrest⟩ := readString_of_written (Cursor.rest_next hc)
  refine ⟨d, ?_, hdrest⟩
  rw [Shape.read, readText]
  simp only [hc, hd]

theorem Shape.readsBack_null (s : Shape) : (Shape.optional s).ReadsBack .null .missing := by
  intro level c rest _ hc
  have hc : c.rest = 'n' :: ("ull".toList ++ rest) := hc
  obtain ⟨e, he, herest⟩ := readWord_of_written (Cursor.rest_next hc)
  refine ⟨e, ?_, herest⟩
  rw [Shape.read, hc]
  simp only [he]

/-- A value that does not start as null does is read as one that must be given. -/
theorem Shape.ReadsBack.optional {s : Shape} {v : Value} {d : Datum} (h : s.ReadsBack v d)
    (hn : ∀ level r, v.pretty level ≠ 'n' :: r) (hopens : ∀ level, Opens (v.pretty level)) :
    (Shape.optional s).ReadsBack v d := by
  intro level c rest hstops hc
  obtain ⟨ch, t, hpretty, -, -⟩ := hopens level
  obtain ⟨e, he, herest⟩ := h level c rest hstops hc
  refine ⟨e, ?_, herest⟩
  rw [hpretty, List.cons_append] at hc
  rw [Shape.read, hc]
  split
  · next h' =>
    rw [(List.cons.inj h').1] at hpretty
    exact absurd hpretty (hn level t)
  · exact he

theorem Shape.readsBack_list {s : Shape} {items : List (Value × Datum)}
    (hopens : ∀ i ∈ items, ∀ level, Opens (i.1.pretty level)) (hread : ∀ i ∈ items, s.ReadsBack i.1 i.2) :
    (Shape.list s).ReadsBack (.array (items.map Prod.fst)) (.list (items.map Prod.snd)) := by
  intro level c rest _ hc
  have hitem : ∀ i ∈ items, ∀ (c : Cursor) (t : Text), Stops t → c.rest = i.1.pretty (level + 1) ++ t →
      (s.read c.skipBlanks).Gives i.2 t := by
    intro i hi c t ht hc
    obtain ⟨ch, u, hpretty, hspace, -⟩ := hopens i hi (level + 1)
    rw [Cursor.skipBlanks_of_rest (hc.trans (by rw [hpretty, List.cons_append])) hspace]
    exact hread i hi (level + 1) c t ht hc
  obtain ⟨inside, hinside⟩ := exists_pretty_array level (items.map Prod.fst)
  rw [hinside, List.cons_append] at hc
  have hnext : c.next.rest = inside ++ rest := Cursor.rest_next hc
  -- as much fuel as there is text to read, and one more, is enough for every item
  have hfuel : c.next.rest.length < ('[' :: (inside ++ rest)).length + 1 := by
    rw [hnext, List.length_cons]
    omega
  have harray : '[' :: c.next.rest = (Value.array (items.map Prod.fst)).pretty level ++ rest := by
    rw [hnext, hinside, List.cons_append]
  obtain ⟨e, he, herest⟩ := readList_of_written (fun i hi => hopens i hi (level + 1)) hitem hfuel harray
  obtain ⟨g, hg, hgrest⟩ := endList_of_rest herest
  refine ⟨g, ?_, hgrest⟩
  rw [Shape.read, hc]
  simp only [he, closeWith, hg]

theorem Shape.readsBack_record {name : Text} {fields : List (Text × Bool × Shape)} {members : List Member}
    (hopens : ∀ m ∈ members, ∀ level, Opens (m.value.pretty level))
    (hread : ∀ m ∈ members, m.shape.ReadsBack m.value m.datum)
    (hfind : ∀ m ∈ members, ∃ absent, fields.find? (fun f => f.1 == m.name) = some (m.name, absent, m.shape))
    (hnodup : (members.map Member.name).Nodup)
    (hgiven : ∀ f ∈ fields, f.2.1 = false → f.1 ∈ members.map Member.name) :
    (Shape.record name fields).ReadsBack (.object (members.map Member.written))
      (.record (members.map Member.read)) := by
  intro level c rest _ hc
  have hreader : ∀ m ∈ members, ∃ f, (fieldReaders fields).find? (fun f => f.name == m.name) = some f ∧
      f.Reads (level + 1) m := by
    intro m hm
    obtain ⟨absent, hm'⟩ := hfind m hm
    refine ⟨⟨m.name, absent, fun c => m.shape.read c⟩, ?_, fun c t => hread m hm (level + 1) c t⟩
    rw [fieldReaders_eq_map, List.find?_map]
    exact Option.map_eq_some_iff.2 ⟨_, hm', rfl⟩
  have hmissing : missing? (fieldReaders fields) (members.map Member.read) = none := by
    refine missing?_fieldReaders fun f hf hfalse => ?_
    rw [List.map_map]
    exact hgiven f hf hfalse
  obtain ⟨inside, hinside⟩ := exists_pretty_object level (members.map Member.written)
  rw [hinside, List.cons_append] at hc
  have hnext : c.next.rest = inside ++ rest := Cursor.rest_next hc
  have hfuel : c.next.rest.length < ('{' :: (inside ++ rest)).length + 1 := by
    rw [hnext, List.length_cons]
    omega
  have hobject : '{' :: c.next.rest = (Value.object (members.map Member.written)).pretty level ++ rest := by
    rw [hnext, hinside, List.cons_append]
  obtain ⟨e, he, herest⟩ :=
    readFields_of_written hreader (fun m hm => hopens m hm (level + 1)) hnodup hmissing hfuel hobject
  obtain ⟨g, hg, hgrest⟩ := endObject_of_rest herest
  refine ⟨g, ?_, hgrest⟩
  rw [Shape.read, readRecord, hc]
  simp only [he, closeWith, hg]

/-- **What was written for a shape is read as its datum**, and reading stops right after it. -/
theorem Shape.Writes.readsBack {s : Shape} {v : Value} {d : Datum} (h : s.Writes v d) : s.ReadsBack v d := by
  induction h with
  | natural hn hbound => exact Shape.readsBack_natural _ hn hbound
  | flag => exact Shape.readsBack_flag _
  | text => exact Shape.readsBack_text _ _
  | null => exact Shape.readsBack_null _
  | optional h ih =>
    rcases h.null_or with ⟨rfl, rfl⟩ | hn
    · exact Shape.readsBack_null _
    · exact ih.optional hn h.opens
  | list h ih => exact Shape.readsBack_list (fun i hi => (h i hi).opens) ih
  | record h hfind hnodup hgiven ih =>
    exact Shape.readsBack_record (fun m hm => (h m hm).opens) ih hfind hnodup hgiven

theorem Shape.Writes.parse {s : Shape} {v : Value} {d : Datum} (h : s.Writes v d) :
    s.parse (v.pretty 0) = .ok d := by
  obtain ⟨ch, r, hpretty, hspace, -⟩ := h.opens 0
  have hskip : (Cursor.start (v.pretty 0)).skipBlanks = Cursor.start (v.pretty 0) :=
    Cursor.skipBlanks_of_rest hpretty hspace
  obtain ⟨e, he, herest⟩ := h.readsBack 0 (Cursor.start (v.pretty 0)) [] stops_nil (List.append_nil _).symm
  have hend : atEnd e = .ok () := by
    have hblank : e.skipBlanks.rest = [] := by rw [Cursor.rest_skipBlanks, herest]; rfl
    rw [atEnd]
    simp only [hblank]
  rw [Shape.parse]
  simp only [hskip, he, Outcome.settle, hend]
  rfl

/-! ## Records whose fields may be left out -/

/-- A field of a record with its shape and, if the field is given, what is written and what is read. -/
structure Slot where
  name : Text
  shape : Shape
  content : Option (Value × Datum)

def Slot.member? (s : Slot) : Option Member := s.content.map fun c => ⟨s.name, s.shape, c.1, c.2⟩

def Slot.value (slots : List Slot) : Value := .object ((slots.filterMap Slot.member?).map Member.written)

def Slot.datum (slots : List Slot) : Datum := .record ((slots.filterMap Slot.member?).map Member.read)

theorem Slot.mem_members {slots : List Slot} {m : Member} (hm : m ∈ slots.filterMap Slot.member?) :
    ∃ s ∈ slots, s.content = some (m.value, m.datum) ∧ m.name = s.name ∧ m.shape = s.shape := by
  obtain ⟨s, hs, hmember⟩ := List.mem_filterMap.1 hm
  obtain ⟨c, hc, rfl⟩ := Option.map_eq_some_iff.1 hmember
  exact ⟨s, hs, hc, rfl, rfl⟩

theorem Slot.names_sublist (slots : List Slot) :
    ((slots.filterMap Slot.member?).map Member.name).Sublist (slots.map Slot.name) := by
  induction slots with
  | nil => exact .slnil
  | cons s slots ih =>
    cases hs : s.content with
    | none =>
      rw [List.filterMap_cons_none (by rw [member?, hs, Option.map_none])]
      exact ih.cons _
    | some c =>
      have hmember : s.member? = some ⟨s.name, s.shape, c.1, c.2⟩ := by rw [member?, hs, Option.map_some]
      rw [List.filterMap_cons_some hmember]
      exact ih.cons_cons s.name

theorem Slot.writes {name : Text} {fields : List (Text × Bool × Shape)} {slots : List Slot}
    (hcontent : ∀ s ∈ slots, ∀ c, s.content = some c → s.shape.Writes c.1 c.2)
    (hfind : ∀ s ∈ slots, ∃ absent, fields.find? (fun f => f.1 == s.name) = some (s.name, absent, s.shape))
    (hnodup : (slots.map Slot.name).Nodup)
    (hgiven : ∀ f ∈ fields, f.2.1 = false → ∃ s ∈ slots, s.name = f.1 ∧ s.content.isSome) :
    (Shape.record name fields).Writes (Slot.value slots) (Slot.datum slots) := by
  refine .record (fun m hm => ?_) (fun m hm => ?_) (hnodup.sublist (names_sublist slots)) fun f hf hfalse => ?_
  · obtain ⟨s, hs, hc, -, hshape⟩ := mem_members hm
    rw [hshape]
    exact hcontent s hs _ hc
  · obtain ⟨s, hs, -, hname, hshape⟩ := mem_members hm
    rw [hname, hshape]
    exact hfind s hs
  · obtain ⟨s, hs, hname, hsome⟩ := hgiven f hf hfalse
    obtain ⟨c, hc⟩ := Option.isSome_iff_exists.1 hsome
    refine List.mem_map.2 ⟨⟨s.name, s.shape, c.1, c.2⟩, List.mem_filterMap.2 ⟨s, hs, ?_⟩, hname⟩
    rw [member?, hc, Option.map_some]

/-- What is read of a field is what its slot gives. -/
theorem Slot.find?_read {slots : List Slot} (hnodup : (slots.map Slot.name).Nodup) (name : Text) :
    (((slots.filterMap Slot.member?).map Member.read).find? fun f => f.1 == name).map Prod.snd =
      (slots.find? fun s => s.name == name).bind fun s => s.content.map Prod.snd := by
  induction slots with
  | nil => rfl
  | cons s slots ih =>
    rw [List.map_cons, List.nodup_cons] at hnodup
    have ih := ih hnodup.2
    by_cases hname : s.name = name
    · rw [List.find?_cons_of_pos (by simp [hname])]
      cases hs : s.content with
      | some c =>
        have hmember : s.member? = some ⟨s.name, s.shape, c.1, c.2⟩ := by rw [member?, hs, Option.map_some]
        rw [List.filterMap_cons_some hmember, List.map_cons, List.find?_cons_of_pos (by simp [Member.read, hname])]
        simp [Member.read, hs]
      | none =>
        have hnone : slots.find? (fun s => s.name == name) = none := by
          rw [List.find?_eq_none]
          intro t ht htname
          exact hnodup.1 (List.mem_map.2 ⟨t, ht, (eq_of_beq htname).trans hname.symm⟩)
        rw [List.filterMap_cons_none (by rw [member?, hs, Option.map_none]), ih, hnone]
        simp [hs]
    · rw [List.find?_cons_of_neg (by simp [hname])]
      cases hs : s.content with
      | some c =>
        have hmember : s.member? = some ⟨s.name, s.shape, c.1, c.2⟩ := by rw [member?, hs, Option.map_some]
        rw [List.filterMap_cons_some hmember, List.map_cons, List.find?_cons_of_neg (by simp [Member.read, hname]), ih]
      | none => rw [List.filterMap_cons_none (by rw [member?, hs, Option.map_none]), ih]

theorem Slot.field?_datum {slots : List Slot} (hnodup : (slots.map Slot.name).Nodup) {s : Slot} {i : Nat}
    (hs : slots[i]? = some s) {name : String} (hname : s.name = name.toList) :
    (Slot.datum slots).field? name = s.content.map Prod.snd := by
  have hmem : s ∈ slots := List.mem_of_getElem? hs
  have hfind : slots.find? (fun t => t.name == name.toList) = some s := by
    cases hfound : slots.find? (fun t => t.name == name.toList) with
    | none => exact absurd (beq_iff_eq.2 hname) (List.find?_eq_none.1 hfound s hmem)
    | some t =>
      have htname : t.name = s.name := (eq_of_beq (List.find?_some hfound :)).trans hname.symm
      rw [List.inj_on_of_nodup_map hnodup (List.mem_of_find?_eq_some hfound) hmem htname]
  have hread := Slot.find?_read hnodup name.toList
  rw [hfind] at hread
  exact hread

end StylePrune.Json
