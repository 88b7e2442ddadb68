import StylePrune.Json.Shape
import StylePrune.Proofs.Text.OneLine

/-!
What is said about JSON that cannot be read.

A fault is in the writing of a text, and then its words are fixed, or it is in what the text stands for, and then
what was met and what was expected are named. What was met is shown quoted or in digits, and what was expected is a
label or a name of the shape. So a shape whose labels and names are on one line is reported on one line, whatever
text is read (`Shape.oneLine_of_parse`).
-/
namespace StylePrune.Json

open Text (OneLine oneLine_append oneLine_cons oneLine_ofNat oneLine_quoted)

/-! ## Faults in the writing -/

@[simp] def Fault.inWriting : Fault → Bool
  | wrongType .. | wrongValue .. | wrongLength .. | missingField _ | duplicateField _ => false
  | _ => true

/-- A reader fails for faults in the writing only. -/
def InWriting {α : Type} (e : Except Failure α) : Prop := ∀ f, e = .error f → f.fault.inWriting = true

section InWriting

variable {α β : Type} {e : Except Failure α}

@[simp] theorem fault_here (c : Cursor) (f : Fault) : (c.here f).fault = f := rfl

@[simp] theorem fault_ahead (c : Cursor) (f : Fault) : (c.ahead f).fault = f := by
  rw [Cursor.ahead]
  split
  · rfl
  · split <;> rfl

@[simp] theorem inWriting_ok (a : α) : InWriting (.ok a) := by
  intro f h
  cases h

@[simp] theorem inWriting_error {f : Failure} :
    InWriting (.error f : Except Failure α) ↔ f.fault.inWriting = true := by
  constructor
  · intro h
    exact h f rfl
  · rintro h g ⟨⟩
    exact h

theorem InWriting.of_eq_error (h : InWriting e) {f : Failure} (he : e = .error f) :
    InWriting (.error f : Except Failure β) := inWriting_error.2 (h f he)

theorem InWriting.bind {k : α → Except Failure β} (h : InWriting e) (hk : ∀ a, InWriting (k a)) :
    InWriting (e >>= k) := by
  cases e with
  | error f => exact h.of_eq_error rfl
  | ok a => exact hk a

theorem InWriting.map {k : α → β} (h : InWriting e) : InWriting (e.map k) := by
  cases e with
  | error f => exact h.of_eq_error rfl
  | ok a => exact inWriting_ok (k a)

end InWriting

/-! ## Strings -/

theorem inWriting_readWord (w : Text) (c : Cursor) : InWriting (readWord w c) := by
  induction w generalizing c with
  | nil => exact inWriting_ok c
  | cons ch w ih =>
    rw [readWord]
    split
    · simp
    · split
      · exact ih _
      · simp

theorem inWriting_readUnit (c : Cursor) : InWriting (readUnit c) := by
  rw [readUnit]
  split
  · simp
  · split <;> simp

theorem inWriting_readCodePoint (c : Cursor) : InWriting (readCodePoint c) := by
  refine (inWriting_readUnit c).bind fun unit => ?_
  obtain ⟨n, c1⟩ := unit
  dsimp only
  split
  · simp
  split
  · simp
  split
  · simp
  · split
    · simp
    · refine (inWriting_readUnit _).bind fun unit => ?_
      split <;> simp
    · simp
  · simp

theorem inWriting_readEscape (c : Cursor) : InWriting (readEscape c) := by
  rw [readEscape]
  split
  · simp
  · split <;> first | exact inWriting_readCodePoint _ | simp

theorem inWriting_readStringFrom (fuel : Nat) (acc : Text) (c : Cursor) : InWriting (readStringFrom fuel acc c) := by
  induction fuel generalizing acc c with
  | zero => simp [readStringFrom]
  | succ fuel ih =>
    rw [readStringFrom]
    split
    · simp
    dsimp only
    split
    · simp
    split
    · split
      · exact ih _ _
      · next h => exact (inWriting_readEscape _).of_eq_error h
    split
    · simp
    · exact ih _ _

theorem inWriting_readString (c : Cursor) : InWriting (readString c) := inWriting_readStringFrom _ _ c

theorem inWriting_skipStringFrom (fuel : Nat) (c : Cursor) : InWriting (skipStringFrom fuel c) := by
  induction fuel generalizing c with
  | zero => simp [skipStringFrom]
  | succ fuel ih =>
    rw [skipStringFrom]
    split
    · simp
    dsimp only
    split
    · simp
    split
    · split
      · split
        · exact ih _
        · next h => exact (inWriting_readUnit _).of_eq_error h
      · split
        · exact ih _
        · next h => exact (inWriting_readEscape _).of_eq_error h
    split
    · simp
    · exact ih _

/-! ## Numbers -/

theorem inWriting_readExponent (zero : Bool) (c : Cursor) : InWriting (readExponent zero c) := by
  rw [readExponent]
  dsimp only
  split
  · simp
  · split
    · -- with each sign the digits may make it too large
      split <;> split <;> simp
    · simp

theorem inWriting_readFraction (c : Cursor) : InWriting (readFraction c) := by
  rw [readFraction]
  dsimp only
  split
  · split <;> simp
  · simp

theorem inWriting_readNumber (neg : Bool) (c : Cursor) : InWriting (readNumber neg c) := by
  rw [readNumber]
  split
  · simp
  split
  · simp
  generalize (if _ = '0' then (['0'], c.next) else c.skipDigits) = digits
  obtain ⟨ds, c1⟩ := digits
  dsimp only
  split
  · simp
  have hfraction {α : Type} {g : Text × Cursor → α} : InWriting ((readFraction c1.next).map g) :=
    (inWriting_readFraction _).map
  have hexponent {α : Type} {g : Int × Cursor → α} {zero : Bool} {d : Cursor} :
      InWriting ((readExponent zero d).map g) := (inWriting_readExponent zero d).map
  split
  · refine hfraction.bind fun part => ?_
    split <;> refine InWriting.bind (by first | exact hexponent | exact inWriting_ok _) fun mark => ?_
    all_goals repeat' split
    all_goals simp
  · refine (inWriting_ok _).bind fun part => ?_
    split <;> refine InWriting.bind (by first | exact hexponent | exact inWriting_ok _) fun mark => ?_
    all_goals repeat' split
    all_goals simp

theorem inWriting_skipExponent (c : Cursor) : InWriting (skipExponent c) := by
  rw [skipExponent]
  split
  · simp
  · split <;> simp

theorem inWriting_skipNumber (c : Cursor) : InWriting (skipNumber c) := by
  rw [skipNumber]
  split
  · simp
  split
  · simp
  generalize (if _ = '0' then c.next else c.skipDigits.2) = c1
  dsimp only
  split
  · simp
  · split
    · split
      · simp
      · split <;> first | exact inWriting_skipExponent _ | simp
    · exact inWriting_skipExponent _
    · exact inWriting_skipExponent _
    · simp

/-! ## Values that are passed over -/

theorem inWriting_skipValue_succ {fuel : Nat} (hitems : ∀ c, InWriting (skipItems fuel c))
    (hmembers : ∀ c, InWriting (skipMembers fuel c)) (c : Cursor) : InWriting (skipValue (fuel + 1) c) := by
  rw [skipValue]
  dsimp only
  split
  · simp
  · exact inWriting_readWord _ _
  · exact inWriting_readWord _ _
  · exact inWriting_readWord _ _
  · exact inWriting_skipStringFrom _ _
  · exact inWriting_skipNumber _
  · split
    · simp
    · simp
    · exact hitems _
  · split
    · simp
    · simp
    · exact hmembers _
  · split
    · exact inWriting_skipNumber _
    · simp

theorem inWriting_skipItems_succ {fuel : Nat} (hvalue : ∀ c, InWriting (skipValue fuel c))
    (hitems : ∀ c, InWriting (skipItems fuel c)) (c : Cursor) : InWriting (skipItems (fuel + 1) c) := by
  rw [skipItems]
  split
  · next h => exact (hvalue _).of_eq_error h
  · dsimp only
    split
    · simp
    · exact hitems _
    · simp
    · simp

theorem inWriting_skipMembers_succ {fuel : Nat} (hvalue : ∀ c, InWriting (skipValue fuel c))
    (hmembers : ∀ c, InWriting (skipMembers fuel c)) (c : Cursor) : InWriting (skipMembers (fuel + 1) c) := by
  rw [skipMembers]
  dsimp only
  split
  · simp
  · split
    · next h => exact (inWriting_skipStringFrom _ _).of_eq_error h
    · split
      · simp
      · split
        · next h => exact (hvalue _).of_eq_error h
        · split
          · simp
          · exact hmembers _
          · simp
          · simp
      · simp
  · simp

theorem inWriting_skip (fuel : Nat) : (∀ c, InWriting (skipValue fuel c)) ∧ (∀ c, InWriting (skipItems fuel c)) ∧
    ∀ c, InWriting (skipMembers fuel c) := by
  -- all three at once, since each calls the others with the fuel that is left
  induction fuel with
  | zero => exact ⟨fun c => by simp [skipValue], fun c => by simp [skipItems], fun c => by simp [skipMembers]⟩
  | succ fuel ih =>
    obtain ⟨hvalue, hitems, hmembers⟩ := ih
    exact ⟨inWriting_skipValue_succ hitems hmembers, inWriting_skipItems_succ hvalue hitems,
      inWriting_skipMembers_succ hvalue hmembers⟩

/-! ## Brackets, commas and colons -/

theorem inWriting_nextItem (first : Bool) (c : Cursor) : InWriting (nextItem first c) := by
  rw [nextItem]
  dsimp only
  repeat' split
  all_goals simp

theorem inWriting_endList (c : Cursor) : InWriting (endList c) := by
  rw [endList]
  dsimp only
  repeat' split
  all_goals simp

theorem inWriting_nextMember (first : Bool) (c : Cursor) : InWriting (nextMember first c) := by
  rw [nextMember]
  dsimp only
  repeat' split
  all_goals simp

theorem inWriting_endObject (c : Cursor) : InWriting (endObject c) := by
  rw [endObject]
  repeat' split
  all_goals simp

theorem inWriting_readColon (c : Cursor) : InWriting (readColon c) := by
  rw [readColon]
  repeat' split
  all_goals simp

theorem inWriting_atEnd (c : Cursor) : InWriting (atEnd c) := by
  rw [atEnd]
  split <;> simp

/-! ## Messages on one line -/

theorem Fault.oneLine_of_inWriting {f : Fault} (h : f.inWriting = true) : OneLine f.message := by
  cases f with
  | endWithin c => cases c <;> decide
  | wrongType met expected => cases h
  | wrongValue met expected => cases h
  | wrongLength n expected => cases h
  | missingField name => cases h
  | duplicateField name => cases h
  | _ => decide

theorem Met.oneLine_text (m : Met) : OneLine m.text := by
  cases m with
  | bool b => cases b <;> decide
  | number n =>
    cases n with
    | natural n => exact oneLine_append.2 ⟨oneLine_append.2 ⟨by decide, oneLine_ofNat n⟩, by decide⟩
    | negative n =>
      exact oneLine_append.2 ⟨oneLine_append.2 ⟨by decide, oneLine_cons.2 ⟨by decide, oneLine_ofNat n⟩⟩, by decide⟩
    | double x => exact oneLine_append.2 ⟨oneLine_append.2 ⟨by decide, Decimal.oneLine_doubleText x⟩, by decide⟩
  | string s => exact oneLine_append.2 ⟨by decide, oneLine_quoted s⟩
  | null => decide
  | sequence => decide
  | map => decide

theorem Fault.oneLine_wrongType {m : Met} {expected : Text} (h : OneLine expected) :
    OneLine (wrongType m expected).message :=
  oneLine_append.2 ⟨oneLine_append.2 ⟨oneLine_append.2 ⟨by decide, m.oneLine_text⟩, by decide⟩, h⟩

theorem Fault.oneLine_wrongValue {m : Met} {expected : Text} (h : OneLine expected) :
    OneLine (wrongValue m expected).message :=
  oneLine_append.2 ⟨oneLine_append.2 ⟨oneLine_append.2 ⟨by decide, m.oneLine_text⟩, by decide⟩, h⟩

theorem Fault.oneLine_wrongLength {n : Nat} {expected : Text} (h : OneLine expected) :
    OneLine (wrongLength n expected).message :=
  oneLine_append.2 ⟨oneLine_append.2 ⟨oneLine_append.2 ⟨by decide, oneLine_ofNat n⟩, by decide⟩, h⟩

theorem Fault.oneLine_missingField {name : Text} (h : OneLine name) : OneLine (missingField name).message :=
  oneLine_append.2 ⟨oneLine_append.2 ⟨by decide, h⟩, by decide⟩

theorem Fault.oneLine_duplicateField {name : Text} (h : OneLine name) : OneLine (duplicateField name).message :=
  oneLine_append.2 ⟨oneLine_append.2 ⟨by decide, h⟩, by decide⟩

theorem Failure.oneLine_message {f : Failure} (h : OneLine f.fault.message) : OneLine f.message :=
  oneLine_append.2 ⟨oneLine_append.2 ⟨oneLine_append.2 ⟨oneLine_append.2 ⟨h, by decide⟩, oneLine_ofNat _⟩, by decide⟩,
    oneLine_ofNat _⟩

/-! ## Outcomes -/

def Outcome.fault? {α : Type} : Outcome α → Option Fault
  | .ok _ _ => none
  | .placed f => some f.fault
  | .loose f _ => some f

/-- If reading has failed, what is said about it is on one line. -/
def Outcome.Tells {α : Type} (o : Outcome α) : Prop := ∀ f ∈ o.fault?, OneLine f.message

section Tells

variable {α β : Type}

@[simp] theorem Outcome.tells_ok (a : α) (c : Cursor) : (Outcome.ok a c).Tells := fun _ h => nomatch h

@[simp] theorem Outcome.tells_placed {f : Failure} :
    (Outcome.placed f : Outcome α).Tells ↔ OneLine f.fault.message := by
  simp [Tells, fault?]

@[simp] theorem Outcome.tells_loose {f : Fault} {c : Cursor} :
    (Outcome.loose f c : Outcome α).Tells ↔ OneLine f.message := by
  simp [Tells, fault?]

/-- A failure is told alike as the failure of another reader. -/
theorem Outcome.Tells.of_eq_placed {o : Outcome α} (h : o.Tells) {f : Failure} (ho : o = .placed f) :
    (Outcome.placed f : Outcome β).Tells := by
  rw [ho] at h
  exact h

theorem Outcome.Tells.of_eq_loose {o : Outcome α} (h : o.Tells) {f : Fault} {c : Cursor} (ho : o = .loose f c) :
    (Outcome.loose f c : Outcome β).Tells := by
  rw [ho] at h
  exact h

theorem InWriting.tells {e : Except Failure α} (h : InWriting e) {f : Failure} (he : e = .error f) :
    (Outcome.placed f : Outcome β).Tells :=
  Outcome.tells_placed.2 (Fault.oneLine_of_inWriting (h f he))

theorem Outcome.Tells.settle {o : Outcome α} (h : o.Tells) : o.settle.Tells := by
  cases o with
  | ok a c => exact h
  | placed f => exact h
  | loose f c => exact h

theorem Outcome.Tells.closeWith {close : Cursor → Except Failure Cursor} (hclose : ∀ c, InWriting (close c))
    {o : Outcome α} (h : o.Tells) : (closeWith close o).Tells := by
  cases o with
  | ok a c =>
    rw [Json.closeWith]
    split
    · simp
    · next he => exact (hclose c).tells he
  | placed f => exact h
  | loose f c =>
    rw [Json.closeWith]
    split
    · exact h
    · exact h

end Tells

/-! ## Single values -/

theorem mismatch_tells {α : Type} {expected : Text} (h : OneLine expected) (c : Cursor) :
    (mismatch expected c : Outcome α).Tells := by
  have hwrong (met : Met) (d : Cursor) : (Outcome.placed (d.here (.wrongType met expected)) : Outcome α).Tells :=
    Outcome.tells_placed.2 (Fault.oneLine_wrongType h)
  have hahead (f : Fault) (d : Cursor) (hf : f.inWriting = true) : (Outcome.placed (d.ahead f) : Outcome α).Tells :=
    Outcome.tells_placed.2 (Fault.oneLine_of_inWriting (by rwa [fault_ahead]))
  rw [mismatch]
  dsimp only
  split
  · exact hahead _ _ rfl
  · split
    · exact hwrong _ _
    · next he => exact (inWriting_readWord _ _).tells he
  · split
    · exact hwrong _ _
    · next he => exact (inWriting_readWord _ _).tells he
  · split
    · exact hwrong _ _
    · next he => exact (inWriting_readWord _ _).tells he
  · split
    · exact hwrong _ _
    · next he => exact (inWriting_readNumber _ _).tells he
  · split
    · exact hwrong _ _
    · next he => exact (inWriting_readString _).tells he
  · exact hwrong _ _
  · exact hwrong _ _
  · split
    · split
      · exact hwrong _ _
      · next he => exact (inWriting_readNumber _ _).tells he
    · exact hahead _ _ rfl

theorem oneLine_of_naturalOf {bound : Nat} {label : Text} (h : OneLine label) {n : Number} {f : Fault}
    (hn : naturalOf bound label n = .error f) : OneLine f.message := by
  cases n with
  | natural n =>
    rw [naturalOf] at hn
    split at hn
    · cases hn
    · cases hn
      exact Fault.oneLine_wrongValue h
  | negative n =>
    cases hn
    exact Fault.oneLine_wrongValue h
  | double x =>
    cases hn
    exact Fault.oneLine_wrongType h

theorem readNatural_tells {bound : Nat} {label : Text} (h : OneLine label) (c : Cursor) :
    (readNatural bound label c).Tells := by
  rw [readNatural]
  dsimp only
  split
  · -- behind a minus
    split
    · next he => exact (inWriting_readNumber _ _).tells he
    split
    · simp
    · next hn => exact Outcome.tells_placed.2 (oneLine_of_naturalOf h hn)
  · split
    · split
      · next he => exact (inWriting_readNumber _ _).tells he
      split
      · simp
      · next hn => exact Outcome.tells_placed.2 (oneLine_of_naturalOf h hn)
    · exact mismatch_tells h c
  · exact mismatch_tells h c

theorem readFlag_tells (c : Cursor) : (readFlag c).Tells := by
  rw [readFlag]
  split
  · split
    · simp
    · next he => exact (inWriting_readWord _ _).tells he
  · split
    · simp
    · next he => exact (inWriting_readWord _ _).tells he
  · exact mismatch_tells (by decide) c

theorem readText_tells {label : Text} (h : OneLine label) (c : Cursor) : (readText label c).Tells := by
  rw [readText]
  split
  · split
    · simp
    · next he => exact (inWriting_readString _).tells he
  · exact mismatch_tells h c

/-! ## Lists and records -/

theorem readList_tells {item : Cursor → Outcome Datum} (h : ∀ c, (item c).Tells) (fuel : Nat) (first : Bool)
    (c : Cursor) : (readList item fuel first c).Tells := by
  induction fuel generalizing first c with
  | zero => exact Outcome.tells_placed.2 (Fault.oneLine_of_inWriting rfl)
  | succ fuel ih =>
    rw [readList]
    split
    · next he => exact (inWriting_nextItem _ _).tells he
    · simp
    · split
      · next he => exact (h _).of_eq_placed he
      · next he => exact (h _).of_eq_loose he
      · split
        · simp
        · exact ih _ _

def FieldReader.Tells (f : FieldReader) : Prop := OneLine f.name ∧ ∀ c, (f.read c).Tells

theorem oneLine_of_missing? {fields : List FieldReader} (h : ∀ f ∈ fields, f.Tells) {given : List (Text × Datum)}
    {name : Text} (hname : missing? fields given = some name) : OneLine name := by
  obtain ⟨f, hf, rfl⟩ := Option.map_eq_some_iff.1 hname
  exact (h f (List.mem_of_find?_eq_some hf)).1

theorem readFields_tells {fields : List FieldReader} (h : ∀ f ∈ fields, f.Tells) (fuel : Nat) (first : Bool)
    (given : List (Text × Datum)) (c : Cursor) : (readFields fields fuel first given c).Tells := by
  induction fuel generalizing first given c with
  | zero => exact Outcome.tells_placed.2 (Fault.oneLine_of_inWriting rfl)
  | succ fuel ih =>
    rw [readFields]
    split
    · next he => exact (inWriting_nextMember _ _).tells he
    · split
      · next hname => exact Outcome.tells_loose.2 (Fault.oneLine_missingField (oneLine_of_missing? h hname))
      · simp
    split
    · next he => exact (inWriting_readString _).tells he
    next key k _ =>
    split
    · next field hfind =>
      have hfield := h field (List.mem_of_find?_eq_some hfind)
      split
      · -- a key that is met twice is the name of a field
        have hkey : field.name = key := by simpa using List.find?_some hfind
        exact Outcome.tells_loose.2 (Fault.oneLine_duplicateField (hkey ▸ hfield.1))
      split
      · next he => exact (inWriting_readColon _).tells he
      split
      · exact ih _ _ _
      · next he => exact (hfield.2 _).of_eq_placed he
      · next he => exact (hfield.2 _).of_eq_loose he
    · split
      · next he => exact (inWriting_readColon _).tells he
      split
      · exact ih _ _ _
      · next he => exact ((inWriting_skip _).1 _).tells he

theorem readPositional_tells {expected : Text} (hexpected : OneLine expected) {fields : List FieldReader}
    (h : ∀ f ∈ fields, f.Tells) (index : Nat) (first : Bool) (given : List (Text × Datum)) (c : Cursor) :
    (readPositional expected index first given fields c).Tells := by
  induction fields generalizing index first given c with
  | nil => exact Outcome.tells_ok _ _
  | cons field fields ih =>
    have ih := ih fun f hf => h f (List.mem_cons_of_mem field hf)
    have hfield := h field List.mem_cons_self
    rw [readPositional]
    split
    · next he => exact (inWriting_nextItem _ _).tells he
    · split
      · exact ih _ _ _ _
      · exact Outcome.tells_loose.2 (Fault.oneLine_wrongLength hexpected)
    · split
      · exact ih _ _ _ _
      · next he => exact (hfield.2 _).of_eq_placed he
      · next he => exact (hfield.2 _).of_eq_loose he

theorem oneLine_elementCount (n : Nat) : OneLine (elementCount n) := by
  rw [elementCount, oneLine_append]
  refine ⟨oneLine_ofNat n, ?_⟩
  split <;> decide

theorem readRecord_tells {name : Text} (hname : OneLine name) {fields : List FieldReader}
    (h : ∀ f ∈ fields, f.Tells) (c : Cursor) : (readRecord name fields c).Tells := by
  have hstruct : OneLine ("struct ".toList ++ name) := oneLine_append.2 ⟨by decide, hname⟩
  have hexpected : OneLine ("struct ".toList ++ name ++ " with ".toList ++ elementCount fields.length) :=
    oneLine_append.2 ⟨oneLine_append.2 ⟨hstruct, by decide⟩, oneLine_elementCount _⟩
  rw [readRecord]
  dsimp only
  split
  · refine Outcome.Tells.closeWith inWriting_endList ?_
    split
    · exact Outcome.tells_ok _ _
    · next hread => exact (readPositional_tells hexpected h _ _ _ _).of_eq_placed hread
    · next hread => exact (readPositional_tells hexpected h _ _ _ _).of_eq_loose hread
  · refine Outcome.Tells.closeWith inWriting_endObject ?_
    split
    · exact Outcome.tells_ok _ _
    · next hread => exact (readFields_tells h _ _ _ _).of_eq_placed hread
    · next hread => exact (readFields_tells h _ _ _ _).of_eq_loose hread
  · exact mismatch_tells hstruct c

/-! ## Shapes -/

mutual
def Shape.Legible : Shape → Prop
  | .natural _ label => OneLine label
  | .flag => True
  | .text label => OneLine label
  | .optional s => s.Legible
  | .list s => s.Legible
  | .record name fields => OneLine name ∧ Shape.AllLegible fields

def Shape.AllLegible : List (Text × Bool × Shape) → Prop
  | [] => True
  | (name, _, s) :: r => OneLine name ∧ s.Legible ∧ Shape.AllLegible r
end

mutual
theorem Shape.read_tells : ∀ {s : Shape}, s.Legible → ∀ c : Cursor, (s.read c).Tells
  | .natural bound label, h, c => by
    rw [Shape.Legible] at h
    rw [Shape.read]
    exact readNatural_tells h c
  | .flag, _, c => by
    rw [Shape.read]
    exact readFlag_tells c
  | .text label, h, c => by
    rw [Shape.Legible] at h
    rw [Shape.read]
    exact readText_tells h c
  | .optional s, h, c => by
    rw [Shape.Legible] at h
    rw [Shape.read]
    split
    · split
      · simp
      · next he => exact (inWriting_readWord _ _).tells he
    · exact Shape.read_tells h c
  | .list s, h, c => by
    rw [Shape.Legible] at h
    rw [Shape.read]
    split
    · have hitems := readList_tells (fun d => Shape.read_tells h d.skipBlanks) (c.rest.length + 1) true c.next
      refine Outcome.Tells.closeWith inWriting_endList ?_
      split
      · simp
      · next he => exact hitems.of_eq_placed he
      · next he => exact hitems.of_eq_loose he
    · exact mismatch_tells (by decide) c
  | .record name fields, h, c => by
    rw [Shape.Legible] at h
    rw [Shape.read]
    exact readRecord_tells h.1 (Shape.fieldReaders_tell h.2) c

theorem Shape.fieldReaders_tell : ∀ {fields : List (Text × Bool × Shape)}, Shape.AllLegible fields →
    ∀ f ∈ fieldReaders fields, f.Tells
  | [], _, _, hf => nomatch hf
  | (name, absent, s) :: r, h, f, hf => by
    rw [Shape.AllLegible] at h
    rw [fieldReaders] at hf
    rcases List.mem_cons.1 hf with rfl | hf
    · exact ⟨h.1, fun c => Shape.read_tells h.2.1 c⟩
    · exact Shape.fieldReaders_tell h.2.2 f hf
end

/-- What is said about a text that does not have a shape is on one line, whatever the text is. -/
theorem Shape.oneLine_of_parse {s : Shape} (h : s.Legible) {t : Text} {f : Failure} (hf : s.parse t = .error f) :
    OneLine f.message := by
  have htells := (Shape.read_tells h (Cursor.start t).skipBlanks).settle
  refine Failure.oneLine_message ?_
  rw [Shape.parse] at hf
  split at hf
  · next d _ =>
    have hend := (inWriting_atEnd d).map f hf
    exact Fault.oneLine_of_inWriting hend
  · next g he =>
    cases hf
    rw [he] at htells
    exact Outcome.tells_placed.1 htells
  · next g d he =>
    cases hf
    rw [he] at htells
    exact Outcome.tells_loose.1 htells

end StylePrune.Json
