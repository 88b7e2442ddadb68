import StylePrune.Proofs.Files.Effects

/-!
Texts that are saved one after another.

What one text leaves (`Tree.stored_of_save`, `Tree.spared_of_fault`) is left by every text of a sequence, whatever became
of those before it, and what none of them is for stays as it is. Two texts for different places can be saved in either
order (`Tree.save_swap`). `Tree.saveEach_effects` says all of this.

Paths are compared by where they lead, since it makes no difference how many slashes stand between their names. Trees are
compared by what stands at each place, since a tree holds its entries in the order in which they were put there.
-/
namespace StylePrune.Files.Tree

open StylePrune.Path (Downward)

variable {t t₁ t₂ : Tree} {a b x y : Text} {files : List (Text × Text)}

/-! ## Two texts -/

/-- Saving a text does not make a path free or take it, if neither place is on the way to the other. -/
theorem free_iff_of_save (ha : Downward a) (hsave : t.save a x = (t₁, none)) (hne : t.placeOf b ≠ t.placeOf a)
    (hab : ¬ Above (t.placeOf a) (t.placeOf b)) (hba : ¬ Above (t.placeOf b) (t.placeOf a)) :
    Free t₁ b ↔ Free t b := by
  have hat := at?_save ha hsave
  have hplaceOf : t₁.placeOf b = t.placeOf b := placeOf_congr (base_of_save ha hsave) b
  have hplace : t₁.at? (t.placeOf b) = t.at? (t.placeOf b) := by
    rw [hat, if_neg hne, if_neg hba]
  have hway : ∀ q, Above q (t.placeOf b) → (t₁.NoFile q ↔ t.NoFile q) := by
    intro q hq
    have hself : q ≠ t.placeOf a := by
      rintro rfl
      exact hab hq
    by_cases hqa : Above q (t.placeOf a)
    · -- a directory stands there now, and no file did before
      have hdir : t₁.at? q = some .directory := by
        rw [hat, if_neg hself, if_pos hqa]
      exact iff_of_true (noFile_iff.2 (.inr hdir)) ((free_of_save ha hsave).way q hqa)
    · rw [NoFile, hat, if_neg hself, if_neg hqa, NoFile]
  rw [← hplaceOf] at hway hplace
  constructor
  · intro h
    exact ⟨h.fault, h.slash, h.short, fun q hq => (hway q (hplaceOf ▸ hq)).1 (h.way q (hplaceOf ▸ hq)),
      hplaceOf ▸ hplace ▸ h.place⟩
  · intro h
    exact ⟨h.fault, h.slash, h.short, fun q hq => (hway q hq).2 (h.way q (hplaceOf ▸ hq)),
      hplace ▸ hplaceOf ▸ h.place⟩

/-- **Texts for two different places can change places**: if they can be saved in one order, they can be saved in the
other, and the same stands at every place. -/
theorem save_swap (ha : Downward a) (hb : Downward b) (hne : t.placeOf a ≠ t.placeOf b)
    (h₁ : t.save a x = (t₁, none)) (h₂ : t₁.save b y = (t₂, none)) :
    ∃ u₁ u₂, t.save b y = (u₁, none) ∧ u₁.save a x = (u₂, none) ∧ u₂.base = t₂.base ∧ ∀ q, u₂.at? q = t₂.at? q := by
  have hfree := free_of_save hb h₂
  have hb₁ : t₁.placeOf b = t.placeOf b := placeOf_congr (base_of_save ha h₁) b
  have hab : ¬ Above (t.placeOf a) (t.placeOf b) := by
    intro habove
    apply hfree.way _ (hb₁ ▸ habove) (Text.toBytes x)
    rw [at?_save ha h₁, if_pos rfl]
  have hba : ¬ Above (t.placeOf b) (t.placeOf a) := by
    intro habove
    apply hfree.place
    rw [hb₁, at?_save ha h₁, if_neg hne.symm, if_pos habove]
  have hb₀ : Free t b := (free_iff_of_save ha h₁ hne.symm hab hba).1 hfree
  obtain ⟨u₁, hu₁⟩ := exists_save hb hb₀ y
  have ha₁ : Free u₁ a := (free_iff_of_save hb hu₁ hne hba hab).2 (free_of_save ha h₁)
  obtain ⟨u₂, hu₂⟩ := exists_save ha ha₁ x
  have ha₂ : u₁.placeOf a = t.placeOf a := placeOf_congr (base_of_save hb hu₁) a
  refine ⟨u₁, u₂, hu₁, hu₂, ?_, fun q => ?_⟩
  · rw [base_of_save ha hu₂, base_of_save hb hu₁, base_of_save hb h₂, base_of_save ha h₁]
  · rw [at?_save ha hu₂, ha₂, at?_save hb hu₁, at?_save hb h₂, hb₁, at?_save ha h₁]
    by_cases hqa : q = t.placeOf a
    · subst hqa
      simp [hne, hab]
    by_cases hqb : q = t.placeOf b
    · subst hqb
      simp [hne.symm, hba]
    · simp only [if_neg hqa, if_neg hqb]
      split <;> split <;> rfl

/-! ## Any number of texts -/

/-- Saves texts one after another, also after one that could not be saved. -/
def saveEach (t : Tree) (files : List (Text × Text)) : Tree := files.foldl (fun u f => (u.save f.1 f.2).1) t

theorem Grounded.saveEach (ht : t.Grounded) (hdown : ∀ f ∈ files, Downward f.1) : (t.saveEach files).Grounded := by
  induction files generalizing t with
  | nil => exact ht
  | cons f files ih =>
    have hfirst := ht.save (hdown f List.mem_cons_self) f.2
    exact ih hfirst fun g hg => hdown g (List.mem_cons_of_mem f hg)

theorem base_save {f : Text × Text} (hf : Downward f.1) : (t.save f.1 f.2).1.base = t.base := by
  rcases hsave : t.save f.1 f.2 with ⟨t', _ | message⟩
  · exact base_of_save hf hsave
  · obtain ⟨p, hmade, -⟩ := made_of_save_fault hf hsave
    exact hmade.base

theorem base_saveEach (hdown : ∀ f ∈ files, Downward f.1) : (t.saveEach files).base = t.base := by
  induction files generalizing t with
  | nil => rfl
  | cons f files ih =>
    have hrest := ih (t := (t.save f.1 f.2).1) fun g hg => hdown g (List.mem_cons_of_mem f hg)
    exact hrest.trans (base_save (hdown f List.mem_cons_self))

theorem save_kept (ht : t.Grounded) {f : Text × Text} (hf : Downward f.1) {q : Place} (hq : q ≠ t.placeOf f.1)
    {e : Entry} (hat : t.at? q = some e) : (t.save f.1 f.2).1.at? q = some e := by
  rcases hsave : t.save f.1 f.2 with ⟨t', _ | message⟩
  · rcases (stored_of_save hf hsave).others q hq with hsame | ⟨hnone, -⟩
    · exact hsame.trans hat
    · rw [hnone] at hat
      cases hat
  · exact (spared_of_fault ht hf hsave).kept q e hat

theorem saveEach_kept (ht : t.Grounded) (hdown : ∀ f ∈ files, Downward f.1) {q : Place}
    (hq : ∀ f ∈ files, q ≠ t.placeOf f.1) {e : Entry} (hat : t.at? q = some e) :
    (t.saveEach files).at? q = some e := by
  induction files generalizing t with
  | nil => exact hat
  | cons f files ih =>
    have hf := hdown f List.mem_cons_self
    have hfirst := save_kept ht hf (hq f List.mem_cons_self) hat
    refine ih (ht.save hf f.2) (fun g hg => hdown g (List.mem_cons_of_mem f hg)) (fun g hg => ?_) hfirst
    rw [placeOf_congr (base_save hf)]
    exact hq g (List.mem_cons_of_mem f hg)

/-- **What saving texts does to a tree.** The paths may start at the root or at the working directory, and go down at
every name. Each text of a sequence can be saved exactly if nothing is in its way when its turn comes. If it can, the
tree holds it, and all other places are as before or are new directories on its way. If it cannot, all places are as
before or are new directories on its way without files. What stands at a place for which no text is stays there through
the whole sequence. Two texts for different places that can be saved one after the other, from whatever tree, can be
saved the other way round, and then the same stands at every place. -/
theorem saveEach_effects (ht : t.Grounded) (hdown : ∀ f ∈ files, Downward f.1) :
    (∀ before f after, files = before ++ f :: after → ∀ t' message,
      (t.saveEach before).save f.1 f.2 = (t', message) →
        (message = none ↔ Free (t.saveEach before) f.1) ∧
        (message = none → Stored (t.saveEach before) t' f.1 f.2) ∧
        (message ≠ none → Spared (t.saveEach before) t' f.1)) ∧
    (∀ q e, (∀ f ∈ files, q ≠ t.placeOf f.1) → t.at? q = some e → (t.saveEach files).at? q = some e) ∧
    (t.saveEach files).base = t.base ∧
    (∀ f ∈ files, ∀ g ∈ files, ∀ u u₁ u₂ : Tree, u.placeOf f.1 ≠ u.placeOf g.1 →
      u.save f.1 f.2 = (u₁, none) → u₁.save g.1 g.2 = (u₂, none) →
        ∃ v₁ v₂, u.save g.1 g.2 = (v₁, none) ∧ v₁.save f.1 f.2 = (v₂, none) ∧ v₂.base = u₂.base ∧
          ∀ q, v₂.at? q = u₂.at? q) := by
  refine ⟨?_, fun q e hq hat => saveEach_kept ht hdown hq hat, base_saveEach hdown, ?_⟩
  · rintro before f after rfl t' message hsave
    have hf : Downward f.1 := hdown f (by simp)
    have hgrounded := ht.saveEach fun g hg => hdown g (List.mem_append_left _ hg)
    refine ⟨?_, ?_, ?_⟩
    · have hiff : ((t.saveEach before).save f.1 f.2).2 = none ↔ Free (t.saveEach before) f.1 :=
        save_eq_none_iff hf
      rwa [hsave] at hiff
    · rintro rfl
      exact stored_of_save hf hsave
    · intro hfault
      obtain ⟨text, rfl⟩ := Option.ne_none_iff_exists'.1 hfault
      exact spared_of_fault hgrounded hf hsave
  · intro f hf g hg u u₁ u₂ hne h₁ h₂
    exact save_swap (hdown f hf) (hdown g hg) hne h₁ h₂

def sampleTree : Tree :=
  ⟨["w".toList], [(["w".toList, "a".toList], .directory), (["w".toList, "a".toList, "f".toList], .file [])]⟩

/-- Texts in a new directory elsewhere, below a file, at a path of a directory, and in place of a file. -/
def sampleTexts : List (Text × Text) :=
  [("/n/o/p.css".toList, "p".toList), ("a/f/q".toList, "q".toList), ("m/r/".toList, "r".toList),
   ("a//f".toList, "f".toList)]

theorem grounded_sampleTree : sampleTree.Grounded := grounded_of_contents (by decide)

theorem downward_sampleTexts : ∀ f ∈ sampleTexts, Downward f.1 := by
  have hall : ∀ f ∈ sampleTexts, ∀ n ∈ Path.names f.1, n ≠ ['.'] ∧ n ≠ ['.', '.'] := by
    decide
  exact hall

/-- The first text is saved. The third cannot be, and leaves one new directory. The first and the last can change
places. -/
theorem saveEach_effects_sample :
    sampleTree.Grounded ∧ (∀ f ∈ sampleTexts, Downward f.1) ∧
      (∃ t', sampleTree.save "/n/o/p.css".toList "p".toList = (t', none) ∧
        t'.at? ["n".toList, "o".toList, "p.css".toList] = some (.file (Text.toBytes "p".toList)) ∧
        Stored sampleTree t' "/n/o/p.css".toList "p".toList) ∧
      (∃ t' message, (sampleTree.saveEach (sampleTexts.take 2)).save "m/r/".toList "r".toList = (t', some message) ∧
        t'.at? ["w".toList, "m".toList] = some .directory ∧
        Spared (sampleTree.saveEach (sampleTexts.take 2)) t' "m/r/".toList) ∧
      (sampleTree.saveEach sampleTexts).at? ["w".toList, "a".toList] = some .directory ∧
      (sampleTree.saveEach sampleTexts).base = ["w".toList] ∧
      sampleTree.placeOf "/n/o/p.css".toList ≠ sampleTree.placeOf "a//f".toList ∧
      ∃ u₁ u₂, sampleTree.save "/n/o/p.css".toList "p".toList = (u₁, none) ∧
        u₁.save "a//f".toList "f".toList = (u₂, none) ∧
        ∃ v₁ v₂, sampleTree.save "a//f".toList "f".toList = (v₁, none) ∧
          v₁.save "/n/o/p.css".toList "p".toList = (v₂, none) ∧ v₂.base = u₂.base ∧ ∀ q, v₂.at? q = u₂.at? q := by
  obtain ⟨heach, hkept, hbase, hswap⟩ := saveEach_effects grounded_sampleTree downward_sampleTexts
  refine ⟨grounded_sampleTree, downward_sampleTexts, ⟨_, rfl, rfl, ?_⟩, ⟨_, _, rfl, rfl, ?_⟩, ?_, hbase, by decide, _, _,
    rfl, rfl, ?_⟩
  · exact (heach [] _ (sampleTexts.drop 1) rfl _ _ rfl).2.1 rfl
  · exact (heach (sampleTexts.take 2) _ (sampleTexts.drop 3) rfl _ _ rfl).2.2 (by simp)
  · exact hkept _ _ (by decide) rfl
  · exact hswap ("/n/o/p.css".toList, "p".toList) (by decide) ("a//f".toList, "f".toList) (by decide) sampleTree _ _
      (by decide) rfl rfl

end StylePrune.Files.Tree
