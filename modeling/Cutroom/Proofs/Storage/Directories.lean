import Cutroom.Proofs.Storage.Written

/-! Making directories (`Disk.ensureTree_furnished`): a directory is only made where nothing was. All files stay as they
    are then, so that none goes and none comes (`Disk.Furnished.files`). -/

namespace Cutroom

/-- A path, or one of those that hold it. --/
inductive FilePath.HeldBy : FilePath → FilePath → Prop
  | self {p : FilePath} : HeldBy p p
  | up {p q r : FilePath} : p.parent? = some q → HeldBy q r → HeldBy p r

namespace Disk

/-- What each directory keeps that is made for a path or for one that holds it, all of them keep. --/
theorem ensureTree_keeps {motive : Disk → Prop} {d : Disk} {p : FilePath} (hd : motive d)
    (hstep : ∀ d' q, p.HeldBy q → motive d' → motive (d'.ensureDirectory q).2) : motive (d.ensureTree p).2 := by
  unfold ensureTree
  generalize p.text.length = fuel
  fun_induction ensureTreeFuel d fuel p with
  | case1 fuel d p hempty => exact hd
  | case2 d p hname tried hfirst fuel up hup u held hheld ih =>
    -- The directories that hold the path are made, and then it is tried again.
    have htried := hstep d p .self hd
    rw [hfirst] at htried
    have hmade := ih htried fun d' q hq => hstep d' q (.up hup hq)
    rw [hheld] at hmade
    exact hstep held p .self hmade
  | case3 d p hname tried hfirst fuel up hup hunheld ih =>
    have htried := hstep d p .self hd
    rw [hfirst] at htried
    exact ih htried fun d' q hq => hstep d' q (.up hup hq)
  | case4 fuel d p hname tried hfirst hnone =>
    have htried := hstep d p .self hd
    rwa [hfirst] at htried
  | case5 fuel d p hname hfound => exact hstep d p .self hd

/-- A disk came of another one by making directories where nothing was, or by trying to. --/
inductive Furnished (d : Disk) : Disk → Prop
  | refl : Furnished d d
  | tried {d' : Disk} : Furnished d d' → Furnished d d'.tried
  | dir {d' : Disk} {place : Location} : Furnished d d' → d'.node? place = none → Furnished d (d'.put place .dir)

theorem Furnished.trans {d₁ d₂ d₃ : Disk} (h₁ : Furnished d₁ d₂) (h₂ : Furnished d₂ d₃) : Furnished d₁ d₃ := by
  induction h₂ with
  | refl => exact h₁
  | tried _ ih => exact ih.tried
  | dir _ hnone ih => exact ih.dir hnone

theorem makeDirectory_furnished (d : Disk) (p : FilePath) : Furnished d (d.makeDirectory p).2 := by
  unfold makeDirectory
  split
  · exact .refl
  · split
    · exact .refl
    · rename_i hnone
      unfold tryPut
      split
      · exact .dir (.tried .refl) hnone
      · exact .tried .refl

theorem ensureDirectory_furnished (d : Disk) (p : FilePath) : Furnished d (d.ensureDirectory p).2 := by
  have hmade := d.makeDirectory_furnished p
  unfold ensureDirectory
  rcases h : d.makeDirectory p with ⟨e | _, made⟩ <;> rw [h] at hmade <;> exact hmade

theorem ensureTree_furnished (d : Disk) (p : FilePath) : Furnished d (d.ensureTree p).2 :=
  ensureTree_keeps .refl fun made q _ hmade => hmade.trans (made.ensureDirectory_furnished q)

theorem ensureParent_furnished (d : Disk) (p : FilePath) : Furnished d (d.ensureParent p).2 := by
  unfold ensureParent
  split
  · exact ensureTree_furnished d _
  · exact .refl

/-- Where no trouble is to come, making directories brings none. --/
theorem Furnished.calm {d d' : Disk} (h : Furnished d d') (hcalm : d.troubles = []) : d'.troubles = [] := by
  induction h with
  | refl => exact hcalm
  | tried _ ih => exact (congrArg (List.drop 1) ih).trans rfl
  | dir _ _ ih => exact ih

/-! ### The files -/

/-- Both disks hold the same files. --/
def SameFiles (d d' : Disk) : Prop :=
  ∀ place bytes, d'.node? place = some (.file bytes) ↔ d.node? place = some (.file bytes)

theorem SameFiles.refl (d : Disk) : SameFiles d d := fun _ _ => Iff.rfl

theorem SameFiles.trans {d₁ d₂ d₃ : Disk} (h₁ : SameFiles d₁ d₂) (h₂ : SameFiles d₂ d₃) : SameFiles d₁ d₃ :=
  fun place bytes => (h₂ place bytes).trans (h₁ place bytes)

/-- Both disks hold the same files; but where trouble was to come, one may have been begun at a place. --/
def SameFilesBut (place : Location) (d d' : Disk) : Prop :=
  ∀ other bytes, d.troubles = [] ∨ other ≠ place →
    (d'.node? other = some (.file bytes) ↔ d.node? other = some (.file bytes))

theorem SameFiles.but {d d' : Disk} (h : SameFiles d d') (place : Location) : SameFilesBut place d d' :=
  fun other bytes _ => h other bytes

theorem put_dir_files {d : Disk} {place : Location} (h : d.node? place = none) : SameFiles d (d.put place .dir) := by
  have hroot : place ≠ [] := by
    rintro rfl
    simp [node?] at h
  intro other bytes
  by_cases hother : other = place
  · rw [hother, node?_put_self d place .dir hroot, h]
    simp
  · rw [node?_put_of_ne d .dir hother]

theorem Furnished.files {d d' : Disk} (h : Furnished d d') : SameFiles d d' := by
  induction h with
  | refl => exact .refl d
  | tried _ ih => exact ih
  | dir _ hnone ih => exact ih.trans (put_dir_files hnone)

end Disk
end Cutroom
