import Cutroom.Storage.Disk

/-! What can come of writing a file (`Disk.write_writes`): all of it is written, or nothing, or trouble leaves a part. What
    was written is read from the file (`Disk.read_write`). The path leads to the same location before and after: only
    what is at that location changes, and no directory was there to be passed through. -/

namespace Cutroom
namespace Disk

theorem lookup_filter_of_ne {place other : Location} (h : other ≠ place) :
    ∀ nodes : List (Location × Node), (nodes.filter fun m => m.1 != place).lookup other = nodes.lookup other
  | [] => rfl
  | (at_, n) :: nodes => by
    have ih := lookup_filter_of_ne h nodes
    by_cases hat : at_ = place
    · have hne : (other == place) = false := by simpa using h
      simp [hat, List.lookup_cons, ih, hne]
    · by_cases ho : other = at_
      · simp [hat, ho]
      · have hne : (other == at_) = false := by simpa using ho
        simp [hat, List.lookup_cons, hne, ih]

theorem node?_put_self (d : Disk) (place : Location) (n : Node) (h : place ≠ []) : (d.put place n).node? place = some n := by
  simp [node?, put, h]

theorem node?_put_of_ne (d : Disk) {place other : Location} (n : Node) (h : other ≠ place) :
    (d.put place n).node? other = d.node? other := by
  unfold node?
  split
  · rfl
  · have hne : (other == place) = false := by simpa using h
    simp only [put, List.lookup_cons, hne]
    exact lookup_filter_of_ne h d.nodes

/-- A walk passes through directories only, so that nothing else matters to it. --/
theorem walk_of_stands {d d' : Disk} (hstands : ∀ place, d.node? place = some .dir → d'.node? place = some .dir) :
    ∀ {names : List String} {start goal : Location}, d.walk start names = .ok goal → d'.walk start names = .ok goal := by
  intro names
  induction names with
  | nil => exact fun hw => hw
  | cons name rest ih =>
    intro start goal hw
    rw [walk] at hw ⊢
    split at hw
    · cases hw
    · cases hw
    · rename_i hdir
      simp only [hstands start hdir]
      split at hw
      · rename_i hdot
        rw [if_pos hdot]
        exact ih hw
      · rename_i hdot
        rw [if_neg hdot]
        split at hw
        · rename_i hup
          rw [if_pos hup]
          exact ih hw
        · rename_i hup
          rw [if_neg hup]
          split at hw
          · cases hw
          · rename_i hshort
            rw [if_neg hshort]
            exact ih hw

/-- Where a path leads is the same as long as all directories stand. --/
theorem locate_of_stands {d d' : Disk} {p : FilePath} {goal : Location} (hhome : d'.home = d.home)
    (hstands : ∀ place, d.node? place = some .dir → d'.node? place = some .dir) (hl : d.locate p = .ok goal) :
    d'.locate p = .ok goal := by
  unfold locate at hl ⊢
  rw [hhome]
  split at hl
  · cases hl
  · rename_i hzero
    rw [if_neg hzero]
    split at hl
    · cases hl
    · rename_i hempty
      rw [if_neg hempty]
      split at hl
      · cases hl
      · rename_i hlong
        rw [if_neg hlong]
        exact walk_of_stands hstands hl

theorem walk_tried (d : Disk) (names : List String) : ∀ place, d.tried.walk place names = d.walk place names := by
  induction names with
  | nil => exact fun _ => rfl
  | cons name rest ih => exact fun place => by simp only [walk, node?_tried, ih]

@[simp] theorem locate_tried (d : Disk) (p : FilePath) : d.tried.locate p = d.locate p := by
  simp only [locate, home_tried, walk_tried]

/-- Whatever is put where no directory is, all directories stand. --/
theorem put_stands {d : Disk} {place : Location} (n : Node) (h : d.node? place ≠ some .dir) :
    ∀ other, d.node? other = some .dir → (d.put place n).node? other = some .dir := by
  intro other hdir
  have hne : other ≠ place := fun he => h (he ▸ hdir)
  rw [node?_put_of_ne d n hne, hdir]

theorem locate_put {d : Disk} {place goal : Location} {p : FilePath} (n : Node) (h : d.node? place ≠ some .dir)
    (hl : d.locate p = .ok goal) : (d.put place n).locate p = .ok goal :=
  locate_of_stands (d := d) rfl (put_stands n h) hl

/-! ### What comes of a write -/

/-- Where no trouble is to come, the next change has none. --/
theorem trouble?_of_calm {d : Disk} (h : d.troubles = []) : d.trouble? = none := congrArg (List.headD · none) h

/-- The tree allows to write a file where a path leads: there is a file, or nothing. --/
structure Opens (d : Disk) (p : FilePath) (place : Location) : Prop where
  located : d.locate p = .ok place
  free : d.node? place ≠ some .dir
  name : p.endsInSlash = false

theorem Opens.ne_root {d : Disk} {p : FilePath} {place : Location} (h : d.Opens p place) : place ≠ [] :=
  fun he => h.free (by simp [he, node?])

/-- What can come of writing a file: the tree does not allow it, or all is written, or trouble leaves a part. --/
inductive Writes (d : Disk) (p : FilePath) (bytes : ByteArray) : Except DiskError Unit × Disk → Prop
  | refused (e : DiskError) : Writes d p bytes (.error e, d)
  | done {place : Location} : d.Opens p place → d.trouble? = none →
      Writes d p bytes (.ok (), d.tried.put place (.file bytes))
  | troubled {place : Location} {trouble : Trouble} : d.Opens p place → d.trouble? = some trouble →
      Writes d p bytes (.error (.other trouble.words), d.tried.putPart place (.file bytes) trouble.written)

theorem tryPut_writes {d : Disk} {p : FilePath} {place : Location} (bytes : ByteArray) (h : d.Opens p place) :
    Writes d p bytes (d.tryPut place (.file bytes)) := by
  unfold tryPut
  split
  · rename_i hfree
    exact .done h hfree
  · rename_i trouble htrouble
    exact .troubled h htrouble

theorem write_writes (d : Disk) (p : FilePath) (bytes : ByteArray) : Writes d p bytes (d.write p bytes) := by
  unfold write
  split
  · exact .refused _
  · rename_i place hl
    split
    · exact .refused _
    · rename_i old hn
      split
      · exact .refused _
      · rename_i hs
        exact tryPut_writes bytes ⟨hl, by simp [hn], by simpa using hs⟩
    · rename_i hn
      split
      · exact .refused _
      · rename_i hs
        exact tryPut_writes bytes ⟨hl, by simp [hn], by simpa using hs⟩

/-- Trouble leaves a file alone, or the beginning of what should be in it. --/
theorem putPart_file (d : Disk) (place : Location) (bytes : ByteArray) (written : Option Nat) :
    d.putPart place (.file bytes) written = d ∨
      ∃ part, d.putPart place (.file bytes) written = d.put place (.file part) := by
  cases written with
  | none => exact .inl rfl
  | some count => exact .inr ⟨_, rfl⟩

theorem read_write {d written : Disk} {p : FilePath} {bytes : ByteArray} {u : Unit}
    (h : d.write p bytes = (.ok u, written)) : written.read p = .ok bytes := by
  have hw := d.write_writes p bytes
  rw [h] at hw
  cases hw with
  | @done place hopen _ =>
    have hl : (d.tried.put place (.file bytes)).locate p = .ok place :=
      locate_put (d := d.tried) (.file bytes) hopen.free ((locate_tried d p).trans hopen.located)
    simp only [read, find, hl, node?_put_self d.tried place (.file bytes) hopen.ne_root, hopen.name,
      Bool.false_eq_true, if_false]

end Disk
end Cutroom
