import Cutroom.Proofs.Storage.Resolved
import Cutroom.Storage.Token

/-! A file that other changes of the disk spare. It is found and read as before (`Disk.Spares.read`), so that the token
    in its file stays until another one is saved or it is removed (`TokenStore.Holds`). -/

namespace Cutroom
namespace Disk

/-- A disk came of another one by changes elsewhere: the same is in the file at a place, and all directories stand. --/
structure Spares (place : Location) (d d' : Disk) : Prop where
  home : d'.home = d.home
  file : ∀ bytes, d'.node? place = some (.file bytes) ↔ d.node? place = some (.file bytes)
  stands : ∀ other, d.node? other = some .dir → d'.node? other = some .dir

variable {place : Location} {d d' : Disk}

theorem Spares.refl (place : Location) (d : Disk) : Spares place d d := ⟨rfl, fun _ => Iff.rfl, fun _ h => h⟩

theorem Spares.trans {d'' : Disk} (h₁ : Spares place d d') (h₂ : Spares place d' d'') : Spares place d d'' where
  home := h₂.home.trans h₁.home
  file bytes := (h₂.file bytes).trans (h₁.file bytes)
  stands other h := h₂.stands other (h₁.stands other h)

theorem Spares.tried (place : Location) (d : Disk) : Spares place d d.tried := ⟨rfl, fun _ => Iff.rfl, fun _ h => h⟩

theorem put_spares {goal : Location} (n : Node) (hne : place ≠ goal) (hn : d.node? goal ≠ some .dir) :
    Spares place d (d.put goal n) := ⟨rfl, fun _ => by rw [node?_put_of_ne d n hne], put_stands n hn⟩

theorem Furnished.spares (place : Location) (h : Furnished d d') : Spares place d d' where
  home := (h.grown fun _ => False).home
  file := h.files place
  stands := by
    induction h with
    | refl => exact fun _ hdir => hdir
    | tried _ ih => exact ih
    | dir _ hnone ih => exact fun other hdir => put_stands .dir (by simp [hnone]) other (ih other hdir)

/-- Whatever comes of a write, the files elsewhere are spared. --/
theorem write_spares {p : FilePath} (bytes : ByteArray) (hp : p.resolve d.home ≠ place) :
    Spares place d (d.write p bytes).2 := by
  have hput {goal : Location} (hopen : d.Opens p goal) (written : ByteArray) :
      Spares place d (d.tried.put goal (.file written)) := by
    have hne : place ≠ goal := fun he => hp (hopen.place_eq ▸ he).symm
    exact (Spares.tried place d).trans (put_spares _ hne hopen.free)
  have hw := d.write_writes p bytes
  generalize d.write p bytes = outcome at hw ⊢
  cases hw with
  | refused e => exact .refl place d
  | done hopen _ => exact hput hopen bytes
  | @troubled goal trouble hopen _ =>
    rcases putPart_file d.tried goal bytes trouble.written with hpart | ⟨part, hpart⟩ <;> rw [hpart]
    · exact .tried place d
    · exact hput hopen part

theorem copy_spares {source target : FilePath} (hp : target.resolve d.home ≠ place) :
    Spares place d (d.copy source target).2 := by
  unfold copy
  split
  · exact .refl place d
  · exact .refl place d
  · have hempty := write_spares ByteArray.empty hp
    rcases hw : d.write target ByteArray.empty with ⟨e | _, emptied⟩ <;> rw [hw] at hempty
    · exact hempty
    · dsimp only
      split
      · exact hempty
      · exact hempty.trans (write_spares _ (hempty.home ▸ hp))

/-- What is read from a file. --/
theorem read_eq_ok {p : FilePath} {bytes : ByteArray} :
    d.read p = .ok bytes ↔
      ∃ place, d.locate p = .ok place ∧ d.node? place = some (.file bytes) ∧ p.endsInSlash = false := by
  unfold read find
  cases d.locate p with
  | error e => simp
  | ok place =>
    rcases hn : d.node? place with _ | ⟨written⟩ | _
    · simp [hn]
    · cases hs : p.endsInSlash <;> simp [hn]
    · simp [hn]

theorem Spares.read {p : FilePath} (h : Spares (p.resolve d.home) d d') {bytes : ByteArray}
    (hr : d.read p = .ok bytes) : d'.read p = .ok bytes := by
  obtain ⟨goal, hl, hn, hs⟩ := read_eq_ok.mp hr
  have hgoal := locate_eq_resolve hl
  exact read_eq_ok.mpr ⟨goal, locate_of_stands h.home h.stands hl, hgoal ▸ (h.file bytes).mpr (hgoal ▸ hn), hs⟩

/-- A copy of a file elsewhere holds what the file holds. --/
theorem copy_read {source target : FilePath} {bytes : ByteArray} {u : Unit} (h : d.copy source target = (.ok u, d'))
    (hread : d.read source = .ok bytes) (hp : target.resolve d.home ≠ source.resolve d.home) :
    d'.read target = .ok bytes := by
  have hempty := write_spares ByteArray.empty hp
  unfold copy at h
  split at h
  · cases h
  · cases h
  · rcases hw : d.write target ByteArray.empty with ⟨e | _, emptied⟩ <;> rw [hw] at h hempty
    · cases h
    · -- The target is emptied first, which does not touch the source.
      have hkept : emptied.read source = .ok bytes := hempty.read hread
      simp only [hkept] at h
      exact read_write h

theorem node?_erase_ne_file (d : Disk) (place : Location) (bytes : ByteArray) :
    (d.erase place).node? place ≠ some (.file bytes) := by
  unfold node?
  split
  · simp
  · have hgone : (d.erase place).nodes.lookup place = none := by
      refine List.lookup_eq_none_iff.mpr fun m hm => ?_
      have hne : m.1 ≠ place := bne_iff_ne.mp (List.mem_filter.mp hm).2
      exact bne_iff_ne.mpr hne.symm
    rw [hgone]
    exact nofun

end Disk

/-! ### The stored token -/

theorem Text.utf8?_toUTF8 (s : String) : utf8? s.toUTF8 = some s := by
  simp only [utf8?, String.fromUTF8?, String.toUTF8_eq_toByteArray, dif_pos s.isValidUTF8]
  rfl

namespace TokenStore

/-- The token that is stored: it is what can be read from the file of the token, or there is no such file. --/
def Holds (t : TokenStore) (d : Disk) : Option String → Prop
  | some token => d.read t.path = .ok token.toUTF8
  | none => ∀ bytes, d.node? (t.path.resolve d.home) ≠ some (.file bytes)

variable {t : TokenStore} {d d' : Disk} {held : Option String}

theorem Holds.spared (h : t.Holds d held) (hd : Disk.Spares (t.path.resolve d.home) d d') : t.Holds d' held := by
  cases held with
  | some token => exact hd.read h
  | none => exact fun bytes hf => h bytes ((hd.file bytes).mp (hd.home ▸ hf))

/-- What a client that loads a stored token gets. --/
def loaded (held : Option String) : Option String := (held.map Text.trim).filter fun token => !token.isEmpty

theorem load_held {token : String} (h : t.Holds d (some token)) : t.load d = .ok (loaded (some token)) := by
  have hread : d.read t.path = .ok token.toUTF8 := h
  have hexists : d.exists? t.path = true := by
    obtain ⟨place, hl, hn, hs⟩ := Disk.read_eq_ok.mp hread
    simp [Disk.exists?, Disk.find, hl, hn, hs, Except.toBool]
  simp only [load, hexists, if_true, Disk.readText, hread, Text.utf8?_toUTF8, loaded, Option.map_some, Option.filter_some]
  cases (Text.trim token).isEmpty <;> rfl

/-- Where no file of a token is, nothing but a directory can be found. --/
theorem find_none (h : t.Holds d none) : d.find t.path = .ok .dir ∨ ∃ e, d.find t.path = .error e := by
  unfold Disk.find
  split
  · exact .inr ⟨_, rfl⟩
  · rename_i place hl
    split
    · exact .inr ⟨_, rfl⟩
    · rename_i bytes hn
      exact (h bytes (Disk.locate_eq_resolve hl ▸ hn)).elim
    · exact .inl rfl

theorem load_none {token : Option String} (h : t.Holds d none) (hload : t.load d = .ok token) : token = none := by
  rcases find_none h with hfind | ⟨e, hfind⟩
  · simp [load, Disk.exists?, Disk.readText, Disk.read, hfind, Except.toBool] at hload
  · simpa [load, Disk.exists?, hfind, Except.toBool, eq_comm] using hload

theorem load_eq {token : Option String} (h : t.Holds d held) (hload : t.load d = .ok token) : token = loaded held := by
  cases held with
  | some stored =>
    rw [load_held h] at hload
    exact (Except.ok.inj hload).symm
  | none => exact load_none h hload

theorem save_holds {token : String} {u : Unit} (h : t.save token d = (.ok u, d')) : t.Holds d' (some token) := by
  unfold save at h
  split at h
  · cases h
  · split at h
    · cases h
    · rename_i hwrite
      cases h
      exact Disk.read_write hwrite

/-- When a token cannot be saved and no trouble is the cause, at most directories have been made. --/
theorem save_failed {token : String} {f : Failure} (hcalm : d.troubles = []) (h : t.save token d = (.error f, d')) :
    Disk.Furnished d d' := by
  have hparent := d.ensureParent_furnished t.path
  unfold save at h
  split at h <;> rename_i tree htree <;> rw [htree] at hparent
  · cases h
    exact hparent
  · have hw := tree.write_writes t.path token.toUTF8
    have hfree := Disk.trouble?_of_calm (hparent.calm hcalm)
    generalize tree.write t.path token.toUTF8 = outcome at h hw
    cases hw with
    | refused e =>
      cases h
      exact hparent
    | done _ _ => cases h
    | troubled _ htrouble =>
      rw [hfree] at htrouble
      cases htrouble

theorem clear_held {token : String} (h : t.Holds d (some token)) (hcalm : d.troubles = []) :
    ∃ d', t.clear d = (.ok true, d') ∧ t.Holds d' none := by
  obtain ⟨place, hl, hn, hs⟩ := Disk.read_eq_ok.mp h
  have hfind : d.find t.path = .ok (.file token.toUTF8) := by
    simp [Disk.find, hl, hn, hs]
  have hfree := Disk.trouble?_of_calm hcalm
  refine ⟨d.tried.erase place, ?_, fun bytes hf => ?_⟩
  · simp [clear, Disk.exists?, Disk.remove, hl, hfind, hfree, Except.toBool]
  · have hplace := Disk.locate_eq_resolve hl
    have hgone : (d.tried.erase place).node? place ≠ some (.file bytes) := d.tried.node?_erase_ne_file place bytes
    exact hgone (hplace ▸ hf)

/-- Where no token is stored, none is removed. --/
theorem clear_none (h : t.Holds d none) : t.clear d = (.ok false, d) ∨ ∃ f, t.clear d = (.error f, d) := by
  rcases find_none h with hfind | ⟨e, hfind⟩
  · refine .inr ⟨.during .removing t.path .isDirectory, ?_⟩
    cases hl : d.locate t.path <;> simp [clear, Disk.exists?, Disk.remove, hl, hfind, Except.toBool]
  · exact .inl (by simp [clear, Disk.exists?, hfind, Except.toBool])

end TokenStore
end Cutroom
