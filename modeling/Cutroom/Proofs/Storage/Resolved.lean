import Cutroom.Proofs.Storage.Directories

/-! Where a path leads, told by its parts alone: where a walk on a disk succeeds, it ends there
    (`Disk.locate_eq_resolve`). Behind a directory a path leads to a place below it as long as no part of it steps
    out (`Location.follow_of_descend?`); once a part has, the way back is only by the name of the directory
    (`Location.not_prefix_follow_of_descend?`). -/

namespace Cutroom
namespace Location

/-- Where a name leads from a location. --/
def enter (place : Location) (name : String) : Location :=
  if name = "." then place else if name = ".." then place.dropLast else place ++ [name]

def follow (place : Location) (names : List String) : Location := names.foldl enter place

/-- Where names lead within a directory, counted from it; nowhere as soon as one of them steps out. --/
def descend? (below : Location) : List String → Option Location
  | [] => some below
  | name :: rest => if name = ".." ∧ below = [] then none else descend? (below.enter name) rest

/-- A place in a directory, at whatever depth. --/
def Below (dir place : Location) : Prop := ∃ below, below ≠ [] ∧ place = dir ++ below

theorem follow_cons (place : Location) (name : String) (rest : List String) :
    place.follow (name :: rest) = (place.enter name).follow rest := rfl

theorem follow_append (place : Location) (names more : List String) :
    place.follow (names ++ more) = (place.follow names).follow more := List.foldl_append

theorem enter_of_name {name : String} (hdot : name ≠ ".") (hup : name ≠ "..") (place : Location) :
    place.enter name = place ++ [name] := by
  simp only [enter, hdot, hup, if_false]

theorem append_enter {dir below : Location} {name : String} (h : ¬ (name = ".." ∧ below = [])) :
    (dir ++ below).enter name = dir ++ below.enter name := by
  unfold enter
  split
  · rfl
  · split
    · rename_i hup
      exact List.dropLast_append_of_ne_nil fun hb => h ⟨hup, hb⟩
    · exact List.append_assoc ..

theorem follow_of_descend? (dir : Location) {goal : Location} {names : List String} :
    ∀ {below : Location}, descend? below names = some goal → (dir ++ below).follow names = dir ++ goal := by
  induction names with
  | nil =>
    intro below h
    cases h
    rfl
  | cons name rest ih =>
    intro below h
    unfold descend? at h
    split at h
    · cases h
    · rename_i hstays
      rw [follow_cons, append_enter hstays]
      exact ih h

/-- A location without a name in it leads to no place behind that name, unless the name comes again. --/
theorem not_prefix_follow {base : Location} {d : String} {names : List String} (hd : d ∉ names) :
    ∀ {place : Location}, ¬ base ++ [d] <+: place → ¬ base ++ [d] <+: place.follow names := by
  induction names with
  | nil => exact fun h => h
  | cons name rest ih =>
    intro place h
    obtain ⟨hname, hrest⟩ := not_or.mp (mt List.mem_cons.mpr hd)
    refine ih hrest ?_
    unfold enter
    split
    · exact h
    · split
      · exact fun hp => h (hp.trans (List.dropLast_prefix place))
      · intro hp
        rcases List.prefix_concat_iff.mp hp with heq | hp
        · exact hname (List.append_inj_right' heq rfl |> List.singleton_inj.mp)
        · exact h hp

theorem not_prefix_follow_of_descend? (base : Location) {d : String} {names : List String} (hd : d ∉ names) :
    ∀ {below : Location}, descend? below names = none → ¬ base ++ [d] <+: (base ++ [d] ++ below).follow names := by
  induction names with
  | nil =>
    intro below h
    cases h
  | cons name rest ih =>
    intro below h
    have hrest : d ∉ rest := fun hr => hd (List.mem_cons_of_mem _ hr)
    unfold descend? at h
    rw [follow_cons]
    split at h
    · rename_i hout
      obtain ⟨rfl, rfl⟩ := hout
      -- The step leads out of the directory, to the one that holds it.
      have hbase : (base ++ [d] ++ []).enter ".." = base := by
        rw [List.append_nil]
        exact List.dropLast_concat
      rw [hbase]
      refine not_prefix_follow hrest fun hp => ?_
      have hlength := hp.length_le
      rw [List.length_append, List.length_singleton] at hlength
      omega
    · rename_i hstays
      rw [append_enter hstays]
      exact ih hrest h

end Location

namespace FilePath
open Location

/-- Where a path leads, with all directories there that it passes. --/
def resolve (p : FilePath) (home : Location) : Location := follow (if p.isAbsolute then [] else home) p.parts

/-! ### Parts -/

/-- The parts that characters tell. --/
def pieces (cs : List Char) : List String := ((cs.splitOn '/').filter fun part => !part.isEmpty).map String.ofList

theorem parts_eq (p : FilePath) : p.parts = pieces p.text.toList := rfl

theorem pieces_slash (cs more : List Char) : pieces (cs ++ '/' :: more) = pieces cs ++ pieces more := by
  simp only [pieces, List.splitOn_append_cons_self, List.filter_append, List.map_append]

theorem pieces_of_name {cs : List Char} (hcs : cs ≠ []) (hslash : '/' ∉ cs) : pieces cs = [String.ofList cs] := by
  simp [pieces, List.splitOn_eq_singleton hslash, hcs]

theorem parts_join {dir p : FilePath} (hp : p.isAbsolute = false) : (dir.join p).parts = dir.parts ++ p.parts := by
  simp only [join, hp, Bool.false_eq_true, if_false, parts_eq]
  split
  · rename_i hopen
    rw [String.toList_append]
    rcases Bool.or_eq_true _ _ ▸ hopen with hempty | hslash
    · have hnil : dir.text.toList = [] := by simpa using hempty
      rw [hnil]
      rfl
    · obtain ⟨cs, hcs⟩ := List.getLast?_eq_some_iff.mp (beq_iff_eq.mp hslash)
      rw [hcs, List.append_assoc, List.singleton_append, pieces_slash, pieces_slash]
      simp [pieces]
  · have htext : (dir.text ++ "/" ++ p.text).toList = dir.text.toList ++ '/' :: p.text.toList := by simp
    rw [htext, pieces_slash]

theorem isAbsolute_join {dir p : FilePath} (hp : p.isAbsolute = false) : (dir.join p).isAbsolute = dir.isAbsolute := by
  simp only [join, hp, Bool.false_eq_true, if_false]
  unfold isAbsolute at hp ⊢
  cases hdir : dir.text.toList with
  | nil =>
    have hempty : dir.text = "" := by simpa using hdir
    simpa [hempty] using hp
  | cons c cs => split <;> simp [hdir]

/-- A path behind a directory leads on from where the directory is. --/
theorem resolve_join {dir p : FilePath} (hp : p.isAbsolute = false) (home : Location) :
    (dir.join p).resolve home = (dir.resolve home).follow p.parts := by
  rw [resolve, isAbsolute_join hp, parts_join hp, follow_append]
  rfl

theorem resolve_join_of_absolute {dir p : FilePath} (hp : p.isAbsolute = true) (home : Location) :
    (dir.join p).resolve home = follow [] p.parts := by
  simp only [join, resolve, hp, if_true]

/-- Characters without a slash only lengthen the last part. --/
theorem splitOn_append {tail : List Char} (htail : '/' ∉ tail) (cs : List Char) :
    ∃ init last, cs.splitOn '/' = init ++ [last] ∧ (cs ++ tail).splitOn '/' = init ++ [last ++ tail] := by
  induction cs with
  | nil => exact ⟨[], [], rfl, List.splitOn_eq_singleton htail⟩
  | cons c cs ih =>
    obtain ⟨init, last, hcs, happend⟩ := ih
    rw [List.cons_append, List.splitOn_cons_eq_if_modifyHead, List.splitOn_cons_eq_if_modifyHead, hcs, happend]
    split
    · exact ⟨[] :: init, last, rfl, rfl⟩
    · cases init with
      | nil => exact ⟨[], c :: last, rfl, rfl⟩
      | cons first init => exact ⟨(c :: first) :: init, last, rfl, rfl⟩

end FilePath

namespace Disk
open Location

theorem walk_eq_follow {d : Disk} {names : List String} :
    ∀ {place goal : Location}, d.walk place names = .ok goal → goal = place.follow names := by
  induction names with
  | nil =>
    intro place goal h
    cases h
    rfl
  | cons name rest ih =>
    intro place goal h
    rw [follow_cons, enter]
    unfold walk at h
    split at h
    · cases h
    · cases h
    · split at h
      · rename_i hdot
        rw [if_pos hdot]
        exact ih h
      · rename_i hdot
        rw [if_neg hdot]
        split at h
        · rename_i hup
          rw [if_pos hup]
          exact ih h
        · rename_i hup
          rw [if_neg hup]
          split at h
          · cases h
          · exact ih h

theorem locate_eq_resolve {d : Disk} {p : FilePath} {place : Location} (h : d.locate p = .ok place) :
    place = p.resolve d.home := by
  unfold locate at h
  split at h
  · cases h
  · split at h
    · cases h
    · split at h
      · cases h
      · exact walk_eq_follow h

/-! ### What operations add to a disk -/

/-- A disk came of another one, with no other files than before and those at certain places. --/
structure Grown (places : Location → Prop) (d d' : Disk) : Prop where
  home : d'.home = d.home
  files : ∀ place bytes, d'.node? place = some (.file bytes) → d.node? place = some (.file bytes) ∨ places place

variable {places : Location → Prop} {d d' : Disk}

theorem Grown.refl (places : Location → Prop) (d : Disk) : Grown places d d := ⟨rfl, fun _ _ h => .inl h⟩

theorem Grown.trans {d'' : Disk} (h₁ : Grown places d d') (h₂ : Grown places d' d'') : Grown places d d'' where
  home := h₂.home.trans h₁.home
  files := fun place bytes h => (h₂.files place bytes h).elim (h₁.files place bytes) .inr

theorem Grown.mono {more : Location → Prop} (h : Grown places d d') (hmore : ∀ place, places place → more place) :
    Grown more d d' where
  home := h.home
  files := fun place bytes hf => (h.files place bytes hf).imp_right (hmore place)

theorem Grown.tried (places : Location → Prop) (d : Disk) : Grown places d d.tried := ⟨rfl, fun _ _ h => .inl h⟩

theorem put_file_grown {place : Location} (bytes : ByteArray) (h : places place) :
    Grown places d (d.put place (.file bytes)) where
  home := rfl
  files := fun other written hw => by
    by_cases ho : other = place
    · exact .inr (ho ▸ h)
    · exact .inl (node?_put_of_ne d _ ho ▸ hw)

theorem Furnished.grown (places : Location → Prop) (h : Furnished d d') : Grown places d d' where
  home := by
    induction h with
    | refl => rfl
    | tried _ ih => exact ih
    | dir _ _ ih => exact ih
  files := fun place bytes hf => .inl ((h.files place bytes).mp hf)

theorem ensureParent_grown (places : Location → Prop) (d : Disk) (p : FilePath) :
    Grown places d (d.ensureParent p).2 := (ensureParent_furnished d p).grown places

/-! ### Where directories are made -/

theorem makeDirectory_elsewhere {p : FilePath} {place : Location} (hp : p.resolve d.home ≠ place) :
    (d.makeDirectory p).2.node? place = d.node? place := by
  unfold makeDirectory
  split
  · rfl
  · rename_i goal hl
    split
    · rfl
    · unfold tryPut
      split
      · exact node?_put_of_ne d.tried .dir fun he => hp ((locate_eq_resolve hl).symm.trans he.symm)
      · rfl

theorem ensureDirectory_elsewhere {p : FilePath} {place : Location} (hp : p.resolve d.home ≠ place) :
    (d.ensureDirectory p).2.node? place = d.node? place := by
  have hmade := makeDirectory_elsewhere hp
  unfold ensureDirectory
  rcases h : d.makeDirectory p with ⟨e | _, made⟩ <;> rw [h] at hmade <;> exact hmade

/-- A directory is made where its path leads or where those lead that hold it, and nowhere else. --/
theorem ensureTree_elsewhere {p : FilePath} {place : Location} (hp : ∀ q, p.HeldBy q → q.resolve d.home ≠ place) :
    (d.ensureTree p).2.node? place = d.node? place := by
  refine (ensureTree_keeps (motive := fun d' => d'.home = d.home ∧ d'.node? place = d.node? place) ⟨rfl, rfl⟩
    fun made q hq ⟨hhome, hsame⟩ => ⟨?_, ?_⟩).2
  · exact ((ensureDirectory_furnished made q).grown fun _ => False).home.trans hhome
  · exact (ensureDirectory_elsewhere (hhome ▸ hp q hq)).trans hsame

/-! ### Where a file is written -/

theorem Opens.place_eq {p : FilePath} {place : Location} (h : d.Opens p place) : place = p.resolve d.home :=
  locate_eq_resolve h.located

/-- Whatever comes of a write, there is no new file but where the path leads. --/
theorem write_grown (d : Disk) (p : FilePath) (bytes : ByteArray) :
    Grown (· = p.resolve d.home) d (d.write p bytes).2 := by
  have hw := d.write_writes p bytes
  generalize d.write p bytes = outcome at hw ⊢
  cases hw with
  | refused e => exact .refl _ d
  | done hopen _ => exact (Grown.tried _ d).trans (put_file_grown bytes hopen.place_eq)
  | @troubled place trouble hopen _ =>
    rcases putPart_file d.tried place bytes trouble.written with hpart | ⟨part, hpart⟩ <;> rw [hpart]
    · exact .tried _ d
    · exact (Grown.tried _ d).trans (put_file_grown part hopen.place_eq)

/-- A write that fails changes nothing; but where trouble was to come, a file may have been begun. --/
theorem write_failed {p : FilePath} {bytes : ByteArray} {e : DiskError} (h : d.write p bytes = (.error e, d'))
    {place : Location} (hplace : d.troubles = [] ∨ place ≠ p.resolve d.home) : d'.node? place = d.node? place := by
  have hw := d.write_writes p bytes
  rw [h] at hw
  cases hw with
  | refused _ => rfl
  | @troubled goal trouble hopen htrouble =>
    rcases hplace with hcalm | hne
    · rw [trouble?_of_calm hcalm] at htrouble
      cases htrouble
    · rcases putPart_file d.tried goal bytes trouble.written with hpart | ⟨part, hpart⟩ <;> rw [hpart]
      · rfl
      · exact node?_put_of_ne d.tried _ (hopen.place_eq ▸ hne)

/-- What was written is where the path leads. --/
theorem write_place {p : FilePath} {bytes : ByteArray} {u : Unit} (h : d.write p bytes = (.ok u, d')) :
    d'.node? (p.resolve d.home) = some (.file bytes) := by
  have hw := d.write_writes p bytes
  rw [h] at hw
  cases hw with
  | done hopen _ => exact hopen.place_eq ▸ node?_put_self d.tried _ _ hopen.ne_root

end Disk
end Cutroom
