import Cutroom.Job.Status
import Cutroom.Proofs.Storage.Resolved

/-! Names of files that begin with the identifier of a job. What such a name leads to behind a directory is told by the
    identifier alone: it stays below the directory, whichever that is, exactly if the identifier is no absolute path and
    no step of it leads out (`JobId.Contained`, `FilePath.child_below_iff`). -/

namespace Cutroom

namespace JobId

/-- The directories that an identifier passes as the beginning of a path. --/
def directories (job : JobId) : List String :=
  (((job.text.toList.splitOn '/').dropLast).filter fun part => !part.isEmpty).map String.ofList

/-- As the beginning of a path, the identifier does not leave the directory where it starts. --/
def Contained (job : JobId) : Prop :=
  job.text.toList.head? ≠ some '/' ∧ (Location.descend? [] job.directories).isSome = true

instance (job : JobId) : Decidable job.Contained := inferInstanceAs (Decidable (_ ∧ _))

end JobId

namespace FilePath
open Location

/-- What a name has behind the identifier of a job: no slash, and too much for the name to be dots alone. --/
structure Tail (tail : String) : Prop where
  slash : '/' ∉ tail.toList
  long : 2 < tail.toList.length

variable {job : JobId} {tail : String}

theorem isAbsolute_named (ht : Tail tail) :
    (⟨job.text ++ tail⟩ : FilePath).isAbsolute = true ↔ job.text.toList.head? = some '/' := by
  unfold isAbsolute
  rw [String.toList_append, List.head?_append, beq_iff_eq]
  cases hjob : job.text.toList with
  | cons c cs => exact Iff.rfl
  | nil =>
    obtain ⟨c, cs, hcs⟩ := List.exists_cons_of_ne_nil (List.ne_nil_of_length_pos (Nat.lt_trans Nat.two_pos ht.long))
    have hne : c ≠ '/' := fun hc => ht.slash (hcs ▸ hc ▸ List.mem_cons_self)
    simp [hcs, hne]

theorem parts_named (job : JobId) (ht : Tail tail) : ∃ name, name ≠ "." ∧ name ≠ ".." ∧
    (⟨job.text ++ tail⟩ : FilePath).parts = job.directories ++ [name] := by
  obtain ⟨init, last, hjob, hnamed⟩ := splitOn_append ht.slash job.text.toList
  have hlong : 2 < (last ++ tail.toList).length := by
    rw [List.length_append]
    exact Nat.lt_add_left _ ht.long
  have hne : last ++ tail.toList ≠ [] := List.ne_nil_of_length_pos (Nat.lt_trans Nat.two_pos hlong)
  have hdots : ∀ dots : String, dots.toList.length ≤ 2 → String.ofList (last ++ tail.toList) ≠ dots := by
    rintro dots hshort rfl
    rw [String.toList_ofList] at hshort
    omega
  refine ⟨String.ofList (last ++ tail.toList), hdots "." (by decide), hdots ".." (by decide), ?_⟩
  rw [parts_eq, String.toList_append, pieces, hnamed, JobId.directories, hjob, List.dropLast_concat]
  simp [hne]

/-- A name with a contained identifier leads to the same place below every directory. --/
theorem resolve_child_of_contained (ht : Tail tail) (hjob : job.Contained) :
    ∃ below, below ≠ [] ∧ ∀ (dir : FilePath) (home : Location),
      (dir.child (job.text ++ tail)).resolve home = dir.resolve home ++ below := by
  obtain ⟨hrelative, hstays⟩ := hjob
  obtain ⟨below, hbelow⟩ := Option.isSome_iff_exists.mp hstays
  obtain ⟨name, hdot, hup, hparts⟩ := parts_named job ht
  have hp : (⟨job.text ++ tail⟩ : FilePath).isAbsolute = false :=
    eq_false_of_ne_true fun h => hrelative ((isAbsolute_named ht).mp h)
  refine ⟨below ++ [name], by simp, fun dir home => ?_⟩
  have hdirectories := follow_of_descend? (dir.resolve home) hbelow
  rw [List.append_nil] at hdirectories
  calc (dir.child (job.text ++ tail)).resolve home
      = (dir.resolve home).follow (job.directories ++ [name]) := by rw [child, resolve_join hp, hparts]
    _ = (dir.resolve home ++ below).follow [name] := by rw [follow_append, hdirectories]
    _ = dir.resolve home ++ below ++ [name] := enter_of_name hdot hup _
    _ = dir.resolve home ++ (below ++ [name]) := List.append_assoc ..

/-- A name with an identifier that is not contained leads out of every directory whose own name it does not tell. --/
theorem not_below_of_not_contained (ht : Tail tail) (hjob : ¬ job.Contained) {dir : FilePath} {home base : Location}
    {d : String} (hdir : dir.resolve home = base ++ [d]) (hd : d ∉ (⟨job.text ++ tail⟩ : FilePath).parts) :
    ¬ Below (dir.resolve home) ((dir.child (job.text ++ tail)).resolve home) := by
  suffices hout : ¬ base ++ [d] <+: (dir.child (job.text ++ tail)).resolve home by
    rintro ⟨below, -, hbelow⟩
    exact hout (hdir ▸ hbelow ▸ List.prefix_append _ _)
  by_cases habsolute : (⟨job.text ++ tail⟩ : FilePath).isAbsolute = true
  · rw [child, resolve_join_of_absolute habsolute]
    exact not_prefix_follow hd fun hp => by simpa using hp.length_le
  · have hstarts : job.text.toList.head? ≠ some '/' := fun h => habsolute ((isAbsolute_named ht).mpr h)
    have hleaves : descend? [] job.directories = none := by
      cases hg : descend? [] job.directories with
      | none => rfl
      | some below => exact absurd ⟨hstarts, by rw [hg]; rfl⟩ hjob
    obtain ⟨name, -, -, hparts⟩ := parts_named job ht
    rw [hparts] at hd
    obtain ⟨hdirectories, hname⟩ := not_or.mp (mt List.mem_append.mpr hd)
    have hnot := not_prefix_follow_of_descend? base hdirectories hleaves
    rw [child, resolve_join (eq_false_of_ne_true habsolute), hparts, hdir, follow_append]
    rw [List.append_nil] at hnot
    exact not_prefix_follow hname hnot

theorem exists_fresh_name (names : List String) : ∃ d : String, d ∉ names ∧ d.toList ≠ [] ∧ '/' ∉ d.toList := by
  have hlonger : ∃ n, ∀ name ∈ names, name.toList.length ≤ n := by
    induction names with
    | nil => exact ⟨0, fun _ h => by cases h⟩
    | cons name rest ih =>
      obtain ⟨n, hn⟩ := ih
      refine ⟨name.toList.length + n, fun other ho => ?_⟩
      rcases List.mem_cons.mp ho with rfl | ho
      · exact Nat.le_add_right _ _
      · exact Nat.le_trans (hn other ho) (Nat.le_add_left _ _)
  obtain ⟨n, hn⟩ := hlonger
  refine ⟨String.ofList (List.replicate (n + 1) 'd'), fun hd => ?_, ?_, ?_⟩
  · have hlength := hn _ hd
    rw [String.toList_ofList, List.length_replicate] at hlength
    omega
  · simp
  · simp [List.mem_replicate]

/-- Names that begin with an identifier stay below every directory exactly if the identifier is contained. --/
theorem child_below_iff (ht : Tail tail) (home : Location) :
    (∀ dir : FilePath, Below (dir.resolve home) ((dir.child (job.text ++ tail)).resolve home)) ↔ job.Contained := by
  constructor
  · intro hbelow
    obtain ⟨d, hd, hne, hslash⟩ := exists_fresh_name ("." :: ".." :: (⟨job.text ++ tail⟩ : FilePath).parts)
    simp only [List.mem_cons, not_or] at hd
    obtain ⟨hdot, hup, hparts⟩ := hd
    have hdir : (⟨"/" ++ d⟩ : FilePath).resolve home = [] ++ [d] := by
      have hpieces : (⟨"/" ++ d⟩ : FilePath).parts = [d] := by
        have htext : ("/" ++ d).toList = [] ++ '/' :: d.toList := by simp
        rw [parts_eq, htext, pieces_slash, pieces_of_name hne hslash, String.ofList_toList]
        rfl
      have habsolute : (⟨"/" ++ d⟩ : FilePath).isAbsolute = true := by simp [isAbsolute]
      rw [resolve, habsolute, if_pos rfl, hpieces]
      exact enter_of_name hdot hup []
    exact Decidable.of_not_not fun hjob => not_below_of_not_contained ht hjob hdir hparts (hbelow _)
  · intro hjob dir
    obtain ⟨below, hne, hresolve⟩ := resolve_child_of_contained ht hjob
    exact ⟨below, hne, hresolve dir home⟩

end FilePath

end Cutroom
