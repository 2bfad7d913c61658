import Cutroom.Job.Record
import Cutroom.Proofs.Text.Normal
import Mathlib.Data.List.Induction

/-! What becomes of the reports of the service (`Job.reports_understood`). The text of a state counts by its normal form
    where that is one of five names (`JobStatus.ofText_eq_iff`), and is kept as it came otherwise. A job that has taken
    over a row of reports stands as the last one says, and has of every other field the last value that a report gave
    (`Job.foldl_observe`). -/

namespace Cutroom
open Text (NormalForm normalForm_iff)

/-! ### The text of a state -/

namespace JobStatus

variable {s name : String} {status other : JobStatus}

/-- The states that are known, under their names. --/
inductive Named : String → JobStatus → Prop
  | queued : Named "QUEUED" .queued
  | processing : Named "PROCESSING" .processing
  | completed : Named "COMPLETED" .completed
  | chatOnly : Named "CHAT_ONLY" .chatOnly
  | failed : Named "FAILED" .failed

/-- What a text says about the state of a job. --/
inductive Reads (s : String) : JobStatus → Prop
  | known {name : String} {status : JobStatus} (hform : NormalForm s name) (hname : Named name status) : Reads s status
  | other (hnone : ∀ name status, NormalForm s name → ¬ Named name status) : Reads s (.other s)

theorem known?_eq_some_iff : known? name = some status ↔ Named name status := by
  constructor
  · intro h
    obtain ⟨before, after, hnames, -⟩ := List.lookup_eq_some_iff.mp h
    have hmem : (name, status) ∈ before ++ (name, status) :: after := List.mem_append_right _ List.mem_cons_self
    rw [← hnames] at hmem
    simp only [List.mem_cons, Prod.mk.injEq, List.not_mem_nil, or_false] at hmem
    rcases hmem with ⟨rfl, rfl⟩ | ⟨rfl, rfl⟩ | ⟨rfl, rfl⟩ | ⟨rfl, rfl⟩ | ⟨rfl, rfl⟩
    · exact .queued
    · exact .processing
    · exact .completed
    · exact .chatOnly
    · exact .failed
  · intro h
    cases h
    all_goals rfl

theorem Named.unique (h : Named name status) (hother : Named name other) : status = other := by
  rw [← known?_eq_some_iff] at h hother
  exact Option.some.inj (h.symm.trans hother)

theorem ofText_reads (s : String) : Reads s (ofText s) := by
  have hform : NormalForm s (Text.upper (Text.trim s)) := normalForm_iff.mpr rfl
  unfold ofText
  cases h : known? (Text.upper (Text.trim s)) with
  | some status => exact .known hform (known?_eq_some_iff.mp h)
  | none =>
    refine .other fun name status hname hnamed => ?_
    rw [normalForm_iff.mp hname, known?_eq_some_iff.mpr hnamed] at h
    cases h

theorem Reads.unique (h : Reads s status) (hother : Reads s other) : status = other := by
  cases h with
  | known hform hname =>
    cases hother with
    | known hform' hname' =>
      obtain rfl := (normalForm_iff.mp hform).symm.trans (normalForm_iff.mp hform')
      exact hname.unique hname'
    | other hnone => exact absurd hname (hnone _ _ hform)
  | other hnone =>
    cases hother with
    | known hform hname => exact absurd hname (hnone _ _ hform)
    | other _ => rfl

theorem ofText_eq_iff : ofText s = status ↔ Reads s status := by
  constructor
  · rintro rfl
    exact ofText_reads s
  · exact (ofText_reads s).unique

/-- A state that was read is written as the name that it was read from, or as the whole text. --/
theorem Reads.text (h : Reads s status) : NormalForm s status.text ∨ status = .other s := by
  cases h with
  | known hform hname =>
    cases hname
    all_goals exact .inl hform
  | other _ => exact .inr rfl

theorem ofText_text (s : String) : ofText (ofText s).text = ofText s := by
  -- A name is its own normal form; a text that was kept is read as before.
  have h := ofText_reads s
  generalize ofText s = status at h
  cases h with
  | known _ hname =>
    cases hname
    all_goals rfl
  | other hnone => exact ofText_eq_iff.mpr (.other hnone)

/-! ### Terminal states -/

/-- The names of the states after which nothing more is expected. --/
def terminalNames : List String := ["COMPLETED", "CHAT_ONLY", "FAILED"]

theorem Named.isTerminal_iff (h : Named name status) : status.isTerminal = true ↔ name ∈ terminalNames := by
  cases h
  all_goals decide

theorem exists_named (h : name ∈ terminalNames) : ∃ status, Named name status := by
  simp only [terminalNames, List.mem_cons, List.not_mem_nil, or_false] at h
  rcases h with rfl | rfl | rfl
  · exact ⟨_, .completed⟩
  · exact ⟨_, .chatOnly⟩
  · exact ⟨_, .failed⟩

theorem Reads.isTerminal_iff (h : Reads s status) :
    status.isTerminal = true ↔ ∃ name ∈ terminalNames, NormalForm s name := by
  cases h with
  | known hform hname =>
    rw [hname.isTerminal_iff]
    constructor
    · intro hmem
      exact ⟨_, hmem, hform⟩
    · rintro ⟨other, hmem, hother⟩
      rwa [← normalForm_iff.mp hform, normalForm_iff.mp hother]
  | other hnone =>
    constructor
    · intro h
      cases h
    · rintro ⟨name, hmem, hform⟩
      obtain ⟨status, hname⟩ := exists_named hmem
      exact absurd hname (hnone name status hform)

end JobStatus

/-! ### A row of reports -/

/-- With one report more, a field has the value that this one gives, if any, and else the value that it had. --/
theorem StatusReport.last_concat {α : Type} (given : StatusReport → Option α) (first : Option α)
    (reports : List StatusReport) (r : StatusReport) :
    ((reports ++ [r]).filterMap given).getLast?.or first =
      (given r).or ((reports.filterMap given).getLast?.or first) := by
  rw [List.filterMap_append]
  cases h : given r with
  | none => simp [h]
  | some value => simp [h]

theorem Job.foldl_observe (j : Job) (reports : List StatusReport) :
    reports.foldl Job.observe j =
      { id := j.id
        status := (reports.map StatusReport.status).getLast?.getD j.status
        duration := (reports.filterMap StatusReport.duration).getLast?.or j.duration
        prompt := (reports.filterMap StatusReport.prompt).getLast?.or j.prompt
        reply := (reports.filterMap StatusReport.reply).getLast?.or j.reply } := by
  -- From the end: each field of the job is settled by the last report, or else by the job before it.
  induction reports using List.reverseRecOn with
  | nil => rfl
  | append_singleton reports r ih =>
    rw [List.foldl_concat, ih, Job.observe]
    simp only [StatusReport.last_concat, List.map_append, List.map_cons, List.map_nil, List.getLast?_concat,
      Option.getD_some, Option.orElse_eq_orElse, Option.orElse_eq_or]

/-- Every text has one normal form, and says what `JobStatus.Reads` allows. Its state is written as that normal form if
    it is a known one and as the text itself if not, and is read again as it was, from a text or from a record. It is
    terminal exactly if the normal form is one of three names. A job that has taken over a row of reports has the state
    of the last one, or its own if there is none, and of each other field the last value given, or its own if none
    is. --/
theorem Job.reports_understood (s : String) (j : Job) (reports : List StatusReport) :
    (∃! name, NormalForm s name) ∧
      (∀ status, JobStatus.ofText s = status ↔ JobStatus.Reads s status) ∧
      (NormalForm s (JobStatus.ofText s).text ∨ JobStatus.ofText s = .other s) ∧
      JobStatus.ofText (JobStatus.ofText s).text = JobStatus.ofText s ∧
      JobStatus.ofJson? (JobStatus.ofText s).toJson = some (JobStatus.ofText s) ∧
      ((JobStatus.ofText s).isTerminal = true ↔ ∃ name ∈ JobStatus.terminalNames, NormalForm s name) ∧
      reports.foldl Job.observe j =
        { id := j.id
          status := (reports.map StatusReport.status).getLast?.getD j.status
          duration := (reports.filterMap StatusReport.duration).getLast?.or j.duration
          prompt := (reports.filterMap StatusReport.prompt).getLast?.or j.prompt
          reply := (reports.filterMap StatusReport.reply).getLast?.or j.reply } := by
  have hreads := JobStatus.ofText_reads s
  have hagain := JobStatus.ofText_text s
  have hunique : ∃! name, NormalForm s name := by
    simp only [normalForm_iff]
    exact existsUnique_eq'
  exact ⟨hunique, fun _ => JobStatus.ofText_eq_iff, hreads.text, hagain, congrArg some hagain, hreads.isTerminal_iff,
    j.foldl_observe reports⟩

example : JobStatus.ofText "\u2003chat_Only\n" = .chatOnly ∧ JobStatus.ofText " chat only" = .other " chat only" := by
  decide

end Cutroom
