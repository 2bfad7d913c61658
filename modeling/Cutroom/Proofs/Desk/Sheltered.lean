import Cutroom.Proofs.Decimal.Numerals
import Cutroom.Proofs.Desk.Operation
import Cutroom.Proofs.Job.Contained
import Cutroom.Storage.Stamp

/-! Whether the videos that an editor writes lie in its directory for them. Of its own accord an operation writes files
    of no other names than those that begin with the identifier of the job (`Editor.step_grown`), and these are in the
    directory, whichever that is, exactly if the identifier is contained (`Editor.shelters_iff_contained`). -/

namespace Cutroom

/-! ### Names of videos -/

theorem Decimal.slash_not_mem_padded (width n : Nat) : '/' ∉ padded width n := fun h =>
  absurd (isDigit_of_mem_padded h) (by decide)

theorem Stamp.slash_not_mem_text (milliseconds : Nat) : '/' ∉ (text milliseconds).toList := by
  -- The definition is opened as a function: at a moment that is not known, the date would be computed on the way.
  have hchars : chars = chars := rfl
  conv at hchars => rhs; delta chars
  rw [text, String.toList_ofList, hchars]
  dsimp -iota only
  generalize date (milliseconds / 1000 / 86400) = written
  obtain ⟨year, month, day⟩ := written
  simp [Decimal.slash_not_mem_padded]

namespace Editor
open Location

variable {σ : Type}

/-- Moments are written without a slash. --/
def PlainStamps (e : Editor σ) : Prop := ∀ now, '/' ∉ (e.stamp now).toList

/-- A path leads to a place in the directory for videos. --/
def Shelters (e : Editor σ) (path : FilePath) : Prop :=
  Below (e.rendersDir.resolve e.disk.home) (path.resolve e.disk.home)

/-- Where a video of the present job may be. --/
def Named (e : Editor σ) (place : Location) : Prop :=
  ∃ job tail, e.session.job.map Job.id = some job ∧ FilePath.Tail tail ∧
    place = (e.rendersDir.child (job.text ++ tail)).resolve e.disk.home

theorem renderPath_eq {e : Editor σ} (hstamp : e.PlainStamps) (job : JobId) :
    ∃ tail, FilePath.Tail tail ∧ ∀ dir, renderPath { e with rendersDir := dir } job = dir.child (job.text ++ tail) := by
  refine ⟨"-" ++ e.stamp e.watch.now ++ ".mp4", ⟨?_, ?_⟩, fun dir => ?_⟩
  · simp [hstamp e.watch.now]
  · simp only [String.toList_append, List.length_append]
    have hlast : ".mp4".toList.length = 4 := by decide
    omega
  · simp only [renderPath, String.append_assoc]

theorem exportPath_eq (options : ExportOptions) : ∃ tail, FilePath.Tail tail ∧ ∀ (e : Editor σ) (job : JobId),
    e.exportPath job options = e.rendersDir.child (job.text ++ tail) := by
  refine ⟨"-export-" ++ options.resolution.text ++ "." ++ options.format.text, ?_, fun e job => ?_⟩
  · obtain ⟨format, resolution⟩ := options
    cases format <;> cases resolution <;> exact ⟨by decide, by decide⟩
  · simp only [exportPath, String.append_assoc]

/-! ### What is written -/

/-- Storing a video makes directories first, and then writes one file if they are there. --/
theorem store_cases (e : Editor σ) (render : PendingRender) :
    ∃ tree, Disk.Furnished e.disk tree ∧
      ((∃ err, e.store render = (.error err, tree)) ∨
        ∃ outcome written, tree.write (e.renderPath render.job) render.video = (outcome, written) ∧
          e.store render = (outcome.map fun _ => e.renderPath render.job, written)) := by
  have htree := e.disk.ensureTree_furnished e.rendersDir
  unfold store
  rcases ht : e.disk.ensureTree e.rendersDir with ⟨err | _, tree⟩ <;> rw [ht] at htree
  · exact ⟨tree, htree, .inl ⟨err, rfl⟩⟩
  · rcases hw : tree.write (e.renderPath render.job) render.video with ⟨err | _, written⟩
    · exact ⟨tree, htree, .inr ⟨.error err, written, hw, by simp only [hw]; rfl⟩⟩
    · exact ⟨tree, htree, .inr ⟨.ok (), written, hw, by simp only [hw]; rfl⟩⟩

theorem store_grown (e : Editor σ) (render : PendingRender) :
    Disk.Grown (· = (e.renderPath render.job).resolve e.disk.home) e.disk (e.store render).2 := by
  obtain ⟨tree, htree, ⟨err, hs⟩ | ⟨outcome, written, hw, hs⟩⟩ := e.store_cases render <;> rw [hs]
  · exact htree.grown _
  · have hgrown := htree.grown (· = (e.renderPath render.job).resolve e.disk.home)
    have hwritten := tree.write_grown (e.renderPath render.job) render.video
    rw [hw, hgrown.home] at hwritten
    exact hgrown.trans hwritten

theorem store_place {e : Editor σ} {render : PendingRender} {path : FilePath} (h : (e.store render).1 = .ok path) :
    path = e.renderPath render.job ∧
      (e.store render).2.node? (path.resolve e.disk.home) = some (.file render.video) := by
  obtain ⟨tree, htree, ⟨err, hs⟩ | ⟨outcome, written, hw, hs⟩⟩ := e.store_cases render <;> rw [hs] at h ⊢
  · cases h
  · rcases outcome with err | u <;> cases h
    exact ⟨rfl, (htree.grown fun _ => False).home ▸ Disk.write_place hw⟩

theorem writeFile_grown (d : Disk) (path : FilePath) (bytes : ByteArray) :
    Disk.Grown (· = path.resolve d.home) d (writeFile d path bytes).2 := by
  unfold writeFile
  have htree := d.ensureParent_grown (· = path.resolve d.home) path
  rcases ht : d.ensureParent path with ⟨_ | _, tree⟩
  · rwa [ht] at htree
  · rw [ht] at htree
    have hwritten := tree.write_grown path bytes
    rw [htree.home] at hwritten
    exact htree.trans hwritten

theorem finishRender_disk (e : Editor σ) (render : PendingRender) :
    (e.finishRender render).disk = (e.store render).2 := by
  unfold finishRender
  split <;> rename_i hs <;> rw [hs]

theorem renderPath_named {e : Editor σ} (hstamp : e.PlainStamps) {job : JobId}
    (hjob : e.session.job.map Job.id = some job) : e.Named ((e.renderPath job).resolve e.disk.home) := by
  obtain ⟨tail, htail, hpath⟩ := renderPath_eq hstamp job
  exact ⟨job, tail, hjob, htail, congrArg (fun path => FilePath.resolve path e.disk.home) (hpath e.rendersDir)⟩

theorem exportPath_named (e : Editor σ) (options : ExportOptions) {job : JobId}
    (hjob : e.session.job.map Job.id = some job) : e.Named ((e.exportPath job options).resolve e.disk.home) := by
  obtain ⟨tail, htail, hpath⟩ := exportPath_eq (σ := σ) options
  exact ⟨job, tail, hjob, htail, congrArg (fun path => FilePath.resolve path e.disk.home) (hpath e job)⟩

variable [JobService σ]

theorem handle_grown {e : Editor σ} (hstamp : e.PlainStamps) (event : JobEvent) :
    Disk.Grown e.Named e.disk (e.handle event).disk := by
  cases hc : e.session.isCurrent event.job with
  | false =>
    rw [handle_of_stale e hc]
    exact .refl _ _
  | true =>
    cases event with
    | completed job reply video =>
      have hcurrent : e.session.isCurrent job = true := hc
      rw [handle_completed e hcurrent, finishRender_disk]
      refine (store_grown e.settle ⟨job, reply, video⟩).mono ?_
      rintro place rfl
      exact renderPath_named (e := e.settle) hstamp (Session.isCurrent_iff.mp hcurrent)
    | status | chatOnly | failed | pollError | refreshFailed | timedOut => exact .refl _ _

theorem next_cases (e : Editor σ) : (∃ w, e.next = (none, { e with watch := w })) ∨
    ∃ event w, e.next = (some event, handle { e with watch := w } event) := by
  have htake : ∀ w : Watch σ, (∃ v, takeUnread { e with watch := w } = (none, { e with watch := v })) ∨
      ∃ event v, takeUnread { e with watch := w } = (some event, handle { e with watch := v } event) := by
    intro w
    cases hu : w.unread with
    | nil => exact .inl ⟨w, by simp only [takeUnread, hu]⟩
    | cons event rest => exact .inr ⟨event, { w with unread := rest }, by simp only [takeUnread, hu]⟩
  unfold next
  split
  · exact htake _
  · exact htake e.watch

theorem next_grown {e : Editor σ} (hstamp : e.PlainStamps) : Disk.Grown e.Named e.disk e.next.2.disk := by
  rcases e.next_cases with ⟨w, hn⟩ | ⟨event, w, hn⟩ <;> rw [hn]
  · exact .refl _ _
  · exact handle_grown (e := { e with watch := w }) hstamp event

theorem waitFuel_grown (fuel : Nat) {e : Editor σ} (hstamp : e.PlainStamps) :
    Disk.Grown e.Named e.disk (e.waitFuel fuel).2.disk := by
  -- Only the event that ends the loop can bring a video; the readings before it leave the job and the disk alone.
  induction fuel generalizing e with
  | zero => exact .refl _ _
  | succ fuel ih =>
    have hnext := next_grown hstamp
    rcases e.next_cases with ⟨w, hn⟩ | ⟨event, w, hn⟩
    · simp only [waitFuel, hn]
      exact .refl _ _
    · cases hf : event.isFinal with
      | true =>
        simp only [waitFuel, hn, hf, if_true]
        rwa [hn] at hnext
      | false =>
        simp only [waitFuel, hn, hf, Bool.false_eq_true, if_false]
        rw [handle_reading _ hf]
        have hrest := ih (e := { e with watch := w, session := (e.session.apply event).2 }) hstamp
        refine hrest.mono ?_
        rintro place ⟨job, tail, hjob, hplace⟩
        exact ⟨job, tail, (e.session.apply_reading hf).2.job ▸ hjob, hplace⟩

theorem exportVideo_grown (e : Editor σ) (options : ExportOptions) :
    Disk.Grown e.Named e.disk (e.exportVideo options none).2.disk := by
  unfold exportVideo
  split
  · exact .refl _ _
  · rename_i job hjob
    split
    · exact .refl _ _
    · rename_i bytes service _
      have hnamed : e.Named ((e.exportPath job.id options).resolve e.disk.home) :=
        e.exportPath_named options (congrArg (Option.map Job.id) hjob)
      have hwrite := (writeFile_grown e.disk (e.exportPath job.id options) bytes).mono fun place hplace =>
        Eq.subst (motive := e.Named) hplace.symm hnamed
      simp only [settle, sleep, withService, exportPath, Option.getD_none] at hwrite ⊢
      generalize writeFile e.disk _ bytes = outcome at hwrite ⊢
      rcases outcome with ⟨_ | _, disk⟩
      · exact hwrite
      · exact hwrite

theorem upload_disk (e : Editor σ) (file : UploadFile) : (e.upload file).2.disk = e.disk := by
  unfold upload
  split <;> rfl

theorem uploadPath_disk (e : Editor σ) (path : FilePath) : (e.uploadPath path).2.disk = e.disk := by
  unfold uploadPath
  dsimp only
  split
  · exact upload_disk e.settle _
  · rfl

theorem openJob_disk (e : Editor σ) (job : JobId) : (e.openJob job).2.disk = e.disk := by
  unfold openJob
  split <;> rfl

theorem sendPrompt_disk (e : Editor σ) (text : String) : (e.sendPrompt text).2.disk = e.disk := by
  unfold sendPrompt
  split
  · rfl
  · split <;> rfl

theorem awaits_disk (e : Editor σ) : ∀ pause, (e.awaits pause).disk = e.disk
  | none => rfl
  | some _ => rfl

theorem ask_disk (e : Editor σ) (text : String) : (e.ask text).2.disk = e.disk := by
  unfold ask
  dsimp only
  split
  · rfl
  · split <;> exact awaits_disk (e.asking (Text.trim text)) _

omit [JobService σ] in
theorem cancelPoll_disk (e : Editor σ) : e.cancelPoll.2.disk = e.disk := by
  rw [cancelPoll_eq]
  split <;> rfl

/-- The operation brings no disk and no path of its own. --/
def Op.Unaimed : Op → Prop
  | .disk _ | .exportVideo _ (some _) => False
  | _ => True

/-- All files that an operation writes of its own accord have names that begin with the identifier of the job. --/
theorem step_grown {e : Editor σ} (hstamp : e.PlainStamps) {op : Op} (hop : op.Unaimed) :
    Disk.Grown e.Named e.disk (e.step op).disk := by
  have same := Disk.Grown.refl e.Named e.disk
  cases op with
  | upload file => simpa only [step, upload_disk] using same
  | uploadPath path => simpa only [step, uploadPath_disk] using same
  | openJob job => simpa only [step, openJob_disk] using same
  | sendPrompt text => simpa only [step, sendPrompt_disk] using same
  | ask text => simpa only [step, ask_disk] using same
  | next => exact next_grown hstamp
  | wait => exact waitFuel_grown _ hstamp
  | cancelPoll => simpa only [step, cancelPoll_disk] using same
  | exportVideo options target =>
    cases target with
    | none => exact e.exportVideo_grown options
    | some path => exact hop.elim
  | history => exact same
  | sleep wait => exact same
  | disk disk => exact hop.elim

/-- The editor with another directory for videos. --/
def renderingTo (e : Editor σ) (dir : FilePath) : Editor σ := { e with rendersDir := dir }

/-- The paths of stored and of exported videos of a job lead into the directory for them, whichever that is, exactly if
    the identifier of the job is contained. An operation on a job with such an identifier writes no file elsewhere of
    its own accord, and a video that is stored is at its path. --/
theorem shelters_iff_contained {e : Editor σ} (hstamp : e.PlainStamps) (job : JobId) (options : ExportOptions) :
    ((∀ dir, (e.renderingTo dir).Shelters ((e.renderingTo dir).renderPath job)) ↔ job.Contained) ∧
      ((∀ dir, (e.renderingTo dir).Shelters ((e.renderingTo dir).exportPath job options)) ↔ job.Contained) ∧
      (∀ op : Op, op.Unaimed → (∀ j, e.session.job = some j → j.id.Contained) → ∀ place bytes,
        (e.step op).disk.node? place = some (.file bytes) →
          e.disk.node? place = some (.file bytes) ∨ Below (e.rendersDir.resolve e.disk.home) place) ∧
      (∀ render path, (e.store render).1 = .ok path → path = e.renderPath render.job ∧
        (e.store render).2.node? (path.resolve e.disk.home) = some (.file render.video)) := by
  refine ⟨?_, ?_, fun op hop hcontained place bytes hfile => ?_, fun render path => store_place⟩
  · obtain ⟨tail, htail, hpath⟩ := renderPath_eq hstamp job
    rw [← FilePath.child_below_iff htail e.disk.home]
    exact forall_congr' fun dir => by rw [Shelters, renderingTo, hpath]
  · obtain ⟨tail, htail, hpath⟩ := exportPath_eq (σ := σ) options
    rw [← FilePath.child_below_iff htail e.disk.home]
    exact forall_congr' fun dir => by rw [Shelters, renderingTo, hpath]
  · refine ((step_grown hstamp hop).files place bytes hfile).imp_right ?_
    rintro ⟨id, tail, hid, htail, rfl⟩
    obtain ⟨j, hj, rfl⟩ := Option.map_eq_some_iff.mp hid
    exact (FilePath.child_below_iff htail e.disk.home).mpr (hcontained j hj) e.rendersDir

/-- A rehearsed editor whose videos are named by the time. --/
def stamped : Editor (Recorded Script) :=
  { rehearsal [.ok (.ofStatus .completed)] with stamp := fun wait => Stamp.text (wait / Nat.pow 10 6) }

theorem stamped_plainStamps : stamped.PlainStamps := by
  have hstamp : stamped.stamp = fun wait => Stamp.text (wait / Nat.pow 10 6) := rfl
  intro now
  rw [hstamp]
  exact Stamp.slash_not_mem_text _

theorem shelters_iff_contained_of_rehearsal : stamped.PlainStamps ∧ Script.job.Contained ∧ ∀ dir,
    (stamped.renderingTo dir).Shelters ((stamped.renderingTo dir).renderPath Script.job) ∧
      (stamped.renderingTo dir).Shelters ((stamped.renderingTo dir).exportPath Script.job .standard) := by
  have hjob : Script.job.Contained := by decide
  obtain ⟨hrender, hexport, -⟩ := shelters_iff_contained stamped_plainStamps Script.job .standard
  exact ⟨stamped_plainStamps, hjob, fun dir => ⟨hrender.mpr hjob dir, hexport.mpr hjob dir⟩⟩

/-- A job whose identifier leads out of the directory for videos. --/
def outside : JobId := ⟨"../outside"⟩

/-- An editor that works on such a job. --/
def outsideEdit : Editor (Recorded Script) := (rehearsal [.ok (.ofStatus .completed)]).step (.openJob outside)

/-- Its videos go beside the directory for them; an export is written there indeed. --/
theorem outside_not_sheltered :
    Reachable outsideEdit ∧ outsideEdit.PlainStamps ∧ ¬ outsideEdit.Shelters (outsideEdit.renderPath outside) ∧
      ¬ outsideEdit.Shelters (outsideEdit.exportPath outside .standard) ∧
      (outsideEdit.exportVideo .standard none).1.toBool = true ∧
      ((outsideEdit.exportVideo .standard none).2.disk.read ⟨"/outside-export-1080p.mp4"⟩).toBool = true := by
  have hr : Reachable outsideEdit := (rehearsal_reachable _).step (.openJob outside)
  have hstamps : outsideEdit.PlainStamps := by
    have hnow : '/' ∉ "now".toList := by decide
    exact fun _ => hnow
  have hleaves : ¬ outside.Contained := by decide
  have hdir : outsideEdit.rendersDir.resolve outsideEdit.disk.home = [] ++ ["renders"] := by decide
  have hout : ∀ tail, FilePath.Tail tail → "renders" ∉ (⟨outside.text ++ tail⟩ : FilePath).parts →
      ¬ outsideEdit.Shelters (outsideEdit.rendersDir.child (outside.text ++ tail)) :=
    fun tail htail => FilePath.not_below_of_not_contained htail hleaves hdir
  refine ⟨hr, hstamps, ?_, ?_, by decide +kernel, by decide +kernel⟩
  · exact hout "-now.mp4" ⟨by decide, by decide⟩ (by decide)
  · exact hout "-export-1080p.mp4" ⟨by decide, by decide⟩ (by decide)

end Editor
end Cutroom
