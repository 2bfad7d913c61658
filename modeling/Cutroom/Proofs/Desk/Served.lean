import Cutroom.Proofs.Desk.Operation

/-! What lasts through the requests to a service lasts through the operations of an editor (`Editor.step_lasts`), since an
    editor does nothing else to its service. -/

namespace Cutroom

variable {σ : Type} [JobService σ]

/-- What holds of a service lasts through all requests, with the exception of prompts. --/
structure Lasts (P : σ → Prop) : Prop where
  upload : ∀ {s : σ} (file : UploadFile), P s → P (JobService.upload s file).2
  status : ∀ {s : σ} (job : JobId), P s → P (JobService.status s job).2
  download : ∀ {s : σ} (job : JobId) (options : Option ExportOptions), P s → P (JobService.download s job options).2
  history : ∀ {s : σ}, P s → P (JobService.history s).2

namespace Lasts

variable {P : σ → Prop}

/-! ### The poll -/

theorem verdict (hP : Lasts P) (job : JobId) (report : StatusReport) {s : σ} (h : P s) :
    P (Poll.verdict job report s).2 := by
  rw [Poll.verdict_service]
  split
  · exact hP.download job none h
  · exact h

omit [JobService σ] in
theorem goOn_service (p : Poll) (s : σ) (learned : JobEvent) (failures : Nat) :
    (p.goOn s learned failures).service = s := by
  unfold Poll.goOn
  split <;> rfl

theorem turn (hP : Lasts P) (p : Poll) (listening : Bool) {s : σ} (h : P s) : P (p.turn listening s).service := by
  have hstatus := hP.status p.job h
  unfold Poll.turn
  split
  · exact h
  · rcases hs : JobService.status s p.job with ⟨answer, s'⟩
    rw [hs] at hstatus
    cases listening with
    | false => exact hstatus
    | true =>
      cases answer with
      | error e =>
        simp only [if_true, goOn_service]
        exact hstatus
      | ok report =>
        have hverdict := hP.verdict p.job report hstatus
        simp only [if_true]
        rcases hv : Poll.verdict p.job report s' with ⟨_ | final, s''⟩ <;> rw [hv] at hverdict
        · simp only [goOn_service]
          exact hverdict
        · exact hverdict

theorem turns (hP : Lasts P) (fuel : Nat) (moment : Wait) {w : Watch σ} (h : P w.service) :
    P (w.turns fuel moment).service := by
  induction fuel generalizing w with
  | zero => exact h
  | succ fuel ih =>
    cases hp : w.poll with
    | none => rwa [Watch.turns_of_idle hp]
    | some p =>
      rw [Watch.turns_of_running hp]
      split
      · exact ih (hP.turn p w.listening h)
      · exact h

theorem advance (hP : Lasts P) (moment : Wait) {w : Watch σ} (h : P w.service) : P (w.advance moment).service :=
  hP.turns _ _ h

theorem advanceToTurn (hP : Lasts P) {w : Watch σ} (h : P w.service) : P w.advanceToTurn.service := by
  unfold Watch.advanceToTurn
  split
  · exact hP.advance _ h
  · exact h

end Lasts

/-! ### The editor -/

namespace Editor

variable {P : σ → Prop} {e : Editor σ}

theorem settle_lasts (hP : Lasts P) (h : P e.watch.service) : P e.settle.watch.service := hP.advance _ h

theorem handle_lasts (hP : Lasts P) (event : JobEvent) (h : P e.watch.service) :
    P (e.handle event).watch.service := by
  unfold handle
  rcases e.session.apply event with ⟨_ | render, session⟩
  · exact h
  · have hwatch := finishRender_watch (settle { e with session := session }) render
    dsimp only
    rw [hwatch]
    exact settle_lasts hP (e := { e with session := session }) h

theorem takeUnread_lasts (hP : Lasts P) (h : P e.watch.service) : P e.takeUnread.2.watch.service := by
  unfold takeUnread
  split
  · exact h
  · exact handle_lasts hP _ h

theorem next_lasts (hP : Lasts P) (h : P e.watch.service) : P e.next.2.watch.service := by
  unfold next
  split
  · exact takeUnread_lasts hP (hP.advanceToTurn h)
  · exact takeUnread_lasts hP h

theorem waitFuel_lasts (hP : Lasts P) (fuel : Nat) (h : P e.watch.service) : P (e.waitFuel fuel).2.watch.service := by
  induction fuel generalizing e with
  | zero => exact h
  | succ fuel ih =>
    have hnext := next_lasts hP h
    unfold waitFuel
    rcases hn : e.next with ⟨_ | event, e'⟩ <;> rw [hn] at hnext
    · exact hnext
    · dsimp only
      split
      · exact hnext
      · exact ih hnext

theorem wait_lasts (hP : Lasts P) (h : P e.watch.service) : P e.wait.2.watch.service := waitFuel_lasts hP _ h

theorem upload_lasts (hP : Lasts P) (file : UploadFile) (h : P e.watch.service) :
    P (e.upload file).2.watch.service := by
  have hupload := hP.upload file h
  unfold upload
  rcases hs : JobService.upload e.watch.service file with ⟨_ | receipt, service⟩ <;> rw [hs] at hupload
  · exact hupload
  · exact hupload

theorem uploadPath_lasts (hP : Lasts P) (path : FilePath) (h : P e.watch.service) :
    P (e.uploadPath path).2.watch.service := by
  have hsettled := settle_lasts hP h
  unfold uploadPath
  dsimp only
  split
  · exact upload_lasts hP _ hsettled
  · exact hsettled

theorem openJob_lasts (hP : Lasts P) (job : JobId) (h : P e.watch.service) : P (e.openJob job).2.watch.service := by
  have hstatus := hP.status job h
  unfold openJob
  rcases hs : JobService.status e.watch.service job with ⟨_ | report, service⟩ <;> rw [hs] at hstatus
  · exact hstatus
  · exact hstatus

theorem sendPrompt_lasts (text : String) (hprompt : ∀ {s : σ} (job : JobId) (prompt : String), P s →
    P (JobService.submitPrompt s job prompt).2) (h : P e.watch.service) : P (e.sendPrompt text).2.watch.service := by
  unfold sendPrompt
  split
  · exact h
  · rename_i job session _
    have hsent := hprompt job (Text.trim text) h
    split <;> rename_i hs <;> rw [hs] at hsent
    · exact hsent
    · exact hsent

theorem awaits_lasts (hP : Lasts P) (h : P e.watch.service) : ∀ pause, P (e.awaits pause).watch.service
  | none => h
  | some _ => hP.advance _ h

theorem ask_lasts (hP : Lasts P) (text : String) (h : P e.watch.service) : P (e.ask text).2.watch.service := by
  unfold ask
  dsimp only
  split
  · exact h
  · split <;> exact awaits_lasts (e := e.asking (Text.trim text)) hP h _

theorem exportVideo_lasts (hP : Lasts P) (options : ExportOptions) (target : Option FilePath)
    (h : P e.watch.service) : P (e.exportVideo options target).2.watch.service := by
  unfold exportVideo
  split
  · exact h
  · rename_i job _
    have hdownload := hP.download job.id (some options) h
    rcases hs : JobService.download e.watch.service job.id (some options) with ⟨_ | bytes, service⟩ <;>
      rw [hs] at hdownload
    · exact hdownload
    · have hsettled := settle_lasts hP (e := e.withService service) hdownload
      dsimp only
      split
      · exact hsettled
      · exact hsettled

omit [JobService σ] in
theorem cancelPoll_service (e : Editor σ) : e.cancelPoll.2.watch.service = e.watch.service := by
  rw [cancelPoll_eq]
  split <;> rfl

/-- What lasts through the requests lasts through every operation that sends no prompt. --/
theorem step_lasts (hP : Lasts P) {op : Op} (hop : ∀ text, op ≠ .sendPrompt text) (h : P e.watch.service) :
    P (e.step op).watch.service := by
  cases op with
  | upload file => exact upload_lasts hP file h
  | uploadPath path => exact uploadPath_lasts hP path h
  | openJob job => exact openJob_lasts hP job h
  | sendPrompt text => exact (hop text rfl).elim
  | ask text => exact ask_lasts hP text h
  | next => exact next_lasts hP h
  | wait => exact wait_lasts hP h
  | cancelPoll =>
    rw [step, cancelPoll_service]
    exact h
  | exportVideo options target => exact exportVideo_lasts hP options target h
  | history => exact hP.history h
  | sleep wait => exact hP.advance _ h
  | disk disk => exact h

end Editor
end Cutroom
