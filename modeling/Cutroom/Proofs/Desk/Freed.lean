import Cutroom.Proofs.Desk.Processing

/-! What it takes to be free for a new edit. Waiting is given up while the poll runs: then the queue is dropped and
    the edit in progress is over (`Editor.cancelPoll_freed`). Once the poll has come to its end, giving up leaves all
    as it is, so that an edit whose end nobody has read stays in progress (`Editor.cancelPoll_freed_iff`). -/

namespace Cutroom
namespace Editor

variable {σ : Type}

/-- The editor awaits nothing: no poll runs, no event is unread and no edit is in progress. --/
structure Freed (e : Editor σ) : Prop where
  idle : e.isPolling = false
  unread : e.watch.unread = []
  processing : e.session.processing = false

theorem isPolling_eq_false_iff {e : Editor σ} : e.isPolling = false ↔ e.watch.poll = none := by
  simp [isPolling, Watch.isActive]

theorem cancelPoll_of_idle {e : Editor σ} (h : e.isPolling = false) : e.cancelPoll = (false, e) := by
  have hsame : e.watch.cancel = e.watch := by simp only [Watch.cancel, ← isPolling_eq_false_iff.mp h]
  simp only [cancelPoll_eq, h, hsame, Bool.false_eq_true, if_false]

theorem cancelPoll_freed {e : Editor σ} (h : e.isPolling = true) : Freed e.cancelPoll.2 := by
  simp only [cancelPoll_eq, h, if_true]
  constructor
  case idle => rfl
  case unread => rfl
  case processing =>
    show (e.session.editCancelled?.getD e.session).processing = false
    unfold Session.editCancelled?
    cases hp : e.session.processing with
    | true => rfl
    | false => exact hp

/-- An edit in progress without a poll has its end among the unread events. --/
theorem Attended.unread_ne_nil {e : Editor σ} (h : Attended e) (hidle : e.isPolling = false)
    (hp : e.session.processing = true) : e.watch.unread ≠ [] := by
  obtain ⟨job, -, ⟨p, hpoll, -⟩ | ⟨event, he, -⟩⟩ := h hp
  · rw [isPolling_eq_false_iff.mp hidle] at hpoll
    cases hpoll
  · exact List.ne_nil_of_mem he

theorem Attended.freed_iff {e : Editor σ} (h : Attended e) (hidle : e.isPolling = false) :
    Freed e ↔ e.watch.unread = [] := by
  refine ⟨Freed.unread, fun hu => ⟨hidle, hu, eq_false_of_ne_true fun hp => ?_⟩⟩
  exact h.unread_ne_nil hidle hp hu

variable [JobService σ]

/-- A prompt is refused for another edit exactly if one is in progress. --/
theorem sendPrompt_eq_busy_iff {e : Editor σ} {text : String} :
    (e.sendPrompt text).1 = .error .busy ↔ e.session.processing = true := by
  unfold sendPrompt Session.beginPrompt
  cases hp : e.session.processing with
  | true => simp
  | false =>
    dsimp only
    cases (Text.trim text).isEmpty with
    | true => simp
    | false =>
      cases e.session.job with
      | none => simp
      | some job =>
        simp only [Bool.false_eq_true, if_false]
        split <;> simp

/-- Giving up the wait frees an editor exactly if its poll still runs or it was free before, and a prompt is refused
    afterwards exactly if an edit is in progress that is not polled. An editor that operations have led to is free
    without a poll as soon as nothing is unread. --/
theorem cancelPoll_freed_iff (e : Editor σ) :
    (Freed e.cancelPoll.2 ↔ e.isPolling = true ∨ e.watch.unread = [] ∧ e.session.processing = false) ∧
      (∀ text, (e.cancelPoll.2.sendPrompt text).1 = .error .busy ↔
        e.isPolling = false ∧ e.session.processing = true) ∧
      (Reachable e → (Freed e.cancelPoll.2 ↔ e.isPolling = true ∨ e.watch.unread = [])) := by
  cases hpolling : e.isPolling with
  | true =>
    have hfreed := cancelPoll_freed hpolling
    refine ⟨by simp [hfreed], fun text => ?_, fun _ => by simp [hfreed]⟩
    rw [sendPrompt_eq_busy_iff, hfreed.processing]
    simp
  | false =>
    rw [cancelPoll_of_idle hpolling]
    refine ⟨?_, fun text => ?_, fun hr => by simp [hr.attended.freed_iff hpolling]⟩
    · simp only [Bool.false_eq_true, false_or]
      exact ⟨fun hfreed => ⟨hfreed.unread, hfreed.processing⟩, fun ⟨hu, hp⟩ => ⟨hpolling, hu, hp⟩⟩
    · rw [sendPrompt_eq_busy_iff]
      simp

/-- The wait for a rehearsed edit is given up in time. --/
theorem cancelPoll_freed_iff_of_rehearsal :
    Reachable rehearsedEdit ∧ rehearsedEdit.session.processing = true ∧ Freed rehearsedEdit.cancelPoll.2 ∧
      (rehearsedEdit.cancelPoll.2.sendPrompt "brighten").1 ≠ .error .busy := by
  have hr : Reachable rehearsedEdit := (rehearsal_reachable _).step (.sendPrompt "cut")
  have hpolling : rehearsedEdit.isPolling = true := rfl
  obtain ⟨-, hbusy, hreached⟩ := cancelPoll_freed_iff rehearsedEdit
  refine ⟨hr, rfl, (hreached hr).mpr (.inl hpolling), fun hrefused => ?_⟩
  have hidle := ((hbusy "brighten").mp hrefused).1
  rw [hpolling] at hidle
  cases hidle

/-- A rehearsed edit that was polled to its end. --/
def unreadEdit : Editor (Recorded Script) := rehearsedEdit.step (.sleep (.seconds 15))

/-- The wait for it is given up too late: its events stay unread, it stays in progress, and a prompt is refused. --/
theorem unreadEdit_not_freed :
    Reachable unreadEdit ∧ unreadEdit.session.job.isSome = true ∧ (Text.trim "brighten").isEmpty = false ∧
      unreadEdit.cancelPoll.2.watch.unread ≠ [] ∧ unreadEdit.cancelPoll.2.session.processing = true ∧
      (unreadEdit.cancelPoll.2.sendPrompt "brighten").1 = .error .busy := by
  have hr : Reachable unreadEdit := ((rehearsal_reachable _).step (.sendPrompt "cut")).step (.sleep (.seconds 15))
  have hprocessing : unreadEdit.cancelPoll.2.session.processing = true := rfl
  have hlength : unreadEdit.cancelPoll.2.watch.unread.length = 2 := rfl
  have htext : (Text.trim "brighten").isEmpty = false := by decide
  refine ⟨hr, rfl, htext, List.ne_nil_of_length_pos (by omega), hprocessing, ?_⟩
  exact sendPrompt_eq_busy_iff.mpr hprocessing

end Editor
end Cutroom
