import Cutroom.Proofs.Desk.Served

/-! An edit in progress never gets stuck (`Editor.Reachable.processing_attended`): its job is polled or its end is
    waiting to be read, and meanwhile no other prompt goes out to the service. Every operation preserves that the
    edit in progress is attended to (`Editor.Outcome.attended`). -/

namespace Cutroom
namespace Editor

variable {σ : Type}

/-! ### The end is awaited -/

/-- If an edit is in progress, its end is still to be heard. --/
def Attended (e : Editor σ) : Prop :=
  e.session.processing = true → ∃ job, e.session.isCurrent job = true ∧ e.watch.Awaits job

theorem Kept.attended {e e' : Editor σ} {events : List JobEvent} (hk : Kept e events e') (h : Attended e) :
    Attended e' := by
  intro hp'
  obtain ⟨hp, hevents⟩ := hk.processing hp'
  obtain ⟨job, hc, ha⟩ := h hp
  rcases hk.watch.awaits job ha with ⟨event, he, hf, rfl⟩ | hv
  · rw [hevents event he hf] at hc
    cases hc
  · refine ⟨job, ?_, hv⟩
    rw [Session.isCurrent_congr hk.job]
    exact hc

theorem Outcome.attended {e e' : Editor σ} {events : List JobEvent} {replaces : Bool}
    (ho : Outcome e events e' replaces) (h : Attended e) : Attended e' := by
  cases ho with
  | kept _ hk => exact hk.attended h
  | cancelled _ _ hc =>
    intro hp
    rw [hc.processing] at hp
    cases hp
  | replaced _ _ hr =>
    intro hp
    obtain ⟨p, hpoll, hc⟩ := hr.processing hp
    exact ⟨p.job, hc, .inl ⟨p, hpoll, rfl⟩⟩

theorem Reachable.attended [JobService σ] {e : Editor σ} (h : Reachable e) : Attended e := by
  induction h with
  | opened service policy disk rendersDir responder stamp =>
    intro hp
    cases hp
  | step op hr ih => exact (step_outcome hr.listening op).attended ih

/-! ### No prompt goes out -/

section Prompts
variable [JobService σ]

/-- No request but a prompt adds to the prompts of a record. --/
theorem prompts_lasts (prompts : List String) : Lasts fun s : Recorded σ => s.prompts = prompts where
  upload _ h := (Recorded.note_prompts _ rfl _).trans h
  status _ h := (Recorded.note_prompts _ rfl _).trans h
  download _ _ h := (Recorded.note_prompts _ rfl _).trans h
  history h := (Recorded.note_prompts _ rfl _).trans h

/-- While an edit is in progress, the editor refuses a prompt before the service hears of it. --/
theorem sendPrompt_busy {e : Editor (Recorded σ)} (h : e.session.processing = true) (text : String) :
    e.sendPrompt text = (.error .busy, e) := by
  simp only [sendPrompt, Session.beginPrompt, h, if_true]

theorem step_prompts {e : Editor (Recorded σ)} (h : e.session.processing = true) (op : Op) :
    (e.step op).watch.service.prompts = e.watch.service.prompts := by
  cases op with
  | sendPrompt text => rw [step, sendPrompt_busy h]
  | _ =>
    refine step_lasts (prompts_lasts _) ?_ rfl
    intro text hprompt
    cases hprompt

/-- While an edit is in progress, the present job is polled or a final event about it is unread, and no operation
    sends another prompt. --/
theorem Reachable.processing_attended {e : Editor (Recorded σ)} (h : Reachable e)
    (hp : e.session.processing = true) :
    ((∃ p, e.watch.poll = some p ∧ e.session.isCurrent p.job = true) ∨
      ∃ event ∈ e.watch.unread, event.isFinal = true ∧ e.session.isCurrent event.job = true) ∧
    ∀ op, (e.step op).watch.service.prompts = e.watch.service.prompts := by
  refine ⟨?_, step_prompts hp⟩
  obtain ⟨job, hc, ⟨p, hpoll, rfl⟩ | ⟨event, he, hf, rfl⟩⟩ := h.attended hp
  · exact .inl ⟨p, hpoll, hc⟩
  · exact .inr ⟨event, he, hf, hc⟩

/-- A rehearsed edit in progress. --/
def rehearsedEdit : Editor (Recorded Script) := (rehearsal [.ok (.ofStatus .completed)]).step (.sendPrompt "cut")

theorem processing_attended_of_rehearsal :
    rehearsedEdit.session.processing = true ∧
      ((∃ p, rehearsedEdit.watch.poll = some p ∧ rehearsedEdit.session.isCurrent p.job = true) ∨
        ∃ event ∈ rehearsedEdit.watch.unread,
          event.isFinal = true ∧ rehearsedEdit.session.isCurrent event.job = true) ∧
      ∀ op, (rehearsedEdit.step op).watch.service.prompts = ["cut"] := by
  have hp : rehearsedEdit.session.processing = true := rfl
  have hsent : rehearsedEdit.watch.service.prompts = ["cut"] := rfl
  obtain ⟨hattended, hquiet⟩ := Reachable.processing_attended ((rehearsal_reachable _).step (.sendPrompt "cut")) hp
  exact ⟨hp, hattended, fun op => (hquiet op).trans hsent⟩

end Prompts
end Editor
end Cutroom
