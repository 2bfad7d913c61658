import Cutroom.Proofs.Job.Course

/-! What a watch still has in store: the unread events and behind them the rest of the running poll. Passing
    time only moves events of the poll into the queue (`Watch.advance_gives`), so that the outlook is what
    has to be known of a watch in order to tell all events that it will hand out. -/

namespace Cutroom

variable {σ : Type} [JobService σ]

namespace Poll

/-- What a poll, if one runs, still learns, and the service when it is over. --/
def rest : Option Poll → σ → List JobEvent × σ
  | none, service => ([], service)
  | some p, service => course p.job p.policy.maxAttempts p.left service

theorem goOn_rest (p : Poll) (service : σ) (learned : JobEvent) (failures : Nat) :
    (learned :: (course p.job p.policy.maxAttempts (p.left - 1) service).1,
        (course p.job p.policy.maxAttempts (p.left - 1) service).2) =
      ((p.goOn service learned failures).events ++
          (rest (p.goOn service learned failures).next (p.goOn service learned failures).service).1,
        (rest (p.goOn service learned failures).next (p.goOn service learned failures).service).2) := by
  unfold goOn
  by_cases hone : p.left ≤ 1
  · have hzero : p.left - 1 = 0 := by omega
    simp only [if_pos hone, hzero, course, rest, timeout, List.append_nil]
  · simp only [if_neg hone, rest, List.singleton_append]

theorem turn_rest (p : Poll) (service : σ) :
    rest (some p) service =
      ((p.turn true service).events ++ (rest (p.turn true service).next (p.turn true service).service).1,
        (rest (p.turn true service).next (p.turn true service).service).2) := by
  unfold turn
  by_cases hleft : p.left = 0
  · simp only [rest, hleft, course, timeout, if_true, List.append_nil]
  · obtain ⟨n, hn⟩ := Nat.exists_eq_succ_of_ne_zero hleft
    have hpred : n = p.left - 1 := by omega
    simp only [if_neg hleft, if_true]
    rcases hs : JobService.status service p.job with ⟨answer, service'⟩
    cases answer with
    | error e =>
      simp only [rest, hn, course, hs]
      rw [hpred]
      exact goOn_rest p service' _ _
    | ok report =>
      rcases hd : verdict p.job report service' with ⟨outcome, service''⟩
      cases outcome with
      | some final => simp only [rest, hn, course, hs, hd, List.append_nil]
      | none =>
        simp only [rest, hn, course, hs, hd]
        rw [hpred]
        exact goOn_rest p service'' _ _

theorem turn_events_ne_nil (p : Poll) (service : σ) : (p.turn true service).events ≠ [] := by
  unfold turn goOn
  split
  · simp
  · simp only [if_true]
    split
    · split <;> simp
    · split
      · simp
      · split <;> simp

end Poll

namespace Watch

/-- The events that a watch still hands out, and the service when its poll is over. --/
def outlook (w : Watch σ) : List JobEvent × σ :=
  (w.unread ++ (Poll.rest w.poll w.service).1, (Poll.rest w.poll w.service).2)

/-- The watch after one turn of its poll. --/
def turned (w : Watch σ) (p : Poll) : Watch σ :=
  { w with
    service := (p.turn w.listening w.service).service
    poll := (p.turn w.listening w.service).next
    unread := w.unread ++ (p.turn w.listening w.service).events }

theorem turns_of_idle {w : Watch σ} (h : w.poll = none) (fuel : Nat) (moment : Wait) : w.turns fuel moment = w := by
  cases fuel <;> simp [turns, h]

theorem turns_of_running {w : Watch σ} {p : Poll} (h : w.poll = some p) (fuel : Nat) (moment : Wait) :
    w.turns (fuel + 1) moment = if p.due ≤ moment then (w.turned p).turns fuel moment else w := by
  conv => lhs; unfold turns
  simp only [h]
  rfl

/-! ### What is handed out -/

omit [JobService σ] in
theorem queue_trans {first second third before after : List JobEvent} (h₁ : ∃ sent, first ++ sent = before ++ second)
    (h₂ : ∃ sent, second ++ sent = after ++ third) : ∃ sent, first ++ sent = before ++ after ++ third := by
  obtain ⟨sent₁, e₁⟩ := h₁
  obtain ⟨sent₂, e₂⟩ := h₂
  refine ⟨sent₁ ++ sent₂, ?_⟩
  rw [← List.append_assoc, e₁, List.append_assoc, e₂, List.append_assoc]

/-- A watch that is listened to goes on as `v` and hands out events on the way: those that are first in its
    outlook, in the order in which they were sent. --/
structure Gives (w : Watch σ) (events : List JobEvent) (v : Watch σ) : Prop where
  listening : v.listening = true
  policy : v.policy = w.policy
  outlook : w.outlook = (events ++ v.outlook.1, v.outlook.2)
  queue : ∃ sent, w.unread ++ sent = events ++ v.unread
  idle : w.poll = none → v.poll = none

theorem Gives.refl {w : Watch σ} (h : w.listening = true) : Gives w [] w where
  listening := h
  policy := rfl
  outlook := rfl
  queue := ⟨[], List.append_nil _⟩
  idle := id

theorem Gives.trans {u v w : Watch σ} {before after : List JobEvent} (h₁ : Gives u before v) (h₂ : Gives v after w) :
    Gives u (before ++ after) w where
  listening := h₂.listening
  policy := h₂.policy.trans h₁.policy
  outlook := by rw [h₁.outlook, h₂.outlook, List.append_assoc]
  queue := queue_trans h₁.queue h₂.queue
  idle := h₂.idle ∘ h₁.idle

theorem turned_gives {w : Watch σ} {p : Poll} (h : w.listening = true) (hp : w.poll = some p) :
    Gives w [] (w.turned p) where
  listening := h
  policy := rfl
  outlook := by
    simp only [Watch.outlook, turned, hp, h]
    rw [Poll.turn_rest p w.service]
    simp only [List.append_assoc, List.nil_append]
  queue := ⟨_, rfl⟩
  idle := fun hnone => by
    rw [hp] at hnone
    cases hnone

theorem turns_gives (fuel : Nat) (moment : Wait) (w : Watch σ) (h : w.listening = true) :
    Gives w [] (w.turns fuel moment) := by
  induction fuel generalizing w with
  | zero => exact .refl h
  | succ fuel ih =>
    cases hp : w.poll with
    | none =>
      rw [turns_of_idle hp]
      exact .refl h
    | some p =>
      rw [turns_of_running hp]
      split
      · exact (turned_gives h hp).trans (ih _ h)
      · exact .refl h

/-- Time that passes only moves events into the queue. --/
theorem advance_gives (w : Watch σ) (moment : Wait) (h : w.listening = true) : Gives w [] (w.advance moment) := by
  obtain ⟨hl, hpol, ho, hq, hi⟩ := turns_gives w.turnsLeft moment w h
  exact ⟨hl, hpol, ho, hq, hi⟩

theorem advanceToTurn_gives (w : Watch σ) (h : w.listening = true) : Gives w [] w.advanceToTurn := by
  unfold advanceToTurn
  split
  · exact advance_gives w _ h
  · exact .refl h

theorem take_gives {w : Watch σ} {event : JobEvent} {rest : List JobEvent} (h : w.listening = true)
    (hu : w.unread = event :: rest) : Gives w [event] { w with unread := rest } where
  listening := h
  policy := rfl
  outlook := by simp only [outlook, hu, List.cons_append, List.nil_append]
  queue := ⟨[], by simp [hu]⟩
  idle := id

theorem advanceToTurn_unread {w : Watch σ} {p : Poll} (h : w.listening = true) (hp : w.poll = some p) :
    w.advanceToTurn.unread ≠ [] := by
  have hleft : w.turnsLeft = p.left + 1 := by simp [turnsLeft, hp]
  have hto : w.advanceToTurn.unread = ((w.turned p).turns p.left p.due).unread := by
    simp only [advanceToTurn, hp, advance, hleft, turns_of_running hp, if_pos (Nat.le_refl p.due)]
  obtain ⟨sent, hs⟩ := (turns_gives p.left p.due (w.turned p) h).queue
  intro hnil
  rw [hto] at hnil
  rw [hnil, List.append_nil] at hs
  have hturn := (List.append_eq_nil_iff.mp (List.append_eq_nil_iff.mp hs).1).2
  rw [h] at hturn
  exact Poll.turn_events_ne_nil p w.service hturn

theorem outlook_eq_nil {w : Watch σ} : w.outlook.1 = [] ↔ w.poll = none ∧ w.unread = [] := by
  cases hp : w.poll with
  | none => simp [outlook, hp, Poll.rest]
  | some p =>
    obtain ⟨seen, final, hc, -⟩ := Poll.course_split p.job p.policy.maxAttempts p.left w.service
    simp [outlook, hp, Poll.rest, hc]

theorem outlook_length_le (w : Watch σ) : w.outlook.1.length ≤ w.unread.length + w.turnsLeft := by
  cases hp : w.poll with
  | none => simp [outlook, hp, Poll.rest]
  | some p =>
    have hc := Poll.course_length_le p.job p.policy.maxAttempts p.left w.service
    simp only [outlook, hp, Poll.rest, turnsLeft, List.length_append, Option.map_some, Option.getD_some]
    omega

theorem sleep_zero_of_idle {w : Watch σ} (h : w.poll = none) : w.sleep 0 = w := by
  have hz : Wait.slept 0 = 0 := rfl
  unfold sleep advance
  rw [turns_of_idle h, hz]
  simp only [Nat.add_zero, Nat.max_self]

/-! ### The end that is awaited -/

/-- The end of an edit is still to be heard: the job is polled, or a final event about it is unread. --/
def Awaits (w : Watch σ) (job : JobId) : Prop :=
  (∃ p, w.poll = some p ∧ p.job = job) ∨ ∃ event ∈ w.unread, event.isFinal = true ∧ event.job = job

/-- The end is awaited exactly where it is in store. --/
theorem awaits_iff {w : Watch σ} {job : JobId} :
    w.Awaits job ↔ ∃ event ∈ w.outlook.1, event.isFinal = true ∧ event.job = job := by
  constructor
  · rintro (⟨p, hp, rfl⟩ | ⟨event, he, hf⟩)
    · obtain ⟨seen, final, hc, hf, -, hj⟩ := Poll.course_split p.job p.policy.maxAttempts p.left w.service
      have hmem : final ∈ seen ++ [final] := List.mem_append_right _ List.mem_cons_self
      refine ⟨final, ?_, hf, hj final hmem⟩
      simp only [outlook, hp, Poll.rest, hc]
      exact List.mem_append_right _ hmem
    · exact ⟨event, List.mem_append_left _ he, hf⟩
  · rintro ⟨event, he, hf, rfl⟩
    rcases List.mem_append.mp he with he | he
    · exact .inr ⟨event, he, hf, rfl⟩
    · cases hp : w.poll with
      | none => simp only [hp, Poll.rest, List.not_mem_nil] at he
      | some p =>
        obtain ⟨seen, final, hc, -, -, hj⟩ := Poll.course_split p.job p.policy.maxAttempts p.left w.service
        simp only [hp, Poll.rest, hc] at he
        exact .inl ⟨p, hp, (hj event he).symm⟩

/-- A final event is in store if and only if a poll runs or a final event is unread. --/
theorem outlook_readings_iff {w : Watch σ} :
    (∀ event ∈ w.outlook.1, event.isFinal = false) ↔
      w.poll = none ∧ ∀ event ∈ w.unread, event.isFinal = false := by
  constructor
  · intro h
    have hnone : ∀ job, ¬ w.Awaits job := fun job hjob => by
      obtain ⟨event, hmem, hf, -⟩ := awaits_iff.mp hjob
      rw [h event hmem] at hf
      cases hf
    constructor
    · cases hp : w.poll with
      | none => rfl
      | some p => exact absurd (.inl ⟨p, hp, rfl⟩) (hnone p.job)
    · exact fun event hmem => eq_false_of_ne_true fun hf => hnone event.job (.inr ⟨event, hmem, hf, rfl⟩)
  · rintro ⟨hp, hunread⟩ event hmem
    simp only [outlook, hp, Poll.rest, List.append_nil] at hmem
    exact hunread event hmem

/-- A watch goes on as `v` and hands out events on the way, in the order in which they were sent; an end that was
    awaited is among them or is awaited still. The service may have been asked for something else meanwhile. --/
structure Keeps (w : Watch σ) (events : List JobEvent) (v : Watch σ) : Prop where
  listening : v.listening = true
  queue : ∃ sent, w.unread ++ sent = events ++ v.unread
  awaits : ∀ job, w.Awaits job → (∃ event ∈ events, event.isFinal = true ∧ event.job = job) ∨ v.Awaits job

omit [JobService σ] in
theorem Keeps.refl {w : Watch σ} (h : w.listening = true) : Keeps w [] w where
  listening := h
  queue := ⟨[], List.append_nil _⟩
  awaits _ := .inr

omit [JobService σ] in
theorem Keeps.trans {u v w : Watch σ} {before after : List JobEvent} (h₁ : Keeps u before v)
    (h₂ : Keeps v after w) : Keeps u (before ++ after) w where
  listening := h₂.listening
  queue := queue_trans h₁.queue h₂.queue
  awaits job h := by
    rcases h₁.awaits job h with ⟨event, he, hf⟩ | hv
    · exact .inl ⟨event, List.mem_append_left _ he, hf⟩
    · rcases h₂.awaits job hv with ⟨event, he, hf⟩ | hw
      · exact .inl ⟨event, List.mem_append_right _ he, hf⟩
      · exact .inr hw

theorem Gives.keeps {w v : Watch σ} {events : List JobEvent} (h : Gives w events v) : Keeps w events v where
  listening := h.listening
  queue := h.queue
  awaits job ha := by
    obtain ⟨event, he, hf⟩ := awaits_iff.mp ha
    rw [h.outlook] at he
    rcases List.mem_append.mp he with he | he
    · exact .inl ⟨event, he, hf⟩
    · exact .inr (awaits_iff.mpr ⟨event, he, hf⟩)

omit [JobService σ] in
/-- Other requests to the service do not change what is awaited. --/
theorem service_keeps {w : Watch σ} (h : w.listening = true) (service : σ) :
    Keeps w [] { w with service := service } := ⟨h, ⟨[], List.append_nil _⟩, fun _ => .inr⟩

end Watch
end Cutroom
