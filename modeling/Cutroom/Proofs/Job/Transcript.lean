import Cutroom.Job.Script
import Cutroom.Proofs.Job.Outlook
import Cutroom.Proofs.Job.Recorded

/-! What one poll tells, from its start to its end (`Watch.start_told`). The answers to its status requests decide
    it: each answer that is heard gives one reading, the first report of a job that is done gives the final event,
    and without such a report the poll runs out of turns. A poll that is left alone does come to its end, since each
    turn takes one of its turns away and no wait lasts longer than the clock can tell (`Wait.slept_le`). -/

namespace Cutroom

/-! ### Time that is slept -/

namespace Wait

variable {w : Nat}

theorem slept_eq (h : w < clockRange) : slept w = rounded w := if_pos h

theorem slept_bounds (h : w < clockRange) : w ≤ slept w ∧ slept w < w + milliseconds 1 := by
  have hrounded : w ≤ (w + 999999) / 1000000 * 1000000 ∧ (w + 999999) / 1000000 * 1000000 < w + 1000000 := by omega
  rwa [slept_eq h]

theorem slept_of_dvd (h : w < clockRange) (hwhole : milliseconds 1 ∣ w) : slept w = w := by
  have hrounded : 1000000 ∣ w → (w + 999999) / 1000000 * 1000000 = w := by omega
  rw [slept_eq h]
  exact hrounded hwhole

/-- No wait lasts longer than the clock can tell. --/
theorem slept_le (w : Nat) : slept w ≤ clockRange := by
  have hrounded : w < 9223372036854775808 * 1000000 →
      (w + 999999) / 1000000 * 1000000 ≤ 9223372036854775808 * 1000000 := by
    omega
  by_cases h : w < clockRange
  · rw [slept_eq h]
    exact hrounded h
  · rw [slept, if_neg h]
    decide

end Wait

namespace Poll

variable {σ : Type}

/-! ### The final event -/

/-- How a poll closes: `last` is the first answer that says that the job is done, if one is heard, and `video` what a
    download gives. --/
inductive Closes (job : JobId) (attempts : UInt32) (video : Except JobError ByteArray) :
    Option (Except JobError StatusReport) → JobEvent → Prop where
  | completed {report : StatusReport} {bytes : ByteArray} : report.status = .completed → video = .ok bytes →
      Closes job attempts video (some (.ok report)) (.completed job report.reply bytes)
  | refreshFailed {report : StatusReport} {e : JobError} : report.status = .completed → video = .error e →
      Closes job attempts video (some (.ok report)) (.refreshFailed job report.reply e.message)
  | chatOnly {report : StatusReport} : report.status = .chatOnly →
      Closes job attempts video (some (.ok report)) (.chatOnly job report.reply)
  | failed {report : StatusReport} : report.status = .failed →
      Closes job attempts video (some (.ok report)) (.failed job (report.error.getD JobEvent.noReason))
  | timedOut : Closes job attempts video none (.timedOut job attempts)

theorem Closes.final {job : JobId} {attempts : UInt32} {video : Except JobError ByteArray}
    {last : Option (Except JobError StatusReport)} {event : JobEvent} (h : Closes job attempts video last event) :
    event.isFinal = true ∧ event.job = job := by
  cases h <;> exact ⟨rfl, rfl⟩

theorem Closes.eq_timedOut_iff {job : JobId} {attempts : UInt32} {video : Except JobError ByteArray}
    {last : Option (Except JobError StatusReport)} {event : JobEvent} (h : Closes job attempts video last event) :
    event = .timedOut job attempts ↔ last = none := by
  cases h <;> simp

variable [JobService σ]

theorem verdict_closes {report : StatusReport} (h : report.status.isTerminal = true) (job : JobId)
    (attempts : UInt32) (service : σ) :
    ∃ final, (verdict job report service).1 = some final ∧
      Closes job attempts (JobService.download service job none).1 (some (.ok report)) final := by
  unfold verdict
  cases hs : report.status with
  | completed =>
    dsimp only
    rcases JobService.download service job none with ⟨e | bytes, service'⟩
    · exact ⟨_, rfl, .refreshFailed hs rfl⟩
    · exact ⟨_, rfl, .completed hs rfl⟩
  | chatOnly => exact ⟨_, rfl, .chatOnly hs⟩
  | failed => exact ⟨_, rfl, .failed hs⟩
  | queued | processing | other text =>
    rw [hs] at h
    cases h

/-- The video that a poll of at most `n` requests can fetch, or why it cannot. --/
def download (job : JobId) (n : Nat) (service : σ) : Except JobError ByteArray :=
  (JobService.download (asked job (heard (answers job n service)).length service) job none).1

theorem ending_closes (job : JobId) (attempts : UInt32) (n : Nat) (service : σ) :
    Closes job attempts (download job n service) ((answers job n service).find? isLast)
      (ending job attempts n service).1 := by
  unfold ending download
  cases hf : (answers job n service).find? isLast with
  | none => exact .timedOut
  | some answer =>
    have hl := List.find?_some hf
    cases answer with
    | error e => cases hl
    | ok report =>
      obtain ⟨final, hv, hcloses⟩ :=
        verdict_closes hl job attempts (asked job (heard (answers job n service)).length service)
      simp only [hv, Option.getD_some]
      exact hcloses

theorem download_recorded (job : JobId) (n : Nat) (s : Recorded σ) : download job n s = download job n s.service := by
  unfold download
  rw [Recorded.answers_eq, ← Recorded.asked_service]
  rfl

/-! ### The whole course -/

/-- What a poll tells of the answers to its status requests, and what it asks the service for. --/
structure Told (job : JobId) (attempts : UInt32) (answers : List (Except JobError StatusReport))
    (video : Except JobError ByteArray) (events : List JobEvent) (requests : List JobRequest) : Prop where
  /-- One reading for each answer that is heard, in their order, and then the final event. -/
  course : ∃ final, events = (heard answers).map (reading job) ++ [final] ∧
    Closes job attempts video (answers.find? isLast) final
  /-- The last event is final, and no other one is. -/
  final : ∃ seen final, events = seen ++ [final] ∧ final.isFinal = true ∧ ∀ event ∈ seen, event.isFinal = false
  timedOut : .timedOut job attempts ∈ events ↔ ∀ answer ∈ answers, isLast answer = false
  about : ∀ event ∈ events, event.job = job
  /-- One status request for each reading, and one download where the job has made a new video. -/
  requests : requests =
    List.replicate (events.length - 1) (.status job) ++ if completes answers then [.download job none] else []
  bound : events.length - 1 ≤ attempts.toNat

omit [JobService σ] in
theorem told_of_closes {job : JobId} {attempts : UInt32} {as : List (Except JobError StatusReport)}
    {video : Except JobError ByteArray} {final : JobEvent} (hlength : as.length ≤ attempts.toNat)
    (h : Closes job attempts video (as.find? isLast) final) :
    Told job attempts as video ((heard as).map (reading job) ++ [final])
      (List.replicate (heard as).length (.status job) ++ if completes as then [.download job none] else []) := by
  have hreading : ∀ event ∈ (heard as).map (reading job), event.isFinal = false ∧ event.job = job := by
    intro event he
    obtain ⟨a, -, rfl⟩ := List.mem_map.mp he
    exact ⟨reading_not_final job a, reading_job job a⟩
  have hcount : ((heard as).map (reading job) ++ [final]).length - 1 = (heard as).length := by simp
  constructor
  case course => exact ⟨final, rfl, h⟩
  case final => exact ⟨_, final, rfl, h.final.1, fun event he => (hreading event he).1⟩
  case timedOut =>
    have hnot : .timedOut job attempts ∉ (heard as).map (reading job) := fun he => by
      cases (hreading _ he).1
    have hnone : as.find? isLast = none ↔ ∀ answer ∈ as, isLast answer = false := by simp
    rw [List.mem_append, List.mem_singleton, ← hnone, ← h.eq_timedOut_iff]
    exact ⟨fun hm => (hm.resolve_left hnot).symm, fun hf => .inr hf.symm⟩
  case about =>
    intro event he
    rcases List.mem_append.mp he with he | he
    · exact (hreading event he).2
    · rw [List.mem_singleton.mp he]
      exact h.final.2
  case requests => rw [hcount]
  case bound =>
    rw [hcount]
    exact Nat.le_trans (heard_length_le as) hlength

/-- The events of a course tell the answers to the requests that it makes. --/
theorem course_told (job : JobId) (attempts : UInt32) (s : Recorded σ) :
    ∃ sent, (course job attempts attempts.toNat s).2.requests = s.requests ++ sent ∧
      Told job attempts (answers job attempts.toNat s.service) (download job attempts.toNat s.service)
        (course job attempts attempts.toNat s).1 sent := by
  have hcloses := ending_closes job attempts attempts.toNat s
  rw [download_recorded, Recorded.answers_eq] at hcloses
  have hrequests := Recorded.ending_requests job attempts attempts.toNat s
  rw [List.append_assoc] at hrequests
  have hlength := Nat.le_of_eq (answers_length job attempts.toNat s.service)
  rw [course_eq, Recorded.answers_eq]
  exact ⟨_, hrequests, told_of_closes hlength hcloses⟩

/-! ### Turns -/

/-- A poll that goes on after a turn has one turn less, comes to it in time, and counts one failure more at most. --/
structure Resumes (p q : Poll) : Prop where
  left : q.left + 1 = p.left
  due : q.due ≤ p.due + .clockRange
  failures : q.failures ≤ p.failures + 1

omit [JobService σ] in
theorem goOn_resumes {p q : Poll} {service : σ} {learned : JobEvent} {failures : Nat}
    (hf : failures ≤ p.failures + 1) (h : (p.goOn service learned failures).next = some q) : Resumes p q := by
  unfold goOn at h
  split at h
  · cases h
  · rename_i hleft
    cases h
    refine ⟨?_, Nat.add_le_add_left (Wait.slept_le _) _, hf⟩
    show p.left - 1 + 1 = p.left
    omega

theorem turn_resumes {p q : Poll} {listening : Bool} {service : σ} (h : (p.turn listening service).next = some q) :
    Resumes p q := by
  unfold turn at h
  split at h
  · cases h
  · rcases hs : JobService.status service p.job with ⟨answer, service'⟩
    rw [hs] at h
    cases listening with
    | false => cases h
    | true =>
      simp only [if_true] at h
      cases answer with
      | error e => exact goOn_resumes (Nat.le_refl _) h
      | ok report =>
        dsimp only at h
        split at h
        · cases h
        · exact goOn_resumes (Nat.zero_le _) h

end Poll

namespace Watch

variable {σ : Type} [JobService σ]

/-- A poll is over once its turns have had the time that they need at most. --/
theorem turns_over (fuel : Nat) (moment : Wait) (w : Watch σ)
    (h : ∀ p, w.poll = some p → p.left < fuel ∧ p.due + p.left * Wait.clockRange ≤ moment) :
    (w.turns fuel moment).poll = none := by
  induction fuel generalizing w with
  | zero =>
    cases hp : w.poll with
    | none => rw [turns_of_idle hp, hp]
    | some p => exact absurd (h p hp).1 (Nat.not_lt_zero _)
  | succ fuel ih =>
    cases hp : w.poll with
    | none => rw [turns_of_idle hp, hp]
    | some p =>
      obtain ⟨hleft, htime⟩ := h p hp
      rw [turns_of_running hp, if_pos (Nat.le_trans (Nat.le_add_right _ _) htime)]
      refine ih _ fun q hq => ?_
      have hr := Poll.turn_resumes hq
      have hfewer := hr.left
      refine ⟨by omega, ?_⟩
      calc q.due + q.left * Wait.clockRange
          ≤ p.due + Wait.clockRange + q.left * Wait.clockRange := Nat.add_le_add_right hr.due _
        _ = p.due + (q.left + 1) * Wait.clockRange := by
          rw [Nat.succ_mul, Nat.add_assoc, Nat.add_comm Wait.clockRange]
        _ ≤ moment := by rw [hfewer]; exact htime

/-- The failures that a poll has counted and the turns that it has left make up no more than its attempts. --/
theorem turns_failures {attempts : Nat} (fuel : Nat) (moment : Wait) (w : Watch σ)
    (h : ∀ p, w.poll = some p → p.failures + p.left ≤ attempts) :
    ∀ p, (w.turns fuel moment).poll = some p → p.failures + p.left ≤ attempts := by
  induction fuel generalizing w with
  | zero => exact h
  | succ fuel ih =>
    cases hp : w.poll with
    | none =>
      rw [turns_of_idle hp]
      exact h
    | some p =>
      rw [turns_of_running hp]
      split
      · refine ih _ fun q hq => ?_
        have hr := Poll.turn_resumes hq
        have hbound := h p hp
        have hleft := hr.left
        have hfailures := hr.failures
        omega
      · exact h

/-- When a poll is left alone that somebody listens to, it comes to its end, and tells the answers to the requests
    that it was allowed to make; on the way its count of failures keeps below `2 ^ 32`. --/
theorem start_told {w : Watch (Recorded σ)} (h : w.listening = true) (job : JobId) :
    (∃ late, ∀ moment, late ≤ moment → ((w.start job).advance moment).poll = none ∧
      ∃ events sent, ((w.start job).advance moment).unread = w.unread ++ events ∧
        ((w.start job).advance moment).service.requests = w.service.requests ++ sent ∧
        Poll.Told job w.policy.maxAttempts (Poll.answers job w.policy.maxAttempts.toNat w.service.service)
          (Poll.download job w.policy.maxAttempts.toNat w.service.service) events sent) ∧
    ∀ fuel moment p, ((w.start job).turns fuel moment).poll = some p → p.left ≠ 0 →
      p.failures + 1 < UInt32.size := by
  constructor
  · obtain ⟨sent, hsent, htold⟩ := Poll.course_told job w.policy.maxAttempts w.service
    refine ⟨(Poll.start job w.policy w.now).due + w.policy.maxAttempts.toNat * Wait.clockRange, fun moment hmoment => ?_⟩
    have hover : ((w.start job).advance moment).poll = none := by
      refine turns_over _ _ _ fun p hp => ?_
      cases hp
      exact ⟨Nat.lt_succ_self _, hmoment⟩
    have hgives := advance_gives (w.start job) moment h
    have houtlook := hgives.outlook
    simp only [outlook, hover, Poll.rest, List.append_nil, List.nil_append] at houtlook
    obtain ⟨hunread, hservice⟩ := Prod.mk.inj houtlook
    refine ⟨hover, _, sent, hunread.symm, ?_, htold⟩
    rw [← hservice]
    exact hsent
  · intro fuel moment p hp hleft
    have hstart : ∀ q, (w.start job).poll = some q → q.failures + q.left ≤ w.policy.maxAttempts.toNat := by
      intro q hq
      cases hq
      exact Nat.le_of_eq (Nat.zero_add _)
    have hbound := turns_failures fuel moment (w.start job) hstart p hp
    have hsize := w.policy.maxAttempts.toNat_lt
    show p.failures + 1 < 2 ^ 32
    omega

/-- A watch whose service fails once before it tells of a new video. --/
def rehearsedWatch : Watch (Recorded Script) :=
  idle ⟨{ Script.empty with answers := [.error "no route", .ok (.ofStatus .completed)] }, []⟩ .standard

/-- The poll of a rehearsed watch asks twice, and downloads once. --/
theorem start_told_of_rehearsal :
    rehearsedWatch.listening = true ∧ ∃ late, ∀ moment, late ≤ moment →
      ((rehearsedWatch.start Script.job).advance moment).unread.length = 3 ∧
        ((rehearsedWatch.start Script.job).advance moment).service.requests =
          [.status Script.job, .status Script.job, .download Script.job none] := by
  have hanswers : Poll.answers Script.job rehearsedWatch.policy.maxAttempts.toNat rehearsedWatch.service.service =
      .error (.poll "no route") :: List.replicate 179 (.ok (.ofStatus .completed)) := rfl
  obtain ⟨⟨late, hlate⟩, -⟩ := start_told (w := rehearsedWatch) rfl Script.job
  refine ⟨rfl, late, fun moment hmoment => ?_⟩
  obtain ⟨-, events, sent, hunread, hrequests, htold⟩ := hlate moment hmoment
  rw [hanswers] at htold
  obtain ⟨final, hevents, -⟩ := htold.course
  have hlength : events.length = 3 := by
    rw [hevents]
    rfl
  rw [hunread, hrequests, htold.requests, hlength]
  exact ⟨hlength, rfl⟩

end Watch
end Cutroom
