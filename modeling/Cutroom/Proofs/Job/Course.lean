import Cutroom.Job.Poll

/-! The course of a poll: all that a poll learns when it is left alone until it is over. The answers to its
    status requests tell it, up to the first one that says that the job is done; a poll that hears no such
    answer is over after as many requests as it may make. The last event of a course is final, and no other
    one is (`course_split`). -/

namespace Cutroom

/-- The video that an event tells of, or why it could not be fetched. --/
def JobEvent.video? : JobEvent → Option (Except String ByteArray)
  | .completed _ _ video => some (.ok video)
  | .refreshFailed _ _ message => some (.error message)
  | _ => none

namespace Poll

variable {σ : Type} [JobService σ]

/-! ### Answers -/

/-- The answers to the next `n` status requests about a job. --/
def answers (job : JobId) : Nat → σ → List (Except JobError StatusReport)
  | 0, _ => []
  | n + 1, service =>
    (JobService.status service job).1 :: answers job n (JobService.status service job).2

/-- The service after `n` status requests about a job. --/
def asked (job : JobId) : Nat → σ → σ
  | 0, service => service
  | n + 1, service => asked job n (JobService.status service job).2

/-- The answer says that the job is done. --/
def isLast : Except JobError StatusReport → Bool
  | .ok report => report.status.isTerminal
  | .error _ => false

/-- What a poll tells of an answer. --/
def reading (job : JobId) : Except JobError StatusReport → JobEvent
  | .ok report => .status job report
  | .error e => .pollError job e.message

/-- The answers that a poll hears: those up to the first one that says that the job is done. --/
def heard (as : List (Except JobError StatusReport)) : List (Except JobError StatusReport) :=
  as.take (as.findIdx isLast + 1)

theorem heard_cons_last {a : Except JobError StatusReport} {as : List (Except JobError StatusReport)}
    (h : isLast a = true) : heard (a :: as) = [a] := by
  simp [heard, List.findIdx_cons, h]

theorem heard_cons {a : Except JobError StatusReport} {as : List (Except JobError StatusReport)}
    (h : isLast a = false) : heard (a :: as) = a :: heard as := by
  simp [heard, List.findIdx_cons, h]

theorem reading_not_final (job : JobId) (a : Except JobError StatusReport) : (reading job a).isFinal = false := by
  cases a <;> rfl

theorem reading_job (job : JobId) (a : Except JobError StatusReport) : (reading job a).job = job := by
  cases a <;> rfl

/-! ### The end -/

/-- A job that is done always has a verdict, which tells of a video where the job has made a new one. --/
theorem verdict_of_last {report : StatusReport} (h : report.status.isTerminal = true) (job : JobId) (service : σ) :
    ∃ final, (verdict job report service).1 = some final ∧
      final.video? =
        if report.status = .completed then
          some ((JobService.download service job none).1.mapError JobError.message)
        else none := by
  unfold verdict
  cases hs : report.status <;> simp only [hs, JobStatus.isTerminal, Bool.false_eq_true] at h
  · rcases hd : JobService.download service job none with ⟨answer, service'⟩
    cases answer
    · exact ⟨_, rfl, rfl⟩
    · exact ⟨_, rfl, rfl⟩
  · exact ⟨_, rfl, rfl⟩
  · exact ⟨_, rfl, rfl⟩

theorem verdict_of_running {report : StatusReport} (h : report.status.isTerminal = false) (job : JobId) (service : σ) :
    verdict job report service = (none, service) := by
  unfold verdict
  cases hs : report.status <;> simp only [hs, JobStatus.isTerminal, Bool.true_eq_false] at h ⊢

theorem verdict_final {job : JobId} {report : StatusReport} {service : σ} {final : JobEvent}
    (h : (verdict job report service).1 = some final) : final.isFinal = true ∧ final.job = job := by
  unfold verdict at h
  cases hs : report.status <;> simp only [hs, reduceCtorEq] at h
  · rcases hd : JobService.download service job none with ⟨answer, service'⟩
    rw [hd] at h
    cases answer <;> cases h <;> exact ⟨rfl, rfl⟩
  · cases h
    exact ⟨rfl, rfl⟩
  · cases h
    exact ⟨rfl, rfl⟩

theorem verdict_service (job : JobId) (report : StatusReport) (service : σ) :
    (verdict job report service).2 =
      if report.status = .completed then (JobService.download service job none).2 else service := by
  unfold verdict
  cases hs : report.status <;> simp only [reduceCtorEq, if_false, if_true]
  rcases hd : JobService.download service job none with ⟨answer, service'⟩
  cases answer <;> rfl

/-- How a poll of at most `n` requests ends: its final event, and the service after it. --/
def ending (job : JobId) (attempts : UInt32) (n : Nat) (service : σ) : JobEvent × σ :=
  let last := asked job (heard (answers job n service)).length service
  match (answers job n service).find? isLast with
  | some (.ok report) =>
    ((verdict job report last).1.getD (.timedOut job attempts), (verdict job report last).2)
  | _ => (.timedOut job attempts, last)

theorem ending_final (job : JobId) (attempts : UInt32) (n : Nat) (service : σ) :
    (ending job attempts n service).1.isFinal = true ∧ (ending job attempts n service).1.job = job := by
  unfold ending
  split
  · rename_i report hf
    have hl : isLast (.ok report : Except JobError StatusReport) = true := List.find?_some hf
    obtain ⟨final, hv, -⟩ := verdict_of_last hl job (asked job (heard (answers job n service)).length service)
    have hd := verdict_final hv
    simp only [hv, Option.getD_some]
    exact hd
  · exact ⟨rfl, rfl⟩

/-- The first answer that says that the job is done says that the job has made a new video. --/
def completes (as : List (Except JobError StatusReport)) : Bool :=
  match as.find? isLast with
  | some (.ok report) => report.status == .completed
  | _ => false

/-- The outcome of the download that ends a poll, none for a poll that ends without a download. --/
def fetched (job : JobId) (n : Nat) (service : σ) : Option (Except JobError ByteArray) :=
  if completes (answers job n service) then
    some (JobService.download (asked job (heard (answers job n service)).length service) job none).1
  else none

theorem ending_video (job : JobId) (attempts : UInt32) (n : Nat) (service : σ) :
    (ending job attempts n service).1.video? = (fetched job n service).map (Except.mapError JobError.message) := by
  unfold ending fetched completes
  split
  · rename_i report hf
    have hl : isLast (.ok report : Except JobError StatusReport) = true := List.find?_some hf
    obtain ⟨final, hv, hvideo⟩ := verdict_of_last hl job (asked job (heard (answers job n service)).length service)
    simp only [hv, Option.getD_some, hvideo, beq_iff_eq]
    split <;> rfl
  · rfl

theorem ending_service (job : JobId) (attempts : UInt32) (n : Nat) (service : σ) :
    (ending job attempts n service).2 =
      if completes (answers job n service) then
        (JobService.download (asked job (heard (answers job n service)).length service) job none).2
      else asked job (heard (answers job n service)).length service := by
  unfold ending completes
  split
  · rw [verdict_service]
    simp only [beq_iff_eq]
  · rfl

/-! ### The course -/

/-- The events of a poll of at most `n` requests from now on, and the service when it is over. --/
def course (job : JobId) (attempts : UInt32) : Nat → σ → List JobEvent × σ
  | 0, service => ([.timedOut job attempts], service)
  | n + 1, service =>
    match JobService.status service job with
    | (.error e, service) =>
      (.pollError job e.message :: (course job attempts n service).1, (course job attempts n service).2)
    | (.ok report, service) =>
      match verdict job report service with
      | (some final, service) => ([.status job report, final], service)
      | (none, service) =>
        (.status job report :: (course job attempts n service).1, (course job attempts n service).2)

/-- A course tells the answers that the poll hears, and then how it ends. --/
theorem course_eq (job : JobId) (attempts : UInt32) (n : Nat) (service : σ) :
    course job attempts n service =
      ((heard (answers job n service)).map (reading job) ++ [(ending job attempts n service).1],
        (ending job attempts n service).2) := by
  induction n generalizing service with
  | zero => rfl
  | succ n ih =>
    rcases hs : JobService.status service job with ⟨answer, service'⟩
    have hcons : answers job (n + 1) service = answer :: answers job n service' := by
      simp only [answers, hs]
    -- Where the first answer is not the last one, the end is that of the rest.
    have skip : isLast answer = false → ending job attempts (n + 1) service = ending job attempts n service' := by
      intro h
      simp only [ending, hcons, heard_cons h, List.find?_cons, h, List.length_cons, asked, hs]
    cases answer with
    | error e =>
      have hl : isLast (.error e : Except JobError StatusReport) = false := rfl
      rw [skip hl, hcons, heard_cons hl]
      simp only [course, hs, ih service', List.map_cons, List.cons_append]
      rfl
    | ok report =>
      cases hl : report.status.isTerminal with
      | false =>
        have hl' : isLast (.ok report : Except JobError StatusReport) = false := hl
        rw [skip hl', hcons, heard_cons hl']
        simp only [course, hs, verdict_of_running hl, ih service', List.map_cons, List.cons_append]
        rfl
      | true =>
        have hl' : isLast (.ok report : Except JobError StatusReport) = true := hl
        obtain ⟨final, hv, -⟩ := verdict_of_last hl job service'
        rcases hd : verdict job report service' with ⟨outcome, service''⟩
        rw [hd] at hv
        cases hv
        simp only [course, hs, hd, ending, hcons, heard_cons_last hl', List.find?_cons, hl', List.length_cons,
          List.length_nil, asked, Option.getD_some]
        rfl

theorem answers_length (job : JobId) (n : Nat) (service : σ) : (answers job n service).length = n := by
  induction n generalizing service with
  | zero => rfl
  | succ n ih => simp only [answers, List.length_cons, ih]

theorem heard_length_le (as : List (Except JobError StatusReport)) : (heard as).length ≤ as.length :=
  List.length_take_le' _ _

theorem course_length_le (job : JobId) (attempts : UInt32) (n : Nat) (service : σ) :
    (course job attempts n service).1.length ≤ n + 1 := by
  have h := heard_length_le (answers job n service)
  rw [answers_length] at h
  rw [course_eq]
  simp only [List.length_append, List.length_map, List.length_singleton]
  omega

/-- A course is made of readings and one final event behind them, all about the polled job. --/
theorem course_split (job : JobId) (attempts : UInt32) (n : Nat) (service : σ) :
    ∃ seen final, (course job attempts n service).1 = seen ++ [final] ∧ final.isFinal = true ∧
      (∀ event ∈ seen, event.isFinal = false) ∧ ∀ event ∈ seen ++ [final], event.job = job := by
  obtain ⟨hf, hj⟩ := ending_final job attempts n service
  refine ⟨(heard (answers job n service)).map (reading job), (ending job attempts n service).1,
    by rw [course_eq], hf, fun event he => ?_, fun event he => ?_⟩
  · obtain ⟨a, -, rfl⟩ := List.mem_map.mp he
    exact reading_not_final job a
  · rcases List.mem_append.mp he with he | he
    · obtain ⟨a, -, rfl⟩ := List.mem_map.mp he
      exact reading_job job a
    · rw [List.mem_singleton.mp he]
      exact hj

end Poll
end Cutroom
