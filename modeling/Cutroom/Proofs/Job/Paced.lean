import Mathlib.Algebra.Order.BigOperators.Group.List
import Mathlib.Algebra.Order.Ring.Nat
import Mathlib.Data.List.Induction
import Cutroom.Proofs.Job.Schedule

/-! How long a poll waits (`Poll.waits_paced`). Before each status request it waits for its interval, or for longer if
    the requests before it failed: the wait doubles with each failure in a row, and goes back to the interval with the
    first report. So a poll that runs out of requests has waited for a time that its policy bounds on both sides. -/

namespace Cutroom

/-! ### The delay -/

namespace PollPolicy

/-- The policy is made of whole milliseconds. --/
structure Whole (policy : PollPolicy) : Prop where
  interval : Wait.milliseconds 1 ∣ policy.interval
  backoff : Wait.milliseconds 1 ∣ policy.maxBackoff

/-- The policy is made of waits that can be asked for. --/
structure Fits (policy : PollPolicy) : Prop where
  interval : policy.interval ≤ Wait.longest
  backoff : policy.maxBackoff ≤ Wait.longest

/-- The longest wait of a policy, whose backoff may be shorter than its interval. --/
def most (policy : PollPolicy) : Wait := max policy.interval policy.maxBackoff

variable {policy : PollPolicy}

theorem Fits.most_le (h : policy.Fits) : policy.most ≤ Wait.longest := Nat.max_le.mpr ⟨h.interval, h.backoff⟩

/-- That the product is cut off at the longest wait does not show, since the longest wait of the policy cuts it off
    before. --/
theorem Fits.delay_eq (h : policy.Fits) (failures : Nat) :
    policy.delay failures = min (policy.interval * 2 ^ min failures 16) policy.most := by
  have hmost := h.most_le
  have hleast : policy.interval ≤ policy.most := Nat.le_max_left ..
  unfold delay
  split
  · rename_i hzero
    rw [hzero, Nat.zero_min, Nat.pow_zero, Nat.mul_one, Nat.min_eq_left hleast]
  · show min (min (policy.interval * 2 ^ min failures 16) _) (max policy.maxBackoff policy.interval) = _
    rw [Nat.max_comm, Nat.min_assoc]
    exact congrArg _ (Nat.min_eq_right hmost)

theorem Fits.delay_bounds (h : policy.Fits) (failures : Nat) :
    policy.interval ≤ policy.delay failures ∧ policy.delay failures ≤ policy.most := by
  rw [h.delay_eq]
  have hdouble : policy.interval ≤ policy.interval * 2 ^ min failures 16 := Nat.le_mul_of_pos_right _ (Nat.two_pow_pos _)
  exact ⟨Nat.le_min.mpr ⟨hdouble, Nat.le_max_left ..⟩, Nat.min_le_right ..⟩

theorem Fits.delay_whole (h : policy.Fits) (hwhole : policy.Whole) (failures : Nat) :
    Wait.milliseconds 1 ∣ policy.delay failures := by
  rw [h.delay_eq, most]
  have hdouble := hwhole.interval.mul_right (2 ^ min failures 16)
  rcases min_choice (policy.interval * 2 ^ min failures 16) (max policy.interval policy.maxBackoff) with hmin | hmin
  · rwa [hmin]
  · rw [hmin]
    rcases max_choice policy.interval policy.maxBackoff with hmax | hmax <;> rw [hmax]
    · exact hwhole.interval
    · exact hwhole.backoff

theorem Fits.delay_mono (h : policy.Fits) {less more : Nat} (hle : less ≤ more) :
    policy.delay less ≤ policy.delay more := by
  rw [h.delay_eq, h.delay_eq]
  have hfactor : 2 ^ min less 16 ≤ 2 ^ min more 16 := Nat.pow_le_pow_right (by decide) (by omega)
  exact Nat.le_min.mpr ⟨(Nat.min_le_left ..).trans (Nat.mul_le_mul_left _ hfactor), Nat.min_le_right ..⟩

end PollPolicy

namespace Poll

/-! ### Failures in a row -/

/-- The failed requests in a row after one more answer. --/
def counted (failures : Nat) : Except JobError StatusReport → Nat
  | .ok _ => 0
  | .error _ => failures + 1

/-- The failed requests at the end of some answers. --/
def streak (as : List (Except JobError StatusReport)) : Nat := (as.reverse.takeWhile fun a => !a.isOk).length

theorem streak_concat (as : List (Except JobError StatusReport)) (a : Except JobError StatusReport) :
    streak (as ++ [a]) = counted (streak as) a := by
  cases a <;> simp [streak, counted, Except.isOk, Except.toBool]

theorem foldl_counted (as : List (Except JobError StatusReport)) : as.foldl counted 0 = streak as := by
  induction as using List.reverseRecOn with
  | nil => rfl
  | append_singleton as a ih => rw [List.foldl_concat, ih, streak_concat]

theorem streak_le (as : List (Except JobError StatusReport)) : streak as ≤ as.length := by
  have hle := (as.reverse.takeWhile_prefix fun a => !a.isOk).length_le
  rw [List.length_reverse] at hle
  exact hle

theorem streak_take_succ {as : List (Except JobError StatusReport)} {i : Nat} {a : Except JobError StatusReport}
    (h : as[i]? = some a) : streak (as.take (i + 1)) = counted (streak (as.take i)) a := by
  rw [List.take_add_one, h, Option.toList_some, streak_concat]

/-! ### Waits -/

/-- The waits before some answers, the first of them after some failures in a row. --/
def paces (policy : PollPolicy) : Nat → List (Except JobError StatusReport) → List Wait
  | _, [] => []
  | failures, a :: as => policy.delay failures :: paces policy (counted failures a) as

theorem paces_getElem? (policy : PollPolicy) (failures : Nat) (as : List (Except JobError StatusReport)) (i : Nat) :
    (paces policy failures as)[i]? = as[i]?.map fun _ => policy.delay ((as.take i).foldl counted failures) := by
  induction as generalizing failures i with
  | nil => rfl
  | cons a as ih =>
    cases i with
    | zero => rfl
    | succ i =>
      rw [paces, List.getElem?_cons_succ, List.getElem?_cons_succ, ih]
      rfl

theorem paces_length (policy : PollPolicy) (failures : Nat) (as : List (Except JobError StatusReport)) :
    (paces policy failures as).length = as.length := by
  induction as generalizing failures with
  | nil => rfl
  | cons a as ih => rw [paces, List.length_cons, List.length_cons, ih]

/-- What the waits before some answers are like. --/
structure Paced (policy : PollPolicy) (as : List (Except JobError StatusReport)) (ws : List Wait) : Prop where
  /-- There is one wait before each request. -/
  length : ws.length = as.length
  within : ∀ w ∈ ws, policy.interval ≤ w ∧ w ≤ policy.most
  first : ∀ w, ws[0]? = some w → w = policy.interval
  afterReport : ∀ i report w, as[i]? = some (.ok report) → ws[i + 1]? = some w → w = policy.interval
  afterError : ∀ i e v w, as[i]? = some (.error e) → ws[i]? = some v → ws[i + 1]? = some w → v ≤ w
  doubled : ∀ i w, ws[i]? = some w → w = min (policy.interval * 2 ^ min (streak (as.take i)) 16) policy.most
  /-- The count of failures and the factor fit 32 bits, and the wait can be asked for. -/
  fits : ∀ i w, ws[i]? = some w →
    streak (as.take i) < 2 ^ 32 ∧ 2 ^ min (streak (as.take i)) 16 < 2 ^ 32 ∧ w ≤ Wait.longest

theorem paced {policy : PollPolicy} (h : policy.Fits) {as : List (Except JobError StatusReport)}
    (hlength : as.length < 2 ^ 32) : Paced policy as (paces policy 0 as) := by
  have hget : ∀ i w, (paces policy 0 as)[i]? = some w → w = policy.delay (streak (as.take i)) := by
    intro i w hw
    rw [paces_getElem?, foldl_counted, Option.map_eq_some_iff] at hw
    obtain ⟨a, -, rfl⟩ := hw
    rfl
  have hnone : policy.delay 0 = policy.interval := rfl
  constructor
  case length => exact paces_length ..
  case within =>
    intro w hw
    obtain ⟨i, hi⟩ := List.mem_iff_getElem?.mp hw
    rw [hget i w hi]
    exact h.delay_bounds _
  case first =>
    intro w hw
    rw [hget 0 w hw]
    exact hnone
  case afterReport =>
    intro i report w ha hw
    rw [hget _ w hw, streak_take_succ ha]
    exact hnone
  case afterError =>
    intro i e v w ha hv hw
    rw [hget _ v hv, hget _ w hw, streak_take_succ ha]
    exact h.delay_mono (Nat.le_succ _)
  case doubled =>
    intro i w hw
    rw [hget i w hw]
    exact h.delay_eq _
  case fits =>
    intro i w hw
    have hcount : streak (as.take i) ≤ as.length := (streak_le _).trans (List.length_take_le' ..)
    have hfactor : 2 ^ min (streak (as.take i)) 16 ≤ 2 ^ 16 := Nat.pow_le_pow_right (by decide) (Nat.min_le_right ..)
    rw [hget i w hw]
    exact ⟨by omega, by omega, (h.delay_bounds _).2.trans h.most_le⟩

theorem Paced.sum_bounds {policy : PollPolicy} {as : List (Except JobError StatusReport)} {ws : List Wait}
    (h : Paced policy as ws) : as.length * policy.interval ≤ ws.sum ∧ ws.sum ≤ as.length * policy.most := by
  have hleast := List.card_nsmul_le_sum ws policy.interval fun w hw => (h.within w hw).1
  have hmost := List.sum_le_card_nsmul ws policy.most fun w hw => (h.within w hw).2
  rw [h.length] at hleast hmost
  exact ⟨hleast, hmost⟩

/-! ### A poll that is left alone -/

variable {σ : Type} [JobService σ]

/-- The waits that a poll asks its clock for, as it is left alone for `n` turns: one before each status request. --/
def waits : Nat → Poll → σ → List Wait
  | 0, _, _ => []
  | n + 1, p, service =>
    if p.left = 0 then []
    else
      p.policy.delay p.failures ::
        match (p.turn true service).next with
        | some q => waits n q (p.turn true service).service
        | none => []

/-- All waits of a poll that is left alone. --/
def loneWaits (p : Poll) (service : σ) : List Wait := waits (p.left + 1) p service

/-- How a poll goes on after an answer that does not end it. --/
def after (p : Poll) (a : Except JobError StatusReport) : Poll :=
  { p with
    left := p.left - 1
    failures := counted p.failures a
    due := p.due + (p.policy.delay (counted p.failures a)).slept }

theorem turn_next {p : Poll} (h : p.left ≠ 0) (service : σ) :
    (isLast (JobService.status service p.job).1 = true → (p.turn true service).next = none) ∧
    (isLast (JobService.status service p.job).1 = false →
      (p.turn true service).next = (if p.left ≤ 1 then none else some (p.after (JobService.status service p.job).1)) ∧
      (p.turn true service).service = (JobService.status service p.job).2) := by
  have hgoOn : ∀ (service : σ) learned a,
      (p.goOn service learned (counted p.failures a)).next = (if p.left ≤ 1 then none else some (p.after a)) ∧
      (p.goOn service learned (counted p.failures a)).service = service := by
    intro service learned a
    unfold goOn
    split <;> exact ⟨rfl, rfl⟩
  unfold turn
  rw [if_neg h]
  rcases JobService.status service p.job with ⟨answer, service'⟩
  cases answer with
  | error e => exact ⟨nofun, fun _ => hgoOn service' _ (.error e)⟩
  | ok report =>
    refine ⟨fun hlast => ?_, fun hlast => ?_⟩
    · obtain ⟨final, hv, -⟩ := verdict_of_last hlast p.job service'
      rcases hd : verdict p.job report service' with ⟨outcome, service''⟩
      rw [hd] at hv
      cases hv
      simp only [hd, if_true]
    · simp only [verdict_of_running hlast, if_true]
      exact hgoOn service' _ (.ok report)

theorem waits_eq (n : Nat) (p : Poll) (service : σ) (h : p.left ≤ n) :
    waits n p service = paces p.policy p.failures (heard (answers p.job p.left service)) := by
  induction n generalizing p service with
  | zero =>
    rw [Nat.le_zero.mp h]
    rfl
  | succ n ih =>
    rw [waits]
    by_cases hleft : p.left = 0
    · rw [if_pos hleft, hleft]
      rfl
    · obtain ⟨rest, hrest⟩ := Nat.exists_eq_succ_of_ne_zero hleft
      obtain ⟨hover, hruns⟩ := turn_next hleft service
      rw [if_neg hleft, hrest, answers]
      cases hlast : isLast (JobService.status service p.job).1 with
      | true =>
        rw [hover hlast, heard_cons_last hlast]
        rfl
      | false =>
        obtain ⟨hnext, hservice⟩ := hruns hlast
        rw [hnext, hservice, heard_cons hlast]
        by_cases hone : p.left ≤ 1
        · obtain rfl : rest = 0 := by omega
          rw [if_pos hone]
          rfl
        · have hfewer : (p.after (JobService.status service p.job).1).left = rest := by
            show p.left - 1 = rest
            omega
          rw [if_neg hone, paces]
          dsimp only
          rw [ih _ _ (by omega), hfewer]
          rfl

/-- The visits of a poll come after its waits, of which a clock sleeps for thirty years at most. --/
theorem moment_of_visits (n : Nat) {p : Poll} (hp : p.left ≠ 0) {base : Wait}
    (hdue : p.due = base + (p.policy.delay p.failures).slept) (service : σ) (i : Nat) {visit : Visit σ}
    (h : (visits n p service)[i]? = some visit) :
    visit.moment = base + (((waits n p service).take (i + 1)).map Wait.slept).sum := by
  induction n generalizing p base service i with
  | zero => cases h
  | succ n ih =>
    rw [visits] at h
    rw [waits, if_neg hp]
    cases i with
    | zero =>
      cases h
      exact hdue
    | succ i =>
      rw [List.getElem?_cons_succ] at h
      rw [List.take_succ_cons, List.map_cons, List.sum_cons, ← Nat.add_assoc, ← hdue]
      obtain ⟨hover, hruns⟩ := turn_next hp service
      cases hlast : isLast (JobService.status service p.job).1 with
      | true =>
        rw [hover hlast] at h
        cases h
      | false =>
        obtain ⟨hnext, -⟩ := hruns hlast
        rw [hnext] at h ⊢
        by_cases hone : p.left ≤ 1
        · rw [if_pos hone] at h
          cases h
        · rw [if_neg hone] at h ⊢
          refine ih ?_ rfl _ _ h
          show p.left - 1 ≠ 0
          omega

theorem heard_of_timedOut {job : JobId} {attempts : UInt32} {n : Nat} {service : σ}
    (h : .timedOut job attempts ∈ (course job attempts n service).1) :
    heard (answers job n service) = answers job n service := by
  rw [course_eq] at h
  rcases List.mem_append.mp h with h | h
  · obtain ⟨a, -, ha⟩ := List.mem_map.mp h
    have hreading := reading_not_final job a
    rw [ha] at hreading
    cases hreading
  · have hnone := (ending_closes job attempts n service).eq_timedOut_iff.mp (List.mem_singleton.mp h).symm
    rw [heard, List.findIdx_eq_length.mpr (by simpa using hnone)]
    exact List.take_of_length_le (Nat.le_succ _)

/-- Whatever the answers are, the waits of a poll are paced by its policy. A poll that times out has waited for as many
    intervals at least and for as many of its longest waits at most as it may make requests. Its visits come as late as
    the clock has slept for all waits so far, each of them up to the whole millisecond in which it ends, unless the
    policy asks for more than the clock can tell. --/
theorem waits_paced {policy : PollPolicy} (h : policy.Fits) (job : JobId) (now : Wait) (service : σ) :
    Paced policy (heard (answers job policy.maxAttempts.toNat service)) ((start job policy now).loneWaits service) ∧
    (.timedOut job policy.maxAttempts ∈ ((start job policy now).lone service).flatMap Visit.events →
      policy.maxAttempts.toNat * policy.interval ≤ ((start job policy now).loneWaits service).sum ∧
      ((start job policy now).loneWaits service).sum ≤ policy.maxAttempts.toNat * policy.most) ∧
    (∀ i visit, ((start job policy now).lone service)[i]? = some visit →
      visit.moment = now + ((((start job policy now).loneWaits service).take (i + 1)).map Wait.slept).sum) ∧
    (policy.most < Wait.clockRange → ∀ w ∈ (start job policy now).loneWaits service,
      w ≤ w.slept ∧ w.slept < w + .milliseconds 1 ∧ (policy.Whole → w.slept = w)) := by
  have hwaits : (start job policy now).loneWaits service =
      paces policy 0 (heard (answers job policy.maxAttempts.toNat service)) := waits_eq _ _ _ (Nat.le_succ _)
  have hlength : (heard (answers job policy.maxAttempts.toNat service)).length < 2 ^ 32 := by
    refine (heard_length_le _).trans_lt ?_
    rw [answers_length]
    exact policy.maxAttempts.toNat_lt
  have hpaced := paced h hlength
  rw [← hwaits] at hpaced
  refine ⟨hpaced, fun htimedOut => ?_, fun i visit hvisit => ?_, fun hmost w hw => ?_⟩
  · have hcourse := congrArg Prod.fst ((start job policy now).lone_course service)
    dsimp only at hcourse
    rw [hcourse] at htimedOut
    have hall : heard (answers job policy.maxAttempts.toNat service) = answers job policy.maxAttempts.toNat service :=
      heard_of_timedOut htimedOut
    have hbounds := hpaced.sum_bounds
    rw [hall, answers_length] at hbounds
    exact hbounds
  · by_cases hnone : policy.maxAttempts = 0
    · have hleft : (start job policy now).left = 0 := by
        show policy.maxAttempts.toNat = 0
        rw [hnone]
        rfl
      have hnow : (start job policy now).due = now := if_pos hnone
      rw [lone, visits, turn, if_pos hleft] at hvisit
      rw [loneWaits, waits, if_pos hleft]
      cases i with
      | zero =>
        cases hvisit
        exact hnow
      | succ i => cases hvisit
    · have hleft : (start job policy now).left ≠ 0 := fun hleft => hnone (UInt32.toNat_inj.mp hleft)
      exact moment_of_visits _ hleft (if_neg hnone) service i hvisit
  · have hrange : w < Wait.clockRange := (hpaced.within w hw).2.trans_lt hmost
    obtain ⟨hleast, hless⟩ := Wait.slept_bounds hrange
    refine ⟨hleast, hless, fun hwhole => Wait.slept_of_dvd hrange ?_⟩
    obtain ⟨i, hi⟩ := List.mem_iff_getElem?.mp hw
    rw [hwaits, paces_getElem?, Option.map_eq_some_iff] at hi
    obtain ⟨a, -, rfl⟩ := hi
    exact h.delay_whole hwhole _

/-- A service that never gives a report. --/
def unreachable : Script := { Script.empty with answers := [.error "no route"] }

/-- A poll that is never held back by its longest backoff. --/
def patient : PollPolicy := ⟨.seconds 40, 3, .longest⟩

/-- The poll gives up after waits of 40, 80 and 160 seconds. --/
theorem waits_paced_of_unreachable :
    patient.Fits ∧
      .timedOut Script.job patient.maxAttempts ∈ ((start Script.job patient 0).lone unreachable).flatMap Visit.events ∧
      3 * .seconds 40 ≤ ((start Script.job patient 0).loneWaits unreachable).sum ∧
      ((start Script.job patient 0).loneWaits unreachable)[2]? = some (.seconds 160) := by
  have hfits : patient.Fits := ⟨by decide, Nat.le_refl _⟩
  have htimedOut :
      .timedOut Script.job patient.maxAttempts ∈ ((start Script.job patient 0).lone unreachable).flatMap Visit.events := by
    have hevents : ((start Script.job patient 0).lone unreachable).flatMap Visit.events =
        List.replicate 3 (.pollError Script.job (JobError.message (.poll "no route"))) ++ [.timedOut Script.job 3] := rfl
    rw [hevents]
    exact List.mem_append_right _ (List.mem_singleton_self _)
  obtain ⟨hpaced, htotal, -⟩ := waits_paced hfits Script.job 0 unreachable
  have hthird : 2 < ((start Script.job patient 0).loneWaits unreachable).length := by
    rw [hpaced.length]
    decide
  refine ⟨hfits, htimedOut, (htotal htimedOut).1, ?_⟩
  rw [List.getElem?_eq_getElem hthird, hpaced.doubled 2 _ (List.getElem?_eq_getElem hthird)]
  decide

end Poll
end Cutroom
