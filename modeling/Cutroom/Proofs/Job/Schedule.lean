import Cutroom.Proofs.Job.Transcript

/-! Polls that are started, cancelled and dropped at any time (`Watch.follow_ledger`). What a poll does is a series of
    visits to the service. A poll that is started makes the visits that it would make if it were left alone, up to the
    next call; then it makes no more, so that only the newest poll ever talks to the service. -/

namespace Cutroom

variable {σ : Type} [JobService σ]

/-- What a poll does at one moment: what it asks for, what it tells, and the service behind it. --/
structure Visit (σ : Type) where
  moment : Wait
  requests : List JobRequest
  events : List JobEvent
  service : σ

/-- Nothing final was told. --/
def Visit.Goes {σ : Type} (visit : Visit σ) : Prop := ∀ event ∈ visit.events, event.isFinal = false

/-- The service behind some visits. --/
def Visit.behind {σ : Type} (service : σ) (visits : List (Visit σ)) : σ :=
  visits.foldl (fun _ visit => visit.service) service

/-! ### A poll that is left alone -/

namespace Poll

/-- The requests of a turn: one for the status, and one for the video where the job has made a new one. --/
def asks (p : Poll) (service : σ) : List JobRequest :=
  if p.left = 0 then []
  else
    match (JobService.status service p.job).1 with
    | .ok report => .status p.job :: if report.status = .completed then [.download p.job none] else []
    | .error _ => [.status p.job]

/-- The first `n` visits of a poll that is left alone. --/
def visits : Nat → Poll → σ → List (Visit σ)
  | 0, _, _ => []
  | n + 1, p, service =>
    ⟨p.due, p.asks service, (p.turn true service).events, (p.turn true service).service⟩ ::
      match (p.turn true service).next with
      | some q => visits n q (p.turn true service).service
      | none => []

/-- All visits of a poll that is left alone. --/
def lone (p : Poll) (service : σ) : List (Visit σ) := visits (p.left + 1) p service

omit [JobService σ] in
theorem goOn_ends (p : Poll) (service : σ) {learned : JobEvent} (hl : learned.isFinal = false) (failures : Nat) :
    match (p.goOn service learned failures).next with
    | none => ∃ event ∈ (p.goOn service learned failures).events, event.isFinal = true
    | some q => (∀ event ∈ (p.goOn service learned failures).events, event.isFinal = false) ∧ p.due ≤ q.due ∧
        q.left ≠ 0 := by
  unfold goOn
  by_cases hone : p.left ≤ 1
  · rw [if_pos hone]
    exact ⟨p.timeout, by simp, rfl⟩
  · rw [if_neg hone]
    refine ⟨fun event he => ?_, Nat.le_add_right _ _, ?_⟩
    · rw [List.mem_singleton.mp he]
      exact hl
    · show p.left - 1 ≠ 0
      omega

/-- A turn ends the poll with its final event, or tells nothing final and leaves a later turn to come. --/
theorem turn_ends (p : Poll) (service : σ) :
    match (p.turn true service).next with
    | none => ∃ event ∈ (p.turn true service).events, event.isFinal = true
    | some q => (∀ event ∈ (p.turn true service).events, event.isFinal = false) ∧ p.due ≤ q.due ∧ q.left ≠ 0 := by
  unfold turn
  by_cases hleft : p.left = 0
  · simp only [if_pos hleft, if_true]
    exact ⟨p.timeout, List.mem_singleton_self _, rfl⟩
  · simp only [if_neg hleft, if_true]
    rcases JobService.status service p.job with ⟨answer, service'⟩
    cases answer with
    | error e => exact goOn_ends p service' rfl _
    | ok report =>
      rcases hd : verdict p.job report service' with ⟨outcome, service''⟩
      cases outcome with
      | none =>
        simp only [hd]
        exact goOn_ends p service'' rfl _
      | some final =>
        have hfinal : (verdict p.job report service').1 = some final := by rw [hd]
        simp only [hd]
        exact ⟨final, by simp, (verdict_final hfinal).1⟩

omit [JobService σ] in
theorem goOn_service (p : Poll) (service : σ) (learned : JobEvent) (failures : Nat) :
    (p.goOn service learned failures).service = service := by
  unfold goOn
  split <;> rfl

/-- The requests of a turn are those that the service records. --/
theorem turn_requests (p : Poll) (s : Recorded σ) : (p.turn true s).service.requests = s.requests ++ p.asks s := by
  unfold turn asks
  by_cases hleft : p.left = 0
  · simp only [if_pos hleft, List.append_nil]
  · simp only [if_neg hleft, if_true]
    rcases hs : JobService.status s p.job with ⟨answer, s'⟩
    have hasked : s'.requests = s.requests ++ [.status p.job] := by
      have hnote : (JobService.status s p.job).2.requests = s.requests ++ [.status p.job] := rfl
      rw [hs] at hnote
      exact hnote
    cases answer with
    | error e =>
      dsimp only
      rw [goOn_service, hasked]
    | ok report =>
      have hservice := verdict_service p.job report s'
      rcases hd : verdict p.job report s' with ⟨outcome, s''⟩
      rw [hd] at hservice
      have hdone : s''.requests =
          s.requests ++ .status p.job :: if report.status = .completed then [.download p.job none] else [] := by
        dsimp only at hservice
        rw [hservice]
        split
        · show s'.requests ++ [.download p.job none] = _
          rw [hasked, List.append_assoc, List.singleton_append]
        · exact hasked
      cases outcome with
      | none =>
        simp only [hd]
        rw [goOn_service, hdone]
      | some final =>
        simp only [hd]
        exact hdone

theorem visits_course (n : Nat) (p : Poll) (service : σ) (h : p.left < n) :
    ((visits n p service).flatMap Visit.events, Visit.behind service (visits n p service)) =
      course p.job p.policy.maxAttempts p.left service := by
  induction n generalizing p service with
  | zero => exact absurd h (Nat.not_lt_zero _)
  | succ n ih =>
    have hturn := p.turn_rest service
    rw [rest] at hturn
    rw [hturn, visits, List.flatMap_cons]
    cases hn : (p.turn true service).next with
    | none => rfl
    | some q =>
      have hfewer := (turn_resumes hn).left
      have hrest := ih q (p.turn true service).service (by omega)
      rw [rest, ← hrest]
      rfl

/-- A poll that is left alone tells its course. --/
theorem lone_course (p : Poll) (service : σ) :
    ((p.lone service).flatMap Visit.events, Visit.behind service (p.lone service)) =
      course p.job p.policy.maxAttempts p.left service := visits_course _ p service (Nat.lt_succ_self _)

theorem due_le_of_mem_visits (n : Nat) (p : Poll) (service : σ) {visit : Visit σ} (h : visit ∈ visits n p service) :
    p.due ≤ visit.moment := by
  induction n generalizing p service with
  | zero => cases h
  | succ n ih =>
    have hends := p.turn_ends service
    rw [visits] at h
    rcases List.mem_cons.mp h with rfl | h
    · exact Nat.le_refl _
    · cases hn : (p.turn true service).next with
      | none =>
        rw [hn] at h
        cases h
      | some q =>
        rw [hn] at h hends
        exact Nat.le_trans hends.2.1 (ih q _ h)

theorem asks_ne_nil {p : Poll} (h : p.left ≠ 0) (service : σ) : p.asks service ≠ [] := by
  unfold asks
  rw [if_neg h]
  split <;> simp

theorem requests_of_mem_visits (n : Nat) {p : Poll} (hp : p.left ≠ 0) (service : σ) {visit : Visit σ}
    (h : visit ∈ visits n p service) : visit.requests ≠ [] := by
  induction n generalizing p service with
  | zero => cases h
  | succ n ih =>
    have hends := p.turn_ends service
    rw [visits] at h
    rcases List.mem_cons.mp h with rfl | h
    · exact asks_ne_nil hp service
    · cases hn : (p.turn true service).next with
      | none =>
        rw [hn] at h
        cases h
      | some q =>
        rw [hn] at h hends
        exact ih hends.2.2 _ h

/-- The visits up to a moment: none where the next turn is later. --/
theorem visits_until (n : Nat) (p : Poll) (service : σ) (moment : Wait) :
    ((visits (n + 1) p service).filter fun visit => visit.moment ≤ moment) =
      if p.due ≤ moment then
        ⟨p.due, p.asks service, (p.turn true service).events, (p.turn true service).service⟩ ::
          match (p.turn true service).next with
          | some q => (visits n q (p.turn true service).service).filter fun visit => visit.moment ≤ moment
          | none => []
      else [] := by
  by_cases hdue : p.due ≤ moment
  · rw [if_pos hdue, visits, List.filter_cons_of_pos (by exact decide_eq_true hdue)]
    cases (p.turn true service).next <;> rfl
  · rw [if_neg hdue, List.filter_eq_nil_iff]
    intro visit hvisit hmoment
    exact hdue (Nat.le_trans (due_le_of_mem_visits _ p service hvisit) (of_decide_eq_true hmoment))

/-- A visit of a poll without requests is its only one, made as soon as it was started. --/
theorem moment_of_quiet {job : JobId} {policy : PollPolicy} {now : Wait} {service : σ} {visit : Visit σ}
    (h : visit ∈ (start job policy now).lone service) (hquiet : visit.requests = []) : visit.moment = now := by
  by_cases hnone : policy.maxAttempts = 0
  · have hleft : (start job policy now).left = 0 := by
      show policy.maxAttempts.toNat = 0
      rw [hnone]
      rfl
    rw [lone, visits, turn, if_pos hleft] at h
    rw [List.mem_singleton.mp h]
    exact if_pos hnone
  · refine absurd hquiet (requests_of_mem_visits _ ?_ service h)
    intro hleft
    exact hnone (UInt32.toNat_inj.mp hleft)

end Poll

/-! ### Schedules -/

/-- What the owner of a poll does with it. --/
inductive PollCall where
  | start (job : JobId)
  | cancel
  | drop

/-- Calls, each with the time until the next one. --/
abbrev Schedule := List (PollCall × Wait)

/-- How long a schedule lasts. --/
def Schedule.span : Schedule → Wait
  | [] => 0
  | entry :: rest => entry.2 + span rest

/-- The visits that a call leads to when none comes after it. --/
def PollCall.visits (policy : PollPolicy) (now : Wait) (service : σ) : PollCall → List (Visit σ)
  | .start job => (Poll.start job policy now).lone service
  | .cancel | .drop => []

namespace Schedule

/-- The visits that a call leads to before the next one. --/
def period (policy : PollPolicy) (now : Wait) (service : σ) (entry : PollCall × Wait) : List (Visit σ) :=
  (entry.1.visits policy now service).filter fun visit => visit.moment < now + entry.2

/-- The visits that the calls of a schedule lead to, each call as long as it is the newest one. --/
def ledger (policy : PollPolicy) : Wait → σ → Schedule → List (Visit σ)
  | _, _, [] => []
  | now, service, entry :: rest =>
    period policy now service entry ++
      ledger policy (now + entry.2) (Visit.behind service (period policy now service entry)) rest

/-- No call comes at the moment of a request. --/
def Apart (policy : PollPolicy) : Wait → σ → Schedule → Prop
  | _, _, [] => True
  | now, service, entry :: rest =>
    (∀ visit ∈ entry.1.visits policy now service, visit.requests ≠ [] → visit.moment ≠ now + entry.2) ∧
      Apart policy (now + entry.2) (Visit.behind service (period policy now service entry)) rest

theorem ledger_append (policy : PollPolicy) (before after : Schedule) (now : Wait) (service : σ) :
    ledger policy now service (before ++ after) =
      ledger policy now service before ++
        ledger policy (now + span before) (Visit.behind service (ledger policy now service before)) after := by
  induction before generalizing now service with
  | nil => rfl
  | cons entry rest ih =>
    rw [List.cons_append, ledger, ih, ledger, span, List.append_assoc, Visit.behind, Visit.behind, Visit.behind,
      List.foldl_append, Nat.add_assoc]

theorem apart_append (policy : PollPolicy) (before after : Schedule) (now : Wait) (service : σ) :
    Apart policy now service (before ++ after) ↔
      Apart policy now service before ∧
        Apart policy (now + span before) (Visit.behind service (ledger policy now service before)) after := by
  induction before generalizing now service with
  | nil => exact ⟨fun h => ⟨trivial, h⟩, And.right⟩
  | cons entry rest ih =>
    rw [List.cons_append, Apart, ih, Apart, ledger, span, and_assoc, Visit.behind, Visit.behind, Visit.behind,
      List.foldl_append, Nat.add_assoc]

theorem le_of_mem_visits {policy : PollPolicy} {now : Wait} {service : σ} {call : PollCall} {visit : Visit σ}
    (h : visit ∈ call.visits policy now service) : now ≤ visit.moment := by
  cases call with
  | start job =>
    refine Nat.le_trans ?_ (Poll.due_le_of_mem_visits _ _ service h)
    unfold Poll.start
    dsimp only
    split
    · exact Nat.le_refl _
    · exact Nat.le_add_right _ _
  | cancel | drop => cases h

/-- The visits of a schedule are made while it lasts. --/
theorem moment_of_mem_ledger {policy : PollPolicy} {schedule : Schedule} {now : Wait} {service : σ} {visit : Visit σ}
    (h : visit ∈ ledger policy now service schedule) :
    now ≤ visit.moment ∧ visit.moment < now + span schedule := by
  induction schedule generalizing now service with
  | nil => cases h
  | cons entry rest ih =>
    rw [ledger] at h
    rw [span]
    rcases List.mem_append.mp h with h | h
    · obtain ⟨hvisit, hbefore⟩ := List.mem_filter.mp h
      rw [← Nat.add_assoc]
      exact ⟨le_of_mem_visits hvisit, Nat.lt_of_lt_of_le (of_decide_eq_true hbefore) (Nat.le_add_right _ _)⟩
    · obtain ⟨hlate, hlast⟩ := ih h
      rw [← Nat.add_assoc]
      exact ⟨Nat.le_trans (Nat.le_add_right _ _) hlate, hlast⟩

/-- The visits in the time after a call are those of this call. --/
theorem mem_visits_of_mem_ledger {policy : PollPolicy} {before after : Schedule} {entry : PollCall × Wait} {now : Wait}
    {service : σ} {visit : Visit σ} (h : visit ∈ ledger policy now service (before ++ entry :: after))
    (hsince : now + span before ≤ visit.moment) (huntil : visit.moment < now + span before + entry.2) :
    visit ∈ entry.1.visits policy (now + span before) (Visit.behind service (ledger policy now service before)) := by
  rw [ledger_append, ledger] at h
  rcases List.mem_append.mp h with h | h
  · exact absurd (moment_of_mem_ledger h).2 (Nat.not_lt.mpr hsince)
  · rcases List.mem_append.mp h with h | h
    · exact (List.mem_filter.mp h).1
    · exact absurd (moment_of_mem_ledger h).1 (Nat.not_le.mpr huntil)

end Schedule

namespace Watch

/-! ### The watch that follows a schedule -/

/-- The watch has made some visits and goes on as `v`. --/
structure Makes (w : Watch (Recorded σ)) (visits : List (Visit (Recorded σ))) (v : Watch (Recorded σ)) : Prop where
  unread : v.unread = w.unread ++ visits.flatMap Visit.events
  service : v.service = Visit.behind w.service visits
  requests : v.service.requests = w.service.requests ++ visits.flatMap Visit.requests
  policy : v.policy = w.policy
  listening : v.listening = true

omit [JobService σ] in
theorem Makes.refl {w : Watch (Recorded σ)} (h : w.listening = true) : Makes w [] w where
  unread := (List.append_nil _).symm
  service := rfl
  requests := (List.append_nil _).symm
  policy := rfl
  listening := h

omit [JobService σ] in
theorem Makes.trans {u v w : Watch (Recorded σ)} {before after : List (Visit (Recorded σ))} (h₁ : Makes u before v)
    (h₂ : Makes v after w) : Makes u (before ++ after) w where
  unread := by rw [h₂.unread, h₁.unread, List.flatMap_append, List.append_assoc]
  service := by rw [h₂.service, h₁.service, Visit.behind, Visit.behind, Visit.behind, List.foldl_append]
  requests := by rw [h₂.requests, h₁.requests, List.flatMap_append, List.append_assoc]
  policy := h₂.policy.trans h₁.policy
  listening := h₂.listening

theorem turned_makes {w : Watch (Recorded σ)} (p : Poll) (hl : w.listening = true) :
    Makes w [⟨p.due, p.asks w.service, (p.turn true w.service).events, (p.turn true w.service).service⟩]
      (w.turned p) := by
  constructor
  case unread => rw [turned, hl, List.flatMap_singleton]
  case service =>
    rw [turned, hl]
    rfl
  case requests => rw [turned, hl, List.flatMap_singleton, p.turn_requests]
  case policy => rfl
  case listening => exact hl

/-- Up to a moment a poll makes the visits that it makes when it is left alone, and it runs on unless it has told
    something final. --/
theorem turns_makes (fuel : Nat) (moment : Wait) {w : Watch (Recorded σ)} {p : Poll} (hl : w.listening = true)
    (hp : w.poll = some p) :
    Makes w ((p.visits fuel w.service).filter fun visit => visit.moment ≤ moment) (w.turns fuel moment) ∧
      ((w.turns fuel moment).isActive = true ↔
        ∀ visit ∈ (p.visits fuel w.service).filter fun visit => visit.moment ≤ moment, visit.Goes) := by
  have hactive : w.isActive = true := by rw [isActive, hp, Option.isSome_some]
  induction fuel generalizing w p with
  | zero => exact ⟨.refl hl, fun _ => List.forall_mem_nil _, fun _ => hactive⟩
  | succ fuel ih =>
    have hends := p.turn_ends w.service
    have hturned := turned_makes p hl
    have hpoll : (w.turned p).poll = (p.turn true w.service).next := by rw [turned, hl]
    have hservice : (w.turned p).service = (p.turn true w.service).service := by rw [turned, hl]
    rw [Poll.visits_until, turns_of_running hp]
    split
    · cases hn : (p.turn true w.service).next with
      | none =>
        rw [hn] at hpoll hends
        obtain ⟨final, hmem, hfinal⟩ := hends
        have hover : (w.turned p).isActive = false := by rw [isActive, hpoll, Option.isSome_none]
        rw [turns_of_idle hpoll, hover]
        refine ⟨hturned, fun hactive => absurd hactive Bool.false_ne_true, fun hgoes => ?_⟩
        rw [hgoes _ (List.mem_singleton_self _) final hmem] at hfinal
        cases hfinal
      | some q =>
        rw [hn] at hpoll hends
        have hnext : (w.turned p).isActive = true := by rw [isActive, hpoll, Option.isSome_some]
        obtain ⟨hafter, hruns⟩ := ih (w := w.turned p) (p := q) hl hpoll hnext
        rw [hservice] at hafter hruns
        refine ⟨hturned.trans hafter, hruns.trans ?_⟩
        rw [List.forall_mem_cons]
        exact (and_iff_right hends.1).symm
    · exact ⟨.refl hl, fun _ => List.forall_mem_nil _, fun _ => hactive⟩

/-! ### Calls -/

def call (w : Watch σ) : PollCall → Watch σ
  | .start job => w.start job
  | .cancel | .drop => w.cancel

/-- Lets time pass. As long as none does, a poll that has just been started has no turn. --/
def pause (w : Watch σ) (wait : Wait) : Watch σ := if wait = 0 then w else w.advance (w.now + wait)

def follow (w : Watch σ) (schedule : Schedule) : Watch σ :=
  schedule.foldl (fun v entry => (v.call entry.1).pause entry.2) w

omit [JobService σ] in
theorem Makes.none {w : Watch (Recorded σ)} (hl : w.listening = true) (poll : Option Poll) (now : Wait) :
    Makes w [] { w with poll := poll, now := now } :=
  ⟨(List.append_nil _).symm, rfl, (List.append_nil _).symm, rfl, hl⟩

theorem pause_of_idle {w : Watch σ} (h : w.poll = none) (wait : Wait) :
    w.pause wait = { w with now := w.now + wait } := by
  unfold pause
  split
  · rename_i hzero
    rw [hzero]
    rfl
  · rw [advance, turns_of_idle h, Nat.max_eq_right (Nat.le_add_right _ _)]

/-- Where no request comes together with the next call, it does not matter on which side of it that moment is. --/
theorem period_start {policy : PollPolicy} {now wait : Wait} {service : σ} {job : JobId}
    (h : ∀ visit ∈ (Poll.start job policy now).lone service, visit.requests ≠ [] → visit.moment ≠ now + wait) :
    Schedule.period policy now service (.start job, wait) =
      if wait = 0 then []
      else ((Poll.start job policy now).lone service).filter fun visit => visit.moment ≤ now + wait := by
  show ((Poll.start job policy now).lone service).filter _ = _
  split
  · rename_i hzero
    rw [List.filter_eq_nil_iff]
    intro visit hvisit hearly
    have hcall : visit ∈ PollCall.visits policy now service (.start job) := hvisit
    have hlate := Schedule.le_of_mem_visits hcall
    have hearly := of_decide_eq_true hearly
    rw [hzero] at hearly
    exact Nat.not_lt.mpr hlate hearly
  · rename_i hpos
    refine List.filter_congr fun visit hvisit => ?_
    have hne : visit.moment ≠ now + wait := by
      by_cases hquiet : visit.requests = []
      · rw [Poll.moment_of_quiet hvisit hquiet]
        exact fun heq => hpos (Nat.add_eq_left.mp heq.symm)
      · exact h visit hvisit hquiet
    exact decide_eq_decide.mpr ⟨Nat.le_of_lt, fun hle => Nat.lt_of_le_of_ne hle hne⟩

/-- A call and the time after it: the visits are those of the call, and a poll runs if the call has started one that
    has told nothing final. --/
theorem call_makes {w : Watch (Recorded σ)} {entry : PollCall × Wait} (hl : w.listening = true)
    (h : ∀ visit ∈ entry.1.visits w.policy w.now w.service, visit.requests ≠ [] → visit.moment ≠ w.now + entry.2) :
    Makes w (Schedule.period w.policy w.now w.service entry) ((w.call entry.1).pause entry.2) ∧
      ((w.call entry.1).pause entry.2).now = w.now + entry.2 ∧
      (((w.call entry.1).pause entry.2).isActive = true ↔
        (∃ job, entry.1 = .start job) ∧ ∀ visit ∈ Schedule.period w.policy w.now w.service entry, visit.Goes) := by
  obtain ⟨call, wait⟩ := entry
  cases call with
  | start job =>
    rw [period_start h]
    show Makes w _ ((w.start job).pause wait) ∧ ((w.start job).pause wait).now = _ ∧ _
    unfold pause
    split
    · rename_i hzero
      rw [hzero]
      exact ⟨.none hl _ _, rfl, fun _ => ⟨⟨job, rfl⟩, nofun⟩, fun _ => rfl⟩
    · obtain ⟨hmakes, hruns⟩ := turns_makes (w.start job).turnsLeft (w.now + wait) (w := w.start job) hl rfl
      obtain ⟨hunread, hservice, hrequests, hpolicy, hlistening⟩ := hmakes
      refine ⟨⟨hunread, hservice, hrequests, hpolicy, hlistening⟩, Nat.max_eq_right (Nat.le_add_right _ _), ?_⟩
      exact hruns.trans (and_iff_right ⟨job, rfl⟩).symm
  | cancel | drop =>
    show Makes w [] (w.cancel.pause wait) ∧ (w.cancel.pause wait).now = _ ∧ ((w.cancel.pause wait).isActive = true ↔ _)
    rw [pause_of_idle rfl]
    exact ⟨.none hl _ _, rfl, nofun, nofun⟩

/-- What a watch does that follows a schedule. --/
theorem follow_makes (schedule : Schedule) {w : Watch (Recorded σ)} (hl : w.listening = true)
    (h : Schedule.Apart w.policy w.now w.service schedule) :
    Makes w (Schedule.ledger w.policy w.now w.service schedule) (w.follow schedule) ∧
      (w.follow schedule).now = w.now + Schedule.span schedule := by
  induction schedule generalizing w with
  | nil => exact ⟨.refl hl, rfl⟩
  | cons entry rest ih =>
    obtain ⟨hentry, hrest⟩ := h
    obtain ⟨hmakes, hnow, -⟩ := call_makes hl hentry
    rw [← hmakes.service, ← hmakes.policy, ← hnow] at hrest
    obtain ⟨hafter, hlate⟩ := ih hmakes.listening hrest
    rw [hmakes.service, hmakes.policy, hnow] at hafter
    refine ⟨hmakes.trans hafter, hlate.trans ?_⟩
    rw [hnow, Schedule.span, Nat.add_assoc]

/-- The last call of a schedule has started a poll, which has told nothing final since. --/
def Pending (w : Watch σ) (schedule : Schedule) : Prop :=
  ∃ before job wait sent, schedule = before ++ [(.start job, wait)] ∧
    (w.follow schedule).unread = (w.follow before).unread ++ sent ∧ ∀ event ∈ sent, event.isFinal = false

theorem isActive_iff_pending {w : Watch (Recorded σ)} (hl : w.listening = true) (hidle : w.poll = none)
    {schedule : Schedule} (h : Schedule.Apart w.policy w.now w.service schedule) :
    (w.follow schedule).isActive = true ↔ Pending w schedule := by
  rcases List.eq_nil_or_concat schedule with rfl | ⟨before, entry, rfl⟩
  · have hover : (w.follow []).isActive = false := by
      show w.isActive = false
      rw [isActive, hidle, Option.isSome_none]
    rw [hover]
    refine ⟨nofun, fun hpending => ?_⟩
    obtain ⟨before, job, wait, sent, hnil, -⟩ := hpending
    exact absurd hnil.symm (List.append_ne_nil_of_right_ne_nil _ nofun)
  · rw [List.concat_eq_append] at h ⊢
    obtain ⟨hbefore, hentry, -⟩ := (Schedule.apart_append _ before [entry] _ _).mp h
    obtain ⟨hmakes, hnow⟩ := follow_makes before hl hbefore
    rw [← hmakes.service, ← hmakes.policy, ← hnow] at hentry
    obtain ⟨hcall, -, hruns⟩ := call_makes hmakes.listening hentry
    have hlast : w.follow (before ++ [entry]) = ((w.follow before).call entry.1).pause entry.2 := by
      rw [follow, List.foldl_append]
      rfl
    have hunread := hcall.unread
    rw [← hlast] at hruns hunread
    rw [hruns]
    constructor
    · rintro ⟨⟨job, hjob⟩, hgoes⟩
      refine ⟨before, job, entry.2, _, by rw [← hjob], hunread, fun event he => ?_⟩
      obtain ⟨visit, hvisit, hevent⟩ := List.mem_flatMap.mp he
      exact hgoes visit hvisit event hevent
    · rintro ⟨before', job, wait, sent, hsplit, hsent, hgoes⟩
      obtain ⟨rfl, hsame⟩ := List.append_inj' hsplit rfl
      cases hsame
      refine ⟨⟨job, rfl⟩, fun visit hvisit event hevent => hgoes event ?_⟩
      rw [hsent] at hunread
      rw [List.append_cancel_left hunread]
      exact List.mem_flatMap.mpr ⟨visit, hvisit, hevent⟩

/-- Whatever a schedule of calls is and whatever the service answers, what is asked and told is what the polls ask and
    tell that are started and left alone, each up to the next call: in the time after a call nothing is asked and
    nothing told that is not the matter of this call. A poll runs, and to end it tells so, exactly as long as the
    newest call has started it and nothing final is told. --/
theorem follow_ledger (service : Recorded σ) (policy : PollPolicy) (schedule : Schedule)
    (h : Schedule.Apart policy 0 service schedule) :
    ((idle service policy).follow schedule).unread =
        (Schedule.ledger policy 0 service schedule).flatMap Visit.events ∧
      ((idle service policy).follow schedule).service.requests =
        service.requests ++ (Schedule.ledger policy 0 service schedule).flatMap Visit.requests ∧
      (∀ before entry after, schedule = before ++ entry :: after →
        ∀ visit ∈ Schedule.ledger policy 0 service schedule,
          Schedule.span before ≤ visit.moment → visit.moment < Schedule.span before + entry.2 →
            visit ∈ entry.1.visits policy (Schedule.span before) ((idle service policy).follow before).service) ∧
      (((idle service policy).follow schedule).stop.1 = true ↔ Pending (idle service policy) schedule) ∧
      (((idle service policy).follow schedule).isActive = true ↔ Pending (idle service policy) schedule) := by
  have hidle : Schedule.Apart (idle service policy).policy (idle service policy).now (idle service policy).service
    schedule := h
  obtain ⟨hmakes, -⟩ := follow_makes schedule rfl hidle
  have hactive := isActive_iff_pending rfl rfl hidle
  refine ⟨hmakes.unread, hmakes.requests, fun before entry after hsplit visit hvisit hsince huntil => ?_, hactive,
    hactive⟩
  rw [hsplit] at h hvisit
  obtain ⟨hbefore, -⟩ := (Schedule.apart_append policy before _ 0 service).mp h
  obtain ⟨hmade, -⟩ := follow_makes before (w := idle service policy) rfl hbefore
  rw [← Nat.zero_add (Schedule.span before)] at hsince huntil ⊢
  rw [hmade.service]
  exact Schedule.mem_visits_of_mem_ledger hvisit hsince huntil

/-- A poll that is replaced before it asks for anything, one that is cancelled after a failure, and one that is
    done. --/
def rehearsedSchedule : Schedule :=
  [(.start Script.job, .seconds 5), (.start Script.job, .seconds 25), (.cancel, .seconds 5),
    (.start Script.job, .seconds 15)]

/-- The first poll asks for nothing, the second one once, and the third one finds the new video. --/
theorem follow_ledger_of_rehearsal :
    Schedule.Apart .standard 0 rehearsedWatch.service rehearsedSchedule ∧
      (rehearsedWatch.follow rehearsedSchedule).service.requests =
        [.status Script.job, .status Script.job, .download Script.job none] ∧
      (rehearsedWatch.follow rehearsedSchedule).unread.length = 3 ∧ ¬ Pending rehearsedWatch rehearsedSchedule := by
  have h : Schedule.Apart .standard 0 rehearsedWatch.service rehearsedSchedule := by
    refine ⟨?_, ?_, ?_, ?_, trivial⟩ <;> decide +kernel
  obtain ⟨hunread, hrequests, -, -, hactive⟩ := follow_ledger rehearsedWatch.service .standard rehearsedSchedule h
  refine ⟨h, hrequests, ?_, fun hpending => ?_⟩
  · show ((idle rehearsedWatch.service .standard).follow rehearsedSchedule).unread.length = 3
    rw [hunread]
    rfl
  · cases hactive.mpr hpending

end Watch
end Cutroom
