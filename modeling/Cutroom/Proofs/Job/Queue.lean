import Cutroom.Proofs.Job.Schedule

/-! The queue of a watch, motion by motion (`Watch.moved_queue`). Time that passes puts behind the queue what the poll
    sends, and an event leaves it in front, when it is heard, or together with all others, when the queue is dropped.
    So what was unread and what was sent have come to one fate after the other, in the same order, up to what is unread
    still. -/

namespace Cutroom

/-- What can happen to a watch. --/
inductive Motion (σ : Type) where
  /-- A stretch of time passes. -/
  | sleep (wait : Wait)
  /-- Time passes until the next turn of the poll, if one runs. -/
  | turn
  /-- The service has answered a request that no poll has made. -/
  | serve (service : σ)
  | start (job : JobId)
  | cancel
  /-- The first unread event is taken. -/
  | take
  /-- The unread events are dropped. -/
  | drain

/-- What becomes of an event that a poll has sent. --/
inductive Fate where
  | heard (event : JobEvent)
  | dropped (event : JobEvent)

namespace Fate

def event : Fate → JobEvent
  | heard event | dropped event => event

def heard? : Fate → Option JobEvent
  | heard event => some event
  | dropped _ => none

theorem map_event_heard (events : List JobEvent) : (events.map heard).map event = events := by
  rw [List.map_map]
  exact List.map_id events

theorem map_event_dropped (events : List JobEvent) : (events.map dropped).map event = events := by
  rw [List.map_map]
  exact List.map_id events

end Fate

namespace Watch

variable {σ : Type} [JobService σ]

/-- What the running poll, left alone, sends up to a moment. --/
def sends (w : Watch σ) (moment : Wait) : List JobEvent :=
  match w.poll with
  | none => []
  | some p => ((p.lone w.service).filter fun visit => visit.moment ≤ moment).flatMap Visit.events

def after (w : Watch σ) : Motion σ → Watch σ
  | .sleep wait => w.sleep wait
  | .turn => w.advanceToTurn
  | .serve service => { w with service := service }
  | .start job => w.start job
  | .cancel => w.cancel
  | .take => { w with unread := w.unread.tail }
  | .drain => w.drain

/-- What is sent during a motion. --/
def sent (w : Watch σ) : Motion σ → List JobEvent
  | .sleep wait => w.sends (w.now + wait.slept)
  | .turn => (w.poll.map fun p => w.sends p.due).getD []
  | _ => []

omit [JobService σ] in
/-- What becomes of events in a motion. --/
def fates (w : Watch σ) : Motion σ → List Fate
  | .take => (w.unread.take 1).map .heard
  | .drain => w.unread.map .dropped
  | _ => []

/-- The watch after a row of motions. --/
def moved (w : Watch σ) (motions : List (Motion σ)) : Watch σ := motions.foldl after w

def sentIn (w : Watch σ) : List (Motion σ) → List JobEvent
  | [] => []
  | motion :: motions => w.sent motion ++ (w.after motion).sentIn motions

def fatesIn (w : Watch σ) : List (Motion σ) → List Fate
  | [] => []
  | motion :: motions => w.fates motion ++ (w.after motion).fatesIn motions

/-- A watch goes through motions, in which events come to their fates. --/
structure Moves (w : Watch σ) (motions : List (Motion σ)) (fates : List Fate) (v : Watch σ) : Prop where
  moved : w.moved motions = v
  fates : w.fatesIn motions = fates

theorem Moves.trans {u v w : Watch σ} {before after : List (Motion σ)} {earlier later : List Fate}
    (h₁ : Moves u before earlier v) (h₂ : Moves v after later w) : Moves u (before ++ after) (earlier ++ later) w where
  moved := by
    rw [Watch.moved, List.foldl_append]
    exact (congrArg (·.moved after) h₁.moved).trans h₂.moved
  fates := by
    obtain ⟨rfl, rfl⟩ := h₁
    rw [← h₂.fates]
    clear h₂
    induction before generalizing u with
    | nil => rfl
    | cons motion before ih =>
      rw [List.cons_append, fatesIn, ih, fatesIn, List.append_assoc]
      rfl

theorem moves_take {w : Watch σ} {event : JobEvent} {rest : List JobEvent} (hu : w.unread = event :: rest) :
    Moves w [.take] [.heard event] { w with unread := rest } where
  moved := by rw [moved, List.foldl_cons, List.foldl_nil, after, hu, List.tail_cons]
  fates := by
    rw [fatesIn, fatesIn, fates, hu]
    rfl

/-! ### Time -/

/-- The turns that are taken up to a moment send what the poll sends when it is left alone. --/
theorem turns_sends (fuel : Nat) (moment : Wait) {w : Watch σ} {p : Poll} (hl : w.listening = true)
    (hp : w.poll = some p) :
    (w.turns fuel moment).unread =
      w.unread ++ ((p.visits fuel w.service).filter fun visit => visit.moment ≤ moment).flatMap Visit.events := by
  induction fuel generalizing w p with
  | zero => exact (List.append_nil _).symm
  | succ fuel ih =>
    have hpoll : (w.turned p).poll = (p.turn true w.service).next := by rw [turned, hl]
    have hservice : (w.turned p).service = (p.turn true w.service).service := by rw [turned, hl]
    have hunread : (w.turned p).unread = w.unread ++ (p.turn true w.service).events := by rw [turned, hl]
    rw [Poll.visits_until, turns_of_running hp]
    split
    · -- This turn is in time; the next one is taken by the poll that it leaves behind.
      rw [List.flatMap_cons, ← List.append_assoc, ← hunread]
      cases hn : (p.turn true w.service).next with
      | none =>
        rw [hn] at hpoll
        rw [turns_of_idle hpoll, List.flatMap_nil, List.append_nil]
      | some q =>
        rw [hn] at hpoll
        rw [ih (w := w.turned p) hl hpoll, hservice]
    · exact (List.append_nil _).symm

theorem advance_sends {w : Watch σ} (hl : w.listening = true) (moment : Wait) :
    (w.advance moment).unread = w.unread ++ w.sends moment := by
  cases hp : w.poll with
  | none => simp only [advance, turns_of_idle hp, sends, hp, List.append_nil]
  | some p =>
    have hleft : w.turnsLeft = p.left + 1 := by simp only [turnsLeft, hp, Option.map_some, Option.getD_some]
    simp only [advance, hleft, turns_sends _ moment hl hp, sends, hp, Poll.lone]

/-! ### The queue -/

theorem after_listening {w : Watch σ} (hl : w.listening = true) (motion : Motion σ) :
    (w.after motion).listening = true := by
  cases motion with
  | sleep wait => exact (advance_gives w _ hl).listening
  | turn => exact (advanceToTurn_gives w hl).listening
  | serve | start | cancel | take | drain => exact hl

/-- What was unread and what is sent in a motion comes to its fate or is unread after it. --/
theorem after_queue {w : Watch σ} (hl : w.listening = true) (motion : Motion σ) :
    w.unread ++ w.sent motion = (w.fates motion).map Fate.event ++ (w.after motion).unread := by
  cases motion with
  | sleep wait => exact (advance_sends hl _).symm
  | turn =>
    cases hp : w.poll with
    | none => simp only [sent, after, advanceToTurn, hp, Option.map_none, Option.getD_none, List.append_nil, fates,
        List.map_nil, List.nil_append]
    | some p =>
      simp only [sent, after, advanceToTurn, hp, Option.map_some, Option.getD_some, advance_sends hl, fates,
        List.map_nil, List.nil_append]
  | serve | start | cancel => exact List.append_nil _
  | take =>
    simp only [sent, fates, after, Fate.map_event_heard, List.append_nil]
    cases w.unread <;> rfl
  | drain => simp only [sent, fates, after, drain, Fate.map_event_dropped]

theorem moved_listening {w : Watch σ} (hl : w.listening = true) (motions : List (Motion σ)) :
    (w.moved motions).listening = true := by
  induction motions generalizing w with
  | nil => exact hl
  | cons motion motions ih => exact ih (after_listening hl motion)

theorem moved_queue {w : Watch σ} (hl : w.listening = true) (motions : List (Motion σ)) :
    w.unread ++ w.sentIn motions = (w.fatesIn motions).map Fate.event ++ (w.moved motions).unread := by
  induction motions generalizing w with
  | nil => exact List.append_nil _
  | cons motion motions ih =>
    have hrest := ih (after_listening hl motion)
    rw [sentIn, ← List.append_assoc, after_queue hl motion, List.append_assoc, hrest, fatesIn, List.map_append,
      List.append_assoc]
    rfl

end Watch
end Cutroom
