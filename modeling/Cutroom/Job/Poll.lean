import Cutroom.Job.Event
import Cutroom.Job.Status

/-! Asking the service about a job until the job is done.

    A poll is a series of turns. It waits before each turn, longer after a failed request, and each turn
    is one status request, followed by a download when the job is completed. What a turn has learned is
    sent as events; the last event of a poll is final. -/

namespace Cutroom

/-- A stretch of waiting time, in nanoseconds. --/
abbrev Wait := Nat

namespace Wait

def seconds (n : Nat) : Wait := n * Nat.pow 10 9

def milliseconds (n : Nat) : Wait := n * Nat.pow 10 6

/-- The longest wait: one nanosecond short of `2 ^ 64` seconds. --/
def longest : Wait := Nat.pow 2 64 * Nat.pow 10 9 - 1

/-- The shortest wait that leads beyond the last moment of the clock. --/
def clockRange : Wait := milliseconds (Nat.pow 2 63)

/-- A wait up to the whole millisecond in which it ends. --/
def rounded (w : Wait) : Wait := (w + 999999) / 1000000 * 1000000

/-- How long a wait really lasts. One that leads beyond the last moment of the clock lasts for thirty years. --/
def slept (w : Wait) : Wait := if w < clockRange then w.rounded else seconds (30 * 365 * 86400)

end Wait

/-- How often and how many times a job is asked about. --/
structure PollPolicy where
  interval : Wait
  maxAttempts : UInt32
  maxBackoff : Wait
deriving DecidableEq

namespace PollPolicy

def standard : PollPolicy := ⟨Wait.seconds 10, 180, Wait.seconds 60⟩

/-- The wait before the next request after `failures` failed ones in a row: it doubles with each failure
    until it reaches the longest backoff, and never falls below the interval. --/
def delay (p : PollPolicy) (failures : Nat) : Wait :=
  if failures = 0 then p.interval
  else min (min (p.interval * Nat.pow 2 (min failures 16)) Wait.longest) (max p.maxBackoff p.interval)

end PollPolicy

/-- A running poll: the turns that are left, the failed requests in a row, and the moment of the next
    turn. --/
structure Poll where
  job : JobId
  policy : PollPolicy
  left : Nat
  failures : Nat
  due : Wait

/-- The outcome of a turn: the service after it, what was learned, and the poll if it goes on. --/
structure Turn (σ : Type) where
  service : σ
  events : List JobEvent
  next : Option Poll

namespace Poll

/-- A poll that starts at a moment. One without any turn says so as soon as time passes. --/
def start (job : JobId) (policy : PollPolicy) (now : Wait) : Poll where
  job := job
  policy := policy
  left := policy.maxAttempts.toNat
  failures := 0
  due := if policy.maxAttempts = 0 then now else now + (policy.delay 0).slept

def timeout (p : Poll) : JobEvent := .timedOut p.job p.policy.maxAttempts

/-- Goes on with one turn less after `failures` failed requests in a row, or ends the poll when no turn is
    left. --/
def goOn {σ : Type} (p : Poll) (service : σ) (learned : JobEvent) (failures : Nat) : Turn σ :=
  if p.left ≤ 1 then ⟨service, [learned, p.timeout], none⟩
  else
    ⟨service, [learned],
      some { p with left := p.left - 1, failures := failures, due := p.due + (p.policy.delay failures).slept }⟩

/-- The final event of a job that is done, none for one that still runs. --/
def verdict {σ : Type} [JobService σ] (job : JobId) (report : StatusReport) (service : σ) :
    Option JobEvent × σ :=
  match report.status with
  | .completed =>
    match JobService.download service job none with
    | (.ok video, service) => (some (.completed job report.reply video), service)
    | (.error e, service) => (some (.refreshFailed job report.reply e.message), service)
  | .chatOnly => (some (.chatOnly job report.reply), service)
  | .failed => (some (.failed job (report.error.getD JobEvent.noReason)), service)
  | _ => (none, service)

/-- One turn of a poll. When nobody listens any more the poll ends with the first event that it cannot
    send. --/
def turn {σ : Type} [JobService σ] (p : Poll) (listening : Bool) (service : σ) : Turn σ :=
  if p.left = 0 then ⟨service, if listening then [p.timeout] else [], none⟩
  else
    let (answer, service) := JobService.status service p.job
    if listening then
      match answer with
      | .error e => p.goOn service (.pollError p.job e.message) (p.failures + 1)
      | .ok report =>
        match verdict p.job report service with
        | (some final, service) => ⟨service, [.status p.job report, final], none⟩
        | (none, service) => p.goOn service (.status p.job report) 0
    else ⟨service, [], none⟩

end Poll

/-- The service as it is watched: the time, the poll that runs and the events that nobody has read. --/
structure Watch (σ : Type) where
  service : σ
  policy : PollPolicy
  now : Wait
  poll : Option Poll
  unread : List JobEvent
  listening : Bool

namespace Watch

variable {σ : Type}

def idle (service : σ) (policy : PollPolicy) : Watch σ := ⟨service, policy, 0, none, [], true⟩

def isActive (w : Watch σ) : Bool := w.poll.isSome

/-- Starts to poll a job in the place of the poll that runs. --/
def start (w : Watch σ) (job : JobId) : Watch σ := { w with poll := some (Poll.start job w.policy w.now) }

/-- Ends the poll. What it has sent stays unread. --/
def cancel (w : Watch σ) : Watch σ := { w with poll := none }

/-- Ends the poll, and tells whether one was still running. --/
def stop (w : Watch σ) : Bool × Watch σ := (w.isActive, w.cancel)

/-- Drops the events that nobody has read. --/
def drain (w : Watch σ) : Watch σ := { w with unread := [] }

/-- Nobody listens to events any more. --/
def close (w : Watch σ) : Watch σ := { w with unread := [], listening := false }

/-- Takes the turns that are due up to a moment, at most `fuel` of them. --/
def turns [JobService σ] (fuel : Nat) (moment : Wait) (w : Watch σ) : Watch σ :=
  match fuel, w.poll with
  | fuel + 1, some p =>
    if p.due ≤ moment then
      let t := p.turn w.listening w.service
      turns fuel moment { w with service := t.service, poll := t.next, unread := w.unread ++ t.events }
    else w
  | _, _ => w

/-- The turns that are left, the final one counted. --/
def turnsLeft (w : Watch σ) : Nat := (w.poll.map fun p => p.left + 1).getD 0

/-- Lets time pass until a moment. --/
def advance [JobService σ] (w : Watch σ) (moment : Wait) : Watch σ :=
  { w.turns w.turnsLeft moment with now := max w.now moment }

/-- Lets a stretch of time pass. --/
def sleep [JobService σ] (w : Watch σ) (wait : Wait) : Watch σ := w.advance (w.now + wait.slept)

/-- Lets time pass until the next turn of the poll, if one runs. --/
def advanceToTurn [JobService σ] (w : Watch σ) : Watch σ :=
  match w.poll with
  | some p => w.advance p.due
  | none => w

end Watch
end Cutroom
