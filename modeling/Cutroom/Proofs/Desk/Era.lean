import Cutroom.Proofs.Desk.Operation

/-! Which poll an event comes from. An era begins whenever the editor moves on from its poll, and an event is dated
    with the era in which it was sent (`Editor.Dated`). Moving on leaves the queue as it is, so that events of an
    earlier era are heard later exactly where some were unread (`Editor.Dated.Sound.hears_iff`), and waiting for a
    new edit ends with the end of an earlier one exactly where that was unread (`Editor.Dated.Sound.wait_iff`). -/

namespace Cutroom
namespace Editor

variable {σ : Type}

/-- An editor with the eras of its events. At most one poll runs in an era. --/
structure Dated (σ : Type) where
  editor : Editor σ
  era : Nat
  /-- The unread events, each with the era in which it was sent. -/
  unread : List (Nat × JobEvent)

namespace Dated

section Step
variable [JobService σ]

/-- What is sent during an operation: it stands behind what was unread. --/
def sent (d : Dated σ) (op : Op) : List JobEvent :=
  (d.editor.heard op ++ (d.editor.step op).watch.unread).drop d.editor.watch.unread.length

/-- What was unread, and what is sent during an operation. --/
def queue (d : Dated σ) (op : Op) : List (Nat × JobEvent) := d.unread ++ (d.sent op).map fun event => (d.era, event)

/-- The events that an operation answers with are first in the queue. --/
def heard (d : Dated σ) (op : Op) : List (Nat × JobEvent) := (d.queue op).take (d.editor.heard op).length

/-- The events that are unread after an operation are last in the queue. --/
def step (d : Dated σ) (op : Op) : Dated σ where
  editor := d.editor.step op
  era := if d.editor.replaces op then d.era + 1 else d.era
  unread := (d.queue op).drop ((d.queue op).length - (d.editor.step op).watch.unread.length)

/-- The events that a row of operations answers with. --/
def hears (d : Dated σ) : List Op → List (Nat × JobEvent)
  | [] => []
  | op :: ops => d.heard op ++ (d.step op).hears ops

inductive Reachable : Dated σ → Prop where
  | opened (service : σ) (policy : PollPolicy) (disk : Disk) (rendersDir : FilePath) (responder : Responder)
      (stamp : Wait → String) :
      Reachable ⟨{ opened service policy disk rendersDir stamp with responder := responder }, 0, []⟩
  | step {d : Dated σ} (op : Op) : Reachable d → Reachable (d.step op)

/-- Every editor that operations lead to can be dated. --/
theorem exists_reachable {e : Editor σ} (h : e.Reachable) : ∃ d : Dated σ, d.Reachable ∧ d.editor = e := by
  induction h with
  | opened service policy disk rendersDir responder stamp =>
    exact ⟨_, .opened service policy disk rendersDir responder stamp, rfl⟩
  | step op _ ih =>
    obtain ⟨d, hd, rfl⟩ := ih
    exact ⟨d.step op, hd.step op, rfl⟩

end Step

/-! ### Dates are right -/

/-- The dated events are the unread ones, and none is from an era to come. --/
structure Sound (d : Dated σ) : Prop where
  listening : d.editor.watch.listening = true
  unread : d.unread.map Prod.snd = d.editor.watch.unread
  past : ∀ p ∈ d.unread, p.1 ≤ d.era

variable [JobService σ] {d : Dated σ}

omit [JobService σ] in
theorem Sound.length (h : Sound d) : d.unread.length = d.editor.watch.unread.length := by
  rw [← h.unread, List.length_map]

theorem Sound.queue_past (h : Sound d) (op : Op) : ∀ p ∈ d.queue op, p.1 ≤ d.era := by
  intro p hp
  rcases List.mem_append.mp hp with hp | hp
  · exact h.past p hp
  · obtain ⟨event, -, rfl⟩ := List.mem_map.mp hp
    exact Nat.le_refl _

theorem Sound.queue_eq (h : Sound d) {op : Op}
    (hq : ∃ sent, d.editor.watch.unread ++ sent = d.editor.heard op ++ (d.editor.step op).watch.unread) :
    (d.queue op).map Prod.snd = d.editor.heard op ++ (d.editor.step op).watch.unread := by
  obtain ⟨sent, hs⟩ := hq
  have hsent : d.sent op = sent := by rw [Dated.sent, ← hs, List.drop_left]
  rw [queue, List.map_append, h.unread, hsent, List.map_map, ← hs]
  exact congrArg _ (List.map_id _)

theorem Sound.queue_cases (h : Sound d) (op : Op) :
    (d.queue op).map Prod.snd = d.editor.heard op ++ (d.editor.step op).watch.unread ∨
      d.editor.heard op = [] ∧ (d.editor.step op).watch.unread = [] := by
  cases step_outcome h.listening op with
  | kept _ hk => exact .inl (h.queue_eq hk.watch.queue)
  | cancelled _ hnil hc => exact .inr ⟨hnil, hc.unread⟩
  | replaced _ hnil hr =>
    refine .inl (h.queue_eq ?_)
    rw [hnil]
    exact hr.queue

theorem Sound.heard_map (h : Sound d) (op : Op) : (d.heard op).map Prod.snd = d.editor.heard op := by
  rcases h.queue_cases op with hq | ⟨hnil, -⟩
  · rw [heard, List.map_take, hq, List.take_left]
  · rw [heard, hnil, List.length_nil, List.take_zero, List.map_nil]

theorem Sound.step_unread (h : Sound d) (op : Op) :
    (d.step op).unread.map Prod.snd = (d.editor.step op).watch.unread := by
  rcases h.queue_cases op with hq | ⟨-, hnil⟩
  · have hlen := congrArg List.length hq
    rw [List.length_map, List.length_append] at hlen
    rw [step, List.map_drop, hq, hlen, Nat.add_sub_cancel, List.drop_left]
  · rw [step, hnil, List.length_nil, Nat.sub_zero, List.drop_length, List.map_nil]

theorem era_le_step (d : Dated σ) (op : Op) : d.era ≤ (d.step op).era := by
  unfold step
  dsimp only
  split <;> omega

theorem Sound.step (h : Sound d) (op : Op) : Sound (d.step op) where
  listening := (step_outcome h.listening op).listening
  unread := h.step_unread op
  past p hp := Nat.le_trans (h.queue_past op p (List.mem_of_mem_drop hp)) (era_le_step d op)

theorem Reachable.sound (h : d.Reachable) : Sound d := by
  induction h with
  | opened service policy disk rendersDir responder stamp => exact ⟨rfl, rfl, fun p hp => by cases hp⟩
  | step op _ ih => exact ih.step op

/-! ### What is heard of an earlier era -/

theorem mem_queue_of_heard {op : Op} {p : Nat × JobEvent} (h : p ∈ d.heard op) : p ∈ d.queue op :=
  List.mem_of_mem_take h

/-- The editor is past an era, and nothing of it is unread. --/
structure Past (n : Nat) (d : Dated σ) : Prop where
  era : n < d.era
  unread : ∀ p ∈ d.unread, n < p.1

theorem Past.queue {n : Nat} (h : Past n d) (op : Op) : ∀ p ∈ d.queue op, n < p.1 := by
  intro p hp
  rcases List.mem_append.mp hp with hp | hp
  · exact h.unread p hp
  · obtain ⟨event, -, rfl⟩ := List.mem_map.mp hp
    exact h.era

theorem Past.step {n : Nat} (h : Past n d) (op : Op) : Past n (d.step op) where
  era := Nat.lt_of_lt_of_le h.era (era_le_step d op)
  unread p hp := h.queue op p (List.mem_of_mem_drop hp)

theorem Past.hears {n : Nat} (h : Past n d) (ops : List Op) : ∀ p ∈ d.hears ops, n < p.1 := by
  induction ops generalizing d with
  | nil => exact fun p hp => by cases hp
  | cons op ops ih =>
    intro p hp
    rcases List.mem_append.mp hp with hp | hp
    · exact h.queue op p (mem_queue_of_heard hp)
    · exact ih (h.step op) p hp

theorem Sound.heard_next (h : Sound d) {first : Nat × JobEvent} {rest : List (Nat × JobEvent)}
    (hu : d.unread = first :: rest) : d.heard .next = [first] := by
  have hstore : d.editor.watch.outlook.1 =
      first.2 :: (rest.map Prod.snd ++ (Poll.rest d.editor.watch.poll d.editor.watch.service).1) := by
    rw [Watch.outlook, ← h.unread, hu, List.map_cons, List.cons_append]
  obtain ⟨v, -, hn⟩ := next_of_cons h.listening hstore
  have hone : (d.editor.heard .next).length = 1 := by
    rw [Editor.heard, hn]
    rfl
  rw [heard, hone, queue, hu]
  rfl

/-- Once the editor has moved on, nothing of the time before is heard exactly if nothing was left unread. --/
theorem Sound.hears_iff (h : Sound d) {op : Op} (hop : d.editor.replaces op = true) :
    (∀ ops, ∀ p ∈ (d.step op).hears ops, d.era < p.1) ↔ (d.editor.step op).watch.unread = [] := by
  have hera : (d.step op).era = d.era + 1 := by simp only [Dated.step, hop, if_true]
  constructor
  · intro hears
    cases hu : (d.step op).unread with
    | nil => rw [← h.step_unread op, hu, List.map_nil]
    | cons first rest =>
      -- The first unread event is from the time before, and it is heard next.
      have hnext := hears [.next] first (by
        rw [Dated.hears, (h.step op).heard_next hu]
        exact List.mem_append_left _ List.mem_cons_self)
      have hmem : first ∈ (d.step op).unread := by
        rw [hu]
        exact List.mem_cons_self
      have hpast := h.queue_past op first (List.mem_of_mem_drop hmem)
      omega
  · intro hnil ops
    have hunread : (d.step op).unread = [] := by
      have hmap := h.step_unread op
      rw [hnil] at hmap
      exact List.map_eq_nil_iff.mp hmap
    refine Past.hears ⟨by omega, fun p hp => ?_⟩ ops
    rw [hunread] at hp
    cases hp

/-! ### Waiting for a new edit -/

/-- A prompt that is taken leaves the queue as it is and starts a poll of the present job. --/
theorem sendPrompt_of_taken {e : Editor σ} {text : String} (h : (e.sendPrompt text).1.toBool = true) :
    ∃ job service, (e.sendPrompt text).2.watch = { e.watch with service := service }.start job ∧
      (e.sendPrompt text).2.session.isCurrent job = true := by
  unfold sendPrompt at h ⊢
  rcases beginPrompt_cases e.session text with ⟨err, t, hb, -, -⟩ | ⟨job, t, hb, -, hc, -⟩
  · rw [hb] at h
    cases h
  · rw [hb] at h ⊢
    dsimp only at h ⊢
    split at h
    · exact ⟨job, _, rfl, hc⟩
    · cases h

/-- Waiting has ended with the edit that was requested last. --/
structure Ends (d d' : Dated σ) (heard : List (Nat × JobEvent)) : Prop where
  last : ∃ final, heard.getLast? = some (d.era, final) ∧ final.isFinal = true
  processing : d'.editor.session.processing = false
  idle : d'.editor.isPolling = false

theorem prompted_store {e : Editor σ} {text : String} (h : (e.sendPrompt text).1.toBool = true) :
    ∃ seen final, (e.sendPrompt text).2.watch.outlook.1 = e.watch.unread ++ (seen ++ [final]) ∧
      final.isFinal = true ∧ (∀ event ∈ seen, event.isFinal = false) ∧
      (e.sendPrompt text).2.session.isCurrent final.job = true := by
  obtain ⟨job, service, hw, hc⟩ := sendPrompt_of_taken h
  obtain ⟨seen, final, hcourse, hf, hseen, hj⟩ :=
    Poll.course_split job e.watch.policy.maxAttempts e.watch.policy.maxAttempts.toNat service
  refine ⟨seen, final, ?_, hf, hseen, ?_⟩
  · rw [hw]
    exact congrArg (e.watch.unread ++ ·) hcourse
  · rw [hj final (List.mem_append_right _ List.mem_cons_self)]
    exact hc

/-- Where more is heard than was unread, the last event heard is of the present era. --/
theorem Sound.heard_last (h : Sound d) {op : Op} {sent : List JobEvent} {last : JobEvent}
    (hh : d.editor.heard op = d.editor.watch.unread ++ (sent ++ [last])) :
    (d.heard op).getLast? = some (d.era, last) := by
  have hsent : d.sent op = sent ++ [last] ++ (d.editor.step op).watch.unread := by
    rw [Dated.sent, hh, List.append_assoc, List.drop_left]
  have hqueue : d.queue op = d.unread ++ (sent ++ [last]).map (fun event => (d.era, event)) ++
      (d.editor.step op).watch.unread.map fun event => (d.era, event) := by
    rw [queue, hsent, List.map_append, List.append_assoc]
  have hlen : (d.editor.heard op).length = (d.unread ++ (sent ++ [last]).map fun event => (d.era, event)).length := by
    simp only [hh, List.length_append, List.length_map, h.length]
  rw [heard, hlen, hqueue, List.take_left, List.map_append, List.map_singleton, ← List.append_assoc,
    List.getLast?_concat]

/-- Where no more is heard than was unread, nothing heard is of a later era. --/
theorem Sound.heard_short (h : Sound d) {op : Op} {n : Nat} (hpast : ∀ p ∈ d.unread, p.1 ≤ n)
    (hh : (d.editor.heard op).length ≤ d.editor.watch.unread.length) : ∀ p ∈ d.heard op, p.1 ≤ n := by
  intro p hp
  rw [heard, queue, List.take_append_of_le_length (by rw [h.length]; exact hh)] at hp
  exact hpast p (List.mem_of_mem_take hp)

/-- After a prompt that was taken, waiting ends with the end of the edit exactly if no end of an earlier one was
    unread. --/
theorem Sound.wait_iff (h : Sound d) {text : String} (htaken : (d.editor.sendPrompt text).1.toBool = true) :
    Ends (d.step (.sendPrompt text)) ((d.step (.sendPrompt text)).step .wait)
        ((d.step (.sendPrompt text)).heard .wait) ↔
      ∀ event ∈ d.editor.watch.unread, event.isFinal = false := by
  have h' := h.step (.sendPrompt text)
  have hera : (d.step (.sendPrompt text)).era = d.era + 1 := by
    simp only [Dated.step, replaces, htaken, if_true]
  obtain ⟨job, service, hw, -⟩ := sendPrompt_of_taken htaken
  have hunread : (d.step (.sendPrompt text)).editor.watch.unread = d.editor.watch.unread :=
    (congrArg Watch.unread hw).trans rfl
  obtain ⟨seen, final, hstore, hfinal, hseen, hcurrent⟩ := prompted_store htaken
  have hwaits := wait_waits (d.step (.sendPrompt text)).editor h'.listening
  constructor
  · intro hends
    cases hfind : d.editor.watch.unread.find? JobEvent.isFinal with
    | none => exact fun event he => eq_false_of_ne_true (List.find?_eq_none.mp hfind event he)
    | some last =>
      -- The loop ends with the unread final event, which is of an earlier era.
      obtain ⟨hlast, before, rest, hsplit, hbefore⟩ := List.find?_eq_some_iff_append.mp hfind
      replace hbefore : ∀ event ∈ before, event.isFinal = false := fun event he => by simpa using hbefore event he
      have hshort : ((d.step (.sendPrompt text)).editor.heard .wait).length ≤
          (d.step (.sendPrompt text)).editor.watch.unread.length := by
        rw [hsplit, List.append_assoc, List.cons_append] at hstore
        have hheard := congrArg List.length (hwaits.ends h'.listening hstore hbefore hlast).1
        rw [hunread, hsplit]
        simp only [List.length_append, List.length_cons, List.length_nil] at hheard ⊢
        exact Nat.le_trans (Nat.le_of_eq hheard) (by omega)
      have hpast : ∀ p ∈ (d.step (.sendPrompt text)).unread, p.1 ≤ d.era :=
        fun p hp => h.queue_past _ p (List.mem_of_mem_drop hp)
      obtain ⟨end_, hlast?, -⟩ := hends.last
      have hle := h'.heard_short hpast hshort _ (List.mem_of_getLast? hlast?)
      dsimp only at hle
      omega
  · intro hnone
    have hreadings : ∀ event ∈ d.editor.watch.unread ++ seen, event.isFinal = false :=
      fun event he => (List.mem_append.mp he).elim (hnone event) (hseen event)
    rw [← List.append_assoc] at hstore
    obtain ⟨hheard, f, hclosing, hend⟩ := hwaits.ends_store h'.listening hstore hreadings hfinal
    obtain ⟨hclosed, hidle⟩ := hclosing.closed hfinal hcurrent
    constructor
    case last =>
      rw [List.append_assoc, ← hunread] at hheard
      exact ⟨final, h'.heard_last hheard, hfinal⟩
    case processing =>
      rw [Dated.step, Editor.step, hend]
      exact hclosed.processing
    case idle =>
      rw [Dated.step, Editor.step, hend]
      exact hidle

/-- What is heard of earlier polls. After the editor has moved on, no later operation answers with an event of an
    earlier era, or takes one into the session, exactly if no event was left unread; and waiting after a prompt ends
    the new edit exactly if no final event was left unread. --/
theorem Reachable.replaced_iff (h : d.Reachable) :
    (∀ op, d.editor.replaces op = true →
      ((∀ ops, ∀ p ∈ (d.step op).hears ops, d.era < p.1) ↔ (d.editor.step op).watch.unread = [])) ∧
      ∀ text, d.editor.replaces (.sendPrompt text) = true →
        (Ends (d.step (.sendPrompt text)) ((d.step (.sendPrompt text)).step .wait)
            ((d.step (.sendPrompt text)).heard .wait) ↔
          ∀ event ∈ d.editor.watch.unread, event.isFinal = false) :=
  ⟨fun _ hop => h.sound.hears_iff hop, fun _ htaken => h.sound.wait_iff htaken⟩

/-- A rehearsal from its first era on. --/
def rehearsed (answers : List (Except String StatusReport)) : Dated (Recorded Script) :=
  step ⟨scripted answers, 0, []⟩ (.upload scriptedVideo)

theorem rehearsed_reachable (answers : List (Except String StatusReport)) : Reachable (rehearsed answers) :=
  .step _ (.opened _ _ _ _ .standard _)

/-- The first edit of a rehearsal is waited for to its end. --/
theorem replaced_iff_of_rehearsal :
    (rehearsed [.ok (.ofStatus .completed)]).Reachable ∧
      Ends ((rehearsed [.ok (.ofStatus .completed)]).step (.sendPrompt "cut"))
        (((rehearsed [.ok (.ofStatus .completed)]).step (.sendPrompt "cut")).step .wait)
        (((rehearsed [.ok (.ofStatus .completed)]).step (.sendPrompt "cut")).heard .wait) := by
  have hr := rehearsed_reachable [.ok (.ofStatus .completed)]
  have hunread : (rehearsed [.ok (.ofStatus .completed)]).editor.watch.unread = [] := rfl
  obtain ⟨-, hwait⟩ := Reachable.replaced_iff hr
  refine ⟨hr, (hwait "cut" rfl).mpr ?_⟩
  rw [hunread]
  exact fun event he => by cases he

/-- The poll of an edit has come to its end unread when another job is opened. --/
def overtaken : Dated (Recorded Script) :=
  (((rehearsed [.ok (.ofStatus .completed)]).step (.sendPrompt "cut")).step (.sleep (.seconds 15))).step
    (.openJob ⟨"job-2"⟩)

/-- The next edit is then taken to have ended with the end of the first one: it is polled and in progress still. --/
theorem overtaken_heard :
    overtaken.Reachable ∧ overtaken.editor.replaces (.sendPrompt "brighten") = true ∧
      (¬∀ ops, ∀ p ∈ (overtaken.step (.sendPrompt "brighten")).hears ops, overtaken.era < p.1) ∧
      ¬Ends (overtaken.step (.sendPrompt "brighten")) ((overtaken.step (.sendPrompt "brighten")).step .wait)
        ((overtaken.step (.sendPrompt "brighten")).heard .wait) := by
  have hr : overtaken.Reachable := (((rehearsed_reachable _).step _).step _).step _
  have heras : ((overtaken.step (.sendPrompt "brighten")).hears [.wait]).map Prod.fst = [2, 2] := rfl
  have hera : overtaken.era = 3 := rfl
  have hbusy : ((overtaken.step (.sendPrompt "brighten")).step .wait).editor.session.processing = true := rfl
  refine ⟨hr, rfl, fun hears => ?_, fun hends => ?_⟩
  · have hmem : 2 ∈ ((overtaken.step (.sendPrompt "brighten")).hears [.wait]).map Prod.fst := by
      rw [heras]
      exact List.mem_cons_self
    obtain ⟨p, hp, htwo⟩ := List.mem_map.mp hmem
    have hlate := hears [.wait] p hp
    omega
  · rw [hends.processing] at hbusy
    cases hbusy

end Dated
end Editor
end Cutroom
