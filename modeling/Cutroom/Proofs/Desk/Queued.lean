import Cutroom.Proofs.Desk.Freed
import Cutroom.Proofs.Desk.Motions
import Cutroom.Proofs.Desk.Undone

/-! What becomes of the events that the polls of an editor send (`Editor.follow_queue`). They are heard in the order in
    which they were sent, each at most once, and none is missing but those that were dropped when waiting was given up.
    Each event that is heard is taken into the session once (`Session.TakesIn`); no other operation takes one in
    (`Editor.step_hears`). -/

namespace Cutroom

/-- What an editor tells its session when it is asked for something else than an event. --/
inductive Action.Requested : Action → Prop
  | uploaded (receipt : Receipt) (source : VideoSource) : Requested (.uploaded receipt source)
  | uploadFailed (e : JobError) : Requested (.uploadFailed e)
  | observe (job : JobId) (report : StatusReport) : Requested (.observe job report)
  | beginPrompt (text : String) : Requested (.beginPrompt text)
  | promptFailed (e : JobError) : Requested (.promptFailed e)
  | say (role : Role) (text : String) : Requested (.say role text)
  | editCancelled : Requested .editCancelled
  | exportFailed (message : String) : Requested (.exportFailed message)

namespace Session

/-- A session takes in an event: it is applied once, and where that hands back a video, the session is told once what
    became of it. --/
inductive Takes (s : Session) (event : JobEvent) : Session → Prop
  | told : (s.apply event).1 = none → Takes s event (s.apply event).2
  | stored {render : PendingRender} (path : FilePath) : (s.apply event).1 = some render →
      Takes s event ((s.apply event).2.editCompleted render.job render.reply (.file path))
  | lost {render : PendingRender} (message : String) : (s.apply event).1 = some render →
      Takes s event ((s.apply event).2.renderUnavailable render.job render.reply message)

/-- A session takes in events, one after the other. --/
inductive TakesIn : Session → List JobEvent → Session → Prop
  | nil (s : Session) : TakesIn s [] s
  | cons {s t u : Session} {event : JobEvent} {events : List JobEvent} : Takes s event t → TakesIn t events u →
      TakesIn s (event :: events) u

theorem TakesIn.trans {s t u : Session} {before after : List JobEvent} (h₁ : TakesIn s before t)
    (h₂ : TakesIn t after u) : TakesIn s (before ++ after) u := by
  induction h₁ with
  | nil s => exact h₂
  | cons htakes _ ih => exact .cons htakes (ih h₂)

/-- A session is told of requests. --/
def Hears (s t : Session) : Prop := ∃ actions : List Action, (∀ a ∈ actions, a.Requested) ∧ s.run actions = t

theorem Hears.refl (s : Session) : Hears s s := ⟨[], List.forall_mem_nil _, rfl⟩

theorem Hears.told (s : Session) {a : Action} (h : a.Requested) : Hears s (s.act a).2 :=
  ⟨[a], List.forall_mem_singleton.mpr h, rfl⟩

theorem Hears.trans {s t u : Session} (h₁ : Hears s t) (h₂ : Hears t u) : Hears s u := by
  obtain ⟨before, hbefore, rfl⟩ := h₁
  obtain ⟨after, hafter, rfl⟩ := h₂
  exact ⟨before ++ after, List.forall_mem_append.mpr ⟨hbefore, hafter⟩, List.foldl_append⟩

end Session

/-- What the owner of an editor can do: ask it for something, or do something to its session. --/
inductive Deed where
  | op (op : Editor.Op)
  | edit (move : Move)

namespace Editor

variable {σ : Type}

/-- The operation takes events. --/
inductive Op.Reads : Op → Prop
  | next : Reads .next
  | wait : Reads .wait

variable [JobService σ]

/-! ### Sessions -/

theorem handle_takes (e : Editor σ) (event : JobEvent) : e.session.Takes event (e.handle event).session := by
  unfold handle
  cases ha : e.session.apply event with
  | mk render session =>
    have hsession : session = (e.session.apply event).2 := by rw [ha]
    cases render with
    | none =>
      rw [hsession]
      exact .told (by rw [ha])
    | some render =>
      dsimp only
      unfold finishRender
      split
      · rename_i path disk _
        rw [hsession]
        exact .stored path (by rw [ha])
      · rename_i err disk _
        rw [hsession]
        exact .lost err.message (by rw [ha])

theorem next_takes (e : Editor σ) : e.session.TakesIn e.next.1.toList e.next.2.session := by
  rcases e.next_first with ⟨-, hnext⟩ | ⟨event, rest, -, hnext⟩ <;> rw [hnext]
  · exact .nil _
  · have htakes := handle_takes { e with watch := { e.watch.moved e.awaitMotions with unread := rest } } event
    exact .cons htakes (.nil _)

theorem waitFuel_takes (fuel : Nat) (e : Editor σ) :
    e.session.TakesIn (e.waitFuel fuel).1 (e.waitFuel fuel).2.session := by
  induction fuel generalizing e with
  | zero => exact .nil _
  | succ fuel ih =>
    have htakes := e.next_takes
    rcases hnext : e.next with ⟨_ | event, next⟩ <;> rw [hnext] at htakes
    · simp only [waitFuel, hnext]
      exact htakes
    · cases hf : event.isFinal with
      | true =>
        simp only [waitFuel, hnext, hf, if_true]
        exact htakes
      | false =>
        simp only [waitFuel, hnext, hf, Bool.false_eq_true, if_false]
        exact htakes.trans (ih next)

theorem step_takes (e : Editor σ) {op : Op} (hop : op.Reads) : e.session.TakesIn (e.heard op) (e.step op).session := by
  cases hop with
  | next => exact e.next_takes
  | wait => exact waitFuel_takes _ e

theorem upload_hears (e : Editor σ) (file : UploadFile) : e.session.Hears (e.upload file).2.session := by
  unfold upload
  split
  · exact .told _ (.uploadFailed _)
  · exact .told _ (.uploaded _ _)

theorem sendPrompt_hears (e : Editor σ) (text : String) : e.session.Hears (e.sendPrompt text).2.session := by
  have hbegun : e.session.Hears (e.session.beginPrompt text).2 := by
    have htold := Session.Hears.told e.session (.beginPrompt text)
    simp only [Session.act] at htold
    rcases hb : e.session.beginPrompt text with ⟨_ | job, session⟩ <;> rw [hb] at htold <;> exact htold
  unfold sendPrompt
  rcases hb : e.session.beginPrompt text with ⟨_ | job, session⟩ <;> rw [hb] at hbegun
  · exact hbegun
  · dsimp only
    split
    · exact hbegun
    · exact hbegun.trans (.told _ (.promptFailed _))

theorem ask_hears (e : Editor σ) (text : String) : e.session.Hears (e.ask text).2.session := by
  unfold ask
  dsimp only
  split
  · exact .refl _
  · have hasked := Session.Hears.told e.session (.say .user (Text.trim text))
    split
    · rw [awaits_session]
      exact hasked
    · exact hasked.trans (.told _ (.say .assistant _))

/-- An operation that takes no events tells the session what came of the request, and nothing else. --/
theorem step_hears (e : Editor σ) {op : Op} (hop : ¬ op.Reads) :
    e.heard op = [] ∧ e.session.Hears (e.step op).session := by
  cases op with
  | upload file => exact ⟨rfl, e.upload_hears file⟩
  | uploadPath path =>
    refine ⟨rfl, ?_⟩
    simp only [step, uploadPath]
    split
    · exact e.settle.upload_hears _
    · exact .told _ (.uploadFailed _)
  | openJob job =>
    refine ⟨rfl, ?_⟩
    simp only [step, openJob]
    split
    · exact .refl _
    · exact (Session.Hears.told _ (.uploaded _ _)).trans (.told _ (.observe _ _))
  | sendPrompt text => exact ⟨rfl, e.sendPrompt_hears text⟩
  | ask text =>
    refine ⟨rfl, ?_⟩
    rw [step]
    exact e.ask_hears text
  | next => exact absurd .next hop
  | wait => exact absurd .wait hop
  | cancelPoll =>
    refine ⟨rfl, ?_⟩
    have htold := Session.Hears.told e.session .editCancelled
    simp only [step, cancelPoll_eq]
    split
    · cases hc : e.session.editCancelled? with
      | none => exact .refl _
      | some session =>
        simp only [Session.act, hc, Session.tried] at htold
        exact htold
    · exact .refl _
  | exportVideo options target =>
    refine ⟨rfl, ?_⟩
    simp only [step, exportVideo]
    split
    · exact .refl _
    · split
      · exact .told _ (.exportFailed _)
      · split
        · exact .refl _
        · exact .told _ (.exportFailed _)
  | history | sleep | disk => exact ⟨rfl, .refl _⟩

/-! ### When nothing comes -/

theorem next_eq_none_iff {e : Editor σ} (hl : e.watch.listening = true) :
    e.next.1 = none ↔ e.watch.unread = [] ∧ e.isPolling = false := by
  rw [isPolling_eq_false_iff, and_comm, ← Watch.outlook_eq_nil]
  cases ho : e.watch.outlook.1 with
  | nil =>
    rw [next_of_nil ho]
    exact ⟨fun _ => rfl, fun _ => rfl⟩
  | cons event rest =>
    obtain ⟨v, -, hn⟩ := next_of_cons hl ho
    rw [hn]
    exact ⟨nofun, nofun⟩

/-- Waiting ends with the first final event. --/
theorem Waits.dropLast {e e' : Editor σ} {events : List JobEvent} (h : Waits e events e') :
    ∀ event ∈ events.dropLast, event.isFinal = false := by
  induction h with
  | quiet _ => exact List.forall_mem_nil _
  | final _ _ => exact List.forall_mem_nil _
  | @reading _ _ _ first later _ hf _ ih =>
    cases later with
    | nil => exact List.forall_mem_nil _
    | cons second rest => exact List.forall_mem_cons.mpr ⟨hf, ih⟩

/-- Waiting hears no end if and only if there was none to be heard. --/
theorem wait_readings_iff {e : Editor σ} (hl : e.watch.listening = true) :
    (∀ event ∈ e.wait.1, event.isFinal = false) ↔
      e.isPolling = false ∧ ∀ event ∈ e.watch.unread, event.isFinal = false := by
  rw [isPolling_eq_false_iff, ← Watch.outlook_readings_iff]
  have hwaits := wait_waits e hl
  have hgives := congrArg Prod.fst (hwaits.gives hl).outlook
  constructor
  · intro hreadings
    cases hfind : e.watch.outlook.1.find? JobEvent.isFinal with
    | none => exact fun event hmem => eq_false_of_ne_true (List.find?_eq_none.mp hfind event hmem)
    | some last =>
      -- The first end in store would have been heard.
      obtain ⟨hlast, before, rest, hsplit, hbefore⟩ := List.find?_eq_some_iff_append.mp hfind
      have hseen : ∀ event ∈ before, event.isFinal = false := fun event hmem => by simpa using hbefore event hmem
      have hheard := (hwaits.ends hl hsplit hseen hlast).1
      have hfinal := hreadings last (hheard ▸ List.mem_append_right _ List.mem_cons_self)
      rw [hlast] at hfinal
      cases hfinal
  · intro hstore event hmem
    rw [hgives] at hstore
    exact hstore event (List.mem_append_left _ hmem)

/-! ### Every run -/

/-- The editor as it is opened. --/
inductive Opened : Editor σ → Prop
  | opened (service : σ) (policy : PollPolicy) (disk : Disk) (rendersDir : FilePath) (responder : Responder)
      (stamp : Wait → String) : Opened { opened service policy disk rendersDir stamp with responder := responder }

/-- The editor after a deed. --/
def does (e : Editor σ) : Deed → Editor σ
  | .op op => e.step op
  | .edit move => { e with session := e.session.after move }

/-- The editor after all that its owner did. --/
def follow (e : Editor σ) (deeds : List Deed) : Editor σ := deeds.foldl does e

/-- What the operations among the deeds bring, one after the other. --/
def along {α : Type} (brings : Editor σ → Op → List α) (e : Editor σ) : List Deed → List α
  | [] => []
  | .op op :: deeds => brings e op ++ along brings (e.step op) deeds
  | .edit move :: deeds => along brings (e.does (.edit move)) deeds

theorem step_listening {e : Editor σ} (hl : e.watch.listening = true) (op : Op) :
    (e.step op).watch.listening = true := by
  rw [← (e.step_moves op).moved]
  exact Watch.moved_listening hl _

/-- What was unread and what is sent during an operation comes to its fate or is unread after it. --/
theorem step_queue {e : Editor σ} (hl : e.watch.listening = true) (op : Op) :
    e.watch.unread ++ e.sent op = (e.fates op).map Fate.event ++ (e.step op).watch.unread := by
  have hmoves := e.step_moves op
  rw [sent, Watch.moved_queue hl, hmoves.fates, hmoves.moved]

theorem follow_sent {e : Editor σ} (hl : e.watch.listening = true) (deeds : List Deed) :
    e.watch.unread ++ e.along sent deeds = (e.along fates deeds).map Fate.event ++ (e.follow deeds).watch.unread ∧
      (e.follow deeds).watch.listening = true := by
  induction deeds generalizing e with
  | nil => exact ⟨List.append_nil _, hl⟩
  | cons deed deeds ih =>
    cases deed with
    | op op =>
      obtain ⟨hrest, hlisten⟩ := ih (step_listening hl op)
      refine ⟨?_, hlisten⟩
      rw [along, ← List.append_assoc, step_queue hl op, List.append_assoc, hrest, along, List.map_append,
        List.append_assoc]
      rfl
    | edit move => exact ih (e := e.does (.edit move)) hl

theorem fates_heard (e : Editor σ) (op : Op) : (e.fates op).filterMap Fate.heard? = e.heard op := by
  have hheard : ((e.heard op).map Fate.heard).filterMap Fate.heard? = e.heard op := by
    rw [List.filterMap_map]
    exact List.filterMap_some
  have hdropped : ((e.dropped op).map Fate.dropped).filterMap Fate.heard? = [] := by
    rw [List.filterMap_map]
    exact List.filterMap_eq_nil_iff.mpr fun _ _ => rfl
  rw [fates, List.filterMap_append, hheard, hdropped, List.append_nil]

theorem along_heard (e : Editor σ) (deeds : List Deed) :
    (e.along fates deeds).filterMap Fate.heard? = e.along heard deeds := by
  induction deeds generalizing e with
  | nil => rfl
  | cons deed deeds ih =>
    cases deed with
    | op op => rw [along, List.filterMap_append, fates_heard, ih, along]
    | edit move => exact ih (e.does (.edit move))

/-- Whatever the owner of an editor does: what its polls have sent has been heard, was dropped or is unread still, and
    this in the order in which it was sent, each event once; only where waiting is given up while a poll runs anything
    is dropped. An event that is heard is taken into the session once, and at no other time is any. There is no next
    event if and only if none is unread and no poll runs. Waiting ends with the first final event, and lacks one if and
    only if no poll runs and no final event is unread. --/
theorem follow_queue {e₀ e : Editor σ} (h₀ : Opened e₀) (deeds : List Deed) (he : e₀.follow deeds = e) :
    e₀.along sent deeds = (e₀.along fates deeds).map Fate.event ++ e.watch.unread ∧
      (e₀.along fates deeds).filterMap Fate.heard? = e₀.along heard deeds ∧
      (∀ op, op.Reads → e.session.TakesIn (e.heard op) (e.step op).session) ∧
      (∀ op, ¬ op.Reads → e.heard op = [] ∧ e.session.Hears (e.step op).session) ∧
      (e.next.1 = none ↔ e.watch.unread = [] ∧ e.isPolling = false) ∧
      (∀ event ∈ e.wait.1.dropLast, event.isFinal = false) ∧
      ((∀ event ∈ e.wait.1, event.isFinal = false) ↔
        e.isPolling = false ∧ ∀ event ∈ e.watch.unread, event.isFinal = false) := by
  obtain ⟨service, policy, disk, rendersDir, responder, stamp⟩ := h₀
  obtain ⟨hsent, hl⟩ := follow_sent (e := { opened service policy disk rendersDir stamp with responder := responder })
    rfl deeds
  rw [he] at hsent hl
  exact ⟨hsent, along_heard _ deeds, fun op => e.step_takes, fun op => e.step_hears, next_eq_none_iff hl,
    (wait_waits e hl).dropLast, wait_readings_iff hl⟩

/-- An edit whose first reading is heard, and which is then given up. --/
def givenUp : List Deed :=
  [.op (.upload scriptedVideo), .op (.sendPrompt "cut"), .op .next, .edit (.act .cut), .op (.sleep (.seconds 10)),
    .op .cancelPoll]

/-- Two readings were sent, and only the first one was heard. --/
theorem follow_queue_of_givenUp :
    Opened (scripted []) ∧ ((scripted []).along sent givenUp).length = 2 ∧
      (scripted []).along heard givenUp = [.status Script.job (.ofStatus .processing)] ∧
      ((scripted []).follow givenUp).next.1 = none := by
  have h₀ : Opened (scripted []) := .opened _ _ _ _ .standard _
  obtain ⟨hsent, hheard, -, -, hnext, -, -⟩ := follow_queue h₀ givenUp rfl
  have hfates : (scripted []).along fates givenUp =
      [.heard (.status Script.job (.ofStatus .processing)), .dropped (.status Script.job (.ofStatus .processing))] := rfl
  have hunread : ((scripted []).follow givenUp).watch.unread = [] := List.isEmpty_iff.mp (by decide +kernel)
  have hidle : ((scripted []).follow givenUp).isPolling = false := by decide +kernel
  rw [hfates, hunread] at hsent
  rw [hfates] at hheard
  exact ⟨h₀, congrArg List.length hsent, hheard.symm, hnext.mpr ⟨hunread, hidle⟩⟩

end Editor
end Cutroom
