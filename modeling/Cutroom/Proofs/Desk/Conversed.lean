import Cutroom.Proofs.Desk.Queued

/-! The conversation of an editor only ever grows (`Editor.conversation_grows`). Whatever is done adds messages behind
    those that are there (`ChatLog.Continues`), and each message is numbered by the one before it, so the numbers count
    from the greeting on (`ChatLog.Sound`). -/

namespace Cutroom

namespace ChatLog

/-- The conversation after more was said. --/
def say (log : ChatLog) (said : List (Role × String)) : ChatLog :=
  said.foldl (fun log line => log.push line.1 line.2) log

/-- A later conversation is an earlier one after more was said. --/
def Continues (log later : ChatLog) : Prop := ∃ said, later = log.say said

theorem Continues.refl (log : ChatLog) : log.Continues log := ⟨[], rfl⟩

theorem Continues.trans {log later last : ChatLog} (h₁ : log.Continues later) (h₂ : later.Continues last) :
    log.Continues last := by
  obtain ⟨before, rfl⟩ := h₁
  obtain ⟨after, rfl⟩ := h₂
  exact ⟨before ++ after, List.foldl_append.symm⟩

theorem push_continues (log : ChatLog) (role : Role) (content : String) : log.Continues (log.push role content) :=
  ⟨[(role, content)], rfl⟩

theorem Continues.of_eq {log later : ChatLog} (h : later = log) : log.Continues later := h ▸ .refl log

theorem Continues.messages {log later : ChatLog} (h : log.Continues later) : log.messages <+: later.messages := by
  obtain ⟨said, rfl⟩ := h
  induction said generalizing log with
  | nil => exact List.prefix_refl _
  | cons line said ih =>
    have hpushed : log.messages <+: (log.push line.1 line.2).messages := List.prefix_append _ _
    exact hpushed.trans ih

/-- A conversation starts with the greeting, and its messages are numbered from one. --/
structure Sound (log : ChatLog) : Prop where
  greeted : log.messages.head? = some ⟨1, .assistant, greeting⟩
  numbered : ∀ i message, log.messages[i]? = some message → message.id = i + 1

theorem opened_sound : Sound opened where
  greeted := rfl
  numbered i message h := by
    obtain ⟨rfl, rfl⟩ : i = 0 ∧ _ = message := by simpa [opened, ChatLog.push, List.getElem?_singleton] using h
    rfl

/-- The next number counts the messages. --/
theorem Sound.nextId {log : ChatLog} (h : log.Sound) : log.nextId = log.size + 1 := by
  unfold ChatLog.nextId ChatLog.size
  cases hlast : log.messages.getLast? with
  | none =>
    rw [List.getLast?_eq_none_iff.mp hlast]
    rfl
  | some message =>
    have hpos : 0 < log.messages.length := List.length_pos_of_mem (List.mem_of_getLast? hlast)
    rw [List.getLast?_eq_getElem?] at hlast
    have hid := h.numbered _ message hlast
    simp only [Option.map_some, Option.getD_some]
    omega

theorem Sound.push {log : ChatLog} (h : log.Sound) (role : Role) (content : String) :
    (log.push role content).Sound where
  greeted := by
    unfold ChatLog.push
    rw [List.head?_append, h.greeted]
    rfl
  numbered i message hi := by
    simp only [ChatLog.push, List.getElem?_append, List.getElem?_singleton] at hi
    split at hi
    · exact h.numbered i message hi
    · split at hi <;> cases hi
      dsimp only
      rw [h.nextId, ChatLog.size]
      omega

theorem Sound.of_continues {log later : ChatLog} (h : log.Sound) (hc : log.Continues later) : later.Sound := by
  obtain ⟨said, rfl⟩ := hc
  induction said generalizing log with
  | nil => exact h
  | cons line said ih => exact ih (h.push line.1 line.2)

end ChatLog

/-- The conversation is not exchanged for another one. No function of a conversation does that: what is handed out can
    only be added to, which is the action `say`. --/
def Move.KeepsChat : Move → Prop
  | .chat _ => False
  | .act _ | .playhead _ => True

namespace Session

variable {s t next : Session}

/-! ### Actions -/

theorem edited_continues (answer : Session → Answer) {outcome : Except SessionError Session}
    (h : ∀ {next}, outcome = .ok next → next.chat = s.chat) : s.chat.Continues (s.edited answer outcome).2.chat := by
  cases outcome with
  | error e => exact .refl _
  | ok next => exact .of_eq (h rfl)

theorem tried_continues {outcome : Option Session} (h : ∀ {next}, outcome = some next → s.chat.Continues next.chat) :
    s.chat.Continues (s.tried outcome).2.chat := by
  cases outcome with
  | none => exact .refl _
  | some next => exact h rfl

theorem ifCurrent_continues (job : JobId) (h : s.chat.Continues next.chat) :
    s.chat.Continues (s.ifCurrent job next).chat := by
  unfold ifCurrent
  split
  · exact h
  · exact .refl _

theorem finish_continues (s : Session) (reply : String) : s.chat.Continues (s.finish reply).chat :=
  s.chat.push_continues .assistant reply

theorem apply_continues (s : Session) (event : JobEvent) : s.chat.Continues (s.apply event).2.chat := by
  cases event with
  | status job report => exact .of_eq (s.observe_undisturbed job report).chat
  | completed | pollError => exact .refl _
  | chatOnly job | failed job | refreshFailed job | timedOut job => exact ifCurrent_continues job (finish_continues _ _)

/-- What a request for an edit adds to the conversation, by what comes of it. --/
inductive PromptAdds (text : String) : Except SessionError JobId → List (Role × String) → Prop
  | busy : PromptAdds text (.error .busy) []
  | empty : PromptAdds text (.error .emptyMessage) []
  | noJob : PromptAdds text (.error .noJob) [(.user, Text.trim text), (.assistant, needVideoReply)]
  | begun (job : JobId) : PromptAdds text (.ok job) [(.user, Text.trim text)]

theorem beginPrompt_adds (s : Session) (text : String) :
    ∃ said, PromptAdds text (s.beginPrompt text).1 said ∧ (s.beginPrompt text).2.chat = s.chat.say said := by
  unfold beginPrompt
  dsimp only
  split
  · exact ⟨_, .busy, rfl⟩
  · split
    · exact ⟨_, .empty, rfl⟩
    · split
      · exact ⟨_, .noJob, rfl⟩
      · exact ⟨_, .begun _, rfl⟩

/-- An action adds to the conversation, if it does anything to it. --/
theorem act_continues (s : Session) (a : Action) : s.chat.Continues (s.act a).2.chat := by
  cases a with
  | gesture | zoomIn | zoomOut | uploaded | uploadFailed | adjust | addText | addSticker | exportFailed | takeAlerts =>
    exact .refl _
  | setVideoLength duration => exact .of_eq (s.setVideoLength_undisturbed duration).chat
  | say role content => exact s.chat.push_continues role content
  | select clip =>
    refine edited_continues _ fun h => ?_
    cases clip with
    | none =>
      cases h
      rfl
    | some id =>
      simp only [select] at h
      split at h <;> cases h
      rfl
  | cut | trim | delete | addMedia | addMusic =>
    refine edited_continues _ fun h => ?_
    simp only [cut, trim, delete, addMedia, addMusic] at h
    split at h
    · cases h
    · split at h <;> cases h
      rfl
  | undo | redo =>
    refine tried_continues fun h => .of_eq ?_
    obtain ⟨history, -, rfl⟩ := Option.map_eq_some_iff.mp h
    rfl
  | applyEffect | applyTransition | applyFilter | applyPreset =>
    refine edited_continues _ fun h => ?_
    simp only [applyEffect, applyTransition, applyFilter, applyPreset] at h
    split at h <;> cases h
    rfl
  | beginPrompt text =>
    obtain ⟨said, -, hchat⟩ := s.beginPrompt_adds text
    simp only [act]
    rcases hb : s.beginPrompt text with ⟨_ | job, next⟩ <;> rw [hb] at hchat <;> exact ⟨said, hchat⟩
  | promptFailed e => exact s.chat.push_continues .assistant _
  | observe job report => exact .of_eq (s.observe_undisturbed job report).chat
  | editCompleted job | editAnswered job | editFailed job | renderUnavailable job | editTimedOut job =>
    exact ifCurrent_continues job (finish_continues _ _)
  | editCancelled =>
    refine tried_continues fun h => ?_
    simp only [editCancelled?] at h
    split at h <;> cases h
    exact s.finish_continues _
  | event e => exact s.apply_continues e

theorem after_continues (s : Session) {move : Move} (h : move.KeepsChat) : s.chat.Continues (s.after move).chat := by
  cases move with
  | act a => exact s.act_continues a
  | playhead p => exact .refl _
  | chat log => exact h.elim

theorem follow_continues (s : Session) {moves : List Move} (h : ∀ move ∈ moves, move.KeepsChat) :
    s.chat.Continues (s.follow moves).chat := by
  induction moves generalizing s with
  | nil => exact .refl _
  | cons move moves ih =>
    obtain ⟨hmove, hmoves⟩ := List.forall_mem_cons.mp h
    exact (s.after_continues hmove).trans (ih _ hmoves)

/-! ### What a session is told -/

theorem Hears.continues (h : Hears s t) : s.chat.Continues t.chat := by
  obtain ⟨actions, -, rfl⟩ := h
  induction actions generalizing s with
  | nil => exact .refl _
  | cons a actions ih => exact (s.act_continues a).trans ih

theorem Takes.continues {event : JobEvent} (h : Takes s event t) : s.chat.Continues t.chat := by
  have happly := s.apply_continues event
  cases h with
  | told _ => exact happly
  | stored path _ => exact happly.trans (act_continues _ (.editCompleted _ _ _))
  | lost message _ => exact happly.trans (act_continues _ (.renderUnavailable _ _ _))

theorem TakesIn.continues {events : List JobEvent} (h : TakesIn s events t) : s.chat.Continues t.chat := by
  induction h with
  | nil s => exact .refl _
  | cons htakes _ ih => exact htakes.continues.trans ih

/-! ### Every session -/

/-- The conversation is greeted and numbered, the next move adds to it, and so does a request for an edit: nothing if it
    is refused for being empty or too early, the answer of the assistant behind it if there is no video, and else it
    alone. --/
structure Conversing (s : Session) : Prop where
  sound : s.chat.Sound
  grows : ∀ move : Move, move.KeepsChat → s.chat.messages <+: (s.after move).chat.messages
  prompted : ∀ text, ∃ said, PromptAdds text (s.beginPrompt text).1 said ∧
    (s.beginPrompt text).2.chat = s.chat.say said

theorem conversing_of_sound (h : s.chat.Sound) : s.Conversing where
  sound := h
  grows _ hmove := (s.after_continues hmove).messages
  prompted := s.beginPrompt_adds

end Session

/-- No operation of an editor exchanges the conversation. --/
def Deed.KeepsChat : Deed → Prop
  | .op _ => True
  | .edit move => move.KeepsChat

namespace Editor

variable {σ : Type} [JobService σ]

theorem does_continues (e : Editor σ) {deed : Deed} (h : deed.KeepsChat) :
    e.session.chat.Continues (e.does deed).session.chat := by
  cases deed with
  | edit move => exact e.session.after_continues h
  | op op =>
    by_cases hop : op.Reads
    · exact (e.step_takes hop).continues
    · exact (e.step_hears hop).2.continues

theorem follow_continues (e : Editor σ) {deeds : List Deed} (h : ∀ deed ∈ deeds, deed.KeepsChat) :
    e.session.chat.Continues (e.follow deeds).session.chat := by
  induction deeds generalizing e with
  | nil => exact .refl _
  | cons deed deeds ih =>
    obtain ⟨hdeed, hdeeds⟩ := List.forall_mem_cons.mp h
    exact (e.does_continues hdeed).trans (ih _ hdeeds)

/-- Whatever the owner of a session or of an editor does, and whatever the service answers: the conversation starts with
    the greeting, its messages are numbered from one, and whatever is done next leaves them all where they are and adds
    to them at most. A request for an edit adds nothing if it is refused for being empty or too early; else it adds the
    message of the user, behind it one of the assistant if there is no video, and nothing more. --/
theorem conversation_grows {moves : List Move} (hm : ∀ move ∈ moves, move.KeepsChat) {e₀ e : Editor σ} (h₀ : Opened e₀)
    {deeds : List Deed} (hd : ∀ deed ∈ deeds, deed.KeepsChat) (he : e₀.follow deeds = e) :
    (Session.opened.follow moves).Conversing ∧ e.session.Conversing ∧
      ∀ deed : Deed, deed.KeepsChat → e.session.chat.messages <+: (e.does deed).session.chat.messages := by
  have hstart : e₀.session.chat.Sound := by
    cases h₀
    exact ChatLog.opened_sound
  have hsession := ChatLog.opened_sound.of_continues (Session.opened.follow_continues hm)
  have heditor := hstart.of_continues (e₀.follow_continues hd)
  rw [he] at heditor
  exact ⟨Session.conversing_of_sound hsession, Session.conversing_of_sound heditor,
    fun deed hdeed => (e.does_continues hdeed).messages⟩

/-- A request before there is a video, a chat, and a request that is worked on to its end. --/
def talked : List Deed :=
  [.op (.sendPrompt "cut"), .edit (.act (.say .user "hello")), .op (.upload scriptedVideo), .op (.sendPrompt " cut "),
    .op .wait]

/-- The greeting and five more messages, the last of which tells of the end; and a session that has only been asked for
    an edit. --/
theorem conversation_grows_of_talked :
    Opened (scripted []) ∧ (∀ deed ∈ talked, deed.KeepsChat) ∧
      (Session.opened.follow [.act (.beginPrompt "cut")]).Conversing ∧
      ∃ e, (scripted []).follow talked = e ∧ e.session.chat.messages.map ChatMessage.role =
          [.assistant, .user, .assistant, .user, .user, .assistant] ∧
        ∀ i message, e.session.chat.messages[i]? = some message → message.id = i + 1 := by
  have h₀ : Opened (scripted []) := .opened _ _ _ _ .standard _
  have hd : ∀ deed ∈ talked, deed.KeepsChat := by simp [talked, Deed.KeepsChat, Move.KeepsChat]
  have hm : ∀ move ∈ [Move.act (.beginPrompt "cut")], move.KeepsChat := by simp [Move.KeepsChat]
  obtain ⟨hasked, hconversing, -⟩ := conversation_grows hm h₀ hd rfl
  exact ⟨h₀, hd, hasked, _, rfl, by decide +kernel, hconversing.sound.numbered⟩

end Editor
end Cutroom
