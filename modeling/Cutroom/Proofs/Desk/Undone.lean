import Cutroom.Job.Script
import Cutroom.Proofs.Desk.Change
import Cutroom.Proofs.Desk.Whole

/-! An edit of the lanes happens as a whole or not at all, and can be taken back (`Session.edit_undone`). Where it is
    refused the session stays as it was. Else one state is stored behind the one that was shown and takes the place of
    all that could be redone; an undo shows the lanes as they were before the edit, and a redo as they were after it. -/

namespace Cutroom

/-- What the owner of a session can do: an action, or anything at all to the playhead and to the conversation, which the
    session hands out. --/
inductive Move where
  | act (a : Action)
  | playhead (p : Playhead)
  | chat (log : ChatLog)

namespace Action

/-- The edits of the lanes. --/
inductive EditsLanes : Action → Prop
  | cut : EditsLanes .cut
  | trim : EditsLanes .trim
  | delete : EditsLanes .delete
  | addMedia (name : String) (source : Option MediaRef) : EditsLanes (.addMedia name source)
  | addMusic (name : String) (source : Option MediaRef) : EditsLanes (.addMusic name source)

/-- What else can be refused for what the lanes, the history or the presets hold. --/
inductive Chooses : Action → Prop
  | select (clip : Option Identifier) : Chooses (.select clip)
  | undo : Chooses .undo
  | redo : Chooses .redo
  | applyEffect (name : String) : Chooses (.applyEffect name)
  | applyTransition (name : String) : Chooses (.applyTransition name)
  | applyFilter (id : String) : Chooses (.applyFilter id)
  | applyPreset (name : String) : Chooses (.applyPreset name)

/-- What is done in the side panels. --/
inductive OfPanels : Action → Prop
  | applyEffect (name : String) : OfPanels (.applyEffect name)
  | applyTransition (name : String) : OfPanels (.applyTransition name)
  | applyFilter (id : String) : OfPanels (.applyFilter id)
  | applyPreset (name : String) : OfPanels (.applyPreset name)
  | adjust (key : Adjustment) (value : Int) : OfPanels (.adjust key value)
  | addText (style : TextStyle) : OfPanels (.addText style)
  | addSticker (name glyph : String) : OfPanels (.addSticker name glyph)

end Action

/-- An action answers that nothing was done. --/
inductive Refused : Except SessionError Answer → Prop
  | error (e : SessionError) : Refused (.error e)
  | flag : Refused (.ok (.flag false))

namespace Session

def after (s : Session) : Move → Session
  | .act a => (s.act a).2
  | .playhead p => { s with playhead := p }
  | .chat log => { s with chat := log }

/-- The session after all that its owner did. --/
def follow (s : Session) (moves : List Move) : Session := moves.foldl after s

variable {s t next : Session}

theorem Whole.after (h : Whole s) (move : Move) : Whole (s.after move) := by
  cases move with
  | act a => exact act_whole h a
  | playhead | chat => exact h.of_eq rfl rfl rfl rfl (Nat.le_refl _)

theorem Whole.follow (h : Whole s) (moves : List Move) : Whole (s.follow moves) := by
  induction moves generalizing s with
  | nil => exact h
  | cons move moves ih => exact ih (h.after move)

/-! ### Edits that are refused -/

theorem edited_outcome (answer : Session → Answer) {outcome : Except SessionError Session}
    (h : ∀ {next}, outcome = .ok next → Stores s next) :
    (∃ e, s.edited answer outcome = (.error e, s)) ∨
      ∃ answer' next, s.edited answer outcome = (.ok answer', next) ∧ Stores s next := by
  cases outcome with
  | error e => exact .inl ⟨e, rfl⟩
  | ok next => exact .inr ⟨answer next, next, rfl, h rfl⟩

/-- An edit of the lanes is refused, or it stores what it shows. --/
theorem act_stores {a : Action} (ha : a.EditsLanes) (s : Session) :
    (∃ e, s.act a = (.error e, s)) ∨ ∃ answer next, s.act a = (.ok answer, next) ∧ Stores s next := by
  cases ha with
  | cut => exact edited_outcome _ cut_stores
  | trim => exact edited_outcome _ trim_stores
  | delete => exact edited_outcome _ delete_stores
  | addMedia name source => exact edited_outcome _ addMedia_stores
  | addMusic name source => exact edited_outcome _ addMusic_stores

theorem tried_refused (outcome : Option Session) (h : Refused (s.tried outcome).1) : (s.tried outcome).2 = s := by
  cases outcome with
  | none => rfl
  | some next => cases h

theorem chosen_refused (outcome : Except SessionError Session) (h : Refused (s.edited (fun _ => .done) outcome).1) :
    (s.edited (fun _ => .done) outcome).2 = s := by
  cases outcome with
  | error e => rfl
  | ok next => cases h

theorem act_refused {a : Action} (ha : a.Chooses) (h : Refused (s.act a).1) : (s.act a).2 = s := by
  cases ha with
  | undo | redo => exact tried_refused _ h
  | select | applyEffect | applyTransition | applyFilter | applyPreset => exact chosen_refused _ h

/-! ### Undo and redo -/

/-- An undo shows the lanes that were stored before, and a redo those that were stored last. --/
theorem Stores.undone (h : Stores s next) (hs : Whole s) :
    ∃ back, next.act .undo = (.ok (.flag true), back) ∧ back.clips = s.clips ∧ back.audio = s.audio ∧
      ∃ again, back.act .redo = (.ok (.flag true), again) ∧ again.clips = next.clips ∧ again.audio = next.audio := by
  obtain ⟨earlier, hundo, hcurrent, hredo⟩ := s.history.push_undo? ⟨next.clips, next.audio⟩
  rw [← h.history] at hundo hredo
  have hlast : next.history.current = ⟨next.clips, next.audio⟩ := by rw [h.history, History.push_current]
  have hback : next.act .undo = (.ok (.flag true), next.restore earlier) := by
    simp only [act, undo?, hundo, Option.map_some, tried]
  have hagain : (next.restore earlier).act .redo =
      (.ok (.flag true), (next.restore earlier).restore next.history) := by
    have : (next.restore earlier).history.redo? = some next.history := hredo
    simp only [act, redo?, this, Option.map_some, tried]
  -- What is shown is what was stored last, so the undo comes back to it.
  rw [hs.shown] at hcurrent
  exact ⟨_, hback, congrArg Snapshot.clips hcurrent, congrArg Snapshot.audio hcurrent,
    _, hagain, congrArg Snapshot.clips hlast, congrArg Snapshot.audio hlast⟩

/-! ### Side panels -/

/-- Two sessions show the same lanes, with the same history and the same clip selected. --/
structure Alike (s t : Session) : Prop where
  clips : t.clips = s.clips
  audio : t.audio = s.audio
  history : t.history = s.history
  selected : t.selected = s.selected

theorem edited_alike (answer : Session → Answer) {outcome : Except SessionError Session}
    (h : ∀ {next}, outcome = .ok next → Alike s next) : Alike s (s.edited answer outcome).2 := by
  cases outcome with
  | error e => exact ⟨rfl, rfl, rfl, rfl⟩
  | ok next => exact h rfl

theorem act_alike {a : Action} (ha : a.OfPanels) (s : Session) : Alike s (s.act a).2 := by
  cases ha with
  | adjust | addText | addSticker => exact ⟨rfl, rfl, rfl, rfl⟩
  | applyEffect | applyTransition | applyFilter | applyPreset =>
    refine edited_alike _ fun h => ?_
    simp only [applyEffect, applyTransition, applyFilter, applyPreset] at h
    split at h <;> cases h
    exact ⟨rfl, rfl, rfl, rfl⟩

/-! ### Every session -/

/-- In every session an edit of the lanes is refused and leaves the session as it was, or one state is stored, that of
    the lanes it leaves, in the place of all states that could be redone; an undo then shows the lanes from before the
    edit, and a redo those from after it. Whatever else is refused, or comes to nothing, leaves the session as it was,
    and the side panels touch neither lanes nor history nor selection. --/
theorem edit_undone (moves : List Move) (s : Session) (hs : opened.follow moves = s) :
    (∀ a : Action, a.EditsLanes →
      (∃ e, s.act a = (.error e, s)) ∨
        ∃ answer next, s.act a = (.ok answer, next) ∧
          next.history.states = s.history.states.take (s.history.index + 1) ++ [⟨next.clips, next.audio⟩] ∧
          next.history.index = s.history.index + 1 ∧ next.history.size = next.history.index + 1 ∧
          next.history.canRedo = false ∧
          ∃ back, next.act .undo = (.ok (.flag true), back) ∧ back.clips = s.clips ∧ back.audio = s.audio ∧
            ∃ again, back.act .redo = (.ok (.flag true), again) ∧
              again.clips = next.clips ∧ again.audio = next.audio) ∧
    (∀ a : Action, a.Chooses → Refused (s.act a).1 → (s.act a).2 = s) ∧
    ∀ a : Action, a.OfPanels → Alike s (s.act a).2 := by
  have hwhole : Whole s := hs ▸ opened_whole.follow moves
  refine ⟨fun a ha => ?_, fun a ha => act_refused ha, fun a ha => act_alike ha s⟩
  rcases act_stores ha s with ⟨e, herror⟩ | ⟨answer, next, hok, hstores⟩
  · exact .inl ⟨e, herror⟩
  · refine .inr ⟨answer, next, hok, ?_, ?_, ?_, ?_, hstores.undone hwhole⟩
    · rw [hstores.history]
      rfl
    · rw [hstores.history]
      rfl
    · rw [hstores.history, History.push_size]
    · rw [hstores.history, History.push_canRedo]

/-- A video of half a minute whose clip was cut, and the cut undone. --/
def regretted : List Move :=
  [.act (.uploaded ⟨Script.job, some 30.0, .other "UPLOADED"⟩ (.remote "scripted://jobs/job-1/download")),
    .playhead ⟨12.0, 30.0, .idle⟩, .act .cut, .act .undo]

/-- The cut could be redone until the clip is trimmed, which stores a second state again. --/
theorem edit_undone_of_regretted : (opened.follow regretted).history.canRedo = true ∧
    ∃ next, (opened.follow regretted).act .trim = (.ok .done, next) ∧ next.history.canRedo = false ∧
      ∃ back, next.act .undo = (.ok (.flag true), back) ∧ back.clips = (opened.follow regretted).clips := by
  have hdone : ((opened.follow regretted).act .trim).1 = .ok .done := rfl
  obtain ⟨hedits, -, -⟩ := edit_undone regretted _ rfl
  refine ⟨rfl, ?_⟩
  rcases hedits .trim .trim with ⟨e, herror⟩ | ⟨answer, next, hok, -, -, -, hredo, back, hback, hclips, -, -⟩
  · rw [herror] at hdone
    cases hdone
  · rw [hok] at hdone
    cases hdone
    exact ⟨next, hok, hredo, back, hback, hclips⟩

end Session
end Cutroom
