import Cutroom.Desk.Action
import Cutroom.Proofs.Timeline.Stored

/-! What an action can do to a project (`Session.act_change`): it leaves the lanes and the history alone, it stores
    edited lanes, it shows another state of the history, or it gives unsized clips their length. -/

namespace Cutroom
namespace Session

/-- The clip lane and the audio lane after an edit, and how many identifiers have been made then. --/
inductive Edit (s : Session) : Lane → Lane → Nat → Prop where
  | seed (length : Option Seconds) (source : Option MediaRef) :
      Edit s [Lane.mainClip s.fresh length source] s.audio (s.made + 1)
  | cut {id : Identifier} {time : Seconds} {clips : Lane} :
      s.clips.cut id s.fresh time = .ok clips → Edit s clips s.audio (s.made + 1)
  | trim {id : Identifier} {clips : Lane} : s.clips.trim id trimStep = .ok clips → Edit s clips s.audio s.made
  | delete {id : Identifier} {clips : Lane} : s.clips.delete id = .ok clips → Edit s clips s.audio s.made
  | media {name : String} {source : Option MediaRef} {clips : Lane} :
      s.clips.append s.fresh name source = .ok clips → Edit s clips s.audio (s.made + 1)
  | music {name : String} {source : Option MediaRef} {audio : Lane} :
      s.audio.addMusic s.fresh name source s.length = .ok audio → Edit s s.clips audio (s.made + 1)

/-- Edited lanes are shown, and have been stored. --/
structure Stores (s t : Session) : Prop where
  edit : Edit s t.clips t.audio t.made
  history : t.history = s.history.push ⟨t.clips, t.audio⟩

/-- The lanes, the history and the count of identifiers have changed in one of four ways. --/
inductive Change (s t : Session) : Prop where
  | kept (clips : t.clips = s.clips) (audio : t.audio = s.audio) (history : t.history = s.history)
      (made : s.made ≤ t.made)
  | edited (edit : Edit s t.clips t.audio t.made) (history : t.history = s.history.push ⟨t.clips, t.audio⟩)
  | shown (states : t.history.states = s.history.states) (lanes : t.history.current = ⟨t.clips, t.audio⟩)
      (made : t.made = s.made)
  | stretched (duration : Seconds) (length : duration.isLength = true) (clips : t.clips = s.clips.stretch duration)
      (audio : t.audio = s.audio)
      (history : t.history =
        if s.clips.stretches duration then s.history.amend fun u => u.stretch duration else s.history)
      (made : t.made = s.made)

theorem Stores.change {s t : Session} (h : Stores s t) : Change s t := .edited h.edit h.history

theorem Change.refl (s : Session) : Change s s := .kept rfl rfl rfl (Nat.le_refl _)

/-- Something holds of the lanes that are shown and of those of all states that the history holds. --/
structure Everywhere (P : Lane → Lane → Prop) (s : Session) : Prop where
  shown : P s.clips s.audio
  states : ∀ u ∈ s.history.states, P u.clips u.audio

/-- What edited lanes have, and what is not lost where unsized clips take a length, is had everywhere. --/
theorem Change.everywhere {P : Lane → Lane → Prop} {s t : Session} (h : Change s t)
    (hedit : ∀ {clips audio made}, Edit s clips audio made → P clips audio)
    (hstretch : ∀ {clips audio duration}, duration.isLength = true → P clips audio → P (clips.stretch duration) audio)
    (hs : s.Everywhere P) : t.Everywhere P := by
  cases h with
  | kept clips audio history made => exact ⟨by rw [clips, audio]; exact hs.shown, history ▸ hs.states⟩
  | edited edit history =>
    refine ⟨hedit edit, fun u hu => ?_⟩
    rw [history] at hu
    rcases History.mem_push hu with hu | rfl
    · exact hs.states u hu
    · exact hedit edit
  | shown states lanes made =>
    have hstates : ∀ u ∈ t.history.states, P u.clips u.audio := states ▸ hs.states
    have hcurrent := hstates _ (History.current_mem _)
    rw [lanes] at hcurrent
    exact ⟨hcurrent, hstates⟩
  | stretched duration length clips audio history made =>
    refine ⟨by rw [clips, audio]; exact hstretch length hs.shown, fun u hu => ?_⟩
    rw [history] at hu
    split at hu
    · obtain ⟨v, hv, rfl⟩ := History.mem_amend hu
      exact hstretch length (hs.states v hv)
    · exact hs.states u hu

variable {s next : Session}

theorem setVideoLength_change {t : Session} (duration : Seconds) (clips : t.clips = s.clips) (audio : t.audio = s.audio)
    (history : t.history = s.history) (made : t.made = s.made) : Change s (t.setVideoLength duration) := by
  unfold setVideoLength
  split
  · rename_i hlength
    refine .stretched duration hlength (congrArg (Lane.stretch · duration) clips) audio ?_ made
    rw [← clips, ← history]
    rfl
  · exact .kept clips audio history (Nat.le_of_eq made.symm)

/-! ### Edits -/

theorem select_change {clip : Option Identifier} (h : s.select clip = .ok next) : Change s next := by
  unfold select at h
  cases clip with
  | none =>
    cases h
    exact .kept rfl rfl rfl (Nat.le_refl _)
  | some id =>
    dsimp only at h
    split at h <;> cases h
    exact .kept rfl rfl rfl (Nat.le_refl _)

theorem cut_stores (h : s.cut = .ok next) : Stores s next := by
  unfold cut at h
  split at h
  · cases h
  · split at h
    · cases h
    · rename_i clips hcut
      cases h
      exact ⟨.cut hcut, rfl⟩

theorem trim_stores (h : s.trim = .ok next) : Stores s next := by
  unfold trim at h
  split at h
  · cases h
  · split at h
    · cases h
    · rename_i clips htrim
      cases h
      exact ⟨.trim htrim, rfl⟩

theorem delete_stores (h : s.delete = .ok next) : Stores s next := by
  unfold delete at h
  split at h
  · cases h
  · split at h
    · cases h
    · rename_i clips hdelete
      cases h
      exact ⟨.delete hdelete, rfl⟩

theorem addMedia_stores {name : String} {source : Option MediaRef} (h : s.addMedia name source = .ok next) :
    Stores s next := by
  unfold addMedia at h
  split at h
  · cases h
  · split at h
    · cases h
    · rename_i clips happend
      cases h
      exact ⟨.media happend, rfl⟩

theorem addMusic_stores {name : String} {source : Option MediaRef} (h : s.addMusic name source = .ok next) :
    Stores s next := by
  unfold addMusic at h
  split at h
  · cases h
  · split at h
    · cases h
    · rename_i audio hadd
      cases h
      exact ⟨.music hadd, rfl⟩

theorem undo_change (h : s.undo? = some next) : Change s next := by
  obtain ⟨history, hh, rfl⟩ := Option.map_eq_some_iff.mp h
  exact .shown (History.undo?_states hh) rfl rfl

theorem redo_change (h : s.redo? = some next) : Change s next := by
  obtain ⟨history, hh, rfl⟩ := Option.map_eq_some_iff.mp h
  exact .shown (History.redo?_states hh) rfl rfl

/-! ### Edits by the service -/

theorem Change.ifCurrent (job : JobId) (h : Change s next) : Change s (s.ifCurrent job next) := by
  unfold Session.ifCurrent
  split
  · exact h
  · exact .refl s

theorem observe_change (s : Session) (job : JobId) (report : StatusReport) : Change s (s.observe job report) := by
  refine Change.ifCurrent job ?_
  cases report.duration with
  | none => exact .kept rfl rfl rfl (Nat.le_refl _)
  | some duration => exact setVideoLength_change duration rfl rfl rfl rfl

theorem apply_change (s : Session) (event : JobEvent) : Change s (s.apply event).2 := by
  cases event with
  | status job report => exact observe_change s job report
  | completed | pollError => exact .refl s
  | chatOnly | failed | refreshFailed | timedOut => exact .ifCurrent _ (.kept rfl rfl rfl (Nat.le_refl _))

theorem beginPrompt_change (s : Session) (text : String) : Change s (s.beginPrompt text).2 := by
  unfold beginPrompt
  dsimp only
  split
  · exact .refl s
  · split
    · exact .refl s
    · split <;> exact .kept rfl rfl rfl (Nat.le_refl _)

/-! ### Actions -/

theorem edited_refused (answer : Session → Answer) (outcome : Except SessionError Session) {e : SessionError}
    (h : (s.edited answer outcome).1 = .error e) : (s.edited answer outcome).2 = s := by
  cases outcome with
  | error e => rfl
  | ok next => cases h

theorem edited_change (answer : Session → Answer) {outcome : Except SessionError Session}
    (h : ∀ {next}, outcome = .ok next → Change s next) : Change s (s.edited answer outcome).2 := by
  cases outcome with
  | error e => exact .refl s
  | ok next => exact h rfl

theorem tried_change {outcome : Option Session} (h : ∀ {next}, outcome = some next → Change s next) :
    Change s (s.tried outcome).2 := by
  cases outcome with
  | none => exact .refl s
  | some next => exact h rfl

theorem act_change (s : Session) (a : Action) : Change s (s.act a).2 := by
  cases a with
  | gesture | zoomIn | zoomOut | uploadFailed | adjust | promptFailed | exportFailed | takeAlerts | say =>
    exact .kept rfl rfl rfl (Nat.le_refl _)
  | addText | addSticker => exact .kept rfl rfl rfl (Nat.le_succ _)
  | uploaded receipt source => exact .edited (.seed receipt.duration _) rfl
  | setVideoLength duration => exact setVideoLength_change duration rfl rfl rfl rfl
  | select clip => exact edited_change _ select_change
  | cut => exact edited_change _ fun h => (cut_stores h).change
  | trim => exact edited_change _ fun h => (trim_stores h).change
  | delete => exact edited_change _ fun h => (delete_stores h).change
  | addMedia name source => exact edited_change _ fun h => (addMedia_stores h).change
  | addMusic name source => exact edited_change _ fun h => (addMusic_stores h).change
  | undo => exact tried_change undo_change
  | redo => exact tried_change redo_change
  | applyEffect name =>
    refine edited_change _ fun h => ?_
    unfold applyEffect at h
    split at h <;> cases h
    exact .kept rfl rfl rfl (Nat.le_succ _)
  | applyTransition name =>
    refine edited_change _ fun h => ?_
    unfold applyTransition at h
    split at h <;> cases h
    exact .kept rfl rfl rfl (Nat.le_succ _)
  | applyFilter id =>
    refine edited_change _ fun h => ?_
    unfold applyFilter at h
    split at h <;> cases h
    exact .kept rfl rfl rfl (Nat.le_refl _)
  | applyPreset name =>
    refine edited_change _ fun h => ?_
    unfold applyPreset at h
    split at h <;> cases h
    exact .kept rfl rfl rfl (Nat.le_refl _)
  | beginPrompt text =>
    have hbegin := beginPrompt_change s text
    simp only [act]
    rcases hb : s.beginPrompt text with ⟨_ | job, next⟩ <;> rw [hb] at hbegin
    · exact hbegin
    · exact hbegin
  | observe job report => exact observe_change s job report
  | editCompleted | editAnswered | editFailed | renderUnavailable | editTimedOut =>
    exact .ifCurrent _ (.kept rfl rfl rfl (Nat.le_refl _))
  | editCancelled =>
    refine tried_change fun h => ?_
    unfold editCancelled? at h
    split at h <;> cases h
    exact .kept rfl rfl rfl (Nat.le_refl _)
  | event e => exact apply_change s e

end Session
end Cutroom
