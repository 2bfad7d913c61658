import Cutroom.Proofs.Desk.Undone
import Cutroom.Proofs.Look.Merged

/-! A session before its first upload (`Session.follow_unloaded`). Whatever is done to it, there is nothing to edit:
    each edit asks for a video, and so do effects, transitions and filters. The sliders alone, and the presets that move
    them, do not ask. -/

namespace Cutroom

/-- The sliders that an action moves, with or without a video. --/
def Action.levels : Action → List (Adjustment × Int)
  | .adjust key value => [(key, value)]
  | .applyPreset name => ((findPreset? name).map AdjustmentPreset.values).getD []
  | _ => []

theorem Action.levels_nodup (a : Action) : (a.levels.map Prod.fst).Nodup := by
  cases a with
  | adjust key value => exact List.pairwise_singleton _ _
  | applyPreset name =>
    simp only [levels]
    cases h : findPreset? name with
    | none => exact List.nodup_nil
    | some preset => exact findPreset?_nodup h
  | _ => exact List.nodup_nil

def Action.Uploads : Action → Prop
  | .uploaded _ _ => True
  | _ => False

namespace Move

def levels : Move → List (Adjustment × Int)
  | act a => a.levels
  | playhead _ | chat _ => []

theorem levels_nodup (move : Move) : (move.levels.map Prod.fst).Nodup := by
  cases move with
  | act a => exact a.levels_nodup
  | playhead | chat => exact List.nodup_nil

def Uploads : Move → Prop
  | act a => a.Uploads
  | playhead _ | chat _ => False

end Move

namespace Session

/-- Nothing was uploaded, and the sliders were moved as they were. --/
structure Unloaded (levels : List (Adjustment × Int)) (s : Session) : Prop where
  hasVideo : s.hasVideo = false
  clips : s.clips = []
  audio : s.audio = []
  history : s.history = .single .empty
  selected : s.selected = none
  filter : s.panels.filter = none
  effects : s.panels.effects = []
  transition : s.panels.transition = none
  adjustments : s.panels.adjustments = Adjustments.neutral.merge levels

theorem opened_unloaded : Unloaded [] opened := ⟨rfl, rfl, rfl, rfl, rfl, rfl, rfl, rfl, rfl⟩

variable {levels : List (Adjustment × Int)} {s t next : Session}

/-! ### What is kept -/

theorem Unloaded.of_eq (h : Unloaded levels s) (hasVideo : t.hasVideo = s.hasVideo) (clips : t.clips = s.clips)
    (audio : t.audio = s.audio) (history : t.history = s.history) (selected : t.selected = s.selected)
    (panels : t.panels = s.panels) : Unloaded levels t where
  hasVideo := hasVideo.trans h.hasVideo
  clips := clips.trans h.clips
  audio := audio.trans h.audio
  history := history.trans h.history
  selected := selected.trans h.selected
  filter := (congrArg Panels.filter panels).trans h.filter
  effects := (congrArg Panels.effects panels).trans h.effects
  transition := (congrArg Panels.transition panels).trans h.transition
  adjustments := (congrArg Panels.adjustments panels).trans h.adjustments

/-- What moves no slider adds no level. --/
theorem Unloaded.idle (h : Unloaded levels s) : Unloaded (levels ++ []) s := by rwa [List.append_nil]

theorem Unloaded.ifCurrent (h : Unloaded levels s) (job : JobId) (hn : Unloaded levels next) :
    Unloaded levels (s.ifCurrent job next) := by
  unfold Session.ifCurrent
  split
  · exact hn
  · exact h

theorem Unloaded.finish (h : Unloaded levels s) (reply : String) : Unloaded levels (s.finish reply) :=
  h.of_eq rfl rfl rfl rfl rfl rfl

theorem Unloaded.setVideoLength (h : Unloaded levels s) (duration : Seconds) :
    Unloaded levels (s.setVideoLength duration) := by
  unfold Session.setVideoLength
  split
  · have hunsized : s.clips.stretches duration = false := by
      rw [h.clips, Lane.stretches, List.any_nil, Bool.and_false]
    refine h.of_eq rfl ?_ rfl ?_ rfl rfl
    · exact Lane.stretch_eq_self hunsized
    · exact if_neg (ne_true_of_eq_false hunsized)
  · exact h

theorem Unloaded.observe (h : Unloaded levels s) (job : JobId) (report : StatusReport) :
    Unloaded levels (s.observe job report) := by
  have hseen : Unloaded levels { s with job := s.job.map fun j => j.observe report } :=
    h.of_eq rfl rfl rfl rfl rfl rfl
  refine h.ifCurrent job ?_
  cases report.duration with
  | none => exact hseen
  | some duration => exact hseen.setVideoLength duration

theorem Unloaded.apply (h : Unloaded levels s) (event : JobEvent) : Unloaded levels (s.apply event).2 := by
  cases event with
  | status job report => exact h.observe job report
  | completed | pollError => exact h
  | chatOnly | failed | refreshFailed | timedOut =>
    exact h.ifCurrent _ (h.of_eq rfl rfl rfl rfl rfl rfl)

theorem Unloaded.beginPrompt (h : Unloaded levels s) (text : String) : Unloaded levels (s.beginPrompt text).2 := by
  unfold Session.beginPrompt
  dsimp only
  split
  · exact h
  · split
    · exact h
    · split <;> exact h.of_eq rfl rfl rfl rfl rfl rfl

/-! ### What asks for a video -/

theorem Unloaded.needVideo (h : Unloaded levels s) : s.needVideo = .error .noVideo := by
  rw [Session.needVideo, h.hasVideo, if_neg Bool.false_ne_true]

theorem Unloaded.needSelection (h : Unloaded levels s) : s.needSelection = .error .noVideo := by
  rw [Session.needSelection, h.needVideo]

/-- Nothing but the sliders, texts and stickers is changed without a video. --/
theorem Unloaded.act (h : Unloaded levels s) {a : Action} (ha : ¬ a.Uploads) :
    Unloaded (levels ++ a.levels) (s.act a).2 := by
  cases a with
  | uploaded receipt source => exact absurd trivial ha
  | adjust key value =>
    refine ⟨h.hasVideo, h.clips, h.audio, h.history, h.selected, h.filter, h.effects, h.transition, ?_⟩
    rw [Adjustments.merge_append, ← h.adjustments]
    rfl
  | applyPreset name =>
    simp only [Session.act, Session.applyPreset, Action.levels]
    cases findPreset? name with
    | none => exact .idle h
    | some preset =>
      refine ⟨h.hasVideo, h.clips, h.audio, h.history, h.selected, h.filter, h.effects, h.transition, ?_⟩
      rw [Option.map_some, Option.getD_some, Adjustments.merge_append, ← h.adjustments]
      rfl
  | addText | addSticker =>
    exact .idle ⟨h.hasVideo, h.clips, h.audio, h.history, h.selected, h.filter, h.effects, h.transition, h.adjustments⟩
  | cut | trim | delete | applyTransition =>
    simp only [Session.act, cut, trim, delete, applyTransition, h.needSelection]
    exact .idle h
  | addMedia | addMusic | applyEffect | applyFilter =>
    simp only [Session.act, addMedia, addMusic, applyEffect, applyFilter, h.needVideo]
    exact .idle h
  | select clip =>
    cases clip with
    | none => exact .idle (h.of_eq rfl rfl rfl rfl h.selected.symm rfl)
    | some id =>
      simp only [Session.act, select, holds, h.clips, List.any_nil, Bool.false_eq_true, if_false]
      exact .idle h
  | undo =>
    have hundo : s.undo? = none := by
      rw [undo?, h.history]
      rfl
    simp only [Session.act, hundo]
    exact .idle h
  | redo =>
    have hredo : s.redo? = none := by
      rw [redo?, h.history]
      rfl
    simp only [Session.act, hredo]
    exact .idle h
  | setVideoLength duration => exact .idle (h.setVideoLength duration)
  | beginPrompt text =>
    have hbegin := h.beginPrompt text
    simp only [Session.act]
    rcases hb : s.beginPrompt text with ⟨_ | job, next⟩ <;> rw [hb] at hbegin <;> exact .idle hbegin
  | observe job report => exact .idle (h.observe job report)
  | editCompleted | editAnswered | editFailed | renderUnavailable | editTimedOut =>
    exact .idle (h.ifCurrent _ (h.of_eq rfl rfl rfl rfl rfl rfl))
  | editCancelled =>
    simp only [Session.act, editCancelled?]
    split
    · exact .idle (h.finish _)
    · exact .idle h
  | event e => exact .idle (h.apply e)
  | gesture | zoomIn | zoomOut | uploadFailed | promptFailed | exportFailed | takeAlerts | say =>
    exact .idle (h.of_eq rfl rfl rfl rfl rfl rfl)

theorem Unloaded.after (h : Unloaded levels s) {move : Move} (hm : ¬ move.Uploads) :
    Unloaded (levels ++ move.levels) (s.after move) := by
  cases move with
  | act a => exact h.act hm
  | playhead | chat => exact .idle (h.of_eq rfl rfl rfl rfl rfl rfl)

theorem Unloaded.follow (h : Unloaded levels s) {moves : List Move} (hm : ∀ move ∈ moves, ¬ move.Uploads) :
    Unloaded (levels ++ moves.flatMap Move.levels) (s.follow moves) := by
  induction moves generalizing levels s with
  | nil => rwa [List.flatMap_nil, List.append_nil]
  | cons move moves ih =>
    obtain ⟨hfirst, hrest⟩ := List.forall_mem_cons.mp hm
    rw [List.flatMap_cons, ← List.append_assoc]
    exact ih (h.after hfirst) hrest

/-! ### Before the first upload -/

theorem follow_adjustments {moves : List Move} (hm : ∀ move ∈ moves, ¬ move.Uploads) :
    (opened.follow moves).panels.adjustments = Adjustments.neutral.merge (moves.flatMap Move.levels) :=
  (opened_unloaded.follow hm).adjustments

/-- The sliders stay neutral as long as none is put elsewhere, and no longer. --/
theorem follow_neutral_iff {moves : List Move} (hm : ∀ move ∈ moves, ¬ move.Uploads) :
    (∀ n, (opened.follow (moves.take n)).panels.adjustments = Adjustments.neutral) ↔
      ∀ level ∈ moves.flatMap Move.levels, level.1.nearest level.2 = 0 := by
  constructor
  · intro hneutral level hlevel
    obtain ⟨move, hmove, hmoved⟩ := List.mem_flatMap.mp hlevel
    obtain ⟨before, rest, rfl⟩ := List.append_of_mem hmove
    -- The sliders were neutral up to this move, and are so after it.
    have hbefore := hneutral before.length
    have hafter := hneutral (before.length + 1)
    rw [follow_adjustments fun move h => hm move (List.mem_of_mem_take h)] at hbefore hafter
    rw [List.take_left' rfl] at hbefore
    rw [List.take_length_add_append, List.take_succ_cons, List.take_zero, List.flatMap_append,
      Adjustments.merge_append, hbefore, List.flatMap_cons, List.flatMap_nil, List.append_nil] at hafter
    exact (Adjustments.merge_neutral_iff move.levels_nodup).mp hafter level hmoved
  · intro hzeros n
    rw [follow_adjustments fun move h => hm move (List.mem_of_mem_take h)]
    refine Adjustments.merge_zeros fun level hlevel => ?_
    obtain ⟨move, hmove, hmoved⟩ := List.mem_flatMap.mp hlevel
    exact hzeros level (List.mem_flatMap.mpr ⟨move, List.mem_of_mem_take hmove, hmoved⟩)

/-- As long as nothing was uploaded, both lanes are empty, the history is the one empty state, nothing is selected, and
    there is no filter, effect or transition; texts and stickers can be added. The sliders stand wherever actions have
    put them: they stay neutral if and only if no action puts one of them elsewhere. --/
theorem follow_unloaded (moves : List Move) (hm : ∀ move ∈ moves, ¬ move.Uploads) (s : Session)
    (hs : opened.follow moves = s) :
    s.hasVideo = false ∧ s.clips = [] ∧ s.audio = [] ∧ s.history = .single .empty ∧ s.selected = none ∧
      s.panels.filter = none ∧ s.panels.effects = [] ∧ s.panels.transition = none ∧
      s.panels.adjustments = Adjustments.neutral.merge (moves.flatMap Move.levels) ∧
      ((∀ n, (opened.follow (moves.take n)).panels.adjustments = Adjustments.neutral) ↔
        ∀ level ∈ moves.flatMap Move.levels, level.1.nearest level.2 = 0) ∧
      (∀ style, (s.act (.addText style)).2.panels.texts.length = s.panels.texts.length + 1) ∧
      ∀ name glyph, (s.act (.addSticker name glyph)).2.panels.stickers.length = s.panels.stickers.length + 1 := by
  have h := opened_unloaded.follow hm
  rw [hs] at h
  exact ⟨h.hasVideo, h.clips, h.audio, h.history, h.selected, h.filter, h.effects, h.transition, h.adjustments,
    follow_neutral_iff hm, fun _ => List.length_append, fun _ _ => List.length_append⟩

/-- Edits of all kinds, none of which finds a video, and a slider that is put beyond its range. --/
def early : List Move :=
  [.act .cut, .act (.addMedia "b.mp4" none), .act (.applyFilter "vivid"), .act (.applyEffect "glow"),
    .act (.adjust .sharpness (-5)), .act (.addText .standard)]

theorem follow_unloaded_of_early :
    (∀ move ∈ early, ¬ move.Uploads) ∧ (opened.follow early).panels.texts.length = 1 ∧
      (opened.follow early).history = .single .empty ∧
      ∀ n, (opened.follow (early.take n)).panels.adjustments = Adjustments.neutral := by
  have hm : ∀ move ∈ early, ¬ move.Uploads := by
    simp [early, Move.Uploads, Action.Uploads]
  obtain ⟨-, -, -, hhistory, -, -, -, -, -, hneutral, -⟩ := follow_unloaded early hm _ rfl
  exact ⟨hm, rfl, hhistory, hneutral.mpr (by decide)⟩

/-- A preset moves the sliders without a video, where a filter that would move them is refused. --/
theorem preset_moves_unloaded :
    (opened.act (.applyFilter "vivid")).1 = .error .noVideo ∧ (opened.act (.applyPreset "Vibrant")).1 = .ok .done ∧
      (opened.follow [.act (.applyPreset "Vibrant")]).hasVideo = false ∧
      (opened.follow [.act (.applyPreset "Vibrant")]).panels.adjustments ≠ Adjustments.neutral := by
  refine ⟨rfl, rfl, rfl, by decide⟩

end Session
end Cutroom
