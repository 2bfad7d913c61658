import Cutroom.Desk.Action
import Cutroom.Proofs.Timeline.Edited
import Cutroom.Proofs.Timeline.Stored

/-! The two copies of a project, the lanes that are shown and the states of the history, agree in every session
    (`Session.run_whole`). A session is whole if the history shows its lanes, the selected clip is there, and the
    identifiers of each state are distinct; every action keeps it whole (`Session.act_whole`), since a fresh
    identifier is none of those made before. -/

namespace Cutroom
namespace Snapshot

def ids (t : Snapshot) : List Identifier := Lane.ids t.clips ++ Lane.ids t.audio

/-- The identifiers of a state are distinct, and all are among the first ones made. --/
structure Distinct (made : Nat) (t : Snapshot) : Prop where
  nodup : t.ids.Nodup
  made : ∀ id ∈ t.ids, ∃ n, n ≤ made ∧ id = .made n

theorem Distinct.mono {m n : Nat} {t : Snapshot} (h : Distinct m t) (hle : m ≤ n) : Distinct n t where
  nodup := h.nodup
  made id hid := by
    obtain ⟨k, hk, hid⟩ := h.made id hid
    exact ⟨k, Nat.le_trans hk hle, hid⟩

theorem Distinct.sublist {n : Nat} {t t' : Snapshot} (h : Distinct n t) (hs : t'.ids.Sublist t.ids) :
    Distinct n t' where
  nodup := hs.nodup h.nodup
  made id hid := h.made id (hs.subset hid)

/-- The identifier that is made next is in none of the states so far. --/
theorem Distinct.fresh {n : Nat} {t t' : Snapshot} (h : Distinct n t)
    (hp : t'.ids.Perm (.made (n + 1) :: t.ids)) : Distinct (n + 1) t' where
  nodup := by
    refine hp.nodup_iff.mpr (List.nodup_cons.mpr ⟨fun hmem => ?_, h.nodup⟩)
    obtain ⟨k, hk, hid⟩ := h.made _ hmem
    cases hid
    omega
  made id hid := by
    rcases List.mem_cons.mp (hp.mem_iff.mp hid) with rfl | hid
    · exact ⟨n + 1, Nat.le_refl _, rfl⟩
    · exact (h.mono (Nat.le_succ n)).made id hid

end Snapshot

namespace Session

/-- The history shows the lanes, the selected clip is there, and each state has distinct identifiers. --/
structure Whole (s : Session) : Prop where
  shown : s.history.current = ⟨s.clips, s.audio⟩
  selected : ∀ id, s.selected = some id → id ∈ Lane.ids s.clips
  states : ∀ t ∈ s.history.states, t.Distinct s.made

theorem Whole.lanes {s : Session} (h : Whole s) : Snapshot.Distinct s.made ⟨s.clips, s.audio⟩ := by
  rw [← h.shown]
  exact h.states _ (History.current_mem _)

theorem Whole.of_eq {s t : Session} (h : Whole s) (hc : t.clips = s.clips) (ha : t.audio = s.audio)
    (hs : t.selected = s.selected) (hh : t.history = s.history) (hm : s.made ≤ t.made) : Whole t where
  shown := by rw [hh, hc, ha, h.shown]
  selected id hid := by
    rw [hc]
    exact h.selected id (hs.symm.trans hid)
  states t ht := (h.states t (hh ▸ ht)).mono hm

theorem holds_iff {s : Session} {id : Identifier} : s.holds id = true ↔ id ∈ Lane.ids s.clips := by
  simp [holds, Lane.ids, List.any_eq_true, List.mem_map]

theorem opened_whole : Whole .opened where
  shown := rfl
  selected id hid := by cases hid
  states t ht := by
    rw [List.mem_singleton.mp ht]
    exact ⟨List.nodup_nil, fun id hid => by cases hid⟩

/-! ### Edits -/

theorem commit_whole {s : Session} {clips audio : Lane} (hstates : ∀ t ∈ s.history.states, t.Distinct s.made)
    (hnew : Snapshot.Distinct s.made ⟨clips, audio⟩)
    (hselected : ∀ id, s.selected = some id → id ∈ Lane.ids clips) : Whole (s.commit clips audio) where
  shown := History.push_current _ _
  selected := hselected
  states t ht := by
    rcases History.mem_push ht with ht | rfl
    · exact hstates t ht
    · exact hnew

/-- Lanes to which a clip was added under the fresh identifier. --/
theorem Whole.commit_fresh {s t : Session} {clips audio : Lane} {kept : Snapshot} (h : Whole s)
    (hh : t.history = s.history) (hm : t.made = s.made + 1) (hkept : kept.Distinct s.made)
    (hids : (Lane.ids clips ++ Lane.ids audio).Perm (s.fresh :: kept.ids))
    (hselected : ∀ id, t.selected = some id → id ∈ Lane.ids clips) : Whole (t.commit clips audio) := by
  refine commit_whole (fun u hu => ?_) ?_ hselected
  · rw [hm]
    rw [hh] at hu
    exact (h.states u hu).mono (Nat.le_succ _)
  · rw [hm]
    exact hkept.fresh hids

/-- Lanes from which clips may have been taken out. --/
theorem Whole.commit_sublist {s t : Session} {clips audio : Lane} (h : Whole s) (hh : t.history = s.history)
    (hm : t.made = s.made)
    (hids : (Lane.ids clips ++ Lane.ids audio).Sublist (Lane.ids s.clips ++ Lane.ids s.audio))
    (hselected : ∀ id, t.selected = some id → id ∈ Lane.ids clips) : Whole (t.commit clips audio) := by
  refine commit_whole (fun u hu => ?_) ?_ hselected
  · rw [hm]
    exact h.states u (hh ▸ hu)
  · rw [hm]
    exact h.lanes.sublist hids

theorem Whole.uploaded {s : Session} (h : Whole s) (receipt : Receipt) (source : VideoSource) :
    Whole (s.uploaded receipt source) := by
  have hkept : Snapshot.Distinct s.made ⟨[], s.audio⟩ := h.lanes.sublist (List.sublist_append_right _ _)
  refine h.commit_fresh rfl rfl hkept (.refl _) fun id hid => ?_
  cases hid
  exact List.mem_cons_self

theorem Whole.setVideoLength {s : Session} (h : Whole s) (duration : Seconds) : Whole (s.setVideoLength duration) := by
  unfold Session.setVideoLength
  split
  · -- The history takes the length where a clip that is shown does.
    cases hs : s.clips.stretches duration with
    | false =>
      rw [Lane.stretch_eq_self hs]
      exact h.of_eq rfl rfl rfl rfl (Nat.le_refl _)
    | true =>
      constructor
      case shown =>
        show (s.history.amend fun t => t.stretch duration).current = _
        rw [History.amend_current, h.shown]
        rfl
      case selected =>
        intro id hid
        show id ∈ Lane.ids (s.clips.stretch duration)
        rw [Lane.stretch_ids]
        exact h.selected id hid
      case states =>
        intro t ht
        obtain ⟨u, hu, rfl⟩ := History.mem_amend ht
        refine (h.states u hu).sublist ?_
        show (Lane.ids (u.clips.stretch duration) ++ Lane.ids u.audio).Sublist u.ids
        rw [Lane.stretch_ids]
        exact .refl _
  · exact h

theorem Whole.select {s next : Session} (h : Whole s) {clip : Option Identifier} (hn : s.select clip = .ok next) :
    Whole next := by
  unfold Session.select at hn
  cases clip with
  | none =>
    cases hn
    exact ⟨h.shown, fun id hid => (by cases hid), h.states⟩
  | some id =>
    dsimp only at hn
    split at hn
    · rename_i hholds
      cases hn
      refine ⟨h.shown, fun other hother => ?_, h.states⟩
      cases hother
      exact holds_iff.mp hholds
    · cases hn

theorem Whole.cut {s next : Session} (h : Whole s) (hn : s.cut = .ok next) : Whole next := by
  unfold Session.cut at hn
  split at hn
  · cases hn
  · split at hn
    · cases hn
    · rename_i clips hcut
      cases hn
      have hids := Lane.cut_ids hcut
      refine h.commit_fresh rfl rfl h.lanes (hids.append_right _) fun id hid => ?_
      exact hids.mem_iff.mpr (List.mem_cons_of_mem _ (h.selected id hid))

theorem Whole.trim {s next : Session} (h : Whole s) (hn : s.trim = .ok next) : Whole next := by
  unfold Session.trim at hn
  split at hn
  · cases hn
  · split at hn
    · cases hn
    · rename_i clips htrim
      cases hn
      have hids := Lane.trim_ids htrim
      have hsame : Lane.ids clips ++ Lane.ids s.audio = Lane.ids s.clips ++ Lane.ids s.audio := by rw [hids]
      refine h.commit_sublist rfl rfl (hsame ▸ .refl _) fun id hid => ?_
      rw [hids]
      exact h.selected id hid

theorem Whole.delete {s next : Session} (h : Whole s) (hn : s.delete = .ok next) : Whole next := by
  unfold Session.delete at hn
  split at hn
  · cases hn
  · split at hn
    · cases hn
    · rename_i clips hdelete
      cases hn
      have hids := Lane.delete_ids hdelete
      exact h.commit_sublist rfl rfl (hids.append (.refl _)) fun id hid => by cases hid

theorem Whole.addMedia {s next : Session} (h : Whole s) {name : String} {source : Option MediaRef}
    (hn : s.addMedia name source = .ok next) : Whole next := by
  unfold Session.addMedia at hn
  split at hn
  · cases hn
  · split at hn
    · cases hn
    · rename_i clips happend
      cases hn
      have hids := Lane.append_ids happend
      refine h.commit_fresh rfl rfl h.lanes ?_ fun id hid => ?_
      · rw [hids, List.append_assoc]
        exact List.perm_middle
      · rw [hids]
        exact List.mem_append_left _ (h.selected id hid)

theorem Whole.addMusic {s next : Session} (h : Whole s) {name : String} {source : Option MediaRef}
    (hn : s.addMusic name source = .ok next) : Whole next := by
  unfold Session.addMusic at hn
  split at hn
  · cases hn
  · split at hn
    · cases hn
    · rename_i audio hadd
      cases hn
      have hids := Lane.addMusic_ids hadd
      refine h.commit_fresh rfl rfl h.lanes ?_ h.selected
      rw [hids, ← List.append_assoc]
      exact List.perm_append_singleton _ _

/-- Another state of the history is shown, and the selection of a clip that it lacks is dropped. --/
theorem Whole.restore {s : Session} (h : Whole s) {history : History Snapshot}
    (hh : history.states = s.history.states) : Whole (s.restore history) where
  shown := rfl
  selected id hid := by
    obtain ⟨-, hholds⟩ := Option.filter_eq_some_iff.mp hid
    exact holds_iff.mp hholds
  states t ht := h.states t (hh ▸ ht)

/-! ### Edits by the service -/

theorem Whole.ifCurrent {s : Session} (h : Whole s) (job : JobId) {next : Session} (hn : Whole next) :
    Whole (s.ifCurrent job next) := by
  unfold Session.ifCurrent
  split
  · exact hn
  · exact h

theorem Whole.finish {s : Session} (h : Whole s) (reply : String) : Whole (s.finish reply) :=
  h.of_eq rfl rfl rfl rfl (Nat.le_refl _)

theorem Whole.observe {s : Session} (h : Whole s) (job : JobId) (report : StatusReport) :
    Whole (s.observe job report) := by
  have hseen : Whole { s with job := s.job.map fun j => j.observe report } :=
    h.of_eq rfl rfl rfl rfl (Nat.le_refl _)
  refine h.ifCurrent job ?_
  cases report.duration with
  | none => exact hseen
  | some duration => exact hseen.setVideoLength duration

theorem Whole.editCompleted {s : Session} (h : Whole s) (job : JobId) (reply : Option String) (source : VideoSource) :
    Whole (s.editCompleted job reply source) := by
  refine h.ifCurrent job (Whole.finish ?_ _)
  exact h.of_eq rfl rfl rfl rfl (Nat.le_refl _)

theorem Whole.renderUnavailable {s : Session} (h : Whole s) (job : JobId) (reply : Option String) (message : String) :
    Whole (s.renderUnavailable job reply message) := by
  refine h.ifCurrent job (Whole.finish ?_ _)
  exact h.of_eq rfl rfl rfl rfl (Nat.le_refl _)

theorem Whole.apply {s : Session} (h : Whole s) (event : JobEvent) : Whole (s.apply event).2 := by
  cases event with
  | status job report => exact h.observe job report
  | completed job reply video => exact h
  | chatOnly job reply => exact h.ifCurrent job (h.finish _)
  | failed job reason => exact h.ifCurrent job (h.finish _)
  | pollError job message => exact h
  | refreshFailed job reply message => exact h.renderUnavailable job reply message
  | timedOut job attempts => exact h.ifCurrent job (h.finish _)

theorem Whole.beginPrompt {s : Session} (h : Whole s) (text : String) : Whole (s.beginPrompt text).2 := by
  unfold Session.beginPrompt
  dsimp only
  split
  · exact h
  · split
    · exact h
    · split <;> exact h.of_eq rfl rfl rfl rfl (Nat.le_refl _)

/-! ### Actions -/

theorem Whole.edited {s : Session} (h : Whole s) (answer : Session → Answer) {outcome : Except SessionError Session}
    (hok : ∀ {next}, outcome = .ok next → Whole next) : Whole (s.edited answer outcome).2 := by
  cases outcome with
  | error e => exact h
  | ok next => exact hok rfl

theorem Whole.tried {s : Session} (h : Whole s) {outcome : Option Session}
    (hsome : ∀ next, outcome = some next → Whole next) : Whole (s.tried outcome).2 := by
  cases outcome with
  | none => exact h
  | some next => exact hsome next rfl

/-- Every action keeps a session whole. --/
theorem act_whole {s : Session} (h : Whole s) (a : Action) : Whole (s.act a).2 := by
  cases a with
  | gesture | zoomIn | zoomOut | uploadFailed | adjust | promptFailed | exportFailed | takeAlerts | say =>
    exact h.of_eq rfl rfl rfl rfl (Nat.le_refl _)
  | addText | addSticker => exact h.of_eq rfl rfl rfl rfl (Nat.le_succ _)
  | uploaded receipt source => exact h.uploaded receipt source
  | setVideoLength duration => exact h.setVideoLength duration
  | select clip => exact h.edited _ h.select
  | cut => exact h.edited _ h.cut
  | trim => exact h.edited _ h.trim
  | delete => exact h.edited _ h.delete
  | addMedia name source => exact h.edited _ h.addMedia
  | addMusic name source => exact h.edited _ h.addMusic
  | undo =>
    refine h.tried fun next hn => ?_
    obtain ⟨history, hh, rfl⟩ := Option.map_eq_some_iff.mp hn
    exact h.restore (History.undo?_states hh)
  | redo =>
    refine h.tried fun next hn => ?_
    obtain ⟨history, hh, rfl⟩ := Option.map_eq_some_iff.mp hn
    exact h.restore (History.redo?_states hh)
  | applyEffect name =>
    refine h.edited _ fun hn => ?_
    unfold applyEffect at hn
    split at hn <;> cases hn
    exact h.of_eq rfl rfl rfl rfl (Nat.le_succ _)
  | applyTransition name =>
    refine h.edited _ fun hn => ?_
    unfold applyTransition at hn
    split at hn <;> cases hn
    exact h.of_eq rfl rfl rfl rfl (Nat.le_succ _)
  | applyFilter id =>
    refine h.edited _ fun hn => ?_
    unfold applyFilter at hn
    split at hn <;> cases hn
    exact h.of_eq rfl rfl rfl rfl (Nat.le_refl _)
  | applyPreset name =>
    refine h.edited _ fun hn => ?_
    unfold applyPreset at hn
    split at hn <;> cases hn
    exact h.of_eq rfl rfl rfl rfl (Nat.le_refl _)
  | beginPrompt text =>
    have hbegin := h.beginPrompt text
    simp only [act]
    rcases hb : s.beginPrompt text with ⟨_ | job, next⟩ <;> rw [hb] at hbegin
    · exact hbegin
    · exact hbegin
  | observe job report => exact h.observe job report
  | editCompleted job reply source => exact h.editCompleted job reply source
  | editAnswered job reply => exact h.ifCurrent job (h.finish _)
  | editFailed job reason => exact h.ifCurrent job (h.finish _)
  | renderUnavailable job reply message => exact h.renderUnavailable job reply message
  | editTimedOut job => exact h.ifCurrent job (h.finish _)
  | editCancelled =>
    refine h.tried fun next hn => ?_
    unfold editCancelled? at hn
    split at hn <;> cases hn
    exact h.finish _
  | event e => exact h.apply e

theorem Whole.run {s : Session} (h : Whole s) (actions : List Action) : Whole (s.run actions) := by
  induction actions generalizing s with
  | nil => exact h
  | cons a rest ih => exact ih (act_whole h a)

/-- After any actions the history shows the lanes that are shown, the selected clip is in the clip lane, and no two
    clips of both lanes share an identifier, nor do two of any state of the history. --/
theorem run_whole (actions : List Action) :
    (opened.run actions).history.current = ⟨(opened.run actions).clips, (opened.run actions).audio⟩ ∧
      (∀ id, (opened.run actions).selected = some id → ∃ c ∈ (opened.run actions).clips, c.id = id) ∧
      (((opened.run actions).clips ++ (opened.run actions).audio).map Clip.id).Nodup ∧
      ∀ t ∈ (opened.run actions).history.states, ((t.clips ++ t.audio).map Clip.id).Nodup := by
  have h := opened_whole.run actions
  have hdistinct : ∀ {n : Nat} {t : Snapshot}, t.Distinct n → ((t.clips ++ t.audio).map Clip.id).Nodup := by
    intro n t ht
    rw [List.map_append]
    exact ht.nodup
  refine ⟨h.shown, fun id hid => ?_, hdistinct h.lanes, fun t ht => hdistinct (h.states t ht)⟩
  exact List.mem_map.mp (h.selected id hid)

end Session
end Cutroom
