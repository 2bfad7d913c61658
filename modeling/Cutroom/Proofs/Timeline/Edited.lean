import Cutroom.Timeline.Lane

/-! What an edit does to a lane, and to the identifiers in it. An edit of one clip concerns one place of the lane
    (`Lane.First`, `Lane.find_cases`), so that a trim keeps all identifiers, a delete takes one away, and a cut adds the fresh
    one, as added media does. -/

namespace Cutroom
namespace Lane

/-- The identifiers of a lane, in sequence order. --/
def ids (lane : Lane) : List Identifier := lane.map Clip.id

theorem ids_append (before after : Lane) : ids (before ++ after) = ids before ++ ids after := List.map_append

/-! ### The first clip with an identifier -/

/-- A lane comes apart at its first clip with an identifier. --/
structure First (lane : Lane) (id : Identifier) (before : Lane) (c : Clip) (after : Lane) : Prop where
  apart : lane = before ++ c :: after
  named : c.id = id
  others : ∀ d ∈ before, d.id ≠ id

section First
variable {lane next before after : Lane} {id fresh : Identifier} {c : Clip} {t step : Seconds}

theorem first_of_mem (h : id ∈ ids lane) : ∃ before c after, First lane id before c after := by
  induction lane with
  | nil => cases h
  | cons first rest ih =>
    by_cases hid : first.id = id
    · exact ⟨[], first, rest, rfl, hid, nofun⟩
    · have hrest : id ∈ ids rest := (List.mem_cons.mp h).resolve_left (Ne.symm hid)
      obtain ⟨before, c, after, rfl, hc, hbefore⟩ := ih hrest
      exact ⟨first :: before, c, after, rfl, hc, List.forall_mem_cons.mpr ⟨hid, hbefore⟩⟩

theorem First.find (h : First lane id before c after) : lane.find id = .ok c := by
  obtain ⟨rfl, hid, hbefore⟩ := h
  have hnone : List.find? (fun d => d.id == id) before = none :=
    List.find?_eq_none.mpr fun d hd => by simp [hbefore d hd]
  simp only [Lane.find, List.find?_append, hnone, List.find?_cons, hid, beq_self_eq_true, Option.none_or]

theorem First.splice (h : First lane id before c after) (f : Clip → Lane) :
    splice id f lane = before ++ f c ++ after := by
  obtain ⟨rfl, hid, hbefore⟩ := h
  induction before with
  | nil => simp only [List.nil_append, Lane.splice, hid, beq_self_eq_true, if_true]
  | cons d before ih =>
    obtain ⟨hd, hrest⟩ := List.forall_mem_cons.mp hbefore
    simp only [List.cons_append, Lane.splice, beq_iff_eq, hd, if_false, ih hrest]

theorem find_of_notMem (h : id ∉ ids lane) : lane.find id = .error (.clipNotFound id) := by
  have hnone : List.find? (fun c => c.id == id) lane = none := by
    refine List.find?_eq_none.mpr fun c hc => ?_
    have hid : c.id ≠ id := ne_of_mem_of_not_mem (List.mem_map_of_mem hc) h
    simpa using hid
  rw [find, hnone]

/-- Either no clip has the identifier, or an edit of its first clip concerns one place of the lane. --/
theorem find_cases (lane : Lane) (id : Identifier) :
    id ∉ ids lane ∧ lane.find id = .error (.clipNotFound id) ∨ ∃ before c after, First lane id before c after := by
  by_cases hid : id ∈ ids lane
  · exact .inr (first_of_mem hid)
  · exact .inl ⟨hid, find_of_notMem hid⟩

/-! ### Edits of one clip -/

/-- What a cut comes to at the first clip with the identifier. --/
theorem First.cut (h : First lane id before c after) :
    lane.cut id fresh t =
      if splits c t then .ok (before ++ [leftPart t c, rightPart fresh t c] ++ after)
      else .error (.cutOutsideClip id t c.start c.stop) := by
  rw [Lane.cut, h.find, h.splice]

/-- What a trim comes to at the first clip with the identifier. --/
theorem First.trim (h : First lane id before c after) (hlength : step.isLength = true) :
    lane.trim id step =
      if c.stop ≤ trimmedStop c step then .error (.trimAtMinimum id)
      else .ok (before ++ { c with stop := trimmedStop c step } :: after) := by
  rw [Lane.trim, if_pos hlength, h.find, h.splice, List.append_assoc]
  rfl

theorem First.delete (h : First lane id before c after) : lane.delete id = .ok (before ++ after) := by
  rw [Lane.delete, h.find, h.splice, List.append_nil]

theorem cut_eq_ok (h : lane.cut id fresh t = .ok next) :
    ∃ before c after, First lane id before c after ∧ splits c t = true ∧
      next = before ++ [leftPart t c, rightPart fresh t c] ++ after := by
  rcases find_cases lane id with ⟨-, hnone⟩ | ⟨before, c, after, hfirst⟩
  · rw [cut, hnone] at h
    cases h
  · rw [hfirst.cut] at h
    split at h
    · rename_i hsplits
      cases h
      exact ⟨before, c, after, hfirst, hsplits, rfl⟩
    · cases h

theorem trim_eq_ok (h : lane.trim id step = .ok next) :
    ∃ before c after, First lane id before c after ∧ ¬ c.stop ≤ trimmedStop c step ∧
      next = before ++ [{ c with stop := trimmedStop c step }] ++ after := by
  by_cases hlength : step.isLength = true
  · rcases find_cases lane id with ⟨-, hnone⟩ | ⟨before, c, after, hfirst⟩
    · rw [trim, if_pos hlength, hnone] at h
      cases h
    · rw [hfirst.trim hlength] at h
      split at h
      · cases h
      · rename_i hearlier
        cases h
        exact ⟨before, c, after, hfirst, hearlier, List.append_cons ..⟩
  · rw [trim, if_neg hlength] at h
    cases h

theorem delete_eq_ok (h : lane.delete id = .ok next) :
    ∃ before c after, First lane id before c after ∧ next = before ++ after := by
  rcases find_cases lane id with ⟨-, hnone⟩ | ⟨before, c, after, hfirst⟩
  · rw [delete, hnone] at h
    cases h
  · rw [hfirst.delete] at h
    cases h
    exact ⟨before, c, after, hfirst, rfl⟩

end First

/-! ### Identifiers -/

theorem cut_ids {lane next : Lane} {id fresh : Identifier} {t : Seconds} (h : lane.cut id fresh t = .ok next) :
    (ids next).Perm (fresh :: ids lane) := by
  obtain ⟨before, c, after, ⟨rfl, -, -⟩, -, rfl⟩ := cut_eq_ok h
  have hparts : ids (before ++ [leftPart t c, rightPart fresh t c] ++ after) =
      (ids before ++ [c.id]) ++ fresh :: ids after := by
    simp [ids, leftPart, rightPart]
  have hwhole : ids (before ++ c :: after) = (ids before ++ [c.id]) ++ ids after := by simp [ids]
  rw [hparts, hwhole]
  exact List.perm_middle

theorem trim_ids {lane next : Lane} {id : Identifier} {step : Seconds} (h : lane.trim id step = .ok next) :
    ids next = ids lane := by
  obtain ⟨before, c, after, ⟨rfl, -, -⟩, -, rfl⟩ := trim_eq_ok h
  simp [ids]

theorem delete_ids {lane next : Lane} {id : Identifier} (h : lane.delete id = .ok next) :
    (ids next).Sublist (ids lane) := by
  obtain ⟨before, c, after, ⟨rfl, -, -⟩, rfl⟩ := delete_eq_ok h
  rw [ids_append, ids_append]
  exact (List.Sublist.refl _).append (List.sublist_cons_self _ _)

/-- Where a clip is made and added, it stands last. --/
theorem added_ids {lane next : Lane} {fresh : Identifier} {name : String} {start stop : Seconds}
    {source : Option MediaRef}
    (h : ((Clip.create fresh name start stop source).map fun c => lane ++ [c]) = .ok next) :
    ids next = ids lane ++ [fresh] := by
  unfold Clip.create at h
  split at h
  · cases h
    exact ids_append _ _
  · cases h

theorem append_ids {lane next : Lane} {fresh : Identifier} {name : String} {source : Option MediaRef}
    (h : lane.append fresh name source = .ok next) : ids next = ids lane ++ [fresh] := added_ids h

theorem addMusic_ids {lane next : Lane} {fresh : Identifier} {name : String} {source : Option MediaRef}
    {duration : Seconds} (h : lane.addMusic fresh name source duration = .ok next) :
    ids next = ids lane ++ [fresh] := added_ids h

theorem stretch_ids (lane : Lane) (duration : Seconds) : ids (lane.stretch duration) = ids lane := by
  unfold stretch
  split
  · unfold ids
    rw [List.map_map]
    refine List.map_congr_left fun c _ => ?_
    simp only [Function.comp_apply]
    split <;> rfl
  · rfl

theorem stretch_eq_self {lane : Lane} {duration : Seconds} (h : lane.stretches duration = false) :
    lane.stretch duration = lane := by
  unfold stretch
  split
  · rename_i hlength
    rw [stretches, hlength, Bool.true_and, List.any_eq_false] at h
    have hid : (lane.map fun c => if c.isUnsized then { c with stop := duration } else c) = lane.map id := by
      refine List.map_congr_left fun c hc => ?_
      simp only [h c hc, Bool.false_eq_true, if_false, id]
    rw [hid, List.map_id]
  · rfl

end Lane
end Cutroom
