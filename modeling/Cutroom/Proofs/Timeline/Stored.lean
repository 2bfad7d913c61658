import Cutroom.Timeline.History

/-! The states that a history holds: the shown one is among them, and no operation adds another one than the one that
    is stored. -/

namespace Cutroom
namespace History

variable {α : Type}

theorem current_mem (h : History α) : h.current ∈ h.states := List.get_mem _ _

theorem push_current (h : History α) (s : α) : (h.push s).current = s := by
  have hlen : (h.states.take (h.index + 1)).length = h.index + 1 := by
    have := h.shows
    rw [List.length_take]
    omega
  unfold current push
  simp only [List.get_eq_getElem]
  rw [List.getElem_append_right (by omega)]
  simp [hlen]

theorem mem_push {h : History α} {s t : α} (ht : t ∈ (h.push s).states) : t ∈ h.states ∨ t = s := by
  rcases List.mem_append.mp ht with ht | ht
  · exact .inl (List.mem_of_mem_take ht)
  · exact .inr (List.mem_singleton.mp ht)

theorem push_size (h : History α) (s : α) : (h.push s).size = (h.push s).index + 1 := by
  have := h.shows
  simp only [size, push, List.length_append, List.length_take, List.length_cons, List.length_nil]
  omega

theorem push_canRedo (h : History α) (s : α) : (h.push s).canRedo = false := by
  have hsize : (h.push s).states.length = (h.push s).index + 1 := h.push_size s
  simp only [canRedo, hsize, Nat.lt_irrefl, decide_false]

/-- A state that was just stored can be taken back, and shown again after that. --/
theorem push_undo? (h : History α) (s : α) :
    ∃ back, (h.push s).undo? = some back ∧ back.current = h.current ∧ back.redo? = some (h.push s) := by
  have hshows := h.shows
  refine ⟨{ h.push s with index := h.index, shows := Nat.lt_of_succ_lt (h.push s).shows }, ?_, ?_, ?_⟩
  · simp only [undo?, push, Nat.zero_lt_succ, if_true, Nat.add_sub_cancel]
  · simp only [current, push, List.get_eq_getElem]
    rw [List.getElem_append_left (by rw [List.length_take]; omega), List.getElem_take]
  · exact dif_pos (h.push s).shows

theorem undo?_states {h h' : History α} (hu : h.undo? = some h') : h'.states = h.states := by
  unfold undo? at hu
  split at hu
  · cases hu
    rfl
  · cases hu

theorem redo?_states {h h' : History α} (hr : h.redo? = some h') : h'.states = h.states := by
  unfold redo? at hr
  split at hr
  · cases hr
    rfl
  · cases hr

theorem amend_current (h : History α) (f : α → α) : (h.amend f).current = f h.current := by
  simp [current, amend]

theorem mem_amend {h : History α} {f : α → α} {t : α} (ht : t ∈ (h.amend f).states) : ∃ s ∈ h.states, f s = t :=
  List.mem_map.mp ht

end History
end Cutroom
