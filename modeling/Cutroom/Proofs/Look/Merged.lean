import Cutroom.Look.Adjustment

/-! Where the sliders stand after several of them were moved (`Adjustments.merge_get`), and when they are where they
    were in the beginning (`Adjustments.merge_neutral_iff`). -/

namespace Cutroom
namespace Adjustments

theorem get_put (a : Adjustments) (value : Int) (key other : Adjustment) :
    (a.put value key).get other = if key = other then value else a.get other := by
  cases key <;> cases other <;> rfl

theorem put_get (a : Adjustments) (key : Adjustment) : a.put (a.get key) key = a := by cases key <;> rfl

theorem neutral_get (key : Adjustment) : neutral.get key = 0 := by cases key <;> rfl

theorem merge_append (a : Adjustments) (first second : List (Adjustment × Int)) :
    a.merge (first ++ second) = (a.merge first).merge second := List.foldl_append

variable {values : List (Adjustment × Int)} {key : Adjustment} {value : Int}

theorem merge_get_of_notMem (a : Adjustments) (h : key ∉ values.map Prod.fst) : (a.merge values).get key = a.get key := by
  induction values generalizing a with
  | nil => rfl
  | cons first rest ih =>
    rw [List.map_cons, List.mem_cons, not_or] at h
    obtain ⟨hfirst, hrest⟩ := h
    show ((a.set first.1 first.2).merge rest).get key = a.get key
    rw [ih _ hrest, set, get_put, if_neg (Ne.symm hfirst)]

/-- A slider that is moved once stands where it was put, as far as its range allows. --/
theorem merge_get (a : Adjustments) (hd : (values.map Prod.fst).Nodup) (h : (key, value) ∈ values) :
    (a.merge values).get key = key.nearest value := by
  induction values generalizing a with
  | nil => cases h
  | cons first rest ih =>
    obtain ⟨hfirst, hrest⟩ := List.nodup_cons.mp hd
    rcases List.mem_cons.mp h with rfl | h
    · show ((a.set key value).merge rest).get key = key.nearest value
      rw [merge_get_of_notMem _ hfirst, set, get_put, if_pos rfl]
    · exact ih _ hrest h

theorem merge_zeros (h : ∀ level ∈ values, level.1.nearest level.2 = 0) : neutral.merge values = neutral := by
  induction values with
  | nil => rfl
  | cons first rest ih =>
    obtain ⟨hfirst, hrest⟩ := List.forall_mem_cons.mp h
    have hset : neutral.set first.1 first.2 = neutral := by
      rw [set, hfirst, ← neutral_get first.1, put_get]
    rw [merge, List.foldl_cons, hset]
    exact ih hrest

/-- Sliders of which none is moved twice leave the neutral position if and only if one is not put to zero. --/
theorem merge_neutral_iff (hd : (values.map Prod.fst).Nodup) :
    neutral.merge values = neutral ↔ ∀ level ∈ values, level.1.nearest level.2 = 0 := by
  refine ⟨fun h level hlevel => ?_, merge_zeros⟩
  rw [← merge_get neutral hd hlevel, h, neutral_get]

end Adjustments

theorem adjustmentPresets_nodup : ∀ preset ∈ adjustmentPresets, (preset.values.map Prod.fst).Nodup := by decide

theorem findPreset?_nodup {name : String} {preset : AdjustmentPreset} (h : findPreset? name = some preset) :
    (preset.values.map Prod.fst).Nodup := adjustmentPresets_nodup _ (List.mem_of_find?_eq_some h)

end Cutroom
