import Cutroom.Desk.Action
import Cutroom.Proofs.Look.Merged

/-! The sliders under any row of changes (`Panels.follow_ranged`). Each stays in its range. A list moves exactly the
    sliders that it names, each to the last value that it has for it, as far as the range allows
    (`Adjustments.merge_get_last`); where they stood before makes no difference (`Adjustments.merge_get_of_mem`). So a
    list that is merged twice is merged once, and lists that name different sliders can change places. -/

namespace Cutroom

theorem Adjustment.nearest_bounds (key : Adjustment) (value : Int) :
    key.range.1 ≤ key.nearest value ∧ key.nearest value ≤ key.range.2 := by
  have hordered : key.range.1 ≤ key.range.2 := by cases key <;> decide
  unfold nearest
  omega

namespace Adjustments

variable {a b : Adjustments} {values others : List (Adjustment × Int)} {key : Adjustment} {value : Int}

theorem eq_of_get (h : ∀ key, a.get key = b.get key) : a = b := by
  cases a
  cases b
  rw [mk.injEq]
  exact ⟨h .brightness, h .contrast, h .saturation, h .hue, h .highlight, h .shadows, h .temperature, h .tint,
    h .sharpness, h .vignette⟩

theorem set_get (a : Adjustments) (key other : Adjustment) (value : Int) :
    (a.set key value).get other = if key = other then key.nearest value else a.get other := get_put ..

/-! ### The last value -/

/-- A slider that a list names has a last value there. --/
theorem exists_last (h : key ∈ values.map Prod.fst) :
    ∃ before value after, values = before ++ (key, value) :: after ∧ key ∉ after.map Prod.fst := by
  induction values with
  | nil => cases h
  | cons first rest ih =>
    by_cases hrest : key ∈ rest.map Prod.fst
    · obtain ⟨before, value, after, rfl, hafter⟩ := ih hrest
      exact ⟨first :: before, value, after, rfl, hafter⟩
    · rw [List.map_cons, List.mem_cons] at h
      obtain rfl := h.resolve_right hrest
      exact ⟨[], first.2, rest, rfl, hrest⟩

theorem merge_get_last (a : Adjustments) {before after : List (Adjustment × Int)} (h : key ∉ after.map Prod.fst) :
    (a.merge (before ++ (key, value) :: after)).get key = key.nearest value := by
  rw [merge_append]
  show (((a.merge before).set key value).merge after).get key = key.nearest value
  rw [merge_get_of_notMem _ h, set_get, if_pos rfl]

theorem merge_get_of_mem (a b : Adjustments) (h : key ∈ values.map Prod.fst) :
    (a.merge values).get key = (b.merge values).get key := by
  obtain ⟨before, value, after, rfl, hafter⟩ := exists_last h
  rw [merge_get_last a hafter, merge_get_last b hafter]

/-! ### Merging again -/

theorem merge_idem (a : Adjustments) (values : List (Adjustment × Int)) :
    (a.merge values).merge values = a.merge values := by
  refine eq_of_get fun key => ?_
  by_cases h : key ∈ values.map Prod.fst
  · exact merge_get_of_mem _ _ h
  · exact merge_get_of_notMem _ h

theorem merge_comm (a : Adjustments) (h : ∀ key ∈ values.map Prod.fst, key ∉ others.map Prod.fst) :
    (a.merge values).merge others = (a.merge others).merge values := by
  refine eq_of_get fun key => ?_
  by_cases hvalues : key ∈ values.map Prod.fst
  · rw [merge_get_of_notMem _ (h key hvalues)]
    exact merge_get_of_mem _ _ hvalues
  · rw [merge_get_of_notMem (a.merge others) hvalues]
    by_cases hothers : key ∈ others.map Prod.fst
    · exact merge_get_of_mem _ _ hothers
    · rw [merge_get_of_notMem _ hothers, merge_get_of_notMem _ hvalues, merge_get_of_notMem _ hothers]

/-! ### Ranges -/

/-- Each slider is in its range. --/
def Ranged (a : Adjustments) : Prop := ∀ key : Adjustment, key.range.1 ≤ a.get key ∧ a.get key ≤ key.range.2

theorem neutral_ranged : neutral.Ranged := by
  intro key
  rw [neutral_get]
  cases key <;> decide

theorem Ranged.set (h : a.Ranged) (key : Adjustment) (value : Int) : (a.set key value).Ranged := by
  intro other
  rw [set_get]
  split
  · rename_i hkey
    exact hkey ▸ key.nearest_bounds value
  · exact h other

theorem Ranged.merge (h : a.Ranged) (values : List (Adjustment × Int)) : (a.merge values).Ranged := by
  induction values generalizing a with
  | nil => exact h
  | cons first rest ih => exact ih (h.set first.1 first.2)

end Adjustments

namespace Panels

/-- What moves the sliders. --/
inductive Touch where
  | set (key : Adjustment) (value : Int)
  | merge (values : List (Adjustment × Int))
  | filter (f : FilterPreset)
  | preset (preset : AdjustmentPreset)

def touch (p : Panels) : Touch → Panels
  | .set key value => { p with adjustments := p.adjustments.set key value }
  | .merge values => { p with adjustments := p.adjustments.merge values }
  | .filter f => p.applyFilter f
  | .preset preset => p.applyPreset preset

/-- The panels after a row of changes. --/
def follow (p : Panels) (touches : List Touch) : Panels := touches.foldl touch p

theorem touch_ranged {p : Panels} (h : p.adjustments.Ranged) (t : Touch) : (p.touch t).adjustments.Ranged := by
  cases t with
  | set key value => exact h.set key value
  | merge values => exact h.merge values
  | filter f => exact h.merge f.values
  | preset preset => exact h.merge preset.values

theorem follow_ranged {p : Panels} (h : p.adjustments.Ranged) (touches : List Touch) :
    (p.follow touches).adjustments.Ranged := by
  induction touches generalizing p with
  | nil => exact h
  | cons t rest ih => exact ih (touch_ranged h t)

theorem applyFilter_idem (p : Panels) (f : FilterPreset) : (p.applyFilter f).applyFilter f = p.applyFilter f := by
  unfold applyFilter
  rw [Adjustments.merge_idem]

/-- Whatever moves the sliders of untouched panels, each stays in its range. Wherever the sliders are, a list that is
    merged moves each slider that it names to the last value that it has for it, as far as the range allows, and no
    other slider; a slider that is set reads as the session answers. To merge a list or to apply a filter once more
    changes nothing, and lists that name different sliders can be merged in either order. --/
theorem sliders_settle (touches : List Touch) (p : Panels) (s : Session) (a : Adjustments)
    (values : List (Adjustment × Int)) :
    (untouched.follow touches).adjustments.Ranged ∧
      (∀ before key value after, values = before ++ (key, value) :: after → key ∉ after.map Prod.fst →
        (a.merge values).get key = key.nearest value) ∧
      (∀ key, key ∉ values.map Prod.fst → (a.merge values).get key = a.get key) ∧
      (∀ key value, (a.set key value).get key = key.nearest value ∧
        ∃ level, (s.act (.adjust key value)).1 = .ok (.value level) ∧
          (s.act (.adjust key value)).2.panels.adjustments = s.panels.adjustments.set key value ∧
          (s.act (.adjust key value)).2.panels.adjustments.get key = level) ∧
      (a.merge values).merge values = a.merge values ∧
      (∀ f, (p.applyFilter f).applyFilter f = p.applyFilter f) ∧
      ∀ others : List (Adjustment × Int), (∀ key ∈ values.map Prod.fst, key ∉ others.map Prod.fst) →
        (a.merge values).merge others = (a.merge others).merge values := by
  have hset (b : Adjustments) (key : Adjustment) (value : Int) : (b.set key value).get key = key.nearest value := by
    rw [Adjustments.set_get, if_pos rfl]
  refine ⟨follow_ranged Adjustments.neutral_ranged touches, ?_, fun key => a.merge_get_of_notMem, fun key value => ?_,
    a.merge_idem values, p.applyFilter_idem, fun others => a.merge_comm⟩
  · rintro before key value after rfl hafter
    exact a.merge_get_last hafter
  · exact ⟨hset a key value, key.nearest value, rfl, rfl, hset s.panels.adjustments key value⟩

/-- A list that names one slider twice. --/
def twice : List (Adjustment × Int) := [(.hue, 500), (.tint, 5), (.hue, -7)]

/-- That list is merged, and then a filter puts the slider beyond its range. --/
def chilled : List Touch :=
  [.merge twice, .filter ⟨"cold", "Cold", [(.brightness, -10), (.saturation, 50), (.hue, 200)]⟩]

theorem sliders_settle_of_chilled :
    (untouched.follow chilled).adjustments.get .hue = 180 ∧ (untouched.follow chilled).adjustments.Ranged ∧
      (Adjustments.neutral.merge twice).get .hue = -7 ∧
      (Adjustments.neutral.merge twice).merge [(.brightness, 3)] =
        (Adjustments.neutral.merge [(.brightness, 3)]).merge twice := by
  obtain ⟨hranged, hlast, -, -, -, -, hcomm⟩ := sliders_settle chilled untouched .opened .neutral twice
  exact ⟨rfl, hranged, hlast [(.hue, 500), (.tint, 5)] .hue (-7) [] rfl (List.not_mem_nil), hcomm _ (by decide)⟩

end Panels
end Cutroom
