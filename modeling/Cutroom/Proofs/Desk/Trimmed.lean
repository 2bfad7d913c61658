import Cutroom.Proofs.Desk.Divided
import Cutroom.Proofs.Timeline.Exact

/-! A clip can be trimmed so often and no more (`Lane.trim_stops`). A trim moves the end of the first clip with the
    identifier to an earlier time that keeps the minimum length, or it is refused. Each one takes the end to a lower
    rank, and no end falls below that of the shortest clip, so in the end trims are refused, and from then on for ever.
    The number of trims is not the number of whole steps: the last one may take less than a step, and a step can be
    lost where the end is so far away that it is rounded off. -/

namespace Cutroom

/-- The clip has a finite span, which may be turned round. --/
structure Clip.Finite (c : Clip) : Prop where
  start : c.start.isFinite = true
  stop : c.stop.isFinite = true

namespace Lane
open Seconds

variable {lane next before after : Lane} {id : Identifier} {c : Clip} {step stop : Seconds}

/-! ### The end of a trimmed clip -/

theorem least_isNaN (h : c.start.isFinite = true) : (c.start + minimumLength).isNaN = false :=
  add_isNaN (isNaN_of_isFinite h) (by decide)

theorem trimmedStop_rank (hc : c.Finite) (hstep : step.isFinite = true) :
    (trimmedStop c step).isNaN = false ∧
      (trimmedStop c step).rank = max (c.stop - step).rank (c.start + minimumLength).rank := by
  have hless := sub_isNaN hc.stop hstep
  have hleast := least_isNaN hc.start
  rcases later_cases hless hleast with ⟨hle, heq⟩ | ⟨hle, heq⟩
  · rw [trimmedStop, heq]
    exact ⟨hleast, (Int.max_eq_right (le_iff_rank.mp hle).2.2).symm⟩
  · rw [trimmedStop, heq]
    exact ⟨hless, (Int.max_eq_left (le_iff_rank.mp hle).2.2).symm⟩

/-- A clip is not made shorter where it has the minimum length, and where the step is lost to rounding. --/
theorem stop_le_trimmedStop_iff (hc : c.Finite) (hstep : step.isFinite = true) :
    c.stop ≤ trimmedStop c step ↔ c.stop ≤ c.start + minimumLength ∨ c.stop ≤ c.stop - step := by
  obtain ⟨hnum, hrank⟩ := trimmedStop_rank hc hstep
  have hstop := isNaN_of_isFinite hc.stop
  simp only [le_iff_rank, hstop, least_isNaN hc.start, hnum, sub_isNaN hc.stop hstep, hrank, true_and]
  omega

theorem start_le_least (h : c.start.isFinite = true) : c.start ≤ c.start + minimumLength := by
  have hlength : minimumLength.isFinite = true := by decide
  refine le_iff_rank.mpr ⟨isNaN_of_isFinite h, least_isNaN h, ?_⟩
  rw [rank_add h hlength, rank_eq h]
  exact rankOf_mono (le_add_of_nonneg_right (value_nonneg (le_of_lt (by decide)) hlength))

/-- A trim may give the clip this end. --/
structure Shortens (c : Clip) (stop : Seconds) : Prop where
  earlier : stop < c.stop
  least : c.start + minimumLength ≤ stop

theorem shortens_trimmedStop (hc : c.Finite) (hstep : step.isFinite = true) (h : ¬ c.stop ≤ trimmedStop c step) :
    Shortens c (trimmedStop c step) := by
  obtain ⟨hnum, -⟩ := trimmedStop_rank hc hstep
  have hstop := isNaN_of_isFinite hc.stop
  refine ⟨lt_iff_rank.mpr ⟨hnum, hstop, ?_⟩, le_later (least_isNaN hc.start)⟩
  by_contra hlate
  exact h (le_iff_rank.mpr ⟨hstop, hnum, Int.not_lt.mp hlate⟩)

theorem Shortens.finite (h : Shortens c stop) (hc : c.Finite) : Clip.Finite { c with stop := stop } where
  start := hc.start
  stop := isFinite_of_between (le_trans (start_le_least hc.start) h.least) (le_of_lt h.earlier) hc.start hc.stop

theorem Shortens.length_le (h : Shortens c stop) (hc : c.Finite) : Clip.length { c with stop := stop } ≤ c.length :=
  sub_le_sub_right (le_of_lt h.earlier) (h.finite hc).stop hc.stop hc.start

/-! ### A trim -/

theorem First.mem (h : First lane id before c after) : c ∈ lane :=
  h.apart ▸ List.mem_append_right _ List.mem_cons_self

theorem First.unique {before' after' : Lane} {c' : Clip} (h : First lane id before c after)
    (h' : First lane id before' c' after') : c = c' :=
  Except.ok.inj (h.find.symm.trans h'.find)

theorem trim_of_notMem (hlength : step.isLength = true) (h : id ∉ ids lane) :
    lane.trim id step = .error (.clipNotFound id) := by
  rw [trim, if_pos hlength, find_of_notMem h]

/-- A trim is refused at the minimum, or it shortens the clip. --/
theorem First.trim_cases (h : First lane id before c after) (hc : c.Finite) (hlength : step.isLength = true) :
    (c.stop ≤ c.start + minimumLength ∨ c.stop ≤ c.stop - step) ∧ lane.trim id step = .error (.trimAtMinimum id) ∨
      ¬ (c.stop ≤ c.start + minimumLength ∨ c.stop ≤ c.stop - step) ∧
        ∃ stop, Shortens c stop ∧ lane.trim id step = .ok (before ++ { c with stop := stop } :: after) := by
  have hfinite := (isLength_iff.mp hlength).2
  rw [h.trim hlength, ← stop_le_trimmedStop_iff hc hfinite]
  by_cases hle : c.stop ≤ trimmedStop c step
  · exact .inl ⟨hle, if_pos hle⟩
  · exact .inr ⟨hle, _, shortens_trimmedStop hc hfinite hle, if_neg hle⟩

/-! ### Trims in a row -/

/-- The lane after a trim; one that is refused leaves it as it is. --/
def trimmed (id : Identifier) (step : Seconds) (lane : Lane) : Lane :=
  match lane.trim id step with
  | .ok next => next
  | .error _ => lane

/-- Trims in a row come to an end: each takes the end of the clip to a lower rank, and none takes it below the rank of
    the shortest end. --/
theorem First.trims_stop (h : First lane id before c after) (hc : c.Finite) (hlength : step.isLength = true) :
    ∃ n, (∀ k < n, ∃ next, ((trimmed id step)^[k] lane).trim id step = .ok next) ∧
      ∀ k, n ≤ k → ((trimmed id step)^[k] lane).trim id step = .error (.trimAtMinimum id) := by
  induction hm : (c.stop.rank - (c.start + minimumLength).rank).toNat using Nat.strong_induction_on
    generalizing lane c with
  | _ m ih =>
    rcases h.trim_cases hc hlength with ⟨-, hrefused⟩ | ⟨-, stop, hshorter, hmade⟩
    · have hstay : trimmed id step lane = lane := by rw [trimmed, hrefused]
      refine ⟨0, nofun, fun k _ => ?_⟩
      rw [Function.iterate_fixed hstay]
      exact hrefused
    · have hnext : trimmed id step lane = before ++ { c with stop := stop } :: after := by rw [trimmed, hmade]
      have hfirst : First (trimmed id step lane) id before { c with stop := stop } after := ⟨hnext, h.named, h.others⟩
      have hless : (stop.rank - (c.start + minimumLength).rank).toNat < m := by
        have hearlier := (lt_iff_rank.mp hshorter.earlier).2.2
        have hleast := (le_iff_rank.mp hshorter.least).2.2
        omega
      obtain ⟨n, hsome, hnone⟩ := ih _ hless hfirst (hshorter.finite hc) rfl
      refine ⟨n + 1, fun k hk => ?_, fun k hk => ?_⟩
      · cases k with
        | zero => exact ⟨_, hmade⟩
        | succ k => exact hsome k (Nat.lt_of_succ_lt_succ hk)
      · cases k with
        | zero => cases hk
        | succ k => exact hnone k (Nat.le_of_succ_le_succ hk)

/-- Where all clips have finite spans, a trim by a finite step changes only the end of the first clip with the
    identifier, to an earlier one that keeps the minimum length, and makes no clip longer. It is refused at the minimum
    exactly where the end has come to it or the step is lost to rounding. Trims in a row are made finitely often, and
    then refused for ever. --/
theorem trim_stops (hspans : ∀ c ∈ lane, c.start.isFinite = true ∧ c.stop.isFinite = true) (hpos : 0.0 < step)
    (hfinite : step.isFinite = true) (id : Identifier) :
    (∀ next, lane.trim id step = .ok next → ∃ before c after stop, First lane id before c after ∧
      next = before ++ { c with stop := stop } :: after ∧ stop < c.stop ∧ c.start + minimumLength ≤ stop ∧
      Clip.length { c with stop := stop } ≤ c.length) ∧
    (lane.trim id step = .error (.trimAtMinimum id) ↔ ∃ before c after, First lane id before c after ∧
      (c.stop ≤ c.start + minimumLength ∨ c.stop ≤ c.stop - step)) ∧
    (id ∉ ids lane → lane.trim id step = .error (.clipNotFound id)) ∧
    (id ∈ ids lane → ∃ n, (∀ k < n, ∃ next, ((trimmed id step)^[k] lane).trim id step = .ok next) ∧
      ∀ k, n ≤ k → ((trimmed id step)^[k] lane).trim id step = .error (.trimAtMinimum id)) := by
  have hlength : step.isLength = true := isLength_iff.mpr ⟨hpos, hfinite⟩
  by_cases hid : id ∈ ids lane
  · obtain ⟨before, c, after, hfirst⟩ := first_of_mem hid
    have hc : c.Finite := ⟨(hspans c hfirst.mem).1, (hspans c hfirst.mem).2⟩
    refine ⟨fun next hnext => ?made, ⟨fun hrefused => ?refused, ?least⟩, fun hnot => absurd hid hnot,
      fun _ => hfirst.trims_stop hc hlength⟩
    case made =>
      rcases hfirst.trim_cases hc hlength with ⟨-, herror⟩ | ⟨-, stop, hshorter, hok⟩
      · rw [herror] at hnext
        cases hnext
      · rw [hok] at hnext
        cases hnext
        exact ⟨before, c, after, stop, hfirst, rfl, hshorter.earlier, hshorter.least, hshorter.length_le hc⟩
    case refused =>
      rcases hfirst.trim_cases hc hlength with ⟨hleast, -⟩ | ⟨-, stop, -, hok⟩
      · exact ⟨before, c, after, hfirst, hleast⟩
      · rw [hok] at hrefused
        cases hrefused
    case least =>
      rintro ⟨before', c', after', hfirst', hleast⟩
      rcases hfirst.trim_cases hc hlength with ⟨-, herror⟩ | ⟨hnot, -⟩
      · exact herror
      · rw [hfirst'.unique hfirst] at hleast
        exact absurd hleast hnot
  · have herror := trim_of_notMem hlength hid
    refine ⟨fun next hnext => ?_, ⟨fun hrefused => ?_, ?_⟩, fun _ => herror, fun hmem => absurd hmem hid⟩
    · rw [herror] at hnext
      cases hnext
    · rw [herror] at hrefused
      cases hrefused
    · rintro ⟨before, c, after, hfirst, -⟩
      rw [← hfirst.named] at hid
      exact absurd (List.mem_map_of_mem hfirst.mem) hid

/-- A clip whose end is so far away that a step of a second is lost, and a clip behind it. --/
def far : Lane := [⟨.made 1, "far", 0.0, 1e300, none⟩, ⟨.made 2, "near", 2.0, 4.5, none⟩]

theorem trim_stops_of_far :
    (∀ c ∈ far, c.start.isFinite = true ∧ c.stop.isFinite = true) ∧ (0.0 : Seconds) < 1.0 ∧
      Float.isFinite 1.0 = true ∧ far.trim (.made 1) 1.0 = .error (.trimAtMinimum (.made 1)) ∧
      ∃ n, (∀ k < n, ∃ next, ((trimmed (.made 2) 1.0)^[k] far).trim (.made 2) 1.0 = .ok next) ∧
        ∀ k, n ≤ k → ((trimmed (.made 2) 1.0)^[k] far).trim (.made 2) 1.0 = .error (.trimAtMinimum (.made 2)) := by
  have hspans : ∀ c ∈ far, c.start.isFinite = true ∧ c.stop.isFinite = true := by
    simp only [far, List.forall_mem_cons]
    exact ⟨⟨by decide, by decide +kernel⟩, ⟨by decide, by decide⟩, nofun⟩
  have hpos : (0.0 : Seconds) < 1.0 := by decide
  have hfirst : First far (.made 1) [] ⟨.made 1, "far", 0.0, 1e300, none⟩ [⟨.made 2, "near", 2.0, 4.5, none⟩] :=
    ⟨rfl, rfl, nofun⟩
  obtain ⟨-, hrefused, -⟩ := trim_stops hspans hpos (by decide) (.made 1)
  obtain ⟨-, -, -, hstops⟩ := trim_stops hspans hpos (by decide) (.made 2)
  exact ⟨hspans, hpos, by decide, hrefused.mpr ⟨_, _, _, hfirst, .inr (by decide +kernel)⟩, hstops (by decide)⟩

end Lane
end Cutroom
