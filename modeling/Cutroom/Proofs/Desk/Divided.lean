import Cutroom.Proofs.Desk.Change
import Cutroom.Proofs.Desk.Whole
import Cutroom.Proofs.Timeline.Ranked
import Cutroom.Proofs.Timeline.Sized

/-! Nothing is lost and nothing is doubled where a clip is cut (`Lane.cut_divides`). The cut takes place at the first
    clip with the identifier, at a time strictly inside it. Its two parts stand side by side, and since a clip does not
    cover its own end, each time that the clip covered is covered by one of them and by one only. -/

namespace Cutroom
namespace Lane

/-! ### Cuts -/

variable {lane before after : Lane} {id fresh : Identifier} {c : Clip} {t : Seconds}

/-- A cut that is refused is so for the identifier or for the time. --/
theorem cut_refused {e : TimelineError} (h : lane.cut id fresh t = .error e) :
    id ∉ ids lane ∧ e = .clipNotFound id ∨
      ∃ before c after, First lane id before c after ∧ e = .cutOutsideClip id t c.start c.stop := by
  rcases find_cases lane id with ⟨hid, hnone⟩ | ⟨before, c, after, hfirst⟩
  · rw [cut, hnone] at h
    cases h
    exact .inl ⟨hid, rfl⟩
  · rw [hfirst.cut] at h
    split at h
    · cases h
    · cases h
      exact .inr ⟨before, c, after, hfirst, rfl⟩

/-! ### What the parts cover -/

/-- A time that the clip covers is covered by one of its parts, and no other time is. --/
theorem countP_parts (h : splits c t = true) (moment : Seconds) :
    [leftPart t c, rightPart fresh t c].countP (·.covers moment) = [c].countP (·.covers moment) := by
  obtain ⟨hstart, hstop⟩ := splits_iff.mp h
  obtain ⟨hs, ht, hstart⟩ := Seconds.lt_iff_rank.mp hstart
  obtain ⟨-, he, hstop⟩ := Seconds.lt_iff_rank.mp hstop
  have hleft : (leftPart t c).covers moment = true ↔ c.start ≤ moment ∧ moment < t := covers_iff
  have hright : (rightPart fresh t c).covers moment = true ↔ t ≤ moment ∧ moment < c.stop := covers_iff
  simp only [List.countP_cons, List.countP_nil, hleft, hright, covers_iff, Seconds.le_iff_rank, Seconds.lt_iff_rank,
    hs, ht, he, true_and]
  -- No clip covers what is not a number; all else is a comparison of ranks.
  cases hm : moment.isNaN with
  | true => simp
  | false =>
    simp only [true_and]
    split_ifs <;> omega

theorem countP_divided (h : splits c t = true) (before after : Lane) (moment : Seconds) :
    (before ++ [leftPart t c, rightPart fresh t c] ++ after).countP (·.covers moment) =
      (before ++ c :: after).countP (·.covers moment) := by
  rw [List.countP_append, List.countP_append, countP_parts h, ← List.countP_append, ← List.countP_append,
    ← List.append_cons]

/-- An end that comes later makes up for one before it. --/
theorem later_later {acc stop : Seconds} (h : t < stop) :
    Seconds.later (Seconds.later acc t) stop = Seconds.later acc stop := by
  obtain ⟨ht, hs, hrank⟩ := Seconds.lt_iff_rank.mp h
  unfold Seconds.later
  cases ha : acc.isNaN with
  | true => simp only [ht, hs, h, if_true, if_false, Bool.false_eq_true]
  | false =>
    by_cases hlt : acc < t
    · have hlate : acc < stop := Seconds.lt_iff_rank.mpr ⟨ha, hs, Int.lt_trans (Seconds.lt_iff_rank.mp hlt).2.2 hrank⟩
      simp only [ht, hs, h, hlt, hlate, if_true, if_false, Bool.false_eq_true]
    · simp only [ha, ht, hs, hlt, if_false, Bool.false_eq_true]

/-- The parts end where the clip did. --/
theorem contentEnd_divided (h : splits c t = true) (before after audio : Lane) :
    contentEnd (before ++ [leftPart t c, rightPart fresh t c] ++ after) audio =
      contentEnd (before ++ c :: after) audio := by
  have hparts : ∀ acc, Seconds.later (Seconds.later acc (leftPart t c).stop) (rightPart fresh t c).stop =
      Seconds.later acc c.stop := fun acc => later_later (splits_iff.mp h).2
  simp only [contentEnd, List.map_append, List.map_cons, List.map_nil, List.foldl_append, List.foldl_cons,
    List.foldl_nil, hparts]

/-! ### The cut -/

/-- A lane is cut if and only if a clip has the identifier and the time lies strictly inside the first such clip. The
    two parts take the place of this clip, and all other clips stay as they are; each time is covered by as many clips
    as before, and the lanes end where they ended. The right part alone has the fresh identifier if no clip of the lane
    has it, which is so in every session. A cut that is refused says whether the clip or the time was at fault, and
    leaves the session as it was. --/
theorem cut_divides (lane : Lane) (id fresh : Identifier) (t : Seconds) :
    ((∃ next, lane.cut id fresh t = .ok next) ↔
      ∃ before c after, First lane id before c after ∧ c.start < t ∧ t < c.stop) ∧
    (∀ next, lane.cut id fresh t = .ok next → ∃ before c after, First lane id before c after ∧
      next = before ++ ⟨c.id, c.name, c.start, t, c.source⟩ :: ⟨fresh, c.name ++ " (Cut)", t, c.stop, c.source⟩ ::
        after ∧
      next.length = lane.length + 1 ∧
      (∀ moment, next.countP (·.covers moment) = lane.countP (·.covers moment)) ∧
      (∀ audio, contentEnd next audio = contentEnd lane audio) ∧
      (fresh ∉ ids lane → (ids next).count fresh = 1)) ∧
    (∀ e, lane.cut id fresh t = .error e →
      id ∉ ids lane ∧ e = .clipNotFound id ∨
        ∃ before c after, First lane id before c after ∧ e = .cutOutsideClip id t c.start c.stop) ∧
    (∀ actions, (Session.opened.run actions).fresh ∉ ids (Session.opened.run actions).clips) ∧
    ∀ (s : Session) e, (s.act .cut).1 = .error e → (s.act .cut).2 = s := by
  refine ⟨⟨?_, ?_⟩, fun next h => ?_, fun e h => cut_refused h, fun actions => ?_, fun s e h => ?_⟩
  · rintro ⟨next, h⟩
    obtain ⟨before, c, after, hfirst, hsplits, -⟩ := cut_eq_ok h
    exact ⟨before, c, after, hfirst, splits_iff.mp hsplits⟩
  · rintro ⟨before, c, after, hfirst, hinside⟩
    exact ⟨_, by rw [hfirst.cut, if_pos (splits_iff.mpr hinside)]⟩
  · have hcount := (cut_ids h).count_eq fresh
    obtain ⟨before, c, after, hfirst, hsplits, rfl⟩ := cut_eq_ok h
    refine ⟨before, c, after, hfirst, List.append_assoc .., ?_, fun moment => ?_, fun audio => ?_, fun hfresh => ?_⟩
    · simp only [hfirst.apart, List.length_append, List.length_cons, List.length_nil]
      omega
    · rw [hfirst.apart, countP_divided hsplits]
    · rw [hfirst.apart, contentEnd_divided hsplits]
    · rw [hcount, List.count_cons_self, List.count_eq_zero.mpr hfresh]
  · intro hfresh
    obtain ⟨n, hn, hid⟩ := (Session.opened_whole.run actions).lanes.made _ (List.mem_append_left _ hfresh)
    cases hid
    omega
  · exact Session.edited_refused _ _ h

/-- Two clips with the same identifier. --/
def twins : Lane := [⟨.made 1, "first", 0.0, 10.0, none⟩, ⟨.made 1, "second", 8.0, 30.0, none⟩]

/-- The first twin is cut, where the second one lies under it too. --/
theorem cut_divides_of_twins :
    ∃ next, twins.cut (.made 1) (.made 2) 9.0 = .ok next ∧ next.length = 3 ∧
      (∀ moment, next.countP (·.covers moment) = twins.countP (·.covers moment)) ∧
      (∀ audio, contentEnd next audio = contentEnd twins audio) ∧ (ids next).count (.made 2) = 1 := by
  obtain ⟨hcuts, hparts, -⟩ := cut_divides twins (.made 1) (.made 2) 9.0
  have hfirst : First twins (.made 1) [] ⟨.made 1, "first", 0.0, 10.0, none⟩ [⟨.made 1, "second", 8.0, 30.0, none⟩] :=
    ⟨rfl, rfl, nofun⟩
  obtain ⟨next, hnext⟩ := hcuts.mpr ⟨_, _, _, hfirst, by decide, by decide⟩
  obtain ⟨before, c, after, -, -, hlength, hcovered, hends, hfresh⟩ := hparts next hnext
  exact ⟨next, hnext, hlength, hcovered, hends, hfresh (by decide)⟩

end Lane
end Cutroom
