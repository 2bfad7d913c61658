import Cutroom.Proofs.Timeline.Placed

/-! Lanes in time order. In an ordered lane of placed clips no two clips overlap, and whatever clip an edit puts in
    the place of another one lies within it, so that no edit changes that (`Lane.follow_ordered`). -/

namespace Cutroom
namespace Lane

/-- Each clip ends where the next one starts or before that. --/
def Ordered (lane : Lane) : Prop := lane.IsChain fun c d => c.stop ≤ d.start

instance (lane : Lane) : Decidable lane.Ordered :=
  inferInstanceAs (Decidable (lane.IsChain fun c d => c.stop ≤ d.start))

/-- Each clip ends before any later one of the lane starts. --/
def Apart (lane : Lane) : Prop := lane.Pairwise fun c d => c.stop ≤ d.start

variable {lane next before parts after : Lane} {id fresh : Identifier} {c : Clip}

theorem Apart.ordered (h : lane.Apart) : lane.Ordered := List.Pairwise.isChain h

/-- From neighbour to neighbour, since no clip ends before it starts. --/
theorem Ordered.apart (h : lane.Ordered) (hplaced : lane.Placed) : lane.Apart := by
  induction lane with
  | nil => exact .nil
  | cons c rest ih =>
    obtain ⟨-, hrest⟩ := List.forall_mem_cons.mp hplaced
    have hlater : Apart rest := ih h.tail hrest
    refine List.Pairwise.cons (fun d hd => ?_) hlater
    cases rest with
    | nil => cases hd
    | cons e rest =>
      have hnext : c.stop ≤ e.start := (List.isChain_cons_cons.mp h).1
      rcases List.mem_cons.mp hd with rfl | hd
      · exact hnext
      · have hforward := (hrest e List.mem_cons_self).forward
        have hfar : e.stop ≤ d.start := (List.pairwise_cons.mp hlater).1 d hd
        exact Seconds.le_trans hnext (Seconds.le_trans hforward hfar)

/-- No time is covered twice. --/
theorem Apart.countP_le_one (h : lane.Apart) (t : Seconds) : lane.countP (·.covers t) ≤ 1 := by
  induction lane with
  | nil => exact Nat.zero_le 1
  | cons c rest ih =>
    obtain ⟨hfirst, hrest⟩ := List.pairwise_cons.mp h
    rw [List.countP_cons]
    split
    · rename_i hcovers
      have hnone : rest.countP (·.covers t) = 0 := by
        refine List.countP_eq_zero.mpr fun d hd hd' => ?_
        have hstart : c.stop ≤ t := Seconds.le_trans (hfirst d hd) (covers_iff.mp hd').1
        exact Seconds.not_le_of_lt (covers_iff.mp hcovers).2 hstart
      rw [hnone]
    · exact ih hrest

/-! ### Edits of one clip -/

/-- Clips that lie apart within a clip can take its place. --/
theorem Apart.replace (h : Apart (before ++ c :: after)) (hparts : parts.Apart)
    (hwithin : ∀ p ∈ parts, c.start ≤ p.start ∧ p.stop ≤ c.stop) : Apart (before ++ parts ++ after) := by
  obtain ⟨hbefore, hbehind, hearlier⟩ := List.pairwise_append.mp h
  obtain ⟨hlater, hafter⟩ := List.pairwise_cons.mp hbehind
  rw [List.append_assoc]
  refine List.pairwise_append.mpr ⟨hbefore, List.pairwise_append.mpr ⟨hparts, hafter, ?_⟩, ?_⟩
  · intro p hp d hd
    exact Seconds.le_trans (hwithin p hp).2 (hlater d hd)
  · intro b hb d hd
    rcases List.mem_append.mp hd with hd | hd
    · exact Seconds.le_trans (hearlier b hb c List.mem_cons_self) (hwithin d hd).1
    · exact hearlier b hb d (List.mem_cons_of_mem _ hd)

theorem Apart.cut {t : Seconds} (h : lane.Apart) (hplaced : lane.Placed) (hcut : lane.cut id fresh t = .ok next) :
    next.Apart := by
  obtain ⟨before, c, after, ⟨rfl, -, -⟩, hsplits, rfl⟩ := cut_eq_ok hcut
  obtain ⟨hstart, hstop⟩ := splits_iff.mp hsplits
  obtain ⟨-, ht, -⟩ := Seconds.lt_iff_rank.mp hstart
  have hc := hplaced c (List.mem_append_right _ List.mem_cons_self)
  have htouch : (leftPart t c).stop ≤ (rightPart fresh t c).start := Seconds.le_refl ht
  refine h.replace (List.pairwise_pair.mpr htouch) fun p hp => ?_
  simp only [List.mem_cons, List.not_mem_nil, or_false] at hp
  rcases hp with rfl | rfl
  · exact ⟨Seconds.le_refl (Seconds.isNaN_of_isFinite hc.start), Seconds.le_of_lt hstop⟩
  · exact ⟨Seconds.le_of_lt hstart, Seconds.le_refl (Seconds.isNaN_of_isFinite hc.stop)⟩

theorem Apart.trim {step : Seconds} (h : lane.Apart) (hplaced : lane.Placed) (htrim : lane.trim id step = .ok next) :
    next.Apart := by
  obtain ⟨before, c, after, ⟨rfl, -, -⟩, hearlier, rfl⟩ := trim_eq_ok htrim
  have hc := hplaced c (List.mem_append_right _ List.mem_cons_self)
  have htrimmed : (trimmedStop c step).isFinite = true := (trimmed_placed hc hearlier).stop
  have hback : trimmedStop c step ≤ c.stop :=
    Seconds.le_of_not_le (Seconds.isNaN_of_isFinite hc.stop) (Seconds.isNaN_of_isFinite htrimmed) hearlier
  refine h.replace (List.pairwise_singleton _ _) fun p hp => ?_
  rw [List.mem_singleton.mp hp]
  exact ⟨Seconds.le_refl (Seconds.isNaN_of_isFinite hc.start), hback⟩

theorem Apart.delete (h : lane.Apart) (hdelete : lane.delete id = .ok next) : next.Apart := by
  obtain ⟨before, c, after, ⟨rfl, -, -⟩, rfl⟩ := delete_eq_ok hdelete
  exact h.sublist ((List.Sublist.refl before).append (List.sublist_cons_self c after))

/-! ### Added media -/

/-- All clips end before the end of the last one. --/
theorem Apart.stop_le_lastStop (h : lane.Apart) (hplaced : lane.Placed) (hc : c ∈ lane) : c.stop ≤ lane.lastStop := by
  rcases List.eq_nil_or_concat lane with rfl | ⟨init, last, rfl⟩
  · cases hc
  · rw [List.concat_eq_append] at h hplaced hc ⊢
    have hlast := hplaced last (List.mem_append_right _ List.mem_cons_self)
    have hstop : lastStop (init ++ [last]) = last.stop := by rw [lastStop, List.getLast?_concat]; rfl
    rw [hstop]
    rcases List.mem_append.mp hc with hc | hc
    · have hbefore : c.stop ≤ last.start := (List.pairwise_append.mp h).2.2 c hc last List.mem_cons_self
      exact Seconds.le_trans hbefore hlast.forward
    · rw [List.mem_singleton.mp hc]
      exact Seconds.le_refl (Seconds.isNaN_of_isFinite hlast.stop)

theorem Apart.append {name : String} {source : Option MediaRef} (h : lane.Apart) (hplaced : lane.Placed)
    (happend : lane.append fresh name source = .ok next) : next.Apart := by
  unfold Lane.append Clip.create at happend
  split at happend
  · cases happend
    refine List.pairwise_append.mpr ⟨h, List.pairwise_singleton _ _, fun c hc d hd => ?_⟩
    rw [List.mem_singleton.mp hd]
    exact h.stop_le_lastStop hplaced hc
  · cases happend

/-! ### Rows of edits -/

/-- An edit of a lane; what it adds takes the fresh identifier. --/
inductive Edit where
  | cut (id fresh : Identifier) (t : Seconds)
  | trim (id : Identifier) (step : Seconds)
  | delete (id : Identifier)
  | append (fresh : Identifier) (name : String) (source : Option MediaRef)

def edit (lane : Lane) : Edit → Except TimelineError Lane
  | .cut id fresh t => lane.cut id fresh t
  | .trim id step => lane.trim id step
  | .delete id => lane.delete id
  | .append fresh name source => lane.append fresh name source

/-- The lane after an edit, as it was where the edit is refused. --/
def edited (lane : Lane) (e : Edit) : Lane :=
  match lane.edit e with
  | .ok next => next
  | .error _ => lane

/-- The lane after a row of edits. --/
def follow (lane : Lane) (edits : List Edit) : Lane := edits.foldl edited lane

theorem edit_apart {e : Edit} (hplaced : lane.Placed) (hapart : lane.Apart) (h : lane.edit e = .ok next) :
    next.Placed ∧ next.Apart := by
  cases e with
  | cut id fresh t => exact ⟨hplaced.cut h, hapart.cut hplaced h⟩
  | trim id step => exact ⟨hplaced.trim h, hapart.trim hplaced h⟩
  | delete id => exact ⟨hplaced.delete h, hapart.delete h⟩
  | append fresh name source => exact ⟨hplaced.append h, hapart.append hplaced h⟩

theorem follow_apart (edits : List Edit) (hplaced : lane.Placed) (hapart : lane.Apart) :
    (lane.follow edits).Placed ∧ (lane.follow edits).Apart := by
  induction edits generalizing lane with
  | nil => exact ⟨hplaced, hapart⟩
  | cons e rest ih =>
    suffices hstep : (lane.edited e).Placed ∧ (lane.edited e).Apart from ih hstep.1 hstep.2
    unfold edited
    cases h : lane.edit e with
    | error => exact ⟨hplaced, hapart⟩
    | ok next => exact edit_apart hplaced hapart h

/-- A lane of placed clips in time order stays one, whatever edits are made or refused: every clip keeps a finite span
    that is not turned round, each ends before the next one starts, and no time is covered by two clips. --/
theorem follow_ordered (edits : List Edit) (hplaced : lane.Placed) (hordered : lane.Ordered) :
    (lane.follow edits).Placed ∧ (lane.follow edits).Ordered ∧
      ∀ t, (lane.follow edits).countP (·.covers t) ≤ 1 := by
  obtain ⟨hplaced, hapart⟩ := follow_apart edits hplaced (hordered.apart hplaced)
  exact ⟨hplaced, hapart.ordered, hapart.countP_le_one⟩

/-- Two clips that touch. --/
def touching : Lane := [⟨.made 1, "a.mp4", 0.0, 10.0, none⟩, ⟨.made 2, "b.mp4", 10.0, 20.0, none⟩]

/-- The first one is cut and its first part trimmed, the second one makes room for other media, and a clip that is not
    there is cut. --/
def reworked : List Edit :=
  [.cut (.made 1) (.made 3) 4.0, .trim (.made 1) trimStep, .delete (.made 2), .append (.made 4) "c.mp4" none,
    .cut (.made 2) (.made 5) 15.0]

theorem follow_ordered_of_touching :
    touching.Placed ∧ touching.Ordered ∧ (touching.follow reworked).map Clip.stop = [3.0, 10.0, 20.0] ∧
      (touching.follow reworked).Ordered ∧ ∀ t, (touching.follow reworked).countP (·.covers t) ≤ 1 := by
  have hplaced : touching.Placed := by
    intro c hc
    simp only [touching, List.mem_cons, List.not_mem_nil, or_false] at hc
    rcases hc with rfl | rfl <;> exact Clip.placed_of_isSpan (by decide)
  have hordered : touching.Ordered := by decide
  obtain ⟨-, hrow, honce⟩ := follow_ordered reworked hplaced hordered
  exact ⟨hplaced, hordered, by decide +kernel, hrow, honce⟩

end Lane
end Cutroom
