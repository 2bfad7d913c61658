import Cutroom.Proofs.Timeline.Stored

/-! The undo history is a zipper (`History.run_zipper`): the states before the present one, the present one, and the
    states behind it. What is a place in a row for the history is a past for the zipper, so that an undo only moves the
    present state into the future, and a redo moves it back. -/

namespace Cutroom

/-- A present state between the past and the future, each with its nearest state first. --/
structure Zipper (α : Type) where
  past : List α
  present : α
  future : List α

/-- What a history can be asked to do. --/
inductive HistoryOp (α : Type) where
  | push (s : α)
  | undo
  | redo
  | clear (s : α)
  | amend (f : α → α)

namespace Zipper

variable {α : Type}

def single (s : α) : Zipper α := ⟨[], s, []⟩

def push (z : Zipper α) (s : α) : Zipper α := ⟨z.present :: z.past, s, []⟩

def undo? (z : Zipper α) : Option (Zipper α) :=
  match z.past with
  | [] => none
  | s :: past => some ⟨past, s, z.present :: z.future⟩

def redo? (z : Zipper α) : Option (Zipper α) :=
  match z.future with
  | [] => none
  | s :: future => some ⟨z.present :: z.past, s, future⟩

def amend (z : Zipper α) (f : α → α) : Zipper α := ⟨z.past.map f, f z.present, z.future.map f⟩

/-- The zipper after an operation, and the state that an undo or a redo shows. --/
def step (z : Zipper α) : HistoryOp α → Option α × Zipper α
  | .push s => (none, z.push s)
  | .undo => (z.undo?.map present, z.undo?.getD z)
  | .redo => (z.redo?.map present, z.redo?.getD z)
  | .clear s => (none, single s)
  | .amend f => (none, z.amend f)

/-- The answers to a row of operations, and the zipper after it. --/
def run (z : Zipper α) : List (HistoryOp α) → List (Option α) × Zipper α
  | [] => ([], z)
  | op :: ops => ((z.step op).1 :: ((z.step op).2.run ops).1, ((z.step op).2.run ops).2)

/-- All states in their order. --/
def states (z : Zipper α) : List α := z.past.reverse ++ z.present :: z.future

/-- The row of states with the place of the present one. --/
def history (z : Zipper α) : History α where
  states := z.states
  index := z.past.length
  shows := by
    simp only [states, List.length_append, List.length_reverse, List.length_cons]
    omega

end Zipper

namespace History

variable {α : Type}

/-- The history after an operation, and the state that an undo or a redo shows. --/
def step (h : History α) : HistoryOp α → Option α × History α
  | .push s => (none, h.push s)
  | .undo => (h.undo?.map current, h.undo?.getD h)
  | .redo => (h.redo?.map current, h.redo?.getD h)
  | .clear s => (none, h.clear s)
  | .amend f => (none, h.amend f)

/-- The answers to a row of operations, and the history after it. --/
def run (h : History α) : List (HistoryOp α) → List (Option α) × History α
  | [] => ([], h)
  | op :: ops => ((h.step op).1 :: ((h.step op).2.run ops).1, ((h.step op).2.run ops).2)

theorem eq_of_states {h h' : History α} (hs : h.states = h'.states) (hi : h.index = h'.index) : h = h' := by
  cases h
  cases h'
  cases hs
  cases hi
  rfl

theorem run_append (h : History α) (before after : List (HistoryOp α)) :
    (h.run (before ++ after)).2 = ((h.run before).2.run after).2 := by
  induction before generalizing h with
  | nil => rfl
  | cons op before ih => exact ih (h.step op).2

end History

namespace Zipper

variable {α : Type} (z : Zipper α)

/-! ### One operation -/

theorem history_current : z.history.current = z.present := by
  simp [History.current, history, states]

theorem history_canUndo : z.history.canUndo = true ↔ z.past ≠ [] := by
  simp [History.canUndo, history, List.length_pos_iff]

theorem history_canRedo : z.history.canRedo = true ↔ z.future ≠ [] := by
  simp only [History.canRedo, history, states, List.length_append, List.length_reverse, List.length_cons,
    decide_eq_true_iff, ← List.length_pos_iff]
  omega

theorem history_push (s : α) : z.history.push s = (z.push s).history := by
  refine History.eq_of_states ?_ rfl
  have hkept : z.states.take (z.past.length + 1) = z.past.reverse ++ [z.present] := by
    rw [states, ← List.length_reverse, List.take_length_add_append, List.take_succ_cons, List.take_zero]
  show z.states.take (z.past.length + 1) ++ [s] = (z.present :: z.past).reverse ++ [s]
  rw [hkept, List.reverse_cons]

theorem history_undo? : z.history.undo? = z.undo?.map history := by
  obtain ⟨past, present, future⟩ := z
  cases past with
  | nil => rfl
  | cons s past =>
    have hpast : 0 < (history ⟨s :: past, present, future⟩).index := Nat.succ_pos _
    simp only [History.undo?, if_pos hpast, undo?, Option.map_some, Option.some.injEq]
    refine History.eq_of_states ?_ rfl
    simp [history, states]

theorem history_redo? : z.history.redo? = z.redo?.map history := by
  obtain ⟨past, present, future⟩ := z
  cases future with
  | nil =>
    have hlast : ¬ (history ⟨past, present, []⟩).index + 1 < (history ⟨past, present, []⟩).states.length := by
      simp [history, states]
    simp only [History.redo?, dif_neg hlast, redo?, Option.map_none]
  | cons s future =>
    have hnext : (history ⟨past, present, s :: future⟩).index + 1 <
        (history ⟨past, present, s :: future⟩).states.length := by
      simp [history, states]
    simp only [History.redo?, dif_pos hnext, redo?, Option.map_some, Option.some.injEq]
    refine History.eq_of_states ?_ rfl
    simp [history, states]

theorem history_amend (f : α → α) : z.history.amend f = (z.amend f).history := by
  refine History.eq_of_states ?_ ?_
  · simp [history, states, History.amend, amend]
  · simp [history, History.amend, amend]

/-- Both answer an operation alike, and stay alike. --/
theorem history_step (op : HistoryOp α) :
    z.history.step op = ((z.step op).1, (z.step op).2.history) := by
  cases op with
  | push s => simp only [History.step, step, history_push]
  | undo =>
    simp only [History.step, step, history_undo?]
    cases z.undo? with
    | none => rfl
    | some next => simp [history_current]
  | redo =>
    simp only [History.step, step, history_redo?]
    cases z.redo? with
    | none => rfl
    | some next => simp [history_current]
  | clear s => rfl
  | amend f => simp only [History.step, step, history_amend]

/-! ### A row of operations -/

theorem history_run (ops : List (HistoryOp α)) :
    z.history.run ops = ((z.run ops).1, (z.run ops).2.history) := by
  induction ops generalizing z with
  | nil => rfl
  | cons op ops ih => simp only [History.run, run, history_step, ih]

theorem undo_redo {z : Zipper α} (h : z.past ≠ []) : ((z.step .undo).2.step .redo).2 = z := by
  obtain ⟨past, present, future⟩ := z
  cases past with
  | nil => exact absurd rfl h
  | cons s past => rfl

theorem undo_past {z : Zipper α} (h : (z.step .undo).1.isSome = true) : z.past ≠ [] := by
  intro hnil
  simp [step, undo?, hnil] at h

end Zipper

namespace History

variable {α : Type}

/-- As many redos as there were undos that showed a state lead back. --/
theorem run_back (n : Nat) (z : Zipper α)
    (h : ∀ shown ∈ (z.history.run (List.replicate n .undo)).1, shown.isSome = true) :
    (z.history.run (List.replicate n .undo ++ List.replicate n .redo)).2 = z.history := by
  induction n generalizing z with
  | zero => rfl
  | succ n ih =>
    have hsteps : List.replicate (n + 1) HistoryOp.undo ++ List.replicate (n + 1) (HistoryOp.redo (α := α)) =
        .undo :: ((List.replicate n .undo ++ List.replicate n .redo) ++ [.redo]) := by
      rw [List.replicate_succ, List.replicate_succ', List.cons_append, ← List.append_assoc]
    simp only [List.replicate_succ, run, z.history_step, List.forall_mem_cons] at h
    rw [hsteps, run, z.history_step]
    simp only
    rw [run_append, ih _ h.2]
    show ((z.step .undo).2.history.step .redo).2 = z.history
    rw [Zipper.history_step, Zipper.undo_redo (Zipper.undo_past h.1)]

/-- Whatever is done to a history, it is the zipper to which the same was done: they have answered alike, the states are
    those of the zipper in their order, and the place is that of the present one. What was undone can be redone step for
    step, and nothing can be redone once a state was stored. --/
theorem run_zipper (initial : α) (ops : List (HistoryOp α)) (z : Zipper α)
    (hz : z = ((Zipper.single initial).run ops).2) (h : History α) (hh : h = ((single initial).run ops).2) :
    ((single initial).run ops).1 = ((Zipper.single initial).run ops).1 ∧
      h.states = z.past.reverse ++ z.present :: z.future ∧ h.index = z.past.length ∧ h.index < h.size ∧
      h.current = z.present ∧ (h.canUndo = true ↔ z.past ≠ []) ∧ (h.canRedo = true ↔ z.future ≠ []) ∧
      (∀ n, (∀ shown ∈ (h.run (List.replicate n .undo)).1, shown.isSome = true) →
        (h.run (List.replicate n .undo ++ List.replicate n .redo)).2 = h) ∧
      ∀ s, (h.push s).redo? = none := by
  have hrun : (single initial).run ops = (((Zipper.single initial).run ops).1, z.history) := by
    rw [hz]
    exact (Zipper.single initial).history_run ops
  have hsame : h = z.history := by rw [hh, hrun]
  refine ⟨by rw [hrun], ?_⟩
  rw [hsame]
  refine ⟨rfl, rfl, z.history.shows, z.history_current, z.history_canUndo, z.history_canRedo,
    fun n => run_back n z, fun s => ?_⟩
  rw [z.history_push, Zipper.history_redo?]
  rfl

/-- A history of three numbers that shows the second one. --/
def middle : History Nat := ((single 0).run [.push 1, .push 5, .undo, .amend (2 * ·)]).2

/-- One state is in its past, and one in its future. --/
theorem run_zipper_of_middle :
    middle.states = [0, 2, 10] ∧ middle.index = 1 ∧ middle.canUndo = true ∧ middle.canRedo = true ∧
      (middle.run [.undo, .redo]).2 = middle ∧ (middle.push 3).redo? = none := by
  have hz : (⟨[0], 2, [10]⟩ : Zipper Nat) =
      ((Zipper.single 0).run [.push 1, .push 5, .undo, .amend (2 * ·)]).2 := rfl
  obtain ⟨-, hstates, hindex, -, -, hundo, hredo, hback, hpush⟩ := run_zipper 0 _ _ hz middle rfl
  exact ⟨hstates, hindex, hundo.mpr (List.cons_ne_nil _ _), hredo.mpr (List.cons_ne_nil _ _), hback 1 (by decide),
    hpush 3⟩

end History
end Cutroom
