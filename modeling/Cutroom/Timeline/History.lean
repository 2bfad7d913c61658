import Cutroom.Timeline.Lane

/-! The undo history: a row of states, one of which is shown. Storing a new state drops the states behind
    the shown one, so that what was undone cannot be redone any more. -/

namespace Cutroom

structure History (α : Type) where
  states : List α
  index : Nat
  shows : index < states.length

namespace History

variable {α : Type}

/-- A history of a single state. --/
def single (s : α) : History α := ⟨[s], 0, by simp⟩

/-- The state that is shown. --/
def current (h : History α) : α := h.states.get ⟨h.index, h.shows⟩

def size (h : History α) : Nat := h.states.length

/-- Stores a state behind the shown one and shows it. --/
def push (h : History α) (s : α) : History α where
  states := h.states.take (h.index + 1) ++ [s]
  index := h.index + 1
  shows := by
    have := h.shows
    simp only [List.length_append, List.length_take, List.length_cons, List.length_nil]
    omega

def canUndo (h : History α) : Bool := 0 < h.index

def canRedo (h : History α) : Bool := h.index + 1 < h.states.length

/-- Shows the state before, if there is one. --/
def undo? (h : History α) : Option (History α) :=
  if 0 < h.index then some { h with index := h.index - 1, shows := by have := h.shows; omega } else none

/-- Shows the next state again, if there is one. --/
def redo? (h : History α) : Option (History α) :=
  if next : h.index + 1 < h.states.length then some { h with index := h.index + 1, shows := next } else none

/-- Starts anew with a single state. --/
def clear (_ : History α) (s : α) : History α := single s

/-- Rewrites every state in place. --/
def amend (h : History α) (f : α → α) : History α where
  states := h.states.map f
  index := h.index
  shows := by simpa using h.shows

end History

/-- Both lanes at one point of the edit history. --/
structure Snapshot where
  clips : Lane
  audio : Lane
deriving BEq

namespace Snapshot

def empty : Snapshot := ⟨[], []⟩

def stretch (s : Snapshot) (duration : Seconds) : Snapshot := { s with clips := s.clips.stretch duration }

end Snapshot
end Cutroom
