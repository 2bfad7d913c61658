import Cutroom.Timeline.Gesture

/-! Nothing disturbs a drag. Whatever playback reports and wherever the track is clicked while the pointer drags, and
    however the pointer moves while it does not, the playhead goes the same way and asks for the same seeks as if
    that had not happened (`Playhead.follow_heeded`). -/

namespace Cutroom
namespace Playhead

/-- What is done to a playhead: a gesture, or it is told the length of the project. --/
inductive Operation where
  | gesture (g : Gesture)
  | setDuration (duration : Seconds)

/-- The playhead after an operation, none where the operation is refused. --/
def perform? (p : Playhead) : Operation → Option Playhead
  | .gesture g => p.gesture? g
  | .setDuration duration => some (p.setDuration duration)

/-- The playhead after an operation, as it was where the operation is refused. --/
def perform (p : Playhead) : Operation → Playhead
  | .gesture g => p.after g
  | .setDuration duration => p.setDuration duration

/-- The time that playback has to seek to after an operation. --/
def sought? (p : Playhead) : Operation → Option Seconds
  | .gesture g => p.seekTime? g
  | .setDuration _ => none

/-- The playhead after a row of operations. --/
def follow (p : Playhead) (operations : List Operation) : Playhead := operations.foldl perform p

/-- The times that playback has to seek to along a row of operations. --/
def seeks (p : Playhead) : List Operation → List Seconds
  | [] => []
  | op :: rest => (p.sought? op).toList ++ (p.perform op).seeks rest

/-- While the pointer drags, the times that playback reports, clicks on the track and further presses are dropped; while
    it does not, its moves are. --/
def drops (p : Playhead) : Operation → Bool
  | .gesture (.tick _ _) | .gesture (.clickTrack _ _) | .gesture .press => p.isDragging
  | .gesture (.move _ _) => !p.isDragging
  | .gesture .release | .gesture (.clickRuler _ _) | .gesture (.seek _) | .setDuration _ => false

/-- What is left of a row of operations without those that are dropped where they occur. --/
def heeded (p : Playhead) : List Operation → List Operation
  | [] => []
  | op :: rest => if p.drops op then (p.perform op).heeded rest else op :: (p.perform op).heeded rest

/-- Playback stands still, or what it reports is no time. --/
def Operation.reportsNothing : Operation → Bool
  | .gesture (.tick t playing) => !playing || !t.isFinite
  | _ => false

variable {p : Playhead} {op : Operation}

/-! ### One operation -/

theorem perform?_eq_none_iff : p.perform? op = none ↔ p.drops op = true ∨ op.reportsNothing = true := by
  cases op with
  | setDuration duration => exact ⟨nofun, nofun⟩
  | gesture g =>
    cases g with
    | release | clickRuler | seek => exact ⟨nofun, nofun⟩
    | press | move | clickTrack =>
      cases hdrag : p.isDragging <;>
        simp [perform?, gesture?, beginDrag?, dragTo?, clickTrack?, drops, Operation.reportsNothing, hdrag]
    | tick t playing =>
      simp only [perform?, gesture?, tick?, drops, Operation.reportsNothing]
      cases p.isDragging <;> cases playing <;> cases t.isFinite <;> simp

theorem perform_of_refused (h : p.perform? op = none) : p.perform op = p := by
  cases op with
  | setDuration => cases h
  | gesture g =>
    replace h : p.gesture? g = none := h
    rw [perform, after, h]
    rfl

theorem sought?_of_refused (h : p.perform? op = none) : p.sought? op = none := by
  cases op with
  | setDuration => rfl
  | gesture g =>
    replace h : p.gesture? g = none := h
    rw [sought?, seekTime?, h]
    exact ite_self _

/-- Playback seeks to where the playhead stands then. --/
theorem time_of_sought {t : Seconds} (h : p.sought? op = some t) : (p.perform op).time = t := by
  cases op with
  | setDuration => cases h
  | gesture g =>
    replace h : p.seekTime? g = some t := h
    unfold seekTime? at h
    split at h
    · obtain ⟨q, hq, rfl⟩ := Option.map_eq_some_iff.mp h
      rw [perform, after, hq]
      rfl
    · cases h

theorem perform_drag (hpress : op ≠ .gesture .press) (hrelease : op ≠ .gesture .release) :
    (p.perform op).drag = p.drag := by
  cases op with
  | setDuration => rfl
  | gesture g =>
    cases g with
    | press => exact absurd rfl hpress
    | release => exact absurd rfl hrelease
    | clickRuler | seek => rfl
    | move | clickTrack =>
      cases hdrag : p.isDragging <;> simp [perform, after, gesture?, dragTo?, clickTrack?, moveTo, hdrag]
    | tick t playing =>
      simp only [perform, after, gesture?, tick?]
      split <;> rfl

/-! ### Rows of operations -/

theorem follow_heeded_eq (operations : List Operation) : p.follow (p.heeded operations) = p.follow operations ∧
    p.seeks (p.heeded operations) = p.seeks operations := by
  induction operations generalizing p with
  | nil => exact ⟨rfl, rfl⟩
  | cons op rest ih =>
    obtain ⟨hfollow, hseeks⟩ := ih (p := p.perform op)
    cases hdrops : p.drops op with
    | true =>
      -- What is dropped leaves the playhead where it is, so that both rows go on from there.
      have hrefused := perform?_eq_none_iff.mpr (.inl hdrops)
      have hstays : p.perform op = p := perform_of_refused hrefused
      have hheeded : p.heeded (op :: rest) = p.heeded rest := by rw [heeded, if_pos hdrops, hstays]
      rw [hstays] at hfollow hseeks
      have hrow : p.follow (op :: rest) = p.follow rest := congrArg (follow · rest) hstays
      have hsought : p.seeks (op :: rest) = p.seeks rest := by
        rw [seeks, sought?_of_refused hrefused, hstays]
        rfl
      rw [hheeded, hrow, hsought]
      exact ⟨hfollow, hseeks⟩
    | false =>
      have hheeded : p.heeded (op :: rest) = op :: (p.perform op).heeded rest := by
        rw [heeded, hdrops, if_neg Bool.false_ne_true]
      rw [hheeded]
      exact ⟨hfollow, congrArg ((p.sought? op).toList ++ ·) hseeks⟩

/-- Without the operations that are dropped where they occur, a row leads to the same playhead and asks for the same
    seeks. Each seek goes to where the playhead stands then. What is refused, be it dropped or a report of playback that
    says nothing, leaves the playhead as it is, and only a press and a release begin and end a drag. --/
theorem follow_heeded (p : Playhead) :
    (∀ operations, p.follow (p.heeded operations) = p.follow operations ∧
        p.seeks (p.heeded operations) = p.seeks operations) ∧
      (∀ op t, p.sought? op = some t → (p.perform op).time = t) ∧
      (∀ op, p.perform? op = none ↔ p.drops op = true ∨ op.reportsNothing = true) ∧
      (∀ op, p.perform? op = none → p.perform op = p ∧ p.sought? op = none) ∧
      ∀ op, op ≠ .gesture .press → op ≠ .gesture .release → (p.perform op).drag = p.drag :=
  ⟨follow_heeded_eq, fun _ _ => time_of_sought, fun _ => perform?_eq_none_iff,
    fun _ h => ⟨perform_of_refused h, sought?_of_refused h⟩, fun _ => perform_drag⟩

/-- A drag with a report of playback, a click on the track and a second press in it. --/
example :
    let track : Track := ⟨0.0, 100.0, 0.0⟩
    let drag : List Operation :=
      [.gesture .press, .gesture (.move 40.0 track), .gesture (.tick 3.0 true), .gesture (.clickTrack 80.0 track),
        .gesture .press, .gesture (.move 60.0 track), .gesture .release]
    ((start 50.0).heeded drag).length = 4 ∧ (start 50.0).seeks drag = [20.0, 30.0] := by
  decide +kernel

end Playhead
end Cutroom
