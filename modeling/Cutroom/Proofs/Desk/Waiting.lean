import Cutroom.Proofs.Desk.Handled

/-! Waiting for the end of an edit. `Editor.Waits` is the loop that takes events up to the first final one, with
    no bound on their number; it always comes to its end, and `Editor.wait` tells which (`wait_waits`). Where a
    final event is in store, the loop ends with it, after the readings before it (`Waits.ends`). -/

namespace Cutroom
namespace Editor

variable {σ : Type} [JobService σ]

/-! ### The next event -/

theorem next_of_nil {e : Editor σ} (h : e.watch.outlook.1 = []) : e.next = (none, e) := by
  obtain ⟨hp, hu⟩ := Watch.outlook_eq_nil.mp h
  have hto : e.watch.advanceToTurn = e.watch := by simp only [Watch.advanceToTurn, hp]
  simp only [next, hu, List.isEmpty_nil, if_true, hto, takeUnread]

theorem next_of_cons {e : Editor σ} {event : JobEvent} {rest : List JobEvent} (hl : e.watch.listening = true)
    (h : e.watch.outlook.1 = event :: rest) :
    ∃ v, e.watch.Gives [event] v ∧ e.next = (some event, handle { e with watch := v } event) := by
  -- Either an event is unread, or the poll gets its turn first.
  suffices key : ∀ w : Watch σ, e.watch.Gives [] w → w.unread ≠ [] →
      takeUnread { e with watch := w } = e.next →
      ∃ v, e.watch.Gives [event] v ∧ e.next = (some event, handle { e with watch := v } event) by
    cases hu : e.watch.unread with
    | nil =>
      cases hp : e.watch.poll with
      | none =>
        rw [Watch.outlook_eq_nil.mpr ⟨hp, hu⟩] at h
        cases h
      | some p =>
        exact key e.watch.advanceToTurn (Watch.advanceToTurn_gives _ hl) (Watch.advanceToTurn_unread hl hp)
          (by simp only [next, hu, List.isEmpty_nil, if_true])
    | cons first later =>
      exact key e.watch (.refl hl) (by simp [hu]) (by simp only [next, hu, List.isEmpty_cons, Bool.false_eq_true, if_false])
  intro w hw hne hnext
  obtain ⟨first, later, hu⟩ := List.exists_cons_of_ne_nil hne
  have htake := hw.trans (Watch.take_gives hw.listening hu)
  have hfirst : first = event := by
    have ho := congrArg Prod.fst htake.outlook
    rw [h] at ho
    exact (List.cons.inj ho).1.symm
  subst hfirst
  refine ⟨_, htake, ?_⟩
  rw [← hnext]
  simp only [takeUnread, hu]

theorem next_gives {e : Editor σ} (hl : e.watch.listening = true) : e.watch.Gives e.next.1.toList e.next.2.watch := by
  cases ho : e.watch.outlook.1 with
  | nil =>
    rw [next_of_nil ho]
    exact .refl hl
  | cons event rest =>
    obtain ⟨v, hv, hn⟩ := next_of_cons hl ho
    rw [hn]
    exact hv.trans (handle_gives { e with watch := v } event hv.listening)

/-! ### The loop -/

/-- The loop that takes events up to the first final one takes these events and leaves this editor. --/
inductive Waits : Editor σ → List JobEvent → Editor σ → Prop where
  | quiet {e e' : Editor σ} : e.next = (none, e') → Waits e [] e'
  | final {e e' : Editor σ} {event : JobEvent} : e.next = (some event, e') → event.isFinal = true →
      Waits e [event] e'
  | reading {e e' e'' : Editor σ} {event : JobEvent} {events : List JobEvent} : e.next = (some event, e') →
      event.isFinal = false → Waits e' events e'' → Waits e (event :: events) e''

theorem waitFuel_waits (fuel : Nat) (e : Editor σ) (hl : e.watch.listening = true)
    (h : e.watch.outlook.1.length < fuel) : Waits e (e.waitFuel fuel).1 (e.waitFuel fuel).2 := by
  -- Each round takes an event that was in store, so that the loop ends when none is left.
  induction fuel generalizing e with
  | zero => omega
  | succ fuel ih =>
    cases ho : e.watch.outlook.1 with
    | nil =>
      have hn := next_of_nil ho
      simp only [waitFuel, hn]
      exact .quiet hn
    | cons event rest =>
      obtain ⟨v, hv, hn⟩ := next_of_cons hl ho
      cases hf : event.isFinal with
      | true =>
        simp only [waitFuel, hn, hf, if_true]
        exact .final hn hf
      | false =>
        simp only [waitFuel, hn, hf, Bool.false_eq_true, if_false]
        refine .reading hn hf (ih _ ?_ ?_)
        · rw [handle_reading _ hf]
          exact hv.listening
        · have hlen := congrArg (fun o => o.1.length) hv.outlook
          rw [handle_reading _ hf]
          simp only [List.length_append, List.length_singleton] at hlen
          show v.outlook.1.length < fuel
          omega

theorem wait_waits (e : Editor σ) (hl : e.watch.listening = true) : Waits e e.wait.1 e.wait.2 := by
  have hlen := e.watch.outlook_length_le
  refine waitFuel_waits _ e hl ?_
  unfold eventsLeft
  omega

theorem Waits.gives {e e' : Editor σ} {events : List JobEvent} (h : Waits e events e')
    (hl : e.watch.listening = true) : e.watch.Gives events e'.watch := by
  induction h with
  | quiet hn =>
    have hgives := next_gives hl
    rw [hn] at hgives
    exact hgives
  | final hn _ =>
    have hgives := next_gives hl
    rw [hn] at hgives
    exact hgives
  | reading hn _ _ ih =>
    have hgives := next_gives hl
    rw [hn] at hgives
    exact hgives.trans (ih hgives.listening)

/-- The loop ends with the first final event that is in store. --/
theorem Waits.ends {e e' : Editor σ} {events seen rest : List JobEvent} {last : JobEvent} (h : Waits e events e')
    (hl : e.watch.listening = true) (ho : e.watch.outlook.1 = seen ++ last :: rest)
    (hseen : ∀ event ∈ seen, event.isFinal = false) (hlast : last.isFinal = true) :
    events = seen ++ [last] ∧ ∃ v, e.watch.Gives (seen ++ [last]) v ∧
      e' = handle { e with watch := v, session := e.session.learn seen } last := by
  induction h generalizing seen with
  | @quiet e e' hn =>
    obtain ⟨event, later, hcons⟩ : ∃ event later, e.watch.outlook.1 = event :: later := by
      rw [ho]
      cases seen <;> exact ⟨_, _, rfl⟩
    obtain ⟨v, -, hn'⟩ := next_of_cons hl hcons
    rw [hn'] at hn
    cases hn
  | @final e e' event hn hf =>
    cases seen with
    | nil =>
      obtain ⟨v, hv, hn'⟩ := next_of_cons hl ho
      rw [hn'] at hn
      cases hn
      exact ⟨rfl, v, hv, rfl⟩
    | cons first seen =>
      obtain ⟨v, -, hn'⟩ := next_of_cons hl ho
      rw [hn'] at hn
      cases hn
      rw [hseen _ List.mem_cons_self] at hf
      cases hf
  | @reading e e' e'' event events hn hf _ ih =>
    cases seen with
    | nil =>
      obtain ⟨v, -, hn'⟩ := next_of_cons hl ho
      rw [hn'] at hn
      cases hn
      rw [hlast] at hf
      cases hf
    | cons first seen =>
      obtain ⟨v, hv, hn'⟩ := next_of_cons hl ho
      rw [hn', handle_reading _ (hseen _ List.mem_cons_self)] at hn
      cases hn
      have hrest : v.outlook.1 = seen ++ last :: rest := by
        have := congrArg Prod.fst hv.outlook
        rw [ho] at this
        exact (List.cons.inj this).2.symm
      obtain ⟨rfl, u, hu, rfl⟩ := ih hv.listening hrest fun event he => hseen event (List.mem_cons_of_mem _ he)
      exact ⟨rfl, u, hv.trans hu, rfl⟩

/-- An editor that has taken all readings and is about to take the final event, with nothing left in store
    behind it. --/
structure Closing (e e' : Editor σ) : Prop where
  poll : e'.watch.poll = none
  service : e'.watch.service = e.watch.outlook.2
  session : Session.Undisturbed e.session e'.session
  disk : e'.disk = e.disk

theorem Waits.ends_store {e e' : Editor σ} {events seen : List JobEvent} {last : JobEvent} (h : Waits e events e')
    (hl : e.watch.listening = true) (ho : e.watch.outlook.1 = seen ++ [last])
    (hseen : ∀ event ∈ seen, event.isFinal = false) (hlast : last.isFinal = true) :
    events = seen ++ [last] ∧ ∃ f, Closing e f ∧ e' = f.handle last := by
  obtain ⟨hevents, v, hv, hend⟩ := h.ends hl ho hseen hlast
  have hrest : seen ++ [last] = seen ++ [last] ++ v.outlook.1 := ho.symm.trans (congrArg Prod.fst hv.outlook)
  rw [List.self_eq_append_right] at hrest
  have hpoll := (Watch.outlook_eq_nil.mp hrest).1
  have hservice : v.service = e.watch.outlook.2 := by
    rw [hv.outlook]
    simp only [Watch.outlook, hpoll, Poll.rest]
  refine ⟨hevents, _, ?_, hend⟩
  exact ⟨hpoll, hservice, Session.learn_undisturbed _ hseen, rfl⟩

theorem Closing.closed {e f : Editor σ} {last : JobEvent} (h : Closing e f) (hlast : last.isFinal = true)
    (hc : e.session.isCurrent last.job = true) :
    Session.Closed f.session (f.handle last).session ∧ (f.handle last).isPolling = false := by
  rw [← Session.isCurrent_congr h.session.job] at hc
  refine ⟨handle_closed f hlast hc, ?_⟩
  simp only [isPolling, Watch.isActive, handle_watch_of_idle h.poll, h.poll, Option.isSome_none]

end Editor
end Cutroom
