import Cutroom.Proofs.Json.Fitting
import Cutroom.Proofs.Json.Numbers

/-! Encodings that keep what was decoded (`Json.Keeps`): whatever a decoder accepts, it accepts the encoding of the
    result too, and with the same result. This passes from values to lists, to what may be left out, and from the fields of a
    record to the record (`Keeps.record`). -/

namespace Cutroom
namespace Json

variable {α β : Type} {encode : α → Json} {decode : Json → Option α}

/-- What was decoded is decoded to the same after it has been encoded. --/
def Keeps (encode : α → Json) (decode : Json → Option α) : Prop :=
  ∀ ⦃v a⦄, v.Fits → decode v = some a → decode (encode a) = some a

/-! ### Values without fields -/

theorem string?_keeps : Keeps .string string? := fun _ _ _ _ => rfl

theorem float?_keeps : Keeps .ofFloat float? := by
  intro v x hv h
  have hx : x.isFinite = true := by
    unfold float? at h
    split at h
    · cases h
      cases hv with
      | integer hlow hhigh => exact Seconds.isFinite_ofInt hlow hhigh
    · split at h <;> cases h
      assumption
    · cases h
  simp only [ofFloat, hx, if_true, float?]

theorem integer?_keeps (low high : Int) : Keeps .integer (integer? low high) := by
  intro v n _ h
  unfold integer? at h
  split at h
  · split at h <;> cases h
    rename_i hbounds
    exact if_pos hbounds
  · cases h

theorem word32?_integer (n : UInt32) : word32? (.integer n.toNat) = some n := by
  have hn : (0 : Int) ≤ n.toNat ∧ (n.toNat : Int) ≤ 4294967295 := by
    have := n.toNat_lt
    omega
  simp only [word32?, integer?, hn, and_self, if_true, Option.map_some, Int.toNat_natCast, UInt32.ofNat_toNat]

theorem word64?_integer (n : UInt64) : word64? (.integer n.toNat) = some n := by
  have hn : (0 : Int) ≤ n.toNat ∧ (n.toNat : Int) ≤ 18446744073709551615 := by
    have := n.toNat_lt
    omega
  simp only [word64?, integer?, hn, and_self, if_true, Option.map_some, Int.toNat_natCast, UInt64.ofNat_toNat]

theorem word32?_keeps : Keeps (fun n : UInt32 => .integer n.toNat) word32? := fun _ n _ _ => word32?_integer n

theorem word64?_keeps : Keeps (fun n : UInt64 => .integer n.toNat) word64? := fun _ n _ _ => word64?_integer n

/-- One of several names is written as the name that stands for it. --/
theorem choice?_keeps {names : List (String × α)} {text : α → String} (h : ∀ a, names.lookup (text a) = some a) :
    Keeps (fun a => .string (text a)) (choice? names) := fun _ a _ _ => h a

theorem Keeps.map {f : α → β} {g : β → α} (h : Keeps encode decode) (hg : ∀ a, g (f a) = a) :
    Keeps (fun b => encode (g b)) fun v => (decode v).map f := by
  intro v b hv hb
  obtain ⟨a, ha, rfl⟩ := Option.map_eq_some_iff.mp hb
  simp only [hg, h hv ha, Option.map_some]

theorem nullable_of_some {v : Json} {a : α} (hnull : decode .null = none) (h : decode v = some a) :
    nullable decode v = some (some a) := by
  unfold nullable
  split
  · rw [hnull] at h
    cases h
  · rw [h]
    rfl

theorem nullable_ofOption (hnull : decode .null = none) (h : ∀ a, decode (encode a) = some a) (o : Option α) :
    nullable decode (.ofOption encode o) = some o := by
  cases o with
  | none => rfl
  | some a => exact nullable_of_some hnull (h a)

theorem Keeps.nullable (h : Keeps encode decode) (hnull : decode .null = none) :
    Keeps (.ofOption encode) (nullable decode) := by
  intro v a hv hd
  unfold Json.nullable at hd
  split at hd
  · cases hd
    rfl
  · obtain ⟨a, ha, rfl⟩ := Option.map_eq_some_iff.mp hd
    exact nullable_of_some hnull (h hv ha)

theorem Keeps.list (h : Keeps encode decode) : Keeps (.ofList encode) (list? decode) := by
  intro v items hv hd
  unfold list? at hd
  split at hd
  · cases hv with
    | array hfits =>
      refine mapM_eq_some.mpr (List.forall₂_map_left_iff.mpr (List.forall₂_same.mpr fun a ha => ?_))
      obtain ⟨w, hw, hwa⟩ := exists_of_mem_mapM hd ha
      exact h (hfits w hw) hwa
  · cases hd

/-! ### Fields -/

def Slot.Fits : Slot → Prop
  | .given v => v.Fits
  | _ => True

/-- What was found in a slot is found again where its encoding is given. --/
def Slot.Keeps (encode : β → Json) (find : Slot → Option β) : Prop :=
  ∀ ⦃s b⦄, s.Fits → find s = some b → find (.given (encode b)) = some b

theorem Keeps.required (h : Keeps encode decode) : Slot.Keeps encode (Slot.required decode) := by
  intro s a hs hd
  cases s with
  | given v => exact h hs hd
  | absent | ended => cases hd

theorem Keeps.orElse (h : Keeps encode decode) {default : α} (hdefault : decode (encode default) = some default) :
    Slot.Keeps encode (Slot.orElse decode default) := by
  intro s a hs hd
  cases s with
  | given v => exact h hs hd
  | absent | ended =>
    cases hd
    exact hdefault

theorem optional_given (v : Json) : Slot.optional decode (.given v) = nullable decode v := by
  cases v <;> rfl

theorem Keeps.optional (h : Keeps encode decode) (hnull : decode .null = none) :
    Slot.Keeps (.ofOption encode) (Slot.optional decode) := by
  intro s a hs hd
  cases s with
  | given v =>
    rw [optional_given] at hd ⊢
    exact h.nullable hnull hs hd
  | absent =>
    cases hd
    rfl
  | ended => cases hd

theorem slot?_fits {names : List String} {members : List (String × Json)} {s : Slot}
    (hm : ∀ m ∈ members, m.2.Fits) (h : slot? names members = some s) : s.Fits := by
  unfold slot? at h
  split at h
  · cases h
    trivial
  · rename_i v hv
    cases h
    have hmem : v ∈ membersNamed names members := hv ▸ List.mem_singleton.mpr rfl
    obtain ⟨m, hfilter, rfl⟩ := List.mem_map.mp hmem
    exact hm m (List.mem_filter.mp hfilter).1
  · cases h

theorem mem_slots_fits {fields : List (List String)} {v : Json} {slots : List Slot} (hv : v.Fits)
    (h : v.slots? fields = some slots) : ∀ s ∈ slots, s.Fits := by
  intro s hs
  unfold slots? at h
  split at h
  · cases hv with
    | object hm =>
      obtain ⟨names, -, hslot⟩ := exists_of_mem_mapM h hs
      exact slot?_fits hm hslot
  · split at h
    · cases h
      cases hv with
      | array hitems =>
        rcases List.mem_append.mp hs with hs | hs
        · obtain ⟨w, hw, rfl⟩ := List.mem_map.mp hs
          exact hitems w hw
        · cases List.eq_of_mem_replicate hs
          trivial
    · cases h
  · cases h

theorem mem_sharedSlots_fits {room : Nat} {names : List String} {v : Json} {slots : List Slot} (hv : v.Fits)
    (h : v.sharedSlots? room names = some slots) : ∀ s ∈ slots, s.Fits := by
  unfold sharedSlots? at h
  split at h
  · split at h
    · exact mem_slots_fits hv h
    · cases h
  · cases h

theorem Slot.Keeps.mapM {encode : β → Json} {find : Slot → Option β} (h : Slot.Keeps encode find) {slots : List Slot}
    {found : List β} (hfits : ∀ s ∈ slots, s.Fits) (hfound : slots.mapM find = some found) :
    ((found.map encode).map Slot.given).mapM find = some found := by
  refine mapM_eq_some.mpr ?_
  rw [List.map_map, List.forall₂_map_left_iff, List.forall₂_same]
  intro b hb
  obtain ⟨s, hs, hsb⟩ := exists_of_mem_mapM hfound hb
  exact h (hfits s hs) hsb

/-- A record is kept where its fields are, each in the slot where it is found. --/
theorem Keeps.record {slots? : Json → Option (List Slot)} {read : List Slot → Option α} (values : α → List Json)
    (hslots : ∀ {v slots}, v.Fits → slots? v = some slots → ∀ s ∈ slots, s.Fits)
    (hdecode : ∀ v, decode v = (slots? v).bind read)
    (hencode : ∀ a, slots? (encode a) = some ((values a).map .given))
    (hread : ∀ slots a, (∀ s ∈ slots, s.Fits) → read slots = some a → read ((values a).map .given) = some a) :
    Keeps encode decode := by
  intro v a hv h
  rw [hdecode] at h ⊢
  obtain ⟨slots, hfound, h⟩ := Option.bind_eq_some_iff.mp h
  rw [hencode, Option.bind_some]
  exact hread slots a (hslots hv hfound) h

end Json
end Cutroom
