import Mathlib
import Cutroom.Proofs.Timeline.Order

/-! The order of times. A double that is a number has a rank, a whole number; times compare as their ranks do
    (`Seconds.lt_iff_rank`, `Seconds.le_iff_rank`), and finite ones are those between the two infinities
    (`Seconds.isFinite_iff`). -/

namespace Cutroom
namespace Seconds
open Float.Model Float.Model.UnpackedFloat

/-- A mantissa and an exponent as a double keeps them: 53 bits at most, and fewer only where the exponent is the
    least one. --/
structure Canonical (m : Nat) (e : Int) : Prop where
  bits : m < 2 ^ 53
  least : -1074 ≤ e
  full : 2 ^ 52 ≤ m ∨ e = -1074

theorem unpack_canonical {b : BitVec Format.binary64.numBits} {s : Sign} {m : Nat} {e : Int} {h : 0 < m}
    (hu : UnpackedFloat.unpack Format.binary64 b = .finite s m e h) : Canonical m e ∧ e ≤ 971 := by
  have hbias : (Format.binary64.exponentBias : Int) = 1023 := rfl
  have hexponent : (@unpackExponent Format.binary64 b).toNat < 2 ^ 11 := BitVec.isLt _
  have hmantissa : (@unpackMantissa Format.binary64 b).toNat < 2 ^ 52 := BitVec.isLt _
  unfold UnpackedFloat.unpack at hu
  dsimp only at hu
  split at hu
  · split at hu <;> cases hu
  · rename_i hspecial
    split at hu
    · rename_i hzero
      split at hu
      · cases hu
      · cases hu
        rw [hzero, hbias]
        exact ⟨⟨by omega, by decide, .inr rfl⟩, by decide⟩
    · rename_i hnormal
      cases hu
      have hone : (@unpackExponent Format.binary64 b).toNat ≠ 0 := fun h => hnormal (BitVec.eq_of_toNat_eq h)
      have hlast : (@unpackExponent Format.binary64 b).toNat ≠ 2047 := fun h => hspecial (BitVec.eq_of_toNat_eq h)
      have hm : (1#1 ++ @unpackMantissa Format.binary64 b).toNat =
          2 ^ 52 + (@unpackMantissa Format.binary64 b).toNat := by
        rw [BitVec.toNat_append, ← Nat.shiftLeft_add_eq_or_of_lt (BitVec.isLt _)]
        rfl
      rw [hm, hbias]
      exact ⟨⟨by omega, by omega, .inl (by omega)⟩, by omega⟩

theorem unpack_infinity (s : Sign) :
    UnpackedFloat.unpack Format.binary64 (packedInfinity Format.binary64 s) = .infinity s := by
  cases s <;> rfl

theorem unpack_normal (s : Sign) {biased m : Nat} (hzero : biased ≠ 0) (hlast : biased < 2047) (hlow : 2 ^ 52 ≤ m)
    (hhigh : m < 2 ^ 53) :
    UnpackedFloat.unpack Format.binary64 (packComponents Format.binary64 s (.ofNat 11 biased) (.ofNat 52 m)) =
      .finite s m ((biased : Int) - 1075) (Nat.lt_of_lt_of_le (by decide) hlow) := by
  have hbiased : (BitVec.ofNat 11 biased).toNat = biased := by
    rw [BitVec.toNat_ofNat, Nat.mod_eq_of_lt (by omega)]
  have hmantissa : (1#1 ++ BitVec.ofNat 52 m).toNat = m := by
    rw [BitVec.toNat_append, ← Nat.shiftLeft_add_eq_or_of_lt (BitVec.isLt _), BitVec.toNat_ofNat]
    show 2 ^ 52 + m % 2 ^ 52 = m
    omega
  have hne : BitVec.ofNat 11 biased ≠ -1#11 := fun h => by
    have := congrArg BitVec.toNat h
    rw [hbiased] at this
    have : biased = 2047 := this
    omega
  have hne' : BitVec.ofNat 11 biased ≠ 0#11 := fun h => by
    have := congrArg BitVec.toNat h
    rw [hbiased] at this
    exact hzero this
  unfold UnpackedFloat.unpack
  simp only [unpackExponent_packComponents, unpackMantissa_packComponents, unpackSign_packComponents,
    Sign.ofBitVec_toBitVec]
  rw [if_neg hne, if_neg hne']
  rw [UnpackedFloat.finite.injEq]
  refine ⟨rfl, hmantissa, ?_⟩
  rw [hbiased]
  rfl

theorem unpack_subnormal (s : Sign) {m : Nat} (hpos : 0 < m) (hlow : m < 2 ^ 52) :
    UnpackedFloat.unpack Format.binary64 (packComponents Format.binary64 s 0#11 (.ofNat 52 m)) =
      .finite s m (-1074) hpos := by
  have hmantissa : (BitVec.ofNat 52 m).toNat = m := by rw [BitVec.toNat_ofNat, Nat.mod_eq_of_lt hlow]
  have hne : BitVec.ofNat 52 m ≠ 0#52 := fun h => by
    have hzero := congrArg BitVec.toNat h
    rw [hmantissa] at hzero
    exact Nat.ne_of_gt hpos hzero
  unfold UnpackedFloat.unpack
  simp only [unpackExponent_packComponents, unpackMantissa_packComponents, unpackSign_packComponents,
    Sign.ofBitVec_toBitVec]
  rw [if_neg (by decide), if_pos trivial, dif_neg hne, UnpackedFloat.finite.injEq]
  exact ⟨rfl, hmantissa, rfl⟩

/-- What is too large becomes infinite; else the mantissa shows whether the exponent is the least one. --/
theorem pack_finite (s : Sign) (m : Nat) (e : Int) (h : 0 < m) :
    UnpackedFloat.pack Format.binary64 (.finite s m e h) =
      if 2 ^ 11 ≤ (e + 1023 + 52).toNat + 1 then packedInfinity Format.binary64 s
      else if m.log2 + 1 = 53 then
        packComponents Format.binary64 s (.ofNat 11 (e + 1023 + 52).toNat) (.ofNat 52 m)
      else packComponents Format.binary64 s 0#11 (.ofNat 52 m) := rfl

/-- Packing keeps all that is not too large. --/
theorem unpack_pack {s : Sign} {m : Nat} {e : Int} {h : 0 < m} (hc : Canonical m e) :
    UnpackedFloat.unpack Format.binary64 (UnpackedFloat.pack Format.binary64 (.finite s m e h)) =
      if e ≤ 971 then .finite s m e h else .infinity s := by
  obtain ⟨hbits, hleast, hfull⟩ := hc
  rw [pack_finite]
  by_cases hfits : e ≤ 971
  · rw [if_pos hfits, if_neg (by omega)]
    by_cases hnormal : 2 ^ 52 ≤ m
    · have hlog : m.log2 = 52 := (Nat.log2_eq_iff (Nat.ne_of_gt h)).mpr ⟨hnormal, hbits⟩
      rw [if_pos (by omega), unpack_normal s (by omega) (by omega) hnormal hbits, UnpackedFloat.finite.injEq]
      exact ⟨rfl, rfl, by omega⟩
    · have hlog : m.log2 < 52 := (Nat.log2_lt (Nat.ne_of_gt h)).mpr (Nat.lt_of_not_le hnormal)
      obtain rfl := hfull.resolve_left hnormal
      rw [if_neg (by omega), unpack_subnormal s h (Nat.lt_of_not_le hnormal)]
  · rw [if_neg hfits, if_pos (by omega), unpack_infinity]

theorem isNaN_of_exponent {b : BitVec Format.binary64.numBits} (h : unpackExponent b ≠ -1#11) :
    (UnpackedFloat.unpack Format.binary64 b).isNaN = false := by
  unfold UnpackedFloat.unpack
  dsimp only
  rw [if_neg h]
  split
  · split <;> rfl
  · rfl

/-- Nothing becomes no number when it is packed. --/
theorem isNaN_pack (u : UnpackedFloat) :
    (UnpackedFloat.unpack Format.binary64 (UnpackedFloat.pack Format.binary64 u)).isNaN = u.isNaN := by
  cases u with
  | notANumber => rfl
  | infinity s => cases s <;> rfl
  | zero s => cases s <;> rfl
  | finite s m e h =>
    show _ = false
    rw [pack_finite]
    split
    · rw [unpack_infinity]
      rfl
    · split
      · refine isNaN_of_exponent fun hlast => ?_
        rw [unpackExponent_packComponents] at hlast
        have hbiased := congrArg BitVec.toNat hlast
        rw [BitVec.toNat_ofNat, Nat.mod_eq_of_lt (by omega)] at hbiased
        have hmost : (e + 1023 + 52).toNat = 2047 := hbiased
        omega
      · refine isNaN_of_exponent ?_
        rw [unpackExponent_packComponents]
        decide

/-! ### The order -/

/-- The place of a double in the order of all doubles: they are counted from zero on, the greater exponent first and
    the greater mantissa after it. --/
def place : UnpackedFloat → Int
  | .notANumber | .zero _ => 0
  | .infinity s => s.apply (2 ^ 64)
  | .finite s m e _ => s.apply ((e + 1074) * 2 ^ 53 + m)

def rank (t : Seconds) : Int := place t.unpacked

theorem neg_compare (x y : Int) : compare (-x) (-y) = compare y x := by
  rcases Int.lt_trichotomy x y with h | rfl | h
  · rw [Std.compare_eq_gt.mpr h, Std.compare_eq_gt.mpr (Int.neg_lt_neg h)]
  · rw [Std.compare_self, Std.compare_self]
  · rw [Std.compare_eq_lt.mpr h, Std.compare_eq_lt.mpr (Int.neg_lt_neg h)]

theorem compare_finite {m m' : Nat} {e e' : Int} (h : m < 2 ^ 53) (h' : m' < 2 ^ 53) :
    (compare e e').then (compare m m') = compare ((e + 1074) * 2 ^ 53 + (m : Int)) ((e' + 1074) * 2 ^ 53 + m') := by
  rcases Int.lt_trichotomy e e' with he | rfl | he
  · have hplace : (e + 1074) * 2 ^ 53 + (m : Int) < (e' + 1074) * 2 ^ 53 + m' := by omega
    rw [Std.compare_eq_lt.mpr he, Std.compare_eq_lt.mpr hplace]
    rfl
  · have hplace : compare ((e + 1074) * 2 ^ 53 + (m : Int)) ((e + 1074) * 2 ^ 53 + m') = compare m m' := by
      rcases Nat.lt_trichotomy m m' with hm | rfl | hm
      · have : (e + 1074) * 2 ^ 53 + (m : Int) < (e + 1074) * 2 ^ 53 + m' := by omega
        rw [Std.compare_eq_lt.mpr hm, Std.compare_eq_lt.mpr this]
      · rw [Std.compare_self, Std.compare_self]
      · have : (e + 1074) * 2 ^ 53 + (m' : Int) < (e + 1074) * 2 ^ 53 + m := by omega
        rw [Std.compare_eq_gt.mpr hm, Std.compare_eq_gt.mpr this]
    rw [hplace, Std.compare_self]
    rfl
  · have hplace : (e' + 1074) * 2 ^ 53 + (m' : Int) < (e + 1074) * 2 ^ 53 + m := by omega
    rw [Std.compare_eq_gt.mpr he, Std.compare_eq_gt.mpr hplace]
    rfl

/-- What is unpacked from a double keeps to its bounds. --/
def Bounded : UnpackedFloat → Prop
  | .finite _ m e _ => Canonical m e ∧ e ≤ 971
  | _ => True

theorem unpacked_bounded (t : Seconds) : Bounded t.unpacked := by
  cases hu : t.unpacked with
  | finite s m e h => exact unpack_canonical hu
  | notANumber | infinity | zero => trivial

theorem place_finite {s : Sign} {m : Nat} {e : Int} {h : 0 < m} (hc : Bounded (.finite s m e h)) :
    -2 ^ 64 < place (.finite s m e h) ∧ place (.finite s m e h) < 2 ^ 64 ∧ match s with
      | .positive => 0 < place (.finite s m e h)
      | .negative => place (.finite s m e h) < 0 := by
  obtain ⟨⟨hbits, hleast, -⟩, hmost⟩ := hc
  cases s <;> simp only [place, Sign.apply] <;> omega

theorem compare_eq {u v : UnpackedFloat} (hu : Bounded u) (hv : Bounded v) (hnu : u.isNaN = false)
    (hnv : v.isNaN = false) : u.compare v = some (compare (place u) (place v)) := by
  -- Infinities lie beyond all finite places, and signs apart; mantissas matter only where both are finite.
  have hlt : ∀ {x y : Int}, x < y → some Ordering.lt = some (compare x y) :=
    fun h => congrArg some (Std.compare_eq_lt.mpr h).symm
  have hgt : ∀ {x y : Int}, y < x → some Ordering.gt = some (compare x y) :=
    fun h => congrArg some (Std.compare_eq_gt.mpr h).symm
  cases u with
  | notANumber => cases hnu
  | infinity s =>
    cases v with
    | notANumber => cases hnv
    | infinity s' => cases s <;> cases s' <;> rfl
    | zero s' => cases s <;> rfl
    | finite s' m' e' h' =>
      obtain ⟨hlow, hhigh, -⟩ := place_finite hv
      cases s with
      | positive => cases s' <;> exact hgt hhigh
      | negative => cases s' <;> exact hlt hlow
  | zero s =>
    cases v with
    | notANumber => cases hnv
    | infinity s' => cases s' <;> rfl
    | zero s' => rfl
    | finite s' m' e' h' =>
      obtain ⟨-, -, hsign⟩ := place_finite hv
      cases s' with
      | positive => exact hlt hsign
      | negative => exact hgt hsign
  | finite s m e h =>
    obtain ⟨hlow, hhigh, hsign⟩ := place_finite hu
    cases v with
    | notANumber => cases hnv
    | infinity s' =>
      cases s' with
      | positive => cases s <;> exact hlt hhigh
      | negative => cases s <;> exact hgt hlow
    | zero s' =>
      cases s with
      | positive => exact hgt hsign
      | negative => exact hlt hsign
    | finite s' m' e' h' =>
      obtain ⟨-, -, hsign'⟩ := place_finite hv
      have hsame : (compare e e').then (compare m m') = _ := compare_finite hu.1.bits hv.1.bits
      cases s with
      | positive =>
        cases s' with
        | positive => exact congrArg some hsame
        | negative => exact hgt (Int.lt_trans hsign' hsign)
      | negative =>
        cases s' with
        | positive => exact hlt (Int.lt_trans hsign hsign')
        | negative =>
          rw [UnpackedFloat.compare, hsame, Int.compare_swap, ← neg_compare]
          rfl

/-! ### Comparisons -/

theorem compare_of_isNaN {u v : UnpackedFloat} (h : u.isNaN = true ∨ v.isNaN = true) : u.compare v = none := by
  rcases h with h | h
  · cases u <;> cases h
    rfl
  · cases v <;> cases h
    cases u <;> rfl

theorem compare_unpacked (a b : Seconds) :
    a.unpacked.compare b.unpacked =
      if a.isNaN = false ∧ b.isNaN = false then some (compare a.rank b.rank) else none := by
  split
  · rename_i h
    exact compare_eq a.unpacked_bounded b.unpacked_bounded h.1 h.2
  · rename_i h
    refine compare_of_isNaN ?_
    show a.isNaN = true ∨ b.isNaN = true
    cases ha : a.isNaN with
    | true => exact .inl rfl
    | false => exact .inr (eq_true_of_ne_false fun hb => h ⟨ha, hb⟩)

theorem lt_iff_rank {a b : Seconds} : a < b ↔ a.isNaN = false ∧ b.isNaN = false ∧ a.rank < b.rank := by
  rw [lt_iff, compare_unpacked]
  split
  · rename_i h
    rw [Option.some_inj, Std.compare_eq_lt]
    exact ⟨fun hlt => ⟨h.1, h.2, hlt⟩, fun hlt => hlt.2.2⟩
  · rename_i h
    exact ⟨nofun, fun hlt => absurd ⟨hlt.1, hlt.2.1⟩ h⟩

theorem le_iff_rank {a b : Seconds} : a ≤ b ↔ a.isNaN = false ∧ b.isNaN = false ∧ a.rank ≤ b.rank := by
  have hle : a ≤ b ↔ (a.unpacked.compare b.unpacked).any (·.isLE) = true := decide_eq_true_iff
  rw [hle, compare_unpacked]
  split
  · rename_i h
    rw [Option.any_some, Std.isLE_compare]
    exact ⟨fun hle => ⟨h.1, h.2, hle⟩, fun hle => hle.2.2⟩
  · rename_i h
    exact ⟨nofun, fun hlt => absurd ⟨hlt.1, hlt.2.1⟩ h⟩

theorem isFinite_iff {t : Seconds} : t.isFinite = true ↔ t.isNaN = false ∧ -2 ^ 64 < t.rank ∧ t.rank < 2 ^ 64 := by
  have hbounded := t.unpacked_bounded
  show t.unpacked.isFinite = true ↔ t.unpacked.isNaN = false ∧ -2 ^ 64 < place t.unpacked ∧ place t.unpacked < 2 ^ 64
  cases hu : t.unpacked with
  | notANumber => exact ⟨nofun, nofun⟩
  | zero s => exact ⟨fun _ => ⟨rfl, Int.neg_neg_of_pos (by decide), (by decide : (0 : Int) < 2 ^ 64)⟩, fun _ => rfl⟩
  | infinity s =>
    refine ⟨nofun, fun h => ?_⟩
    cases s
    · exact absurd h.2.1 (by decide)
    · exact absurd h.2.2 (by decide)
  | finite s m e h =>
    rw [hu] at hbounded
    obtain ⟨hlow, hhigh, -⟩ := place_finite hbounded
    exact ⟨fun _ => ⟨rfl, hlow, hhigh⟩, fun _ => rfl⟩

theorem rank_zero : rank 0.0 = 0 := rfl

theorem isFinite_zero : Float.isFinite 0.0 = true := rfl

theorem isNaN_of_isFinite {t : Seconds} (h : t.isFinite = true) : t.isNaN = false := (isFinite_iff.mp h).1

/-! ### Bounds -/

theorem le_of_not_lt {a b : Seconds} (ha : a.isNaN = false) (hb : b.isNaN = false) (h : ¬ a < b) : b ≤ a :=
  le_iff_rank.mpr ⟨hb, ha, Int.not_lt.mp fun hlt => h (lt_iff_rank.mpr ⟨ha, hb, hlt⟩)⟩

theorem le_of_lt {a b : Seconds} (h : a < b) : a ≤ b := by
  obtain ⟨ha, hb, hlt⟩ := lt_iff_rank.mp h
  exact le_iff_rank.mpr ⟨ha, hb, Int.le_of_lt hlt⟩

theorem le_of_not_le {a b : Seconds} (ha : a.isNaN = false) (hb : b.isNaN = false) (h : ¬ a ≤ b) : b ≤ a :=
  le_iff_rank.mpr ⟨hb, ha, Int.le_of_lt (Int.not_le.mp fun hle => h (le_iff_rank.mpr ⟨ha, hb, hle⟩))⟩

theorem not_le_of_lt {a b : Seconds} (h : a < b) : ¬ b ≤ a := fun hle =>
  Int.not_le.mpr (lt_iff_rank.mp h).2.2 (le_iff_rank.mp hle).2.2

theorem le_refl {t : Seconds} (h : t.isNaN = false) : t ≤ t := le_iff_rank.mpr ⟨h, h, Int.le_refl _⟩

theorem le_trans {a b c : Seconds} (h₁ : a ≤ b) (h₂ : b ≤ c) : a ≤ c := by
  obtain ⟨ha, -, hab⟩ := le_iff_rank.mp h₁
  obtain ⟨-, hc, hbc⟩ := le_iff_rank.mp h₂
  exact le_iff_rank.mpr ⟨ha, hc, Int.le_trans hab hbc⟩

theorem within_bounds {low high t : Seconds} (h : low ≤ high) (ht : t.isNaN = false) :
    low ≤ within low high t ∧ within low high t ≤ high := by
  obtain ⟨hlow, hhigh, -⟩ := le_iff_rank.mp h
  unfold within
  split
  · exact ⟨le_refl hlow, h⟩
  · rename_i hearly
    split
    · exact ⟨h, le_refl hhigh⟩
    · rename_i hlate
      exact ⟨le_of_not_lt ht hlow hearly, le_of_not_lt hhigh ht hlate⟩

theorem within_of_isNaN {low high t : Seconds} (ht : t.isNaN = true) : within low high t = t := by
  have hnum : t.isNaN ≠ false := fun h => Bool.false_ne_true (h.symm.trans ht)
  rw [within, if_neg fun h => hnum (lt_iff_rank.mp h).1, if_neg fun h => hnum (lt_iff_rank.mp h).2.1]

theorem later_cases {a b : Seconds} (ha : a.isNaN = false) (hb : b.isNaN = false) :
    a ≤ b ∧ later a b = b ∨ b ≤ a ∧ later a b = a := by
  unfold later
  rw [ha, hb]
  simp only [Bool.false_eq_true, if_false]
  split
  · rename_i hlt
    exact .inl ⟨le_of_lt hlt, rfl⟩
  · rename_i hge
    exact .inr ⟨le_of_not_lt ha hb hge, rfl⟩

theorem le_later {a b : Seconds} (hb : b.isNaN = false) : b ≤ later a b := by
  cases ha : a.isNaN with
  | true =>
    rw [later, ha, if_pos rfl]
    exact le_refl hb
  | false =>
    rcases later_cases ha hb with ⟨-, heq⟩ | ⟨hle, heq⟩ <;> rw [heq]
    · exact le_refl hb
    · exact hle

theorem isFinite_of_between {low t high : Seconds} (hl : low ≤ t) (hh : t ≤ high) (hfl : low.isFinite = true)
    (hfh : high.isFinite = true) : t.isFinite = true := by
  obtain ⟨-, hnum, hlow⟩ := le_iff_rank.mp hl
  obtain ⟨-, -, hhigh⟩ := le_iff_rank.mp hh
  obtain ⟨-, hbottom, -⟩ := isFinite_iff.mp hfl
  obtain ⟨-, -, htop⟩ := isFinite_iff.mp hfh
  exact isFinite_iff.mpr ⟨hnum, Int.lt_of_lt_of_le hbottom hlow, Int.lt_of_le_of_lt hhigh htop⟩

theorem lengthOrZero_bounds (d : Seconds) : 0.0 ≤ d.lengthOrZero ∧ d.lengthOrZero.isFinite = true := by
  unfold lengthOrZero
  split
  · rename_i hfinite
    refine ⟨le_later rfl, ?_⟩
    rcases later_cases (isNaN_of_isFinite hfinite) (b := 0.0) rfl with ⟨-, heq⟩ | ⟨-, heq⟩ <;> rw [heq]
    · exact isFinite_zero
    · exact hfinite
  · exact ⟨le_refl rfl, isFinite_zero⟩

theorem lengthOrZero_of_nonneg {d : Seconds} (hd : 0.0 ≤ d) (hfinite : d.isFinite = true) : d.lengthOrZero = d := by
  have hnot : ¬ d < 0.0 := fun hlt => not_le_of_lt hlt hd
  rw [lengthOrZero, if_pos hfinite, later, isNaN_of_isFinite hfinite, if_neg Bool.false_ne_true, if_neg (by decide),
    if_neg hnot]

theorem isLength_iff {d : Seconds} : d.isLength = true ↔ 0.0 < d ∧ d.isFinite = true := by
  rw [isLength, Bool.and_eq_true, decide_eq_true_iff]

end Seconds
end Cutroom
