import Cutroom.Proofs.Decimal.Numerals
import Cutroom.Proofs.Timeline.Exact
import Cutroom.Timeline.Clock

/-! Clock readouts (`Clock.ofSeconds_legible`). The whole seconds of a time are its floor, as far as a word of 64 bits
    goes. A readout shows them in parts of which each is a numeral, so that they can be read back from it
    (`Clock.shown?_text`): two different numbers of seconds are never shown alike. -/

namespace Cutroom

/-! ### Whole seconds -/

namespace Seconds
open Float.Model Float.Model.UnpackedFloat

/-- A positive number loses its fraction when it becomes an integer. --/
theorem roundToInt_positive (m : ℕ) (e : ℤ) : roundToInt .positive m e = ⌊(m : ℚ) * (2 : ℚ) ^ e⌋₊ := by
  have hstands := (stands_exact (m <<< (e - 0).toNat)).shifted (0 - (e - (e - 0).toNat)).toNat
  have hexact : ((m <<< (e - 0).toNat : ℕ) : ℚ) / 2 ^ (0 - (e - (e - 0).toNat)).toNat = m * (2 : ℚ) ^ e := by
    have hexponent : ((e - 0).toNat : ℤ) - ((0 - (e - (e - 0).toNat)).toNat : ℤ) = e := by omega
    rw [Nat.shiftLeft_eq, Nat.cast_mul, Nat.cast_pow, Nat.cast_ofNat, mul_div_assoc, ← zpow_natCast, ← zpow_natCast,
      ← zpow_sub₀ two_ne_zero, hexponent]
  rw [hexact] at hstands
  exact congrArg Int.ofNat hstands.floor.symm

theorem toNat_ofNatClamp (n : ℕ) : (UInt64.ofNatClamp n).toNat = min n (2 ^ 64 - 1) := by
  unfold UInt64.ofNatClamp
  split
  · rename_i h
    have hn : n < 2 ^ 64 := h
    rw [UInt64.toNat_ofNatLT]
    omega
  · rename_i h
    have hn : ¬ n < 2 ^ 64 := h
    rw [UInt64.toNat_ofNatLT]
    have hsize : UInt64.size = 2 ^ 64 := rfl
    omega

end Seconds

/-- The whole seconds of a positive finite time are the floor of its value, at most the greatest word. --/
theorem wholeSeconds_eq (t : Seconds) :
    wholeSeconds t = if t.isFinite && 0.0 < t then min ⌊t.value⌋₊ (2 ^ 64 - 1) else 0 := by
  unfold wholeSeconds
  split
  · rename_i h
    obtain ⟨hfinite, hpos⟩ := Bool.and_eq_true_iff.mp h
    obtain ⟨m, e, hm, hu⟩ := Seconds.unpacked_of_pos (of_decide_eq_true hpos) hfinite
    have hint : (t.unpacked.toInt 0 ((UInt64.size : ℤ) - 1)).toNat = ⌊t.value⌋₊ := by
      rw [Seconds.value, hu]
      show (Float.Model.UnpackedFloat.roundToInt .positive m e).toNat = ⌊(m : ℚ) * (2 : ℚ) ^ e⌋₊
      rw [Seconds.roundToInt_positive, Int.toNat_natCast]
    show (UInt64.ofNatClamp (t.unpacked.toInt 0 ((UInt64.size : ℤ) - 1)).toNat).toNat = _
    rw [hint, Seconds.toNat_ofNatClamp]
  · rfl

theorem wholeSeconds_lt (t : Seconds) : wholeSeconds t < 2 ^ 64 := by
  unfold wholeSeconds
  split
  · exact t.toUInt64.toNat_lt
  · exact Nat.two_pow_pos 64

/-! ### Reading -/

/-- The number that digits write, none where there is no digit or anything else. --/
def Decimal.number? (cs : List Char) : Option ℕ :=
  if cs ≠ [] ∧ ∀ c ∈ cs, isDigit c = true then some (value cs) else none

theorem Decimal.number?_numeral (n : ℕ) : number? (numeral n) = some n := by
  rw [number?, if_pos ⟨numeral_ne_nil n, fun _ => isDigit_of_mem_numeral⟩, value_numeral]

theorem Decimal.number?_padded (width n : ℕ) : number? (padded width n) = some n := by
  rw [number?, if_pos ⟨padded_ne_nil width n, fun _ => isDigit_of_mem_padded⟩, value_padded]

theorem Decimal.digits_of_number? {cs : List Char} {n : ℕ} (h : number? cs = some n) :
    cs ≠ [] ∧ ∀ c ∈ cs, isDigit c = true := by
  unfold number? at h
  split at h
  · assumption
  · cases h

namespace Clock

/-- A readout without the letter that a ruler puts behind seconds. --/
def unmarked (cs : List Char) : List Char := if cs.getLast? = some 's' then cs.dropLast else cs

/-- The whole seconds that a readout shows: the numbers between its colons are minutes and seconds, or hours, minutes
    and seconds, or seconds alone. --/
def shown? (cs : List Char) : Option ℕ :=
  (((unmarked cs).splitOn ':').mapM Decimal.number?).map (List.foldl (fun total part => 60 * total + part) 0)

variable {cs : List Char} {h m s : ℕ}

theorem unmarked_digits (front : List Char) (hs : Decimal.number? cs = some s) :
    unmarked (front ++ cs) = front ++ cs := by
  obtain ⟨hne, hdigits⟩ := Decimal.digits_of_number? hs
  have hlast : (front ++ cs).getLast? = some (cs.getLast hne) := by
    rw [List.getLast?_append, List.getLast?_eq_some_getLast hne, Option.some_or]
  have hdigit := hdigits _ (List.getLast_mem hne)
  refine if_neg fun hmark => ?_
  rw [hlast, Option.some.injEq] at hmark
  rw [hmark] at hdigit
  exact absurd hdigit (by decide)

/-- No part holds a colon, so a readout falls into the parts that it was made of. --/
theorem shown?_parts {parts : List (List Char)} (hcs : unmarked cs = [':'].intercalate parts) (hne : parts ≠ [])
    (hparts : ∀ part ∈ parts, ∃ n, Decimal.number? part = some n) :
    shown? cs = (parts.mapM Decimal.number?).map (List.foldl (fun total part => 60 * total + part) 0) := by
  have hcolon : ∀ part ∈ parts, ':' ∉ part := by
    intro part hpart hmem
    obtain ⟨n, hn⟩ := hparts part hpart
    exact absurd ((Decimal.digits_of_number? hn).2 ':' hmem) (by decide)
  rw [shown?, hcs, List.splitOn_intercalate ':' hcolon hne]

theorem shown?_seconds (hs : Decimal.number? cs = some s) : shown? (cs ++ ['s']) = some s := by
  have hcs : unmarked (cs ++ ['s']) = [':'].intercalate [cs] := by
    rw [unmarked, List.getLast?_concat, if_pos rfl, List.dropLast_concat]
    exact (List.append_nil cs).symm
  rw [shown?_parts hcs (List.cons_ne_nil _ _) (List.forall_mem_singleton.mpr ⟨s, hs⟩)]
  simp [hs]

theorem shown?_pair {ms : List Char} (hm : Decimal.number? ms = some m) (hs : Decimal.number? cs = some s) :
    shown? (ms ++ ':' :: cs) = some (60 * m + s) := by
  have hcs : unmarked (ms ++ ':' :: cs) = [':'].intercalate [ms, cs] := by
    have hunmarked := unmarked_digits (ms ++ [':']) hs
    rw [List.append_assoc] at hunmarked
    exact hunmarked.trans (by simp [List.intercalate])
  rw [shown?_parts hcs (List.cons_ne_nil _ _) (by simp [hm, hs])]
  simp [hm, hs]

theorem shown?_triple {hs ms : List Char} (hh : Decimal.number? hs = some h) (hm : Decimal.number? ms = some m)
    (hc : Decimal.number? cs = some s) : shown? (hs ++ ':' :: ms ++ ':' :: cs) = some (60 * (60 * h + m) + s) := by
  have hcs : unmarked (hs ++ ':' :: ms ++ ':' :: cs) = [':'].intercalate [hs, ms, cs] := by
    have hunmarked := unmarked_digits (hs ++ ':' :: ms ++ [':']) hc
    rw [List.append_assoc] at hunmarked
    exact hunmarked.trans (by simp [List.intercalate])
  rw [shown?_parts hcs (List.cons_ne_nil _ _) (by simp [hh, hm, hc])]
  simp [hh, hm, hc]

/-! ### Readouts -/

theorem ofWhole_total (n : ℕ) :
    (ofWhole n).hours * 3600 + (ofWhole n).minutes * 60 + (ofWhole n).seconds = n := by
  show n / 3600 * 3600 + n % 3600 / 60 * 60 + n % 60 = n
  omega

theorem ofWhole_totalMinutes (n : ℕ) : (ofWhole n).totalMinutes = n / 60 := by
  show n / 3600 * 60 + n % 3600 / 60 = n / 60
  omega

/-- What a readout shows is read back from it. --/
theorem shown?_chars (n : ℕ) (format : ClockFormat) : shown? ((ofWhole n).chars format) = some n := by
  have htotal := ofWhole_total n
  have hminutes := ofWhole_totalMinutes n
  have hpadded (k : ℕ) := Decimal.number?_padded 2 k
  have hnumeral := Decimal.number?_numeral
  cases format with
  | short =>
    rw [chars, shown?_pair (hpadded _) (hpadded _), Option.some.injEq]
    unfold totalMinutes at hminutes ⊢
    omega
  | detail =>
    rw [chars, shown?_triple (hpadded _) (hpadded _) (hpadded _), Option.some.injEq]
    omega
  | ruler =>
    rw [chars]
    split
    · rw [shown?_pair (hnumeral _) (hpadded _), Option.some.injEq]
      unfold totalMinutes at hminutes ⊢
      omega
    · rename_i hshort
      rw [shown?_seconds (hnumeral _), Option.some.injEq]
      unfold totalMinutes at hshort
      omega

theorem shown?_text (t : Seconds) (format : ClockFormat) :
    shown? ((ofSeconds t).text format).toList = some (wholeSeconds t) := by
  rw [text, String.toList_ofList]
  exact shown?_chars (wholeSeconds t) format

theorem text_eq_iff (t u : Seconds) (format : ClockFormat) :
    (ofSeconds t).text format = (ofSeconds u).text format ↔ wholeSeconds t = wholeSeconds u := by
  constructor
  · intro heq
    have ht := shown?_text t format
    rw [heq, shown?_text u format] at ht
    exact (Option.some.inj ht).symm
  · intro heq
    rw [ofSeconds, ofSeconds, heq]

/-- The clock of a time counts its whole seconds, which are the floor of the time as far as a word of 64 bits goes, and
    none for a time that is not positive or not finite: so many hours, less than 60 minutes and less than 60 seconds.
    All minutes together fit a word as well. In each format the readout tells the whole seconds, so that times are shown
    alike if and only if these agree, and so does each label of a ruler. --/
theorem ofSeconds_legible (t : Seconds) :
    (wholeSeconds t = if t.isFinite && 0.0 < t then min ⌊t.value⌋₊ (2 ^ 64 - 1) else 0) ∧
      (ofSeconds t).hours * 3600 + (ofSeconds t).minutes * 60 + (ofSeconds t).seconds = wholeSeconds t ∧
      (ofSeconds t).minutes < 60 ∧ (ofSeconds t).seconds < 60 ∧
      (ofSeconds t).totalMinutes = wholeSeconds t / 60 ∧ (ofSeconds t).totalMinutes < 2 ^ 64 ∧
      (∀ format, shown? ((ofSeconds t).text format).toList = some (wholeSeconds t)) ∧
      (∀ u format, (ofSeconds t).text format = (ofSeconds u).text format ↔ wholeSeconds t = wholeSeconds u) ∧
      ∀ mark ∈ rulerMarks t, shown? mark.label.toList = some (wholeSeconds mark.time) := by
  have hminutes := ofWhole_totalMinutes (wholeSeconds t)
  have hword := wholeSeconds_lt t
  refine ⟨wholeSeconds_eq t, ofWhole_total _, ?_, Nat.mod_lt _ (by decide), hminutes, ?_, shown?_text t,
    text_eq_iff t, fun mark hmark => ?_⟩
  · show wholeSeconds t % 3600 / 60 < 60
    omega
  · show (ofWhole (wholeSeconds t)).totalMinutes < 2 ^ 64
    omega
  · obtain ⟨i, -, rfl⟩ := List.mem_map.mp hmark
    exact shown?_text _ .ruler

end Clock
end Cutroom
