import Cutroom.Text.Letter
import Mathlib.Data.List.DropRight
import Mathlib.Data.List.Forall2

/-! Texts that count the same whatever white space is around them and in whichever case their ASCII letters are. They
    have one normal form. `NormalForm` says which it is; to trim a text and to raise it computes it
    (`normalForm_iff`). -/

namespace Cutroom.Text

variable {c d : Char} {cs word : List Char} {s name : String}

/-! ### White space -/

/-- The twenty-five code points of white space. --/
def whiteSpace : List Nat :=
  [0x9, 0xA, 0xB, 0xC, 0xD, 0x20, 0x85, 0xA0, 0x1680, 0x2000, 0x2001, 0x2002, 0x2003, 0x2004, 0x2005, 0x2006, 0x2007,
    0x2008, 0x2009, 0x200A, 0x2028, 0x2029, 0x202F, 0x205F, 0x3000]

theorem isBlank_iff : isBlank c = true ↔ c.toNat ∈ whiteSpace := by
  simp only [isBlank, blankRanges, whiteSpace, List.any_cons, List.any_nil, Bool.or_eq_true, Bool.and_eq_true,
    decide_eq_true_eq, List.mem_cons, List.not_mem_nil, Bool.false_eq_true, or_false]
  omega

/-- `word` is what stands between the white space at the ends of `cs`. --/
structure Trims (cs word : List Char) : Prop where
  between : ∃ before after, cs = before ++ word ++ after ∧
    (∀ c ∈ before, c.toNat ∈ whiteSpace) ∧ ∀ c ∈ after, c.toNat ∈ whiteSpace
  head : ∀ c ∈ word.head?, c.toNat ∉ whiteSpace
  last : ∀ c ∈ word.getLast?, c.toNat ∉ whiteSpace

theorem head_dropWhile (cs : List Char) : ∀ c ∈ (cs.dropWhile isBlank).head?, c.toNat ∉ whiteSpace := by
  intro c hc hblank
  have hnot := List.head?_dropWhile_not isBlank cs
  rw [Option.mem_def.mp hc] at hnot
  exact absurd (isBlank_iff.mpr hblank) (by simp [hnot])

theorem dropWhile_of_head (h : ∀ c ∈ cs.head?, c.toNat ∉ whiteSpace) : cs.dropWhile isBlank = cs := by
  cases cs with
  | nil => rfl
  | cons c rest => exact List.dropWhile_cons_of_neg fun hblank => h c rfl (isBlank_iff.mp hblank)

theorem trimmed_trims (cs : List Char) : Trims cs (trimmed cs) := by
  have hfront : cs.takeWhile isBlank ++ cs.dropWhile isBlank = cs := List.takeWhile_append_dropWhile
  have hback : trimmed cs ++ (cs.dropWhile isBlank).rtakeWhile isBlank = cs.dropWhile isBlank :=
    List.rdropWhile_append_rtakeWhile ..
  constructor
  case between =>
    refine ⟨cs.takeWhile isBlank, (cs.dropWhile isBlank).rtakeWhile isBlank, ?_, ?_, ?_⟩
    · rw [List.append_assoc, hback, hfront]
    · intro c hc
      exact isBlank_iff.mp (List.mem_takeWhile_imp hc)
    · intro c hc
      exact isBlank_iff.mp (List.mem_rtakeWhile_imp hc)
  case head =>
    -- What is dropped from the end leaves the first character as it is.
    intro c hc
    apply head_dropWhile cs c
    rw [← hback, List.head?_append, Option.mem_def.mp hc, Option.some_or, Option.mem_some]
  case last =>
    intro c hc
    rw [trimmed, List.getLast?_reverse] at hc
    exact head_dropWhile _ c hc

theorem Trims.unique (h : Trims cs word) : trimmed cs = word := by
  obtain ⟨before, after, rfl, hbefore, hafter⟩ := h.between
  rw [trimmed, List.append_assoc, List.dropWhile_append_of_pos fun c hc => isBlank_iff.mpr (hbefore c hc)]
  cases word with
  | nil =>
    have hnone : after.dropWhile isBlank = [] :=
      List.dropWhile_eq_nil_iff.mpr fun c hc => isBlank_iff.mpr (hafter c hc)
    rw [List.nil_append, hnone]
    rfl
  | cons c rest =>
    have hfront : (c :: rest ++ after).dropWhile isBlank = c :: rest ++ after :=
      dropWhile_of_head h.head
    have hback : (c :: rest).reverse.dropWhile isBlank = (c :: rest).reverse :=
      dropWhile_of_head (by rw [List.head?_reverse]; exact h.last)
    rw [hfront, List.reverse_append,
      List.dropWhile_append_of_pos fun c hc => isBlank_iff.mpr (hafter c (List.mem_reverse.mp hc)), hback,
      List.reverse_reverse]

theorem trims_iff : Trims cs word ↔ trimmed cs = word := by
  constructor
  · exact Trims.unique
  · rintro rfl
    exact trimmed_trims cs

/-! ### Capital letters -/

/-- The letters of ASCII, each with its capital. --/
def letters : List (Char × Char) :=
  "abcdefghijklmnopqrstuvwxyz".toList.zip "ABCDEFGHIJKLMNOPQRSTUVWXYZ".toList

/-- A small letter becomes its capital, and any other character stays. --/
inductive Capital (c : Char) : Char → Prop
  | letter {d : Char} (h : (c, d) ∈ letters) : Capital c d
  | same (h : ∀ d, (c, d) ∉ letters) : Capital c c

theorem of_mem_letters (h : (c, d) ∈ letters) : ('a' ≤ c ∧ c ≤ 'z') ∧ c.toUpper = d := by
  have hall : ∀ p ∈ letters, ('a' ≤ p.1 ∧ p.1 ≤ 'z') ∧ p.1.toUpper = p.2 := by decide
  exact hall _ h

theorem mem_letters (h : 'a' ≤ c ∧ c ≤ 'z') : (c, c.toUpper) ∈ letters := by
  have hall : ∀ n < 26, (Char.ofNat (97 + n), (Char.ofNat (97 + n)).toUpper) ∈ letters := by decide
  have hrange : 97 ≤ c.toNat ∧ c.toNat ≤ 122 := h
  have hmem := hall (c.toNat - 97) (by omega)
  rwa [Nat.add_sub_of_le hrange.1, Char.ofNat_toNat] at hmem

theorem toUpper_of_not_small (h : ¬ ('a' ≤ c ∧ c ≤ 'z')) : c.toUpper = c := dif_neg h

theorem capital_iff : Capital c d ↔ c.toUpper = d := by
  constructor
  · intro h
    cases h with
    | letter hmem => exact (of_mem_letters hmem).2
    | same hnone => exact toUpper_of_not_small fun hsmall => hnone _ (mem_letters hsmall)
  · rintro rfl
    by_cases hsmall : 'a' ≤ c ∧ c ≤ 'z'
    · exact .letter (mem_letters hsmall)
    · rw [toUpper_of_not_small hsmall]
      exact .same fun d hmem => hsmall (of_mem_letters hmem).1

/-! ### The normal form -/

/-- `name` is what `s` says up to the white space around it and the case of its ASCII letters, in capitals. --/
def NormalForm (s name : String) : Prop := ∃ word, Trims s.toList word ∧ List.Forall₂ Capital word name.toList

theorem forall₂_capital_iff : List.Forall₂ Capital cs word ↔ cs.map Char.toUpper = word := by
  have hcapital : Capital = fun c d => c.toUpper = d := by
    funext c d
    exact propext capital_iff
  rw [hcapital, ← List.forall₂_map_left_iff, List.forall₂_eq_eq_eq]

theorem normalForm_iff : NormalForm s name ↔ upper (trim s) = name := by
  simp only [NormalForm, trims_iff, forall₂_capital_iff, exists_eq_left']
  rw [upper, trim, String.toList_ofList, ← String.toList_inj, String.toList_ofList]

end Cutroom.Text
