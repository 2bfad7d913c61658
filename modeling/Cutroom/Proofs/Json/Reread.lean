import Cutroom.Json.Reader
import Cutroom.Json.Writer
import Cutroom.Proofs.Decimal.Numerals
import Cutroom.Proofs.Json.Identified

/-! A value that was written is read back (`Json.read?_page`), whatever its texts hold. The text of a value is scanned
    into tokens, wherever it stands (`Json.Scans`), and these build the value, wherever it is put (`Json.Builds`). Only
    of numbers that are no whole ones nothing is said. -/

namespace Cutroom
namespace Json

/-- Nothing of the value is lost in its text: there is no number that may be rounded, and each whole number fits a
    word. --/
inductive Faithful : Json → Prop where
  | null : Faithful .null
  | bool (b : Bool) : Faithful (.bool b)
  | integer {n : Int} : -2 ^ 63 ≤ n → n < 2 ^ 64 → Faithful (.integer n)
  | string (s : String) : Faithful (.string s)
  | array {items : List Json} : (∀ v ∈ items, Faithful v) → Faithful (.array items)
  | object {members : List (String × Json)} : (∀ m ∈ members, Faithful m.2) → Faithful (.object members)

/-! ### Whole numbers -/

theorem digits?_of_isDigit {cs : List Char} (h : ∀ c ∈ cs, Decimal.isDigit c = true) (hne : cs ≠ []) :
    digits? cs = some (cs, []) := by
  have hspan : cs.span Decimal.isDigit = (cs, []) := by
    rw [List.span_eq_takeWhile_dropWhile, List.takeWhile_eq_self_iff.mpr h, List.dropWhile_eq_nil_iff.mpr h]
  unfold digits?
  rw [hspan]
  cases cs with
  | nil => exact absurd rfl hne
  | cons c cs => rfl

theorem unsigned?_numeral (negative : Bool) (n : Nat) :
    unsigned? negative (Decimal.numeral n) = some ⟨negative, Decimal.numeral n, none, none⟩ := by
  have hdigits := digits?_of_isDigit (fun c => Decimal.isDigit_of_mem_numeral) (Decimal.numeral_ne_nil n)
  have hzero : ¬((Decimal.numeral n).length > 1 ∧ (Decimal.numeral n).head? = some '0') := fun h =>
    Decimal.head?_numeral_of_long h.1 h.2
  simp [unsigned?, hdigits, hzero, withExponent]

theorem bare?_of_ne {cs : List Char} (h : ∀ c ∈ cs.head?, c ≠ 'n' ∧ c ≠ 't' ∧ c ≠ 'f') :
    bare? cs = (written? cs).map Written.value := by
  have hn : cs ≠ ['n', 'u', 'l', 'l'] := fun hcs => (h 'n' (by rw [hcs]; rfl)).1 rfl
  have ht : cs ≠ ['t', 'r', 'u', 'e'] := fun hcs => (h 't' (by rw [hcs]; rfl)).2.1 rfl
  have hf : cs ≠ ['f', 'a', 'l', 's', 'e'] := fun hcs => (h 'f' (by rw [hcs]; rfl)).2.2 rfl
  rw [bare?, if_neg hn, if_neg ht, if_neg hf]

theorem bare?_numeral {n : Nat} (h : n < 2 ^ 64) : bare? (Decimal.numeral n) = some (.integer n) := by
  have hhead : ∀ c ∈ (Decimal.numeral n).head?, Decimal.isDigit c = true := fun c hc =>
    Decimal.isDigit_of_mem_numeral (List.mem_of_head? hc)
  have hletters : ∀ c ∈ (Decimal.numeral n).head?, c ≠ 'n' ∧ c ≠ 't' ∧ c ≠ 'f' := by
    intro c hc
    refine ⟨?_, ?_, ?_⟩ <;> rintro rfl <;> exact absurd (hhead _ hc) (by decide)
  have hwritten : written? (Decimal.numeral n) = unsigned? false (Decimal.numeral n) := by
    unfold written?
    split
    · rename_i cs hcs
      rw [hcs] at hhead
      exact absurd (hhead '-' rfl) (by decide)
    · rfl
  have hfits : n < Nat.pow 2 64 := h
  have hinteger : Written.integer? ⟨false, Decimal.numeral n, none, none⟩ = some (n : Int) := by
    simp only [Written.integer?, Decimal.value_numeral, Bool.false_eq_true, if_false, if_pos hfits]
  rw [bare?_of_ne hletters, hwritten, unsigned?_numeral, Option.map_some, Written.value, hinteger]

theorem bare?_negative {n : Nat} (h : n < 2 ^ 63) :
    bare? ('-' :: Decimal.numeral (n + 1)) = some (.integer (.negSucc n)) := by
  have hletters : ∀ c ∈ ('-' :: Decimal.numeral (n + 1)).head?, c ≠ 'n' ∧ c ≠ 't' ∧ c ≠ 'f' := by
    rintro c ⟨⟩
    decide
  have hfits : ¬(n + 1 = 0 ∨ Nat.pow 2 63 < n + 1) := by
    have hpow : Nat.pow 2 63 = 9223372036854775808 := rfl
    omega
  have hinteger : Written.integer? ⟨true, Decimal.numeral (n + 1), none, none⟩ = some (.negSucc n) := by
    simp only [Written.integer?, Decimal.value_numeral, if_true, if_neg hfits]
    rfl
  rw [bare?_of_ne hletters, written?, unsigned?_numeral, Option.map_some, Written.value, hinteger]

theorem bare?_integral {n : Int} (hlow : -2 ^ 63 ≤ n) (hhigh : n < 2 ^ 64) :
    bare? (Decimal.integral n) = some (.integer n) := by
  cases n with
  | ofNat n => exact bare?_numeral (Int.ofNat_lt.mp hhigh)
  | negSucc n => exact bare?_negative (by omega)

/-! ### Scanning -/

/-- The tokens of a text whose scan stands at a place. --/
def scanned? (s : Scan) (cs : List Char) : Option (List Token) := (cs.foldlM Scan.step s).bind Scan.finish

theorem scanned?_cons {s s' : Scan} {c : Char} (h : s.step c = some s') (cs : List Char) :
    scanned? s (c :: cs) = scanned? s' cs := by
  unfold scanned?
  rw [List.foldlM_cons, h]
  rfl

/-- The text ends what stands before it. --/
def Ending (cs : List Char) : Prop := ∀ c ∈ cs.head?, ends c = true

/-- The text is scanned into the tokens, wherever it stands before something that ends it. --/
def Scans (cs : List Char) (ts : List Token) : Prop :=
  ∀ before rest, Ending rest →
    scanned? ⟨.between, before⟩ (cs ++ rest) = scanned? ⟨.between, ts.reverse ++ before⟩ rest

variable {cs ds : List Char} {ts us : List Token}

theorem Scans.nil : Scans [] [] := fun _ _ _ => rfl

theorem Ending.append (hc : Ending cs) (hd : Ending ds) : Ending (cs ++ ds) := by
  intro c h
  rcases Option.or_eq_some_iff.mp (List.head?_append ▸ h) with h | ⟨-, h⟩
  · exact hc c h
  · exact hd c h

theorem Scans.append (hc : Scans cs ts) (hd : Scans ds us) (hends : Ending ds) : Scans (cs ++ ds) (ts ++ us) := by
  intro before rest hrest
  rw [List.append_assoc, hc _ _ (hends.append hrest), hd _ _ hrest, List.reverse_append, List.append_assoc]

theorem ends_cases {c : Char} (h : ends c = true) :
    c ∈ [' ', '\n', '\t', '\r', '\x22', '\x7b', '\x7d', '[', ']', ',', ':'] := by
  simp only [ends, isSpace, punctuation?, Bool.or_eq_true, decide_eq_true_eq] at h
  simp only [List.mem_cons, List.not_mem_nil, or_false]
  grind

/-- Anything may stand behind punctuation. --/
theorem Scans.punctuation {c : Char} {t : Token} (h : ∀ before, Scan.open before c = ⟨.between, t :: before⟩)
    (hd : Scans ds us) : Scans (c :: ds) (t :: us) := by
  intro before rest hrest
  have hstep : Scan.step ⟨.between, before⟩ c = some ⟨.between, t :: before⟩ := congrArg some (h before)
  rw [List.cons_append, scanned?_cons hstep, hd _ _ hrest, List.reverse_cons, List.append_assoc]
  rfl

theorem Scans.space {c : Char} (h : isSpace c = true) (hd : Scans ds us) : Scans (c :: ds) us := by
  intro before rest hrest
  have hstep : Scan.step ⟨.between, before⟩ c = some ⟨.between, before⟩ := by
    simp only [Scan.step, Scan.open, h, if_true]
  rw [List.cons_append, scanned?_cons hstep, hd _ _ hrest]

theorem Scans.newline (level : Nat) (hd : Scans ds us) : Scans (newline level ++ ds) us := by
  have hspaces : ∀ k, Scans (List.replicate k ' ' ++ ds) us := by
    intro k
    induction k with
    | zero => exact hd
    | succ k ih => exact ih.space rfl
  exact (hspaces _).space rfl

/-! ### Words -/

theorem scanned?_letters (before : List Token) {seen : List Char} (h : ∀ c ∈ cs, ends c = false) (rest : List Char) :
    scanned? ⟨.word seen, before⟩ (cs ++ rest) = scanned? ⟨.word (cs.reverse ++ seen), before⟩ rest := by
  induction cs generalizing seen with
  | nil => rfl
  | cons c cs ih =>
    obtain ⟨hc, hcs⟩ := List.forall_mem_cons.mp h
    have hstep : Scan.step ⟨.word seen, before⟩ c = some ⟨.word (c :: seen), before⟩ := by
      simp only [Scan.step, hc, Bool.false_eq_true, if_false]
    rw [List.cons_append, scanned?_cons hstep, ih hcs, List.reverse_cons, List.append_assoc]
    rfl

/-- A word becomes a token when it is ended. --/
theorem scanned?_word {seen : List Char} {v : Json} (h : bare? seen.reverse = some v) (before : List Token)
    {rest : List Char} (hrest : Ending rest) :
    scanned? ⟨.word seen, before⟩ rest = scanned? ⟨.between, .bare v :: before⟩ rest := by
  cases rest with
  | nil => simp [scanned?, Scan.finish, h]
  | cons c rest =>
    have hc : ends c = true := hrest c rfl
    have hstep : Scan.step ⟨.word seen, before⟩ c = some (Scan.open (.bare v :: before) c) := by
      simp only [Scan.step, hc, if_true, h, Option.map_some]
    have hnext : Scan.step ⟨.between, .bare v :: before⟩ c = some (Scan.open (.bare v :: before) c) := rfl
    rw [scanned?_cons hstep, scanned?_cons hnext]

theorem open_of_not_ends {c : Char} (h : ends c = false) (before : List Token) :
    Scan.open before c = ⟨.word [c], before⟩ := by
  simp only [ends, Bool.or_eq_false_iff, decide_eq_false_iff_not, Option.isSome_eq_false_iff,
    Option.isNone_iff_eq_none] at h
  obtain ⟨⟨hspace, hquote⟩, hpunctuation⟩ := h
  simp only [Scan.open, hspace, hquote, hpunctuation, Bool.false_eq_true, if_false]

theorem Scans.word {v : Json} (h : bare? cs = some v) (hne : cs ≠ []) (hends : ∀ c ∈ cs, ends c = false) :
    Scans cs [.bare v] := by
  intro before rest hrest
  cases cs with
  | nil => exact absurd rfl hne
  | cons c cs =>
    obtain ⟨hc, hcs⟩ := List.forall_mem_cons.mp hends
    have hstep : Scan.step ⟨.between, before⟩ c = some ⟨.word [c], before⟩ := congrArg some (open_of_not_ends hc before)
    have hword : bare? (cs.reverse ++ [c]).reverse = some v := by simpa using h
    rw [List.cons_append, scanned?_cons hstep, scanned?_letters _ hcs, scanned?_word hword _ hrest]
    rfl

theorem not_ends_of_isDigit {c : Char} (h : Decimal.isDigit c = true) : ends c = false := by
  refine eq_false_of_ne_true fun hends => ?_
  have hcases := ends_cases hends
  simp only [List.mem_cons, List.not_mem_nil, or_false] at hcases
  rcases hcases with rfl | rfl | rfl | rfl | rfl | rfl | rfl | rfl | rfl | rfl | rfl <;> exact absurd h (by decide)

theorem Scans.integral {n : Int} (hlow : -2 ^ 63 ≤ n) (hhigh : n < 2 ^ 64) :
    Scans (Decimal.integral n) [.bare (.integer n)] := by
  refine .word (bare?_integral hlow hhigh) ?_ ?_
  · cases n with
    | ofNat n => exact Decimal.numeral_ne_nil n
    | negSucc n => exact List.cons_ne_nil _ _
  · have hdigits (n : Nat) : ∀ c ∈ Decimal.numeral n, ends c = false := fun c hc =>
      not_ends_of_isDigit (Decimal.isDigit_of_mem_numeral hc)
    cases n with
    | ofNat n => exact hdigits n
    | negSucc n => exact List.forall_mem_cons.mpr ⟨by decide, hdigits (n + 1)⟩

/-! ### Quoted texts -/

/-- A piece of a quoted text that stands for a character. --/
inductive Piece.Writes (c : Char) : Piece → Prop
  | plain : Writes c (.plain c)
  | unit : c.toNat < 0x20 → Writes c (.unit c.toNat)

theorem assemble_unit {n : Nat} (h : n < 0x20) (pieces : List Piece) :
    assemble (.unit n :: pieces) = (assemble pieces).map (Char.ofNat n :: ·) := by
  have hhigh : Text.isHigh n = false := by
    simp only [Text.isHigh, Bool.and_eq_false_iff, decide_eq_false_iff_not]
    omega
  have hlow : Text.isLow n = false := by
    simp only [Text.isLow, Bool.and_eq_false_iff, decide_eq_false_iff_not]
    omega
  cases pieces with
  | nil => simp [assemble, hhigh, hlow]
  | cons piece pieces => cases piece <;> simp [assemble, hhigh, hlow]

theorem assemble_writes {pieces : List Piece} (h : List.Forall₂ Piece.Writes cs pieces) :
    assemble pieces = some cs := by
  induction h with
  | nil => rfl
  | @cons c piece cs pieces hc _ ih =>
    cases hc with
    | plain => rw [assemble, ih, Option.map_some]
    | unit hsmall => rw [assemble_unit hsmall, ih, Option.map_some, Char.ofNat_toNat]

theorem step_unit (seen : List Piece) (digits value : Nat) (before : List Token) (d : Fin 16) :
    Scan.step ⟨.unit seen digits value, before⟩ (Hex.small d) =
      some (if digits = 3 then ⟨.quoted (.unit (value * 16 + d.val) :: seen), before⟩
        else ⟨.unit seen (digits + 1) (value * 16 + d.val), before⟩) := by
  simp only [Scan.step, Hex.digit?_small, Option.map_some]

/-- A control character is scanned from the four digits of its number. --/
theorem scanned?_control {n : Nat} (h : n < 0x20) (seen : List Piece) (before : List Token) (rest : List Char) :
    scanned? ⟨.quoted seen, before⟩ (['\x5c', 'u', '0', '0'] ++ Hex.pair Hex.small n ++ rest) =
      scanned? ⟨.quoted (.unit n :: seen), before⟩ rest := by
  have hvalue : (Fin.ofNat 16 (n / 16)).val * 16 + (Fin.ofNat 16 n).val = n := by
    simp only [Fin.ofNat]
    omega
  -- The two zeros add nothing, so that the scan stands behind them with two digits still to come.
  have hfirst := step_unit seen 2 0 before (Fin.ofNat 16 (n / 16))
  have hsecond := step_unit seen 3 (0 * 16 + (Fin.ofNat 16 (n / 16)).val) before (Fin.ofNat 16 n)
  rw [if_neg (by decide)] at hfirst
  rw [if_pos rfl, Nat.zero_mul, Nat.zero_add, hvalue] at hsecond
  rw [Nat.zero_mul, Nat.zero_add] at hfirst
  have hstart : scanned? ⟨.quoted seen, before⟩ (['\x5c', 'u', '0', '0'] ++ Hex.pair Hex.small n ++ rest) =
      scanned? ⟨.unit seen 2 0, before⟩ (Hex.pair Hex.small n ++ rest) := rfl
  rw [hstart, Hex.pair, List.cons_append, List.cons_append, List.nil_append, scanned?_cons hfirst,
    scanned?_cons hsecond]

/-- A character is scanned into one piece, as it stands or escaped. --/
theorem scanned?_escapedChar (c : Char) : ∃ piece, Piece.Writes c piece ∧ ∀ seen before rest,
    scanned? ⟨.quoted seen, before⟩ (escapedChar c ++ rest) = scanned? ⟨.quoted (piece :: seen), before⟩ rest := by
  -- The characters with an escape of their own, then the other control characters, then all others.
  by_cases hshort : c ∈ ['\x22', '\x5c', '\x08', '\x0c', '\n', '\r', '\t']
  · refine ⟨_, .plain, fun seen before rest => ?_⟩
    simp only [List.mem_cons, List.not_mem_nil, or_false] at hshort
    rcases hshort with rfl | rfl | rfl | rfl | rfl | rfl | rfl <;> rfl
  · simp only [List.mem_cons, List.not_mem_nil, or_false, not_or] at hshort
    obtain ⟨hquote, hbackslash, hb, hf, hn, hr, ht⟩ := hshort
    simp only [escapedChar, hquote, hbackslash, hb, hf, hn, hr, ht, if_false]
    split
    · rename_i hcontrol
      exact ⟨_, .unit hcontrol, scanned?_control hcontrol⟩
    · rename_i hplain
      refine ⟨_, .plain, fun seen before rest => scanned?_cons ?_ rest⟩
      simp only [Scan.step, hquote, hbackslash, hplain, if_false]

theorem scanned?_text (cs : List Char) : ∃ pieces, List.Forall₂ Piece.Writes cs pieces ∧ ∀ seen before rest,
    scanned? ⟨.quoted seen, before⟩ (cs.flatMap escapedChar ++ rest) =
      scanned? ⟨.quoted (pieces.reverse ++ seen), before⟩ rest := by
  induction cs with
  | nil => exact ⟨[], .nil, fun _ _ _ => rfl⟩
  | cons c cs ih =>
    obtain ⟨piece, hpiece, hc⟩ := scanned?_escapedChar c
    obtain ⟨pieces, hpieces, hcs⟩ := ih
    refine ⟨piece :: pieces, .cons hpiece hpieces, fun seen before rest => ?_⟩
    rw [List.flatMap_cons, List.append_assoc, hc, hcs, List.reverse_cons, List.append_assoc]
    rfl

theorem Scans.quotedText (s : String) : Scans (quotedText s) [.quoted (some s)] := by
  intro before rest hrest
  obtain ⟨pieces, hpieces, hscan⟩ := scanned?_text s.toList
  have hopen : Scan.step ⟨.between, before⟩ '\x22' = some ⟨.quoted [], before⟩ := rfl
  have hclose : Scan.step ⟨.quoted (pieces.reverse ++ []), before⟩ '\x22' =
      some ⟨.between, closeText (pieces.reverse ++ []) :: before⟩ := rfl
  have htoken : closeText (pieces.reverse ++ []) = .quoted (some s) := by
    rw [closeText, List.append_nil, List.reverse_reverse, assemble_writes hpieces, Option.map_some,
      String.ofList_toList]
  rw [Json.quotedText, List.append_assoc, List.cons_append, scanned?_cons hopen, hscan, List.cons_append,
    scanned?_cons hclose, htoken]
  rfl

/-! ### Tokens -/

mutual

/-- The tokens of the text of a value. --/
def tokens : Json → List Token
  | .array items => .openBracket :: (itemTokens items ++ [.closeBracket])
  | .object members => .openBrace :: (memberTokens members ++ [.closeBrace])
  | .string s => [.quoted (some s)]
  | v => [.bare v]

def itemTokens : List Json → List Token
  | [] => []
  | [v] => tokens v
  | v :: rest => tokens v ++ .comma :: itemTokens rest

def memberTokens : List (String × Json) → List Token
  | [] => []
  | [(k, v)] => .quoted (some k) :: .colon :: tokens v
  | (k, v) :: rest => .quoted (some k) :: .colon :: tokens v ++ .comma :: memberTokens rest

end

theorem ending_cons {c : Char} (h : ends c = true) (cs : List Char) : Ending (c :: cs) := by
  rintro _ ⟨⟩
  exact h

theorem Scans.items {level : Nat} {items : List Json} (h : ∀ v ∈ items, Scans (indented level v) (tokens v)) :
    Scans (indentedItems level items) (itemTokens items) := by
  induction items with
  | nil => exact .nil
  | cons v items ih =>
    obtain ⟨hv, hitems⟩ := List.forall_mem_cons.mp h
    cases items with
    | nil => exact hv
    | cons next items =>
      have hrest : Scans (',' :: Json.newline level ++ indentedItems level (next :: items))
          (.comma :: itemTokens (next :: items)) := .punctuation (fun _ => rfl) (.newline level (ih hitems))
      have hall := hv.append hrest (ending_cons rfl _)
      rw [← List.append_assoc] at hall
      exact hall

theorem Scans.member {level : Nat} {v : Json} (k : String) (h : Scans (indented level v) (tokens v)) :
    Scans (Json.quotedText k ++ ':' :: ' ' :: indented level v) (.quoted (some k) :: .colon :: tokens v) := by
  have hvalue : Scans (':' :: ' ' :: indented level v) (.colon :: tokens v) :=
    .punctuation (fun _ => rfl) (.space rfl h)
  exact (Scans.quotedText k).append hvalue (ending_cons rfl _)

theorem Scans.members {level : Nat} {members : List (String × Json)}
    (h : ∀ m ∈ members, Scans (indented level m.2) (tokens m.2)) :
    Scans (indentedMembers level members) (memberTokens members) := by
  induction members with
  | nil => exact .nil
  | cons m members ih =>
    obtain ⟨hm, hmembers⟩ := List.forall_mem_cons.mp h
    cases members with
    | nil => exact .member m.1 hm
    | cons next members =>
      have hrest : Scans (',' :: Json.newline level ++ indentedMembers level (next :: members))
          (.comma :: memberTokens (next :: members)) := .punctuation (fun _ => rfl) (.newline level (ih hmembers))
      have hall := (Scans.member m.1 hm).append hrest (ending_cons rfl _)
      rw [← List.append_assoc] at hall
      exact hall

/-- What stands in brackets is scanned with them, on lines of its own. --/
theorem Scans.enclosed {opening closing : Char} {first last : Token} (level : Nat) (hd : Scans ds us)
    (hfirst : ∀ before, Scan.open before opening = ⟨.between, first :: before⟩)
    (hlast : ∀ before, Scan.open before closing = ⟨.between, last :: before⟩) :
    Scans (opening :: Json.newline (level + 1) ++ ds ++ Json.newline level ++ [closing]) (first :: (us ++ [last])) := by
  have hclosing : Scans (Json.newline level ++ [closing]) [last] := .newline level (.punctuation hlast .nil)
  have hinside := hd.append hclosing (ending_cons rfl _)
  have hlines := Scans.punctuation hfirst (hinside.newline (level + 1))
  simpa only [List.cons_append, List.append_assoc] using hlines

/-- The text of a value is scanned into its tokens. --/
theorem Faithful.scans {v : Json} (h : v.Faithful) (level : Nat) : Scans (indented level v) (tokens v) := by
  induction h generalizing level with
  | null =>
    have hends : ∀ c ∈ ['n', 'u', 'l', 'l'], ends c = false := by simp [ends, isSpace, punctuation?]
    exact .word rfl (List.cons_ne_nil _ _) hends
  | bool b =>
    have hends : ∀ c ∈ scalarText (.bool b), ends c = false := by
      cases b <;> simp [scalarText, ends, isSpace, punctuation?]
    cases b <;> exact .word rfl (List.cons_ne_nil _ _) hends
  | integer hlow hhigh => exact .integral hlow hhigh
  | string s => exact .quotedText s
  | @array items _ ih =>
    cases items with
    | nil => exact .punctuation (fun _ => rfl) (.punctuation (fun _ => rfl) .nil)
    | cons v items => exact .enclosed level (.items fun v hv => ih v hv (level + 1)) (fun _ => rfl) fun _ => rfl
  | @object members _ ih =>
    cases members with
    | nil => exact .punctuation (fun _ => rfl) (.punctuation (fun _ => rfl) .nil)
    | cons m members => exact .enclosed level (.members fun m hm => ih m hm (level + 1)) (fun _ => rfl) fun _ => rfl

theorem tokens?_page {v : Json} (h : v.Faithful) : tokens? v.page.toList = some (tokens v) := by
  have hscan := h.scans 0 [] [] fun _ hc => nomatch hc
  rw [List.append_nil, List.append_nil] at hscan
  rw [page, String.toList_ofList]
  exact hscan.trans (congrArg some (List.reverse_reverse _))

/-! ### Building -/

def Build.run (b : Build) (ts : List Token) : Option Build := ts.foldlM step b

theorem run_cons {b b' : Build} {t : Token} (h : b.step t = some b') (ts : List Token) :
    b.run (t :: ts) = b'.run ts := by
  unfold Build.run
  rw [List.foldlM_cons, h]
  rfl

theorem run_append (b : Build) (ts us : List Token) : b.run (ts ++ us) = (b.run ts).bind fun b' => b'.run us :=
  List.foldlM_append ..

theorem run_last (b : Build) (t : Token) : b.run [t] = b.step t := by
  unfold Build.run
  rw [List.foldlM_cons]
  cases b.step t <;> rfl

/-- A value may stand next. --/
inductive Turn.TakesValue : Turn → Prop
  | value : TakesValue .value
  | item : TakesValue .itemOrClose

/-- A key may stand next. --/
inductive Turn.TakesKey : Turn → Prop
  | key : TakesKey .key
  | first : TakesKey .keyOrClose

/-- The tokens of the value put it where it belongs. --/
def Builds (v : Json) : Prop :=
  ∀ stack turn, Turn.TakesValue turn → Build.run ⟨stack, turn⟩ (tokens v) = Build.put stack v

theorem run_itemTokens {items : List Json} (h : ∀ v ∈ items, v.Builds) (hne : items ≠ []) (stack : List Container)
    (seen : List Json) {turn : Turn} (hturn : turn.TakesValue) :
    Build.run ⟨.array seen :: stack, turn⟩ (itemTokens items) =
      some ⟨.array (items.reverse ++ seen) :: stack, .separator⟩ := by
  induction items generalizing seen turn with
  | nil => exact absurd rfl hne
  | cons v items ih =>
    obtain ⟨hv, hitems⟩ := List.forall_mem_cons.mp h
    cases items with
    | nil => exact hv _ _ hturn
    | cons next items =>
      have hcomma : Build.step ⟨.array (v :: seen) :: stack, .separator⟩ .comma =
          some ⟨.array (v :: seen) :: stack, .value⟩ := rfl
      have hrest := ih hitems (List.cons_ne_nil _ _) (v :: seen) .value
      rw [itemTokens, run_append, hv _ _ hturn, Build.put, Option.bind_some, run_cons hcomma, hrest]
      · simp only [List.reverse_cons, List.append_assoc, List.cons_append, List.nil_append]
      · exact List.cons_ne_nil _ _

theorem run_memberTokens {members : List (String × Json)} (h : ∀ m ∈ members, m.2.Builds) (hne : members ≠ [])
    (stack : List Container) (seen : Members) {turn : Turn} (hturn : turn.TakesKey) :
    Build.run ⟨.object seen :: stack, turn⟩ (memberTokens members) =
      some ⟨.object ((members.map fun m => (some m.1, m.2)).reverse ++ seen) :: stack, .separator⟩ := by
  induction members generalizing seen turn with
  | nil => exact absurd rfl hne
  | cons m members ih =>
    obtain ⟨hm, hmembers⟩ := List.forall_mem_cons.mp h
    have hkey : Build.step ⟨.object seen :: stack, turn⟩ (.quoted (some m.1)) =
        some ⟨.object seen :: stack, .colon (some m.1)⟩ := by cases hturn <;> rfl
    have hcolon : Build.step ⟨.object seen :: stack, .colon (some m.1)⟩ .colon =
        some ⟨.member seen (some m.1) :: stack, .value⟩ := rfl
    have hvalue := hm (.member seen (some m.1) :: stack) .value .value
    cases members with
    | nil =>
      rw [memberTokens, run_cons hkey, run_cons hcolon, hvalue]
      rfl
    | cons next members =>
      have hcomma : Build.step ⟨.object ((some m.1, m.2) :: seen) :: stack, .separator⟩ .comma =
          some ⟨.object ((some m.1, m.2) :: seen) :: stack, .key⟩ := rfl
      have hrest := ih hmembers (List.cons_ne_nil _ _) ((some m.1, m.2) :: seen) .key
      rw [memberTokens, List.cons_append, List.cons_append, run_cons hkey, run_cons hcolon, run_append, hvalue,
        Build.put, Option.bind_some, run_cons hcomma, hrest]
      · simp only [List.map_cons, List.reverse_cons, List.append_assoc, List.cons_append, List.nil_append]
      · exact List.cons_ne_nil _ _

theorem ofMembers_readable (members : List (String × Json)) :
    ofMembers (members.map fun m => (some m.1, m.2)).reverse = .object members := by
  have hkeys : (members.map fun m => (some m.1, m.2)).mapM (fun m => m.1.map fun key => (key, m.2)) = some members :=
    mapM_eq_some.mpr (List.forall₂_map_left_iff.mpr (List.forall₂_same.mpr fun m _ => rfl))
  rw [ofMembers, List.reverse_reverse, hkeys]

theorem Faithful.builds {v : Json} (h : v.Faithful) : v.Builds := by
  induction h with
  | null | bool | integer | string =>
    rintro stack turn ⟨⟩ <;> exact run_last _ _
  | @array items _ ih =>
    intro stack turn hturn
    have hopen : Build.step ⟨stack, turn⟩ .openBracket = some ⟨.array [] :: stack, .itemOrClose⟩ := by
      cases hturn <;> rfl
    rw [tokens, run_cons hopen]
    cases items with
    | nil => exact run_last _ _
    | cons v items =>
      have hitems := run_itemTokens ih (List.cons_ne_nil _ _) stack [] .item
      rw [run_append, hitems, Option.bind_some, run_last]
      simp only [Build.step, Build.close, List.append_nil, List.reverse_reverse]
  | @object members _ ih =>
    intro stack turn hturn
    have hopen : Build.step ⟨stack, turn⟩ .openBrace = some ⟨.object [] :: stack, .keyOrClose⟩ := by
      cases hturn <;> rfl
    rw [tokens, run_cons hopen]
    cases members with
    | nil => exact run_last _ _
    | cons m members =>
      have hmembers := run_memberTokens ih (List.cons_ne_nil _ _) stack [] .first
      rw [run_append, hmembers, Option.bind_some, run_last, List.append_nil]
      simp only [Build.step, Build.close, ofMembers_readable]

/-- A value that was written is read back. --/
theorem read?_page {v : Json} (h : v.Faithful) : read? v.page = some v := by
  have hbuilt := h.builds [] .value .value
  unfold Build.run at hbuilt
  rw [read?, tokens?_page h, Option.bind_some, ofTokens?, hbuilt]
  rfl

end Json
end Cutroom
