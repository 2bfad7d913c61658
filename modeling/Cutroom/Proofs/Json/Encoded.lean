import Cutroom.Json.Reader

/-! JSON texts as bytes (`Json.readBytes?_toUTF8`). The bytes of a text are read back as its characters, each from the bytes
    that stand for it, so that a JSON text is read the same whether or not it has been encoded. -/

namespace Cutroom

namespace Text

/-! ### The first byte of a character -/

/-- The number of a character. --/
def IsScalar (n : Nat) : Prop := n < 0xD800 ∨ 0xDFFF < n ∧ n < 0x110000

/-- The first byte of a character holds these bits of it, and the second byte is one that may follow. --/
def Opens (first second bits more : Nat) : Prop :=
  ∃ low high, lead first = .inr ⟨bits, low, high, more⟩ ∧ low ≤ second ∧ second ≤ high

theorem opens_two {n : Nat} (hlow : 0x7F < n) (hhigh : n ≤ 0x7FF) :
    Opens (n / 64 % 32 + 192) (n % 64 + 128) (n / 64) 0 := by
  refine ⟨0x80, 0xBF, ?_, by omega, by omega⟩
  have hbits : n / 64 % 32 + 192 - 0xC0 = n / 64 := by omega
  unfold lead
  rw [if_neg (by omega), if_neg (by omega), if_pos (by omega), hbits]

theorem lead_three {k : Nat} (hlow : 0 < k) (hne : k ≠ 0xD) (hhigh : k < 0x10) :
    lead (k + 224) = .inr ⟨k, 0x80, 0xBF, 1⟩ := by
  have hbits : k + 224 - 0xE0 = k := by omega
  unfold lead
  rw [if_neg (by omega), if_neg (by omega), if_neg (by omega), if_neg (by omega), if_neg (by omega), if_pos (by omega),
    hbits]

theorem lead_four {k : Nat} (hlow : 0 < k) (hhigh : k < 4) : lead (k + 240) = .inr ⟨k, 0x80, 0xBF, 2⟩ := by
  have hbits : k + 240 - 0xF0 = k := by omega
  unfold lead
  rw [if_neg (by omega), if_neg (by omega), if_neg (by omega), if_neg (by omega), if_neg (by omega), if_neg (by omega),
    if_neg (by omega), if_pos (by omega), hbits]

/-- The range of the second byte excludes the numbers that have a shorter form, or are those of no character. --/
theorem opens_three {n : Nat} (hn : IsScalar n) (hlow : 0x7FF < n) (hhigh : n ≤ 0xFFFF) :
    Opens (n / 4096 % 16 + 224) (n / 64 % 64 + 128) (n / 4096) 1 := by
  have hbits : n / 4096 % 16 = n / 4096 := by omega
  rw [hbits]
  by_cases hshort : n / 4096 = 0
  · rw [hshort]
    exact ⟨0xA0, 0xBF, by simp [lead], by omega, by omega⟩
  · by_cases hhalf : n / 4096 = 0xD
    · -- Behind this byte the numbers of half pairs would begin.
      have hbelow : n < 0xD800 := hn.resolve_right (by omega)
      rw [hhalf]
      exact ⟨0x80, 0x9F, by simp [lead], by omega, by omega⟩
    · exact ⟨0x80, 0xBF, lead_three (by omega) (by omega) (by omega), by omega, by omega⟩

theorem opens_four {n : Nat} (hn : IsScalar n) (hlow : 0xFFFF < n) :
    Opens (n / 262144 % 8 + 240) (n / 4096 % 64 + 128) (n / 262144) 2 := by
  have hhigh : n < 0x110000 := (hn.resolve_left (by omega)).2
  have hbits : n / 262144 % 8 = n / 262144 := by omega
  rw [hbits]
  by_cases hshort : n / 262144 = 0
  · rw [hshort]
    exact ⟨0x90, 0xBF, by simp [lead], by omega, by omega⟩
  · by_cases hlast : n / 262144 = 4
    · rw [hlast]
      exact ⟨0x80, 0x8F, by simp [lead], by omega, by omega⟩
    · exact ⟨0x80, 0xBF, lead_four (by omega) (by omega), by omega, by omega⟩

/-! ### The bytes of a character -/

variable {done : List (Option Char)}

theorem push_first {bits low high more b : Nat} (hb : b < 256) (h : lead b = .inr ⟨bits, low, high, more⟩) :
    Reading8.push ⟨done, none⟩ (UInt8.ofNat b) = ⟨done, some ⟨bits, low, high, more⟩⟩ := by
  simp only [Reading8.push, Reading8.start, UInt8.toNat_ofNat', Nat.mod_eq_of_lt hb, h]

theorem push_next {bits low high more k : Nat} (hlow : low ≤ k % 64 + 128) (hhigh : k % 64 + 128 ≤ high) :
    Reading8.push ⟨done, some ⟨bits, low, high, more + 1⟩⟩ (UInt8.ofNat (k % 64 + 128)) =
      ⟨done, some ⟨bits * 64 + k % 64, 0x80, 0xBF, more⟩⟩ := by
  have hb : (k % 64 + 128) % 2 ^ 8 = k % 64 + 128 := by omega
  simp only [Reading8.push, UInt8.toNat_ofNat', hb, hlow, hhigh, and_self, if_true, Nat.add_sub_cancel]

theorem push_last {bits low high k : Nat} (hlow : low ≤ k % 64 + 128) (hhigh : k % 64 + 128 ≤ high) :
    Reading8.push ⟨done, some ⟨bits, low, high, 0⟩⟩ (UInt8.ofNat (k % 64 + 128)) =
      ⟨some (Char.ofNat (bits * 64 + k % 64)) :: done, none⟩ := by
  have hb : (k % 64 + 128) % 2 ^ 8 = k % 64 + 128 := by omega
  simp only [Reading8.push, UInt8.toNat_ofNat', hb, hlow, hhigh, and_self, if_true, Nat.add_sub_cancel]

/-- The bytes of a character are read as that character. --/
theorem foldl_push_utf8EncodeChar (done : List (Option Char)) (c : Char) :
    (String.utf8EncodeChar c).foldl Reading8.push ⟨done, none⟩ = ⟨some c :: done, none⟩ := by
  have hn : IsScalar c.val.toNat := c.valid
  have hc : Char.ofNat c.val.toNat = c := Char.ofNat_toNat c
  unfold String.utf8EncodeChar
  generalize c.val.toNat = n at hn hc
  dsimp only
  split
  · have hb : n % 2 ^ 8 = n := by omega
    simp only [List.foldl_cons, List.foldl_nil, Reading8.push, Reading8.start, lead, UInt8.toNat_ofNat', hb,
      if_pos (show n < 0x80 by omega), hc]
  · split
    · obtain ⟨low, high, hlead, hlow, hhigh⟩ := opens_two (n := n) (by omega) (by omega)
      have hbits : n / 64 * 64 + n % 64 = n := by omega
      rw [List.foldl_cons, push_first (by omega) hlead, List.foldl_cons, push_last hlow hhigh, List.foldl_nil, hbits, hc]
    · split
      · obtain ⟨low, high, hlead, hlow, hhigh⟩ := opens_three hn (by omega) (by omega)
        have hbits : (n / 4096 * 64 + n / 64 % 64) * 64 + n % 64 = n := by omega
        rw [List.foldl_cons, push_first (by omega) hlead, List.foldl_cons, push_next hlow hhigh, List.foldl_cons,
          push_last (by omega) (by omega), List.foldl_nil, hbits, hc]
      · obtain ⟨low, high, hlead, hlow, hhigh⟩ := opens_four hn (by omega)
        have hbits : ((n / 262144 * 64 + n / 4096 % 64) * 64 + n / 64 % 64) * 64 + n % 64 = n := by omega
        rw [List.foldl_cons, push_first (by omega) hlead, List.foldl_cons, push_next hlow hhigh, List.foldl_cons,
          push_next (by omega) (by omega), List.foldl_cons, push_last (by omega) (by omega), List.foldl_nil, hbits, hc]

/-- The bytes of a text are read as its characters. --/
theorem characters_toUTF8 (s : String) : characters s.toUTF8 = s.toList.map some := by
  have hfold : ∀ (cs : List Char) (done : List (Option Char)),
      (cs.flatMap String.utf8EncodeChar).foldl Reading8.push ⟨done, none⟩ = ⟨(cs.map some).reverse ++ done, none⟩ := by
    intro cs
    induction cs with
    | nil => exact fun _ => rfl
    | cons c cs ih =>
      intro done
      rw [List.flatMap_cons, List.foldl_append, foldl_push_utf8EncodeChar, ih]
      simp
  have hbytes : s.toUTF8.data.toList = s.toList.flatMap String.utf8EncodeChar := by
    rw [String.toUTF8, ← String.utf8Encode_toList, List.utf8Encode, List.data_toByteArray]
  rw [characters, hbytes, hfold]
  simp [Reading8.finish]

end Text

namespace Json

/-- Whole characters are scanned as ever. --/
theorem damagedTokens?_map_some (cs : List Char) : damagedTokens? (cs.map some) = tokens? cs := by
  have hfold : ∀ s : Scan, (cs.map some).foldlM Scan.feed s = cs.foldlM Scan.step s := by
    induction cs with
    | nil => exact fun _ => rfl
    | cons c cs ih =>
      intro s
      rw [List.map_cons, List.foldlM_cons, List.foldlM_cons]
      exact congrArg _ (funext ih)
  rw [damagedTokens?, hfold, tokens?]

/-- A text is read from its bytes as it is read itself. --/
theorem readBytes?_toUTF8 (s : String) : readBytes? s.toUTF8 = read? s := by
  rw [readBytes?, Text.characters_toUTF8, damagedTokens?_map_some, read?]

end Json
end Cutroom
