import Cutroom.Proofs.Json.Kept
import Cutroom.Timeline.Record

/-! Identifiers as they are written: an identifier of a document is read back from its text (`Uuid.ofText?_text`). -/

namespace Cutroom

theorem Hex.digit?_small (d : Fin 16) : Hex.digit? (Hex.small d) = some d := by
  revert d
  decide

namespace Uuid

theorem plain?_small (u : Uuid) : plain? (u.digits.map Hex.small) = some u := by
  have hdigits : (u.digits.map Hex.small).mapM Hex.digit? = some u.digits :=
    Json.mapM_eq_some.mpr (List.forall₂_map_left_iff.mpr (List.forall₂_same.mpr fun d _ => Hex.digit?_small d))
  unfold plain?
  rw [hdigits]
  exact dif_pos u.count

theorem length_hyphenated {cs : List Char} (h : cs.length = 32) : (hyphenated cs).length = 36 := by
  simp [hyphenated, h]

theorem grouped?_hyphenated {cs : List Char} (h : cs.length = 32) : grouped? (hyphenated cs) = plain? cs := by
  have hgroups : cs.take 8 ++ ((cs.drop 8).take 4 ++ ((cs.drop 12).take 4 ++ ((cs.drop 16).take 4 ++ cs.drop 20))) =
      cs := by
    have hrest (n : Nat) : cs.drop (n + 4) = (cs.drop n).drop 4 := List.drop_drop.symm
    rw [hrest 16, List.take_append_drop, hrest 12, List.take_append_drop, hrest 8, List.take_append_drop,
      List.take_append_drop]
  unfold grouped?
  rw [if_pos (length_hyphenated h)]
  simp [hyphenated, List.drop_append, List.drop_of_length_le, h, hgroups]

theorem ofText?_text (u : Uuid) : ofText? u.text = some u := by
  have hlength : (u.digits.map Hex.small).length = 32 := by rw [List.length_map, u.count]
  have hchars : u.chars.length = 36 := length_hyphenated hlength
  unfold ofText? text ofChars?
  rw [String.toList_ofList, hchars, if_neg (by decide), if_pos rfl]
  exact (grouped?_hyphenated hlength).trans (plain?_small u)

end Uuid

theorem Identifier.keeps : Json.Keeps Identifier.toJson Identifier.ofJson? := by
  intro v id _ h
  obtain ⟨text, -, h⟩ := Option.bind_eq_some_iff.mp h
  obtain ⟨u, -, h⟩ := Option.bind_eq_some_iff.mp h
  cases h
  have htext : Json.string? (Identifier.toJson (.known u)) = some u.text := rfl
  rw [Identifier.ofJson?, htext, Option.bind_eq_bind, Option.bind_some, Uuid.ofText?_text]
  rfl

end Cutroom
