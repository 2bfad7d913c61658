import Cutroom.Json.Reader
import Mathlib

/-! Whole numbers that are read fit a word of 64 bits (`Json.read?_fits`). The reader takes a number for a whole one
    only where it fits, and all that it puts together later is made of what it has read. -/

namespace Cutroom
namespace Json

/-- The whole numbers in a value fit a word of 64 bits, signed or not. --/
inductive Fits : Json → Prop where
  | null : Fits .null
  | bool (b : Bool) : Fits (.bool b)
  | integer {n : Int} : -2 ^ 63 ≤ n → n < 2 ^ 64 → Fits (.integer n)
  | real (x : Float) : Fits (.real x)
  | string (s : String) : Fits (.string s)
  | array {items : List Json} : (∀ v ∈ items, Fits v) → Fits (.array items)
  | object {members : List (String × Json)} : (∀ m ∈ members, Fits m.2) → Fits (.object members)
  | unreadable : Fits .unreadable

/-- What holds at first and is kept by each step holds at the end. --/
theorem foldlM_keeps {α β : Type} {step : β → α → Option β} {P : β → Prop} {xs : List α}
    (hstep : ∀ x ∈ xs, ∀ b b', P b → step b x = some b' → P b') :
    ∀ {b b' : β}, P b → xs.foldlM step b = some b' → P b' := by
  induction xs with
  | nil =>
    intro b b' hb h
    cases h
    exact hb
  | cons x xs ih =>
    intro b b' hb h
    obtain ⟨c, hc, h⟩ := Option.bind_eq_some_iff.mp ((List.foldlM_cons ..).symm.trans h)
    have hrest : ∀ y ∈ xs, ∀ b b', P b → step b y = some b' → P b' :=
      fun y hy => hstep y (List.mem_cons_of_mem _ hy)
    exact ih hrest (hstep x List.mem_cons_self b c hb hc) h

/-- A list is mapped to a result where each element is mapped to the result at its place. --/
theorem mapM_eq_some {α β : Type} {f : α → Option β} {xs : List α} :
    ∀ {ys : List β}, xs.mapM f = some ys ↔ List.Forall₂ (fun x y => f x = some y) xs ys := by
  induction xs with
  | nil =>
    intro ys
    rw [List.mapM_nil, List.forall₂_nil_left_iff]
    constructor
    · intro h
      cases h
      rfl
    · rintro rfl
      rfl
  | cons x xs ih =>
    intro ys
    rw [List.mapM_cons, List.forall₂_cons_left_iff]
    constructor
    · intro h
      obtain ⟨y, hy, h⟩ := Option.bind_eq_some_iff.mp h
      obtain ⟨rest, hrest, h⟩ := Option.bind_eq_some_iff.mp h
      cases h
      exact ⟨y, rest, hy, ih.mp hrest, rfl⟩
    · rintro ⟨y, rest, hy, hrest, rfl⟩
      rw [hy, ih.mpr hrest]
      rfl

theorem exists_of_mem_mapM {α β : Type} {f : α → Option β} {xs : List α} {ys : List β} (h : xs.mapM f = some ys)
    {y : β} (hy : y ∈ ys) : ∃ x ∈ xs, f x = some y := by
  have hpairs := mapM_eq_some.mp h
  clear h
  induction hpairs with
  | nil => cases hy
  | cons hxy _ ih =>
    rcases List.mem_cons.mp hy with rfl | hy
    · exact ⟨_, List.mem_cons_self, hxy⟩
    · obtain ⟨x, hx, hxy⟩ := ih hy
      exact ⟨x, List.mem_cons_of_mem _ hx, hxy⟩

/-! ### Numbers -/

theorem Written.value_fits (w : Written) : w.value.Fits := by
  unfold Written.value
  split
  · rename_i n hn
    unfold Written.integer? at hn
    split at hn
    · dsimp only at hn
      have h63 : Nat.pow 2 63 = 9223372036854775808 := rfl
      have h64 : Nat.pow 2 64 = 18446744073709551616 := rfl
      split at hn
      · split at hn
        · cases hn
        · cases hn
          exact .integer (by omega) (by omega)
      · split at hn
        · cases hn
          exact .integer (by omega) (by omega)
        · cases hn
    · cases hn
  · split
    · exact .real _
    · exact .unreadable

theorem bare?_fits {cs : List Char} {v : Json} (h : bare? cs = some v) : v.Fits := by
  unfold bare? at h
  split at h
  · cases h
    exact .null
  · split at h
    · cases h
      exact .bool true
    · split at h
      · cases h
        exact .bool false
      · obtain ⟨w, -, rfl⟩ := Option.map_eq_some_iff.mp h
        exact w.value_fits

/-! ### Tokens -/

def Token.Fits : Token → Prop
  | .bare v => v.Fits
  | _ => True

/-- The tokens of a scan fit. --/
def Scan.Fits (s : Scan) : Prop := ∀ t ∈ s.tokens, t.Fits

theorem punctuation?_fits {c : Char} {t : Token} (h : punctuation? c = some t) : t.Fits := by
  unfold punctuation? at h
  repeat' split at h
  all_goals cases h
  all_goals trivial

theorem open_fits {tokens : List Token} (h : ∀ t ∈ tokens, t.Fits) (c : Char) : (Scan.open tokens c).Fits := by
  unfold Scan.open
  split
  · exact h
  · split
    · exact h
    · split
      · rename_i t ht
        exact List.forall_mem_cons.mpr ⟨punctuation?_fits ht, h⟩
      · exact h

theorem scan_step_fits {s s' : Scan} {c : Char} (hs : s.Fits) (h : s.step c = some s') : s'.Fits := by
  unfold Scan.step at h
  split at h
  case h_1 =>
    cases h
    exact open_fits hs c
  case h_2 =>
    split at h
    · obtain ⟨v, hv, rfl⟩ := Option.map_eq_some_iff.mp h
      have hword : (Token.bare v).Fits := bare?_fits hv
      exact open_fits (List.forall_mem_cons.mpr ⟨hword, hs⟩) c
    · cases h
      exact hs
  case h_3 =>
    split at h
    · cases h
      exact List.forall_mem_cons.mpr ⟨trivial, hs⟩
    · split at h
      · cases h
        exact hs
      · split at h <;> cases h
        exact hs
  case h_4 =>
    split at h
    · cases h
      exact hs
    · obtain ⟨d, -, rfl⟩ := Option.map_eq_some_iff.mp h
      exact hs
  case h_5 =>
    obtain ⟨d, -, rfl⟩ := Option.map_eq_some_iff.mp h
    dsimp only
    split <;> exact hs

theorem tokens?_fits {text : List Char} {ts : List Token} (h : tokens? text = some ts) : ∀ t ∈ ts, t.Fits := by
  obtain ⟨s, hscan, hfinish⟩ := Option.bind_eq_some_iff.mp h
  have hempty : Scan.Fits ⟨.between, []⟩ := List.forall_mem_nil _
  have hs : s.Fits := foldlM_keeps (fun _ _ _ _ hb hstep => scan_step_fits hb hstep) hempty hscan
  unfold Scan.finish at hfinish
  split at hfinish
  · cases hfinish
    exact fun t ht => hs t (List.mem_reverse.mp ht)
  · obtain ⟨v, hv, rfl⟩ := Option.map_eq_some_iff.mp hfinish
    have hword : (Token.bare v).Fits := bare?_fits hv
    have hcons : ∀ t ∈ Token.bare v :: s.tokens, t.Fits := List.forall_mem_cons.mpr ⟨hword, hs⟩
    exact fun t ht => hcons t (List.mem_reverse.mp ht)
  · cases hfinish

/-! ### Values -/

def Container.Fits : Container → Prop
  | .array items => ∀ v ∈ items, v.Fits
  | .object members => ∀ m ∈ members, m.2.Fits
  | .member members _ => ∀ m ∈ members, m.2.Fits

def Turn.Fits : Turn → Prop
  | .done v => v.Fits
  | _ => True

/-- All that has been put together fits. --/
structure Build.Fits (b : Build) : Prop where
  stack : ∀ c ∈ b.stack, c.Fits
  turn : b.turn.Fits

theorem ofMembers_fits {members : Members} (h : ∀ m ∈ members, m.2.Fits) : (ofMembers members).Fits := by
  unfold ofMembers
  split
  · rename_i read hread
    refine .object fun m hm => ?_
    obtain ⟨m', hm', hkey⟩ := exists_of_mem_mapM hread hm
    obtain ⟨key, -, rfl⟩ := Option.map_eq_some_iff.mp hkey
    exact h m' (List.mem_reverse.mp hm')
  · exact .unreadable

theorem put_fits {stack : List Container} {v : Json} {b : Build} (hs : ∀ c ∈ stack, c.Fits) (hv : v.Fits)
    (h : Build.put stack v = some b) : b.Fits := by
  unfold Build.put at h
  split at h
  · cases h
    exact ⟨List.forall_mem_nil _, hv⟩
  · rename_i items rest
    cases h
    obtain ⟨hitems, hrest⟩ := List.forall_mem_cons.mp hs
    have hmore : (Container.array (v :: items)).Fits := List.forall_mem_cons.mpr ⟨hv, hitems⟩
    exact ⟨List.forall_mem_cons.mpr ⟨hmore, hrest⟩, trivial⟩
  · rename_i members key rest
    cases h
    obtain ⟨hmembers, hrest⟩ := List.forall_mem_cons.mp hs
    have hmore : (Container.object ((key, v) :: members)).Fits := fun m hm => by
      rcases List.mem_cons.mp hm with rfl | hm
      · exact hv
      · exact hmembers m hm
    exact ⟨List.forall_mem_cons.mpr ⟨hmore, hrest⟩, trivial⟩
  · cases h

theorem openValue_fits {stack : List Container} {t : Token} {b : Build} (hs : ∀ c ∈ stack, c.Fits) (ht : t.Fits)
    (h : Build.openValue stack t = some b) : b.Fits := by
  unfold Build.openValue at h
  split at h
  · exact put_fits hs ht h
  · rename_i text
    refine put_fits hs ?_ h
    cases text with
    | none => exact .unreadable
    | some text => exact .string text
  · cases h
    have hempty : (Container.array []).Fits := List.forall_mem_nil _
    exact ⟨List.forall_mem_cons.mpr ⟨hempty, hs⟩, trivial⟩
  · cases h
    have hempty : (Container.object []).Fits := List.forall_mem_nil _
    exact ⟨List.forall_mem_cons.mpr ⟨hempty, hs⟩, trivial⟩
  · cases h

theorem close_fits {stack : List Container} {t : Token} {b : Build} (hs : ∀ c ∈ stack, c.Fits)
    (h : Build.close stack t = some b) : b.Fits := by
  unfold Build.close at h
  split at h
  · obtain ⟨hitems, hrest⟩ := List.forall_mem_cons.mp hs
    exact put_fits hrest (.array fun v hv => hitems v (List.mem_reverse.mp hv)) h
  · obtain ⟨hmembers, hrest⟩ := List.forall_mem_cons.mp hs
    exact put_fits hrest (ofMembers_fits hmembers) h
  · cases h

theorem openKey_fits {stack : List Container} {t : Token} {b : Build} (hs : ∀ c ∈ stack, c.Fits)
    (h : Build.openKey stack t = some b) : b.Fits := by
  unfold Build.openKey at h
  split at h <;> cases h
  exact ⟨hs, trivial⟩

theorem build_step_fits {b b' : Build} {t : Token} (hb : b.Fits) (ht : t.Fits) (h : b.step t = some b') : b'.Fits := by
  unfold Build.step at h
  split at h
  · exact openValue_fits hb.stack ht h
  · exact close_fits hb.stack h
  · exact openValue_fits hb.stack ht h
  · exact close_fits hb.stack h
  · exact openKey_fits hb.stack h
  · exact openKey_fits hb.stack h
  · split at h <;> cases h
    rename_i hstack
    have hs := hb.stack
    rw [hstack] at hs
    obtain ⟨hmembers, hrest⟩ := List.forall_mem_cons.mp hs
    exact ⟨List.forall_mem_cons.mpr ⟨hmembers, hrest⟩, trivial⟩
  · split at h <;> cases h
    · exact ⟨hb.stack, trivial⟩
    · exact ⟨hb.stack, trivial⟩
  · exact close_fits hb.stack h
  · cases h

/-- The whole numbers of a document that has been read fit a word of 64 bits. --/
theorem read?_fits {text : String} {v : Json} (h : read? text = some v) : v.Fits := by
  obtain ⟨ts, htokens, hbuild⟩ := Option.bind_eq_some_iff.mp h
  obtain ⟨b, hsteps, hfinish⟩ := Option.bind_eq_some_iff.mp hbuild
  have hfit := tokens?_fits htokens
  have hempty : Build.Fits ⟨[], .value⟩ := ⟨List.forall_mem_nil _, trivial⟩
  have hb : b.Fits := foldlM_keeps (fun t ht _ _ hb hstep => build_step_fits hb (hfit t ht) hstep) hempty hsteps
  have hturn := hb.turn
  unfold Build.finish at hfinish
  split at hfinish
  · rename_i v' hdone
    cases hfinish
    rw [hdone] at hturn
    exact hturn
  · cases hfinish

end Json
end Cutroom
