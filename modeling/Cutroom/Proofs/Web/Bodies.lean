import Cutroom.Proofs.Json.Fitting
import Cutroom.Web.Client

/-! What the bodies of responses say (`Json.Decodes`). Each record is described by the values that stand for its fields in
    an object or in an array, and is decoded from just those values. -/

namespace Cutroom
namespace Json

variable {α : Type} {decode : Json → Option α} {P : Json → α → Prop}

/-- The values that are decoded, with what they are decoded to. --/
def Decodes (decode : Json → Option α) (P : Json → α → Prop) : Prop := ∀ v a, decode v = some a ↔ P v a

/-! ### Values without fields -/

def IsText (v : Json) (s : String) : Prop := v = .string s

/-- A number is a whole one, which stands for the nearest double, or a finite double. --/
def IsNumber (v : Json) (x : Float) : Prop := (∃ n, v = .integer n ∧ x = Float.ofInt n) ∨ v = .real x ∧ x.isFinite = true

/-- The items of an array, each of which has to be one. --/
def IsList (P : Json → α → Prop) (v : Json) (xs : List α) : Prop := ∃ items, v = .array items ∧ List.Forall₂ P items xs

theorem string?_decodes : Decodes string? IsText := by
  intro v s
  cases v <;> simp [string?, IsText]

theorem float?_decodes : Decodes float? IsNumber := by
  intro v x
  cases v with
  | integer n => simp [float?, IsNumber, eq_comm (a := x)]
  | real y =>
    simp only [float?, IsNumber, reduceCtorEq, false_and, exists_const, Json.real.injEq, false_or,
      Option.ite_none_right_eq_some, Option.some.injEq]
    exact ⟨fun ⟨hy, hyx⟩ => ⟨hyx, hyx ▸ hy⟩, fun ⟨hyx, hx⟩ => ⟨hyx ▸ hx, hyx⟩⟩
  | null | bool | string | array | object | unreadable => simp [float?, IsNumber]

theorem Decodes.list (h : Decodes decode P) : Decodes (list? decode) (IsList P) := by
  intro v xs
  cases v <;> simp [list?, IsList, mapM_eq_some, h _ _]

/-! ### Fields -/

/-- What an object has for a field: at most one member may have one of its names. --/
inductive Finds (members : List (String × Json)) (names : List String) : Slot → Prop where
  | absent (h : membersNamed names members = []) : Finds members names .absent
  | given {v : Json} (h : membersNamed names members = [v]) : Finds members names (.given v)

/-- What a value has for the fields of a record: an object by their names, an array by their order, where items at the end
    may be missing. --/
inductive Offers (fields : List (List String)) : Json → List Slot → Prop where
  | object {members : List (String × Json)} {slots : List Slot} (h : List.Forall₂ (Finds members) fields slots) :
      Offers fields (.object members) slots
  | array {items : List Json} {missing : Nat} (h : items.length + missing = fields.length) :
      Offers fields (.array items) (items.map .given ++ List.replicate missing .ended)

theorem slot?_eq_some_iff {names : List String} {members : List (String × Json)} {s : Slot} :
    slot? names members = some s ↔ Finds members names s := by
  constructor
  · intro h
    unfold slot? at h
    split at h <;> cases h
    · exact .absent ‹_›
    · exact .given ‹_›
  · intro h
    cases h with
    | absent h => rw [slot?, h]
    | given h => rw [slot?, h]

theorem slots?_eq_some_iff {fields : List (List String)} {v : Json} {slots : List Slot} :
    v.slots? fields = some slots ↔ Offers fields v slots := by
  constructor
  · intro h
    unfold slots? at h
    split at h
    · exact .object ((mapM_eq_some.mp h).imp fun _ _ => slot?_eq_some_iff.mp)
    · split at h <;> cases h
      exact .array (by omega)
    · cases h
  · intro h
    cases h with
    | object h => exact mapM_eq_some.mpr (h.imp fun _ _ => slot?_eq_some_iff.mpr)
    | array h =>
      rename_i items missing
      have hmissing : fields.length - items.length = missing := by omega
      rw [slots?, if_pos (by omega), hmissing]

/-- A field that has to be there. --/
inductive Slot.Has (P : Json → α → Prop) : Slot → α → Prop where
  | given {v : Json} {a : α} (h : P v a) : Has P (.given v) a

/-- A field that may be missing, and may be null. --/
inductive Slot.MayHave (P : Json → α → Prop) : Slot → Option α → Prop where
  | absent : MayHave P .absent none
  | ended : MayHave P .ended none
  | null : MayHave P (.given .null) none
  | given {v : Json} {a : α} (hv : v ≠ .null) (h : P v a) : MayHave P (.given v) (some a)

theorem Decodes.required (h : Decodes decode P) (s : Slot) (a : α) : s.required decode = some a ↔ s.Has P a := by
  constructor
  · intro hs
    cases s with
    | given v => exact .given ((h v a).mp hs)
    | absent | ended => cases hs
  · rintro ⟨hv⟩
    exact (h _ a).mpr hv

theorem Decodes.orElse (h : Decodes decode P) (s : Slot) (o : Option α) :
    s.orElse (nullable decode) none = some o ↔ s.MayHave P o := by
  constructor
  · intro hs
    cases s with
    | given v =>
      by_cases hv : v = .null
      · subst hv
        cases hs
        exact .null
      · obtain ⟨a, ha, rfl⟩ : ∃ a, decode v = some a ∧ some a = o := by
          simpa [Slot.orElse, nullable, hv] using hs
        exact .given hv ((h v a).mp ha)
    | absent =>
      cases hs
      exact .absent
    | ended =>
      cases hs
      exact .ended
  · intro hs
    cases hs with
    | absent | ended | null => rfl
    | given hv ha =>
      rename_i v a
      cases v with
      | null => exact absurd rfl hv
      | bool | integer | real | string | array | object | unreadable => exact congrArg (Option.map some) ((h _ a).mpr ha)

end Json
open Json (Decodes IsText IsNumber IsList string?_decodes float?_decodes slots?_eq_some_iff)

/-! ### Jobs -/

/-- An identifier is a text, or a whole number of 64 bits. --/
def JobId.IsIn (v : Json) (id : JobId) : Prop :=
  (∃ s, v = .string s ∧ JobId.mk s = id) ∨
    ∃ n : Int, v = .integer n ∧ (-2 ^ 63 ≤ n ∧ n < 2 ^ 64) ∧ JobId.mk (String.ofList (Decimal.integral n)) = id

def JobStatus.IsIn (v : Json) (status : JobStatus) : Prop := ∃ s, v = .string s ∧ JobStatus.ofText s = status

theorem JobId.decodes : Decodes JobId.ofJson? JobId.IsIn := by
  intro v id
  cases v with
  | string s => simp [ofJson?, IsIn]
  | integer n =>
    have hbounds : (-9223372036854775808 ≤ n ∧ n ≤ 18446744073709551615) ↔ (-2 ^ 63 ≤ n ∧ n < 2 ^ 64) := by omega
    simp [ofJson?, IsIn, Json.integer?, hbounds]
  | null | bool | real | array | object | unreadable => simp [ofJson?, IsIn, Json.integer?]

theorem JobStatus.decodes : Decodes JobStatus.ofJson? JobStatus.IsIn := by
  intro v status
  cases v <;> simp [JobStatus.ofJson?, JobStatus.IsIn, Json.string?]

/-- What a report says: the state has to be there. --/
def StatusReport.IsIn (v : Json) (r : StatusReport) : Prop :=
  ∃ status duration prompt reply error,
    v.Offers (Json.named ["status", "duration", "prompt", "ai_reply", "error"])
        [status, duration, prompt, reply, error] ∧
      status.Has JobStatus.IsIn r.status ∧ duration.MayHave IsNumber r.duration ∧ prompt.MayHave IsText r.prompt ∧
      reply.MayHave IsText r.reply ∧ error.MayHave IsText r.error

theorem StatusReport.decodes : Decodes StatusReport.ofJson? StatusReport.IsIn := by
  intro v r
  simp only [IsIn, ← slots?_eq_some_iff, ← JobStatus.decodes.required, ← float?_decodes.orElse, ← string?_decodes.orElse]
  unfold ofJson?
  constructor
  · intro h
    obtain ⟨slots, hslots, h⟩ := Option.bind_eq_some_iff.mp h
    split at h
    · simp only [Option.bind_eq_bind, Option.bind_eq_some_iff] at h
      obtain ⟨status, hstatus, duration, hduration, prompt, hprompt, reply, hreply, error, herror, h⟩ := h
      cases h
      exact ⟨_, _, _, _, _, hslots, hstatus, hduration, hprompt, hreply, herror⟩
    · cases h
  · rintro ⟨status, duration, prompt, reply, error, hslots, hstatus, hduration, hprompt, hreply, herror⟩
    simp only [hslots, Option.bind_eq_bind, Option.bind_some, hstatus, hduration, hprompt, hreply, herror]

/-- What a row of the list of jobs says. The identifier has two names. --/
def JobSummary.IsIn (v : Json) (j : JobSummary) : Prop :=
  ∃ id status prompt created,
    v.Offers [["id", "job_id"], ["status"], ["prompt"], ["created_at"]] [id, status, prompt, created] ∧
      id.Has JobId.IsIn j.id ∧ status.Has JobStatus.IsIn j.status ∧ prompt.MayHave IsText j.prompt ∧
      created.MayHave IsText j.created

theorem JobSummary.decodes : Decodes JobSummary.ofJson? JobSummary.IsIn := by
  intro v j
  simp only [IsIn, ← slots?_eq_some_iff, ← JobId.decodes.required, ← JobStatus.decodes.required,
    ← string?_decodes.orElse]
  unfold ofJson?
  constructor
  · intro h
    obtain ⟨slots, hslots, h⟩ := Option.bind_eq_some_iff.mp h
    split at h
    · simp only [Option.bind_eq_bind, Option.bind_eq_some_iff] at h
      obtain ⟨id, hid, status, hstatus, prompt, hprompt, created, hcreated, h⟩ := h
      cases h
      exact ⟨_, _, _, _, hslots, hid, hstatus, hprompt, hcreated⟩
    · cases h
  · rintro ⟨id, status, prompt, created, hslots, hid, hstatus, hprompt, hcreated⟩
    simp only [hslots, Option.bind_eq_bind, Option.bind_some, hid, hstatus, hprompt, hcreated]

/-! ### Replies -/

/-- What the reply to an upload says. --/
def UploadReply.IsIn (v : Json) (r : UploadReply) : Prop :=
  ∃ job duration status message error,
    v.Offers (Json.named ["job_id", "duration", "status", "message", "error"])
        [job, duration, status, message, error] ∧
      job.MayHave JobId.IsIn r.job ∧ duration.MayHave IsNumber r.duration ∧ status.MayHave JobStatus.IsIn r.status ∧
      message.MayHave IsText r.message ∧ error.MayHave IsText r.error

theorem UploadReply.decodes : Decodes UploadReply.ofJson? UploadReply.IsIn := by
  intro v r
  simp only [IsIn, ← slots?_eq_some_iff, ← JobId.decodes.orElse, ← float?_decodes.orElse, ← JobStatus.decodes.orElse,
    ← string?_decodes.orElse]
  unfold ofJson?
  constructor
  · intro h
    obtain ⟨slots, hslots, h⟩ := Option.bind_eq_some_iff.mp h
    split at h
    · simp only [Option.bind_eq_bind, Option.bind_eq_some_iff] at h
      obtain ⟨job, hjob, duration, hduration, status, hstatus, message, hmessage, error, herror, h⟩ := h
      cases h
      exact ⟨_, _, _, _, _, hslots, hjob, hduration, hstatus, hmessage, herror⟩
    · cases h
  · rintro ⟨job, duration, status, message, error, hslots, hjob, hduration, hstatus, hmessage, herror⟩
    simp only [hslots, Option.bind_eq_bind, Option.bind_some, hjob, hduration, hstatus, hmessage, herror]

/-- The token in the answer to a login, none where it is missing. --/
def Client.TokenIsIn (v : Json) (token : Option String) : Prop :=
  ∃ slot, v.Offers [["access_token"]] [slot] ∧ slot.MayHave IsText token

theorem Client.token_decodes : Decodes Client.tokenOf? Client.TokenIsIn := by
  intro v token
  simp only [TokenIsIn, ← slots?_eq_some_iff, ← string?_decodes.orElse]
  unfold tokenOf?
  constructor
  · intro h
    obtain ⟨slots, hslots, h⟩ := Option.bind_eq_some_iff.mp h
    split at h
    · exact ⟨_, hslots, h⟩
    · cases h
  · rintro ⟨slot, hslots, hslot⟩
    simp only [hslots, Option.bind_eq_bind, Option.bind_some, hslot]

end Cutroom
