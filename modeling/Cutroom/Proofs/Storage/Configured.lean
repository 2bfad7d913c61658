import Cutroom.Proofs.Json.Reread
import Cutroom.Proofs.Storage.Spared
import Cutroom.Storage.Settings

/-! Settings that were saved are loaded again, and a file may name some of them only (`Settings.load_kept`). The members
    of an object that name settings count, in whatever order and among whatever others they stand
    (`Settings.ofJson?_members`); what is saved names all settings. -/

namespace Cutroom

namespace Json

variable {α : Type}

/-- The member of an object by which something is given, if it is. --/
def member (name : String) (encode : α → Json) (given : Option α) : List (String × Json) :=
  (given.map fun a => (name, encode a)).toList

/-- The slot of something that may be given. --/
def Slot.ofOption : Option Json → Slot
  | some v => .given v
  | none => .absent

theorem membersNamed_append (names : List String) (before after : List (String × Json)) :
    membersNamed names (before ++ after) = membersNamed names before ++ membersNamed names after := by
  simp only [membersNamed, List.filter_append, List.map_append]

theorem membersNamed_member_self (name : String) (encode : α → Json) (given : Option α) :
    membersNamed [name] (member name encode given) = (given.map encode).toList := by
  cases given <;> simp [membersNamed, member]

theorem membersNamed_member_of_ne {name other : String} (h : other ≠ name) (encode : α → Json) (given : Option α) :
    membersNamed [name] (member other encode given) = [] := by
  cases given <;> simp [membersNamed, member, h]

/-- Members with other names do not count, and neither does their order. --/
theorem slot?_of_perm {names : List String} {members given : List (String × Json)} {name : String} {found : Option Json}
    (h : (members.filter fun m => names.contains m.1).Perm given) (hname : name ∈ names)
    (hfound : membersNamed [name] given = found.toList) : slot? [name] members = some (.ofOption found) := by
  -- The name can be looked for among all members or among those that count.
  have hfilter : membersNamed [name] (members.filter fun m => names.contains m.1) = membersNamed [name] members := by
    unfold membersNamed
    rw [List.filter_filter]
    congr 1
    refine List.filter_congr fun m _ => ?_
    by_cases hm : m.1 = name <;> simp [hm, hname]
  have hperm : (membersNamed [name] members).Perm found.toList := by
    rw [← hfilter, ← hfound]
    exact (h.filter _).map _
  unfold slot?
  cases found with
  | none => rw [List.perm_nil.mp hperm]; rfl
  | some v => rw [List.perm_singleton.mp hperm]; rfl

/-- A member of the name fills the slot, unless there are two of them. --/
theorem slot?_of_mem {members : List (String × Json)} {name : String} {v : Json} {slot : Slot}
    (hmem : (name, v) ∈ members) (h : slot? [name] members = some slot) : slot = .given v := by
  have hfound : v ∈ membersNamed [name] members :=
    List.mem_map.mpr ⟨_, List.mem_filter.mpr ⟨hmem, by simp⟩, rfl⟩
  unfold slot? at h
  split at h
  · rename_i hnone
    rw [hnone] at hfound
    cases hfound
  · rename_i w hone
    rw [hone, List.mem_singleton] at hfound
    cases h
    rw [hfound]
  · cases h

theorem orElse_ofOption {decode : Json → Option α} {encode : α → Json} (h : ∀ a, decode (encode a) = some a)
    (default : α) (given : Option α) :
    Slot.orElse decode default (.ofOption (given.map encode)) = some (given.getD default) := by
  cases given with
  | none => rfl
  | some a => exact h a

end Json

namespace Settings

/-! ### What a file says -/

/-- The settings that a file names. Those that may be none can be named as none. --/
structure Given where
  apiUrl : Option String
  pollInterval : Option UInt64
  maxAttempts : Option UInt32
  maxBackoff : Option UInt64
  requestTimeout : Option (Option UInt64)
  dataDir : Option (Option FilePath)

namespace Given

/-- The members that name the settings. --/
def members (g : Given) : List (String × Json) :=
  Json.member "api_base_url" .string g.apiUrl ++
    Json.member "poll_interval_secs" (fun n : UInt64 => .integer n.toNat) g.pollInterval ++
    Json.member "max_poll_attempts" (fun n : UInt32 => .integer n.toNat) g.maxAttempts ++
    Json.member "max_poll_backoff_secs" (fun n : UInt64 => .integer n.toNat) g.maxBackoff ++
    Json.member "request_timeout_secs" (.ofOption fun n : UInt64 => .integer n.toNat) g.requestTimeout ++
    Json.member "data_dir" (.ofOption fun p : FilePath => .string p.text) g.dataDir

/-- The settings that are named, and the default ones for the others. --/
def settings (g : Given) : Settings where
  apiUrl := g.apiUrl.getD standard.apiUrl
  pollInterval := g.pollInterval.getD standard.pollInterval
  maxAttempts := g.maxAttempts.getD standard.maxAttempts
  maxBackoff := g.maxBackoff.getD standard.maxBackoff
  requestTimeout := g.requestTimeout.getD standard.requestTimeout
  dataDir := g.dataDir.getD standard.dataDir

/-- All settings are named. --/
def all (s : Settings) : Given :=
  ⟨some s.apiUrl, some s.pollInterval, some s.maxAttempts, some s.maxBackoff, some s.requestTimeout, some s.dataDir⟩

end Given

theorem ofJson?_members {g : Given} {members : List (String × Json)}
    (h : (members.filter fun m => fields.contains m.1).Perm g.members) :
    ofJson? (.object members) = some g.settings := by
  have hslots : Json.slots? (Json.named fields) (.object members) = some
      [.ofOption (g.apiUrl.map .string), .ofOption (g.pollInterval.map fun n => .integer n.toNat),
        .ofOption (g.maxAttempts.map fun n => .integer n.toNat), .ofOption (g.maxBackoff.map fun n => .integer n.toNat),
        .ofOption (g.requestTimeout.map (.ofOption fun n => .integer n.toNat)),
        .ofOption (g.dataDir.map (.ofOption fun p => .string p.text))] := by
    refine Json.mapM_eq_some.mpr ?_
    simp only [Json.named, fields, List.map_cons, List.map_nil, List.forall₂_cons, List.forall₂_nil_right_iff, and_true]
    -- Each slot is filled by the member of its own field, and by no other one.
    refine ⟨?_, ?_, ?_, ?_, ?_, ?_⟩ <;> refine Json.slot?_of_perm h (by simp [fields]) ?_ <;>
      simp [Given.members, Json.membersNamed_append, Json.membersNamed_member_self, Json.membersNamed_member_of_ne]
  have hstring (text : String) : Json.string? (.string text) = some text := rfl
  have hpath (p : FilePath) : path? (.string p.text) = some p := rfl
  rw [ofJson?, hslots]
  simp only [Option.bind_eq_bind, Option.bind_some, Json.orElse_ofOption hstring,
    Json.orElse_ofOption Json.word64?_integer, Json.orElse_ofOption Json.word32?_integer,
    Json.orElse_ofOption (Json.nullable_ofOption rfl Json.word64?_integer),
    Json.orElse_ofOption (Json.nullable_ofOption rfl hpath)]
  rfl

/-- The settings that cannot be none. --/
def needed : List String := ["api_base_url", "poll_interval_secs", "max_poll_attempts", "max_poll_backoff_secs"]

/-- Nothing is no value for a setting that is needed. --/
theorem ofJson?_null {name : String} {members : List (String × Json)} (hname : name ∈ needed)
    (hnull : (name, .null) ∈ members) : ofJson? (.object members) = none := by
  cases hslots : Json.slots? (Json.named fields) (.object members) with
  | none =>
    rw [ofJson?, hslots]
    rfl
  | some slots =>
    have hpairs := Json.mapM_eq_some.mp hslots
    simp only [Json.named, fields, List.map_cons, List.map_nil, List.forall₂_cons_left_iff,
      List.forall₂_nil_left_iff] at hpairs
    obtain ⟨url, -, hurl, ⟨interval, -, hinterval, ⟨attempts, -, hattempts, ⟨backoff, -, hbackoff,
      ⟨timeout, -, -, ⟨dir, -, -, rfl, rfl⟩, rfl⟩, rfl⟩, rfl⟩, rfl⟩, rfl⟩ := hpairs
    have hslot {slot : Json.Slot} : Json.slot? [name] members = some slot → slot = .given .null :=
      Json.slot?_of_mem hnull
    rw [ofJson?, hslots]
    simp only [needed, List.mem_cons, List.not_mem_nil, or_false] at hname
    rcases hname with rfl | rfl | rfl | rfl
    · rw [hslot hurl]
      rfl
    · rw [hslot hinterval]
      simp [Json.Slot.orElse, Json.word64?, Json.integer?]
    · rw [hslot hattempts]
      simp [Json.Slot.orElse, Json.word32?, Json.integer?]
    · rw [hslot hbackoff]
      simp [Json.Slot.orElse, Json.word64?, Json.integer?]

theorem ofJson?_toJson (s : Settings) : ofJson? s.toJson = some s := by
  have hnamed : (Given.all s).members.filter (fun m => fields.contains m.1) = (Given.all s).members := by
    simp [Given.members, Given.all, Json.member, fields]
  exact ofJson?_members (.of_eq hnamed)

theorem toJson_faithful (s : Settings) : s.toJson.Faithful := by
  have h64 (n : UInt64) : (Json.integer n.toNat).Faithful := by
    have := n.toNat_lt
    exact .integer (by omega) (by omega)
  have h32 : (Json.integer s.maxAttempts.toNat).Faithful := by
    have := s.maxAttempts.toNat_lt
    exact .integer (by omega) (by omega)
  refine .object ?_
  simp only [List.forall_mem_cons]
  refine ⟨.string _, h64 _, h32, h64 _, ?_, ?_, List.forall_mem_nil _⟩
  · cases s.requestTimeout with
    | none => exact .null
    | some n => exact h64 n
  · cases s.dataDir with
    | none => exact .null
    | some p => exact .string _

/-! ### Files -/

variable {d : Disk} {path : FilePath} {text : String}

theorem load_of_readText {s : Settings} {v : Json} (htext : d.readText path = .ok text)
    (hread : Json.read? text = some v) (hv : ofJson? v = some s) : load d path = .ok s := by
  simp only [load, htext, hread, Option.bind_some, hv]

/-- What was saved is loaded. --/
theorem load_save {s : Settings} (h : (s.save path d).1 = .ok ()) : load (s.save path d).2 path = .ok s := by
  unfold save at h ⊢
  split at h
  · cases h
  · split at h
    · cases h
    · rename_i written hwrite
      have hbytes := Disk.read_write hwrite
      have htext : written.readText path = .ok s.page := by
        simp only [Disk.readText, hbytes, Text.utf8?_toUTF8]
      exact load_of_readText htext (Json.read?_page s.toJson_faithful) s.ofJson?_toJson

/-- What comes of looking for settings in a directory. --/
inductive FoundIn (d : Disk) (dir : FilePath) : Except Failure Settings → Prop
  | missing : d.exists? (dir.child fileName) = false → FoundIn d dir (.ok { standard with dataDir := some dir })
  | named {s : Settings} {own : FilePath} : d.exists? (dir.child fileName) = true →
      load d (dir.child fileName) = .ok s → s.dataDir = some own → FoundIn d dir (.ok s)
  | rooted {s : Settings} : d.exists? (dir.child fileName) = true →
      load d (dir.child fileName) = .ok s → s.dataDir = none → FoundIn d dir (.ok { s with dataDir := some dir })
  | failed {f : Failure} : d.exists? (dir.child fileName) = true →
      load d (dir.child fileName) = .error f → FoundIn d dir (.error f)

theorem loadOrDefault_foundIn (d : Disk) (dir : FilePath) : FoundIn d dir (loadOrDefault d dir) := by
  unfold loadOrDefault
  dsimp only
  split
  · rename_i hthere
    cases hload : load d (dir.child fileName) with
    | error f => exact .failed hthere hload
    | ok s =>
      rcases s with ⟨_, _, _, _, _, _ | own⟩
      · exact .rooted hthere hload rfl
      · exact .named hthere hload rfl
  · rename_i hmissing
    exact .missing (eq_false_of_ne_true hmissing)

theorem FoundIn.dataDir {dir : FilePath} {found : Settings} (h : FoundIn d dir (.ok found)) : found.dataDir ≠ none := by
  cases h with
  | missing _ => exact Option.some_ne_none _
  | named _ _ hown => exact hown ▸ Option.some_ne_none _
  | rooted _ _ _ => exact Option.some_ne_none _

theorem pollPolicy_bounds (s : Settings) : Wait.seconds 1 ≤ s.pollPolicy.interval ∧ 1 ≤ s.pollPolicy.maxAttempts := by
  have hinterval : 1 ≤ max s.pollInterval 1 := by
    show 1 ≤ if s.pollInterval ≤ 1 then 1 else s.pollInterval
    split
    · exact UInt64.le_refl 1
    · exact UInt64.le_of_lt (UInt64.not_le.mp ‹_›)
  have hattempts : 1 ≤ max s.maxAttempts 1 := by
    show 1 ≤ if s.maxAttempts ≤ 1 then 1 else s.maxAttempts
    split
    · exact UInt32.le_refl 1
    · exact UInt32.le_of_lt (UInt32.not_le.mp ‹_›)
  exact ⟨Nat.mul_le_mul_right _ (UInt64.le_iff_toNat_le.mp hinterval), hattempts⟩

/-! ### Every file -/

/-- Settings that can be saved are loaded as they were. A text that names some settings, each with a value that it can
    have, gives those and the default ones for the others, whatever else it names; nothing is a value for the last two
    settings only. In a directory without a file the default settings are found, and else those of the file, always
    with a data directory, which is the given one unless the file names its own. Whatever is loaded, a job is asked
    about at least once, and with at least a second between two requests. --/
theorem load_kept (s : Settings) (d : Disk) (path dir : FilePath) :
    ((s.save path d).1 = .ok () → load (s.save path d).2 path = .ok s) ∧
      (∀ text members, d.readText path = .ok text → Json.read? text = some (.object members) →
        (∀ g : Given, (members.filter fun m => fields.contains m.1).Perm g.members → load d path = .ok g.settings) ∧
        ∀ name ∈ needed, (name, .null) ∈ members → load d path = .error (.malformed path)) ∧
      FoundIn d dir (loadOrDefault d dir) ∧ (∀ found, loadOrDefault d dir = .ok found → found.dataDir ≠ none) ∧
      ∀ loaded, load d path = .ok loaded →
        Wait.seconds 1 ≤ loaded.pollPolicy.interval ∧ 1 ≤ loaded.pollPolicy.maxAttempts := by
  refine ⟨load_save, fun text members htext hread => ⟨fun g hg => ?_, fun name hname hnull => ?_⟩,
    loadOrDefault_foundIn d dir, fun found hfound => ?_, fun loaded _ => loaded.pollPolicy_bounds⟩
  · exact load_of_readText htext hread (ofJson?_members hg)
  · simp only [load, htext, hread, Option.bind_some, ofJson?_null hname hnull]
  · exact (hfound ▸ loadOrDefault_foundIn d dir : FoundIn d dir (.ok found)).dataDir

/-- Settings with characters that are escaped, and with the greatest number. --/
def remote : Settings := ⟨"http://\x22editor\x22\n\x01", 0, 0, 18446744073709551615, none, some ⟨"/renders"⟩⟩

/-- Two settings are named, one of them as none, behind something else. --/
def sparse : List (String × Json) :=
  [("volume", .array [.integer 1, .object []]), ("data_dir", .null), ("poll_interval_secs", .integer 0)]

/-- A disk with a text that names them. --/
def sparseDisk : Disk := { nodes := [(["config.json"], .file (Json.object sparse).page.toUTF8)], home := [] }

/-- Both are loaded, and no time at all between two requests counts as a second. --/
theorem load_kept_of_sparse :
    load (remote.save ⟨"/a/config.json"⟩ .empty).2 ⟨"/a/config.json"⟩ = .ok remote ∧
      load sparseDisk ⟨"/config.json"⟩ = .ok { standard with pollInterval := 0 } ∧
      Wait.seconds 1 ≤ ({ standard with pollInterval := 0 } : Settings).pollPolicy.interval := by
  obtain ⟨hkept, -, -, -, -⟩ := load_kept remote .empty ⟨"/a/config.json"⟩ ⟨"/"⟩
  obtain ⟨-, hnamed, -, -, hpace⟩ := load_kept remote sparseDisk ⟨"/config.json"⟩ ⟨"/"⟩
  have hsaved : (remote.save ⟨"/a/config.json"⟩ .empty).1 = .ok () := by decide +kernel
  have hbytes : sparseDisk.read ⟨"/config.json"⟩ = .ok (Json.object sparse).page.toUTF8 := rfl
  have htext : sparseDisk.readText ⟨"/config.json"⟩ = .ok (Json.object sparse).page := by
    simp only [Disk.readText, hbytes, Text.utf8?_toUTF8]
  have hfaithful : (Json.object sparse).Faithful := by
    refine .object ?_
    simp only [sparse, List.forall_mem_cons]
    refine ⟨.array ?_, .null, .integer (by decide) (by decide), List.forall_mem_nil _⟩
    simp only [List.forall_mem_cons]
    exact ⟨.integer (by decide) (by decide), .object (List.forall_mem_nil _), List.forall_mem_nil _⟩
  have hgiven : (sparse.filter fun m => fields.contains m.1).Perm
      (Given.members ⟨none, some 0, none, none, none, some none⟩) := by
    simpa [sparse, fields, Given.members, Json.member, Json.ofOption] using List.Perm.swap _ _ []
  have hloaded := (hnamed _ _ htext (Json.read?_page hfaithful)).1 _ hgiven
  exact ⟨hkept hsaved, hloaded, (hpace _ hloaded).1⟩

end Settings
end Cutroom
