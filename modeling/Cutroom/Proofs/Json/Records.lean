import Cutroom.Desk.Record
import Cutroom.Job.Record
import Cutroom.Look.Record
import Cutroom.Proofs.Job.Reported
import Cutroom.Proofs.Json.Identified
import Cutroom.Proofs.Timeline.Storable
import Cutroom.Storage.Settings

/-! Every record that is read and written keeps what was read (`records_keep`): what a decoder has made of a document,
    in whichever form it was written, is written in one form, and that form is decoded to the same record.

    Each record is settled by its fields. A field that may be missing is found in its default value there, which is
    written like any other. -/

namespace Cutroom
open Json (Keeps mem_slots_fits mem_sharedSlots_fits string?_keeps float?_keeps word32?_keeps word64?_keeps
  choice?_keeps)

/-! ### The timeline -/

theorem MediaRef.keeps : Keeps MediaRef.toJson MediaRef.ofJson? := string?_keeps.map fun _ => rfl

theorem Clip.keeps : Keeps Clip.toJson Clip.ofJson? := by
  refine .record (fun c => [c.id.toJson, .string c.name, .ofFloat c.start, .ofFloat c.stop,
    .ofOption MediaRef.toJson c.source]) mem_slots_fits (fun _ => rfl) (fun _ => rfl) fun slots c hfits h => ?_
  split at h
  · simp only [Option.bind_eq_bind, Option.bind_eq_some_iff, List.forall_mem_cons] at h hfits
    obtain ⟨id, hid, name, hname, start, hstart, stop, hstop, source, hsource, h⟩ := h
    obtain ⟨fid, fname, fstart, fstop, fsource, -⟩ := hfits
    cases h
    simp [Identifier.keeps.required fid hid, string?_keeps.required fname hname, float?_keeps.required fstart hstart,
      float?_keeps.required fstop hstop, (MediaRef.keeps.nullable rfl).orElse rfl fsource hsource]
  · cases h

theorem Snapshot.keeps : Keeps Snapshot.toJson Snapshot.ofJson? := by
  refine .record (fun s => [.ofList Clip.toJson s.clips, .ofList Clip.toJson s.audio]) mem_slots_fits
    (fun _ => rfl) (fun _ => rfl) fun slots s hfits h => ?_
  split at h
  · simp only [Option.bind_eq_bind, Option.bind_eq_some_iff, List.forall_mem_cons] at h hfits
    obtain ⟨clips, hclips, audio, haudio, h⟩ := h
    obtain ⟨fclips, faudio, -⟩ := hfits
    cases h
    simp [Clip.keeps.list.required fclips hclips, Clip.keeps.list.required faudio haudio]
  · cases h

theorem Track.keeps : Keeps Track.toJson Track.ofJson? := by
  refine .record (fun t => [.ofFloat t.left, .ofFloat t.width, .ofFloat t.scroll]) mem_slots_fits
    (fun _ => rfl) (fun _ => rfl) fun slots t hfits h => ?_
  split at h
  · simp only [Option.bind_eq_bind, Option.bind_eq_some_iff, List.forall_mem_cons] at h hfits
    obtain ⟨left, hleft, width, hwidth, scroll, hscroll, h⟩ := h
    obtain ⟨fleft, fwidth, fscroll, -⟩ := hfits
    cases h
    simp [float?_keeps.required fleft hleft, float?_keeps.required fwidth hwidth,
      float?_keeps.orElse rfl fscroll hscroll]
  · cases h

/-- Decodes a zoom that is not refused. --/
def Zoom.accepted? (v : Json) : Option Zoom := (Zoom.ofJson? v).bind Except.toOption

theorem Zoom.keeps : Keeps Zoom.toJson Zoom.accepted? := by
  intro v z _ _
  have hlow : (0 : Int) ≤ z.percent ∧ (z.percent : Int) ≤ 4294967295 := by
    have := z.most
    omega
  have hword : (UInt32.ofNat z.percent).toNat = z.percent := by
    have := z.most
    exact UInt32.toNat_ofNat_of_lt' (show z.percent < 4294967296 by omega)
  have hpercent : Zoom.ofPercent? z.percent = some z := dif_pos ⟨z.least, z.most⟩
  simp [Zoom.accepted?, Zoom.ofJson?, Zoom.toJson, Json.word32?, Json.integer?, hlow, hword, hpercent, Except.toOption]

theorem Drag.keeps : Keeps Drag.toJson Drag.ofJson? := by
  intro _ d _ _
  cases d <;> rfl

/-- Decodes a playhead that is not refused. --/
def Playhead.accepted? (v : Json) : Option Playhead := (Playhead.ofJson? v).bind Except.toOption

theorem Playhead.keeps : Keeps Playhead.toJson Playhead.accepted? := by
  refine .record (fun p => [.ofFloat p.time, .ofFloat p.duration, p.drag.toJson]) mem_slots_fits
    (fun _ => Option.bind_assoc ..) (fun _ => rfl) fun slots p hfits h => ?_
  split at h
  · simp only [Option.bind_eq_bind, Option.bind_eq_some_iff, List.forall_mem_cons] at h hfits
    obtain ⟨restored, ⟨time, htime, duration, hduration, drag, hdrag, h⟩, hok⟩ := h
    obtain ⟨ftime, fduration, fdrag, -⟩ := hfits
    cases h
    have hrestored : Playhead.restore time duration drag = .ok p := by
      cases hr : Playhead.restore time duration drag with
      | error e =>
        rw [hr] at hok
        cases hok
      | ok q =>
        rw [hr] at hok
        cases hok
        rfl
    cases (Playhead.restore_eq_ok_iff.mp hrestored).1
    simp [float?_keeps.required ftime htime, float?_keeps.required fduration hduration,
      Drag.keeps.orElse rfl fdrag hdrag, hrestored, Except.toOption]
  · cases h

/-! ### The side panels -/

theorem Adjustments.level?_keeps : Keeps .integer Adjustments.level? := Json.integer?_keeps ..

theorem Adjustments.keeps : Keeps Adjustments.toJson Adjustments.ofJson? := by
  refine .record (fun a => (Adjustment.names.map fun k => a.get k.2).map .integer) mem_slots_fits
    (fun _ => rfl) (fun _ => rfl) fun slots a hfits h => ?_
  obtain ⟨levels, hlevels, h⟩ := Option.bind_eq_some_iff.mp h
  have hkept := Adjustments.level?_keeps.required.mapM hfits hlevels
  split at h
  · cases h
    exact Option.bind_eq_some_iff.mpr ⟨_, hkept, rfl⟩
  · cases h

theorem Position.keeps : Keeps Position.toJson Position.ofJson? := by
  refine .record (fun p => [.ofFloat p.x, .ofFloat p.y]) mem_slots_fits (fun _ => rfl) (fun _ => rfl)
    fun slots p hfits h => ?_
  split at h
  · simp only [Option.bind_eq_bind, Option.bind_eq_some_iff, List.forall_mem_cons] at h hfits
    obtain ⟨x, hx, y, hy, h⟩ := h
    obtain ⟨fx, fy, -⟩ := hfits
    cases h
    simp [float?_keeps.required fx hx, float?_keeps.required fy hy]
  · cases h

theorem Effect.keeps : Keeps Effect.toJson Effect.ofJson? := by
  refine .record (fun e => [e.id.toJson, .string e.name, .ofFloat e.start, .ofFloat e.duration])
    mem_slots_fits (fun _ => rfl) (fun _ => rfl) fun slots e hfits h => ?_
  split at h
  · simp only [Option.bind_eq_bind, Option.bind_eq_some_iff, List.forall_mem_cons] at h hfits
    obtain ⟨id, hid, name, hname, start, hstart, duration, hduration, h⟩ := h
    obtain ⟨fid, fname, fstart, fduration, -⟩ := hfits
    cases h
    simp [Identifier.keeps.required fid hid, string?_keeps.required fname hname, float?_keeps.required fstart hstart,
      float?_keeps.required fduration hduration]
  · cases h

theorem Transition.keeps : Keeps Transition.toJson Transition.ofJson? := by
  refine .record (fun t => [t.id.toJson, .string t.name, t.clip.toJson]) mem_slots_fits (fun _ => rfl)
    (fun _ => rfl) fun slots t hfits h => ?_
  split at h
  · simp only [Option.bind_eq_bind, Option.bind_eq_some_iff, List.forall_mem_cons] at h hfits
    obtain ⟨id, hid, name, hname, clip, hclip, h⟩ := h
    obtain ⟨fid, fname, fclip, -⟩ := hfits
    cases h
    simp [Identifier.keeps.required fid hid, string?_keeps.required fname hname, Identifier.keeps.required fclip hclip]
  · cases h

/-- The values of a style, in the order in which they are read. --/
def TextStyle.values (s : TextStyle) : List Json := [.string s.text, .string s.font, .string s.style, .string s.color]

theorem TextStyle.ofSlots?_values (s : TextStyle) : TextStyle.ofSlots? (s.values.map .given) = some s := rfl

theorem TextStyle.keeps : Keeps TextStyle.toJson TextStyle.ofJson? :=
  .record TextStyle.values mem_slots_fits (fun _ => rfl) (fun _ => rfl) fun _ s _ _ => s.ofSlots?_values

theorem TextOverlay.keeps (room : Nat) : Keeps TextOverlay.toJson (TextOverlay.within? room) := by
  refine .record (fun t => t.id.toJson :: t.position.toJson :: t.style.values) mem_sharedSlots_fits
    (fun _ => rfl) (fun _ => rfl) fun slots t hfits h => ?_
  split at h
  · simp only [Option.bind_eq_bind, Option.bind_eq_some_iff, List.forall_mem_cons] at h hfits
    obtain ⟨id, hid, style, -, position, hposition, h⟩ := h
    obtain ⟨fid, fposition, -⟩ := hfits
    cases h
    simp [Identifier.keeps.required fid hid, Position.keeps.required fposition hposition,
      TextStyle.ofSlots?_values]
  · cases h

theorem Sticker.keeps : Keeps Sticker.toJson Sticker.ofJson? := by
  refine .record (fun s => [s.id.toJson, .string s.name, .string s.glyph, s.position.toJson]) mem_slots_fits
    (fun _ => rfl) (fun _ => rfl) fun slots s hfits h => ?_
  split at h
  · simp only [Option.bind_eq_bind, Option.bind_eq_some_iff, List.forall_mem_cons] at h hfits
    obtain ⟨id, hid, name, hname, glyph, hglyph, position, hposition, h⟩ := h
    obtain ⟨fid, fname, fglyph, fposition, -⟩ := hfits
    cases h
    simp [Identifier.keeps.required fid hid, string?_keeps.required fname hname, string?_keeps.required fglyph hglyph,
      Position.keeps.required fposition hposition]
  · cases h

theorem Panels.keeps : Keeps Panels.toJson Panels.ofJson? := by
  refine .record (fun p => [p.adjustments.toJson, .ofOption .string p.filter,
    .ofList Effect.toJson p.effects, .ofOption Transition.toJson p.transition, .ofList TextOverlay.toJson p.texts,
    .ofList Sticker.toJson p.stickers]) mem_slots_fits (fun _ => rfl) (fun _ => rfl) fun slots p hfits h => ?_
  split at h
  · simp only [Option.bind_eq_bind, Option.bind_eq_some_iff, List.forall_mem_cons] at h hfits
    obtain ⟨adjustments, hadjustments, filter, hfilter, effects, heffects, transition, htransition, texts, htexts,
      stickers, hstickers, h⟩ := h
    obtain ⟨fadjustments, ffilter, feffects, ftransition, ftexts, fstickers, -⟩ := hfits
    cases h
    simp [Adjustments.keeps.required fadjustments hadjustments, string?_keeps.optional rfl ffilter hfilter,
      Effect.keeps.list.required feffects heffects, Transition.keeps.optional rfl ftransition htransition,
      (TextOverlay.keeps 124).list.required ftexts htexts, Sticker.keeps.list.required fstickers hstickers]
  · cases h

/-! ### The session -/

theorem VideoSource.keeps : Keeps VideoSource.toJson VideoSource.ofJson? := by
  intro _ source _ _
  cases source <;> rfl

theorem AlertKind.keeps : Keeps AlertKind.toJson AlertKind.ofJson? := choice?_keeps fun k => by cases k <;> rfl

theorem Alert.keeps : Keeps Alert.toJson Alert.ofJson? := by
  refine .record (fun a => [a.kind.toJson, .string a.message]) mem_slots_fits (fun _ => rfl) (fun _ => rfl)
    fun slots a hfits h => ?_
  split at h
  · simp only [Option.bind_eq_bind, Option.bind_eq_some_iff, List.forall_mem_cons] at h hfits
    obtain ⟨kind, hkind, message, hmessage, h⟩ := h
    obtain ⟨fkind, fmessage, -⟩ := hfits
    cases h
    simp [AlertKind.keeps.required fkind hkind, string?_keeps.required fmessage hmessage]
  · cases h

theorem Settings.keeps : Keeps Settings.toJson Settings.ofJson? := by
  refine .record (fun s => [.string s.apiUrl, .integer s.pollInterval.toNat, .integer s.maxAttempts.toNat,
    .integer s.maxBackoff.toNat, .ofOption (fun n : UInt64 => .integer n.toNat) s.requestTimeout,
    .ofOption (fun p : FilePath => .string p.text) s.dataDir]) mem_slots_fits (fun _ => rfl) (fun _ => rfl)
    fun slots s hfits h => ?_
  split at h
  · simp only [Option.bind_eq_bind, Option.bind_eq_some_iff, List.forall_mem_cons] at h hfits
    obtain ⟨apiUrl, hapiUrl, interval, hinterval, attempts, hattempts, backoff, hbackoff, timeout, htimeout, dir, hdir,
      h⟩ := h
    obtain ⟨fapiUrl, finterval, fattempts, fbackoff, ftimeout, fdir, -⟩ := hfits
    have path?_keeps : Keeps (fun p : FilePath => .string p.text) Settings.path? := string?_keeps.map fun _ => rfl
    cases h
    simp [string?_keeps.orElse rfl fapiUrl hapiUrl, word64?_keeps.orElse rfl finterval hinterval,
      word32?_keeps.orElse rfl fattempts hattempts, word64?_keeps.orElse rfl fbackoff hbackoff,
      (word64?_keeps.nullable rfl).orElse rfl ftimeout htimeout, (path?_keeps.nullable rfl).orElse rfl fdir hdir]
  · cases h

/-! ### Jobs -/

theorem JobId.keeps : Keeps JobId.toJson JobId.ofJson? := fun _ _ _ _ => rfl

theorem JobStatus.keeps : Keeps JobStatus.toJson JobStatus.ofJson? := by
  intro v status _ h
  obtain ⟨s, -, rfl⟩ := Option.map_eq_some_iff.mp h
  exact congrArg some (JobStatus.ofText_text s)

theorem StatusReport.keeps : Keeps StatusReport.toJson StatusReport.ofJson? := by
  refine .record (fun r => [r.status.toJson, .ofOption .ofFloat r.duration, .ofOption .string r.prompt,
    .ofOption .string r.reply, .ofOption .string r.error]) mem_slots_fits (fun _ => rfl) (fun _ => rfl)
    fun slots r hfits h => ?_
  split at h
  · simp only [Option.bind_eq_bind, Option.bind_eq_some_iff, List.forall_mem_cons] at h hfits
    obtain ⟨status, hstatus, duration, hduration, prompt, hprompt, reply, hreply, error, herror, h⟩ := h
    obtain ⟨fstatus, fduration, fprompt, freply, ferror, -⟩ := hfits
    cases h
    simp [JobStatus.keeps.required fstatus hstatus, (float?_keeps.nullable rfl).orElse rfl fduration hduration,
      (string?_keeps.nullable rfl).orElse rfl fprompt hprompt, (string?_keeps.nullable rfl).orElse rfl freply hreply,
      (string?_keeps.nullable rfl).orElse rfl ferror herror]
  · cases h

theorem Job.keeps : Keeps Job.toJson Job.ofJson? := by
  refine .record (fun j => [j.id.toJson, j.status.toJson, .ofOption .ofFloat j.duration,
    .ofOption .string j.prompt, .ofOption .string j.reply]) mem_slots_fits (fun _ => rfl) (fun _ => rfl)
    fun slots j hfits h => ?_
  split at h
  · simp only [Option.bind_eq_bind, Option.bind_eq_some_iff, List.forall_mem_cons] at h hfits
    obtain ⟨id, hid, status, hstatus, duration, hduration, prompt, hprompt, reply, hreply, h⟩ := h
    obtain ⟨fid, fstatus, fduration, fprompt, freply, -⟩ := hfits
    cases h
    simp [JobId.keeps.required fid hid, JobStatus.keeps.required fstatus hstatus,
      float?_keeps.optional rfl fduration hduration, string?_keeps.optional rfl fprompt hprompt,
      string?_keeps.optional rfl freply hreply]
  · cases h

theorem JobSummary.keeps : Keeps JobSummary.toJson JobSummary.ofJson? := by
  refine .record (fun j => [j.id.toJson, j.status.toJson, .ofOption .string j.prompt,
    .ofOption .string j.created]) mem_slots_fits (fun _ => rfl) (fun _ => rfl) fun slots j hfits h => ?_
  split at h
  · simp only [Option.bind_eq_bind, Option.bind_eq_some_iff, List.forall_mem_cons] at h hfits
    obtain ⟨id, hid, status, hstatus, prompt, hprompt, created, hcreated, h⟩ := h
    obtain ⟨fid, fstatus, fprompt, fcreated, -⟩ := hfits
    cases h
    simp [JobId.keeps.required fid hid, JobStatus.keeps.required fstatus hstatus,
      (string?_keeps.nullable rfl).orElse rfl fprompt hprompt,
      (string?_keeps.nullable rfl).orElse rfl fcreated hcreated]
  · cases h

theorem ExportFormat.keeps : Keeps ExportFormat.toJson ExportFormat.ofJson? := choice?_keeps fun f => by cases f <;> rfl

theorem ExportResolution.keeps : Keeps ExportResolution.toJson ExportResolution.ofJson? :=
  choice?_keeps fun r => by cases r <;> rfl

theorem ExportOptions.keeps : Keeps ExportOptions.toJson ExportOptions.ofJson? := by
  refine .record (fun o => [o.format.toJson, o.resolution.toJson]) mem_slots_fits (fun _ => rfl)
    (fun _ => rfl) fun slots o hfits h => ?_
  split at h
  · simp only [Option.bind_eq_bind, Option.bind_eq_some_iff, List.forall_mem_cons] at h hfits
    obtain ⟨format, hformat, resolution, hresolution, h⟩ := h
    obtain ⟨fformat, fresolution, -⟩ := hfits
    cases h
    simp [ExportFormat.keeps.required fformat hformat, ExportResolution.keeps.required fresolution hresolution]
  · cases h

/-! ### All records -/

/-- A kind of record, how it is written and how it is read. --/
structure Codec where
  Record : Type
  encode : Record → Json
  decode : Json → Option Record

/-- The records that are both written and read. --/
def codecs : List Codec :=
  [⟨Track, Track.toJson, Track.ofJson?⟩, ⟨Zoom, Zoom.toJson, Zoom.accepted?⟩,
    ⟨Playhead, Playhead.toJson, Playhead.accepted?⟩, ⟨Clip, Clip.toJson, Clip.ofJson?⟩,
    ⟨Snapshot, Snapshot.toJson, Snapshot.ofJson?⟩, ⟨JobId, JobId.toJson, JobId.ofJson?⟩,
    ⟨JobStatus, JobStatus.toJson, JobStatus.ofJson?⟩, ⟨Job, Job.toJson, Job.ofJson?⟩,
    ⟨StatusReport, StatusReport.toJson, StatusReport.ofJson?⟩, ⟨JobSummary, JobSummary.toJson, JobSummary.ofJson?⟩,
    ⟨ExportOptions, ExportOptions.toJson, ExportOptions.ofJson?⟩,
    ⟨VideoSource, VideoSource.toJson, VideoSource.ofJson?⟩, ⟨Alert, Alert.toJson, Alert.ofJson?⟩,
    ⟨Settings, Settings.toJson, Settings.ofJson?⟩, ⟨Adjustments, Adjustments.toJson, Adjustments.ofJson?⟩,
    ⟨Effect, Effect.toJson, Effect.ofJson?⟩, ⟨Transition, Transition.toJson, Transition.ofJson?⟩,
    ⟨TextStyle, TextStyle.toJson, TextStyle.ofJson?⟩, ⟨TextOverlay, TextOverlay.toJson, TextOverlay.ofJson?⟩,
    ⟨Sticker, Sticker.toJson, Sticker.ofJson?⟩, ⟨Panels, Panels.toJson, Panels.ofJson?⟩]

theorem codecs_keep : ∀ c ∈ codecs, Keeps c.encode c.decode := by
  simp only [codecs, List.forall_mem_cons, List.not_mem_nil, false_implies, implies_true, and_true]
  exact ⟨Track.keeps, Zoom.keeps, Playhead.keeps, Clip.keeps, Snapshot.keeps, JobId.keeps, JobStatus.keeps, Job.keeps,
    StatusReport.keeps, JobSummary.keeps, ExportOptions.keeps, VideoSource.keeps, Alert.keeps, Settings.keeps,
    Adjustments.keeps, Effect.keeps, Transition.keeps, TextStyle.keeps, TextOverlay.keeps 126, Sticker.keeps, Panels.keeps⟩

/-- Whatever document is read as a record, what is written for the record is read as that same record. --/
theorem records_keep {c : Codec} (hc : c ∈ codecs) {text : String} {v : Json} {r : c.Record}
    (hread : Json.read? text = some v) (hdecode : c.decode v = some r) : c.decode (c.encode r) = some r :=
  codecs_keep c hc (Json.read?_fits hread) hdecode

/-- A summary under its other name, with a state in small letters and a key of no record. --/
theorem records_keep_summary :
    (⟨JobSummary, JobSummary.toJson, JobSummary.ofJson?⟩ : Codec) ∈ codecs ∧
      ∃ v, Json.read? "\x7b\"job_id\":\"a\",\"status\":\" completed \",\"extra\":null\x7d" = some v ∧
        JobSummary.ofJson? v = some ⟨⟨"a"⟩, .completed, none, none⟩ ∧
        JobSummary.ofJson? (JobSummary.toJson ⟨⟨"a"⟩, .completed, none, none⟩) =
          some ⟨⟨"a"⟩, .completed, none, none⟩ := by
  have hc : (⟨JobSummary, JobSummary.toJson, JobSummary.ofJson?⟩ : Codec) ∈ codecs := by simp [codecs]
  have hread : Json.read? "\x7b\"job_id\":\"a\",\"status\":\" completed \",\"extra\":null\x7d" =
      some (.object [("job_id", .string "a"), ("status", .string " completed "), ("extra", .null)]) := by rfl
  have hdecode : JobSummary.ofJson?
      (.object [("job_id", .string "a"), ("status", .string " completed "), ("extra", .null)]) =
        some ⟨⟨"a"⟩, .completed, none, none⟩ := by rfl
  exact ⟨hc, _, hread, hdecode, records_keep hc hread hdecode⟩

end Cutroom
