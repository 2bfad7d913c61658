import Cutroom.Json.Record
import Cutroom.Job.Media
import Cutroom.Job.Status

/-! Jobs and what the service says about them, as JSON records. -/

namespace Cutroom

namespace JobId

def toJson (id : JobId) : Json := .string id.text

/-- An identifier is a text or a whole number of 64 bits, signed or not. --/
def ofJson? : Json → Option JobId
  | .string s => some ⟨s⟩
  | v => (v.integer? (-9223372036854775808) 18446744073709551615).map fun n => ⟨String.ofList (Decimal.integral n)⟩

end JobId

namespace JobStatus

def toJson (s : JobStatus) : Json := .string s.text

def ofJson? (v : Json) : Option JobStatus := v.string?.map ofText

end JobStatus

namespace StatusReport

def toJson (r : StatusReport) : Json :=
  .object
    [("status", r.status.toJson), ("duration", .ofOption .ofFloat r.duration),
      ("prompt", .ofOption .string r.prompt), ("ai_reply", .ofOption .string r.reply),
      ("error", .ofOption .string r.error)]

def ofJson? (v : Json) : Option StatusReport := do
  let [status, duration, prompt, reply, error] ←
    v.slots? (Json.named ["status", "duration", "prompt", "ai_reply", "error"]) | none
  some {
    status := ← status.required JobStatus.ofJson?
    duration := ← duration.orElse (Json.nullable Json.float?) none
    prompt := ← prompt.orElse (Json.nullable Json.string?) none
    reply := ← reply.orElse (Json.nullable Json.string?) none
    error := ← error.orElse (Json.nullable Json.string?) none }

end StatusReport

namespace Job

def toJson (j : Job) : Json :=
  .object
    [("id", j.id.toJson), ("status", j.status.toJson), ("source_duration", .ofOption .ofFloat j.duration),
      ("last_prompt", .ofOption .string j.prompt), ("ai_reply", .ofOption .string j.reply)]

def ofJson? (v : Json) : Option Job := do
  let [id, status, duration, prompt, reply] ←
    v.slots? (Json.named ["id", "status", "source_duration", "last_prompt", "ai_reply"]) | none
  some {
    id := ← id.required JobId.ofJson?
    status := ← status.required JobStatus.ofJson?
    duration := ← duration.optional Json.float?
    prompt := ← prompt.optional Json.string?
    reply := ← reply.optional Json.string? }

end Job

namespace JobSummary

def toJson (j : JobSummary) : Json :=
  .object
    [("id", j.id.toJson), ("status", j.status.toJson), ("prompt", .ofOption .string j.prompt),
      ("created_at", .ofOption .string j.created)]

/-- The identifier has two names, of which a record uses one. --/
def ofJson? (v : Json) : Option JobSummary := do
  let [id, status, prompt, created] ←
    v.slots? [["id", "job_id"], ["status"], ["prompt"], ["created_at"]] | none
  some {
    id := ← id.required JobId.ofJson?
    status := ← status.required JobStatus.ofJson?
    prompt := ← prompt.orElse (Json.nullable Json.string?) none
    created := ← created.orElse (Json.nullable Json.string?) none }

end JobSummary

namespace ExportFormat

def toJson (f : ExportFormat) : Json := .string f.text

def ofJson? (v : Json) : Option ExportFormat := v.choice? names

end ExportFormat

namespace ExportResolution

def toJson (r : ExportResolution) : Json := .string r.text

def ofJson? (v : Json) : Option ExportResolution := v.choice? names

end ExportResolution

namespace ExportOptions

def toJson (o : ExportOptions) : Json :=
  .object [("format", o.format.toJson), ("resolution", o.resolution.toJson)]

def ofJson? (v : Json) : Option ExportOptions := do
  let [format, resolution] ← v.slots? (Json.named ["format", "resolution"]) | none
  some {
    format := ← format.required ExportFormat.ofJson?
    resolution := ← resolution.required ExportResolution.ofJson? }

end ExportOptions
end Cutroom
