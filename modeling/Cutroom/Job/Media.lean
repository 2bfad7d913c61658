import Cutroom.Text.Letter

/-! The media that travel to and from the service: videos to upload, with the type that their name tells,
    and the formats in which a result can be fetched. -/

namespace Cutroom

/-- The characters behind the last dot of a file name, empty without a dot. --/
def extension (name : List Char) : List Char :=
  if name.contains '.' then (name.reverse.takeWhile (· != '.')).reverse else []

/-- The media type of a file name, by its extension in any case. --/
def mediaType (name : String) : String :=
  match String.ofList ((extension name.toList).map Char.toLower) with
  | "mp4" | "m4v" => "video/mp4"
  | "mov" => "video/quicktime"
  | "webm" => "video/webm"
  | "mkv" => "video/x-matroska"
  | "avi" => "video/x-msvideo"
  | _ => "application/octet-stream"

/-- A video ready to be sent. --/
structure UploadFile where
  name : String
  bytes : ByteArray
  type : String

def UploadFile.ofBytes (name : String) (bytes : ByteArray) : UploadFile := ⟨name, bytes, mediaType name⟩

inductive ExportFormat where
  | mp4
  | webm
  | mov
deriving DecidableEq

namespace ExportFormat

def text : ExportFormat → String
  | mp4 => "mp4"
  | webm => "webm"
  | mov => "mov"

def names : List (String × ExportFormat) := [("mp4", mp4), ("webm", webm), ("mov", mov)]

/-- Reads a format, letter case aside. --/
def ofText? (s : String) : Option ExportFormat := names.lookup (Text.lower s)

def unsupported (s : String) : String := "unsupported export format: " ++ Text.lower s

end ExportFormat

inductive ExportResolution where
  | hd720
  | hd1080
  | uhd4k
deriving DecidableEq

namespace ExportResolution

def text : ExportResolution → String
  | hd720 => "720p"
  | hd1080 => "1080p"
  | uhd4k => "4k"

def names : List (String × ExportResolution) := [("720p", hd720), ("1080p", hd1080), ("4k", uhd4k)]

/-- Reads a size, letter case aside; the largest one has a second name. --/
def ofText? (s : String) : Option ExportResolution :=
  let s := Text.lower s
  if s = "2160p" then some uhd4k else names.lookup s

def unsupported (s : String) : String := "unsupported export resolution: " ++ Text.lower s

end ExportResolution

/-- The format and size of a download. --/
structure ExportOptions where
  format : ExportFormat
  resolution : ExportResolution
deriving DecidableEq

namespace ExportOptions

def standard : ExportOptions := ⟨.mp4, .hd1080⟩

/-- The parameters that ask the service for the format and size. --/
def query (o : ExportOptions) : List (String × String) :=
  [("format", o.format.text), ("resolution", o.resolution.text)]

end ExportOptions
end Cutroom
