/-!
# Media formats

The formats that files can be converted to, by file extension, and the kind of each. Conversion
itself is the work of a converter, which may refuse a file.
-/

namespace FileQuery

/-- The kinds of media. -/
inductive MediaKind
  | image | audio | video
  deriving DecidableEq, Repr

namespace MediaKind

/-- The word for a kind. -/
def text : MediaKind → String
  | image => "image"
  | audio => "audio"
  | video => "video"

/-- The name of a kind in a serialized format. -/
def name : MediaKind → String
  | image => "Image"
  | audio => "Audio"
  | video => "Video"

/-- The extensions of the formats of a kind. -/
def extensions : MediaKind → List String
  | image => ["jpg", "jpeg", "png", "webp", "tiff", "gif"]
  | audio => ["mp3", "wav", "flac", "ogg", "aac", "wma"]
  | video => ["mp4", "webm", "mkv", "avi", "flv", "mov", "mpeg", "wmv"]

end MediaKind

/-- A format that files can be converted to. -/
structure MediaFormat where
  /-- The extension, in lower case. -/
  extension : String
  kind : MediaKind
  deriving DecidableEq, Repr

namespace MediaFormat

/-- A character in lower case. The Kelvin sign is the only character outside ASCII whose lower
    case is an ASCII letter, and others need no change here because no extension holds them. -/
def lower (c : Char) : Char := if c = '\u212A' then 'k' else c.toLower

/-- The format that is written in a given way, in any case. -/
def ofText? (written : String) : Option MediaFormat :=
  let extension := String.ofList (written.toList.map lower)
  ([.image, .audio, .video].find? fun kind => kind.extensions.contains extension).map
    fun kind => ⟨extension, kind⟩

end MediaFormat

end FileQuery
