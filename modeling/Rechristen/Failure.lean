import Rechristen.Fault
import Rechristen.MovePlan
import Rechristen.Span

/-!
# Failures

The ways in which an operation of a run can fail, by cause, and the fault each of them is reported
as.
-/

namespace Rechristen

/-- Why an operation failed. -/
inductive Failure where
  /-- An edit partly overlaps one that is queued. -/
  | editConflict (file : Path) (span existing : ByteSpan)
  /-- A span was to be made of bounds that are not in order. -/
  | disorder (bounds : Span.Disorder Int)
  /-- A text has a character that its file's encoding cannot write. -/
  | unwritable
  /-- A file is planned to go to two places. -/
  | planConflict (source planned requested : Path)
  /-- A planned move cannot be carried out. -/
  | move (trouble : MovePlan.Trouble)
  /-- A file cannot get a name. -/
  | fileName (error : Path.NameError)
  /-- The session was finalized before. -/
  | finalized
  /-- No file is at the path. -/
  | noFile (path : Path)
  /-- A file stands on the way of the path. -/
  | notDirectory (path : Path)
  /-- A directory is at the path. -/
  | isDirectory (path : Path)
  /-- The path is too long. -/
  | tooLong (path : Path)
  /-- The path holds a null character. -/
  | unnameable (path : Path)
  /-- The language of a file cannot be told. -/
  | unknownLanguage (path : Path)
  /-- There is no parser for the language of a file. -/
  | unsupportedLanguage (language : String) (path : Path)
  /-- The parser gives no tree for a file. -/
  | unparsed (path : Path)
  /-- A configured policy is not in the catalog. -/
  | unknownPolicy (name : String) (available : List String)
  deriving DecidableEq

namespace Failure

/-- The bounds of a span. -/
def bounds (span : ByteSpan) : Datum :=
  .list [.int span.start, .int span.stop]

/-- The fault of a path that is too long. -/
def longPath (path : Path) : Fault :=
  .plain "OSError" ("[Errno 36] File name too long: " ++ Text.quoted path.toString)

/-- The fault of a path that no file can have. -/
def nullCharacter : Fault :=
  .plain "ValueError" "embedded null byte"

/-- The fault a failure is reported as. -/
def fault : Failure → Fault
  | editConflict file span existing =>
    .ofKind .editConflict "Edit overlaps a queued edit"
      [("file", .text file.toString), ("span", bounds span), ("existing", bounds existing)]
  | disorder bounds => .plain "ValueError" bounds.message
  | unwritable => .plain "UnicodeEncodeError" ""
  | planConflict source planned requested =>
    .ofKind .planConflict "File already planned with a different destination"
      [("source", .text source.toString), ("planned", .text planned.toString),
        ("requested", .text requested.toString)]
  | move (.directory m) =>
    .ofKind .fileRename "Cannot create target directory"
      [("source", .text m.source.toString), ("target", .text m.target.toString)]
  | move (.file m) =>
    .ofKind .fileRename "Cannot move file"
      [("source", .text m.source.toString), ("target", .text m.target.toString)]
  | move (.tooLong m) => longPath m.target
  | move (.unnameable _) => nullCharacter
  | fileName error => .plain "ValueError" error.message
  | finalized => .ofKind .sessionState "Session already finalized" []
  | noFile path =>
    .plain "FileNotFoundError"
      ("[Errno 2] No such file or directory: " ++ Text.quoted path.toString)
  | notDirectory path =>
    .plain "NotADirectoryError" ("[Errno 20] Not a directory: " ++ Text.quoted path.toString)
  | isDirectory path =>
    .plain "IsADirectoryError" ("[Errno 21] Is a directory: " ++ Text.quoted path.toString)
  | tooLong path => longPath path
  | unnameable _ => nullCharacter
  | unknownLanguage path =>
    .plain "ValueError" ("Could not detect language for: " ++ path.toString)
  | unsupportedLanguage language path =>
    .ofKind .parse ("Language not supported: " ++ language) [("file", .text path.toString)]
  | unparsed path => .ofKind .parse "Failed to parse file" [("file", .text path.toString)]
  | unknownPolicy name available =>
    .ofKind .unknownPolicy ("Unknown policy: " ++ name)
      [("name", .text name), ("available", .list (available.map .text))]

end Failure

end Rechristen
