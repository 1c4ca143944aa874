import ScopedSearch.Resource
import ScopedSearch.Fault

/-!
# Storage

What the index asks of the place where the resources are: which spaces an actor may see, what a
space holds, one resource by identity, and the bytes of a file.  A `Storage` answers as of one
moment; the state that operations run on yields the storage of its moment.
-/

namespace ScopedSearch

/-- The answers of storage at one moment. -/
structure Storage where
  /-- The spaces an actor may see. -/
  listSpaces : Actor → Except Fault (List String)
  /-- The live resources of a space, directories included. -/
  walkSpace : String → Except Fault (List Resource)
  /-- The resource of a space with an identity. -/
  resolve : String → String → Except Fault Resource
  /-- The bytes of a file. -/
  bytes : Resource → Except Fault ByteArray

instance : Inhabited Storage := ⟨⟨fun _ => .ok [], fun _ => .ok [],
  fun _ _ => .error (.itemNotFound ""), fun _ => .error (.itemNotFound "")⟩⟩

/-- The MIME type of directories. -/
def directoryMime : String := "httpd/unix-directory"

/-- The MIME types by the extension of a file name, in lower case. -/
def mimeTable : List (String × String) := [
  ("txt", "text/plain"), ("log", "text/plain"),
  ("md", "text/markdown"), ("markdown", "text/markdown"),
  ("csv", "text/csv"),
  ("html", "text/html"), ("htm", "text/html"),
  ("json", "application/json"),
  ("xml", "application/xml"),
  ("pdf", "application/pdf"),
  ("doc", "application/msword"),
  ("docx", "application/vnd.openxmlformats-officedocument.wordprocessingml.document"),
  ("odt", "application/vnd.oasis.opendocument.text"),
  ("xlsx", "application/vnd.openxmlformats-officedocument.spreadsheetml.sheet"),
  ("pptx", "application/vnd.openxmlformats-officedocument.presentationml.presentation"),
  ("png", "image/png"),
  ("jpg", "image/jpeg"), ("jpeg", "image/jpeg"),
  ("gif", "image/gif"),
  ("svg", "image/svg+xml"),
  ("mp3", "audio/mpeg"),
  ("mp4", "video/mp4"),
  ("zip", "application/zip"),
  ("rs", "text/x-rust")]

/-- The MIME type of a file that no extension tells. -/
def unknownMime : String := "application/octet-stream"

/-- What stands after the last dot of a name, in lower case of ASCII; nothing without a dot. -/
def extension (name : String) : String :=
  let rest := name.toList.reverse
  if rest.contains '.' then
    String.ofList ((rest.takeWhile (· ≠ '.')).reverse.map Char.toLower)
  else ""

/-- The MIME type that the extension of a name tells. -/
def mimeOfName (name : String) : String := (mimeTable.lookup (extension name)).getD unknownMime

end ScopedSearch
