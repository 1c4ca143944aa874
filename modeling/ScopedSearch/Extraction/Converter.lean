import ScopedSearch.Extraction
import ScopedSearch.Http.Exchange
import ScopedSearch.Settings
import ScopedSearch.Text.Lossy

/-!
# The converter in the network

A server that is sent the bytes of a file and answers with their text.  Directories and files above
a size are not sent.
-/

namespace ScopedSearch

open ScopedSearch.Http

/-- A converter and how it is reached. -/
structure Converter (σ : Type) where
  client : Client σ
  address : String
  /-- Milliseconds to wait for a reply. -/
  timeout : Nat
  /-- Larger files are not sent. -/
  maxFileSize : Nat
  storage : σ → Storage

namespace Converter

variable {σ : Type}

/-- The converter that settings tell. -/
def make (s : ExtractorSettings) (network : Network σ) (storage : σ → Storage) : Converter σ where
  client := { network, defaults := Client.defaultHeaders [] }
  address := Url.trimSlashes s.url ++ "/tika"
  timeout := 1000 * max s.timeoutSeconds 1
  maxFileSize := s.maxFileSize
  storage := storage

/-- The text of a reply for a file of a MIME type. -/
def textOf (mimeType : String) (r : Reply) : Except Fault String :=
  if r.status = 415 ∨ r.status = 422 then
    .error (.internal s!"unsupported by tika: {mimeType} ({statusText r.status})")
  else if !isSuccess r.status then
    .error (.engineUnavailable ("tika returned " ++ statusText r.status))
  else .ok (Text.trim (Text.ofBytesLossy r.body))

/-- Has the text made of a file. -/
def tryExtract (x : Converter σ) (ctx : Context σ) (r : Resource) : Op σ String := do
  if r.isDir ∨ x.maxFileSize < r.size.toNat then return ""
  ctx.check
  let storage ← Op.read x.storage
  let bytes ← Op.ofExcept (storage.bytes r)
  let millis ← ctx.clamp x.timeout
  let failed := Op.fail (.engineUnavailable "tika request failed: no reply")
  if bytes.size < r.size.toNat then failed
  else
    let headers := [("accept", "text/plain"), ("content-type", r.mimeType)]
    match ← x.client.send "PUT" x.address headers (bytes.extract 0 r.size.toNat) millis with
    | .ok reply => Op.ofExcept (textOf r.mimeType reply)
    | .error .timedOut => Op.fail (.cancelled (.reported "tika timed out: no reply"))
    | .error .unreachable => failed

/-- The converter as an extractor. -/
def extractor (x : Converter σ) : Extractor σ := ⟨"tika", x.tryExtract⟩

end Converter

end ScopedSearch
