import ScopedSearch.Digest.Mixing
import ScopedSearch.Encoding.Base64
import ScopedSearch.Fault
import ScopedSearch.Json.Printer
import ScopedSearch.Json.Reader
import ScopedSearch.Json.Record
import ScopedSearch.Request
import ScopedSearch.Text.Blank

/-!
# Pages

How many matches a page holds, and the token that names a page.  A token is the URL-safe base 64
form of a JSON record of two numbers: the offset of the page in the ranked list, and the
fingerprint of everything in the request that shapes that list.  So a token can be sent again, but
only with the same query, and it never reaches deeper than the result window.
-/

namespace ScopedSearch

/-- Matches per page when the request does not say. -/
def defaultPageSize : Nat := 200

/-- The most matches that a page holds. -/
def maxPageSize : Nat := 1000

/-- How many matches a page holds, by the wish of the request. -/
def pageLimit (wished : Int32) : Nat :=
  if wished ≤ 0 then defaultPageSize else min wished.toInt.toNat maxPageSize

/-- The words that the fingerprint of a request is made of. -/
def Request.shape (r : Request) : List UInt64 :=
  Mixing.textWords (Text.trim r.query) ++
    Mixing.optionWords r.reference.space ++ Mixing.optionWords r.reference.item ++
    Mixing.optionWords r.reference.path ++
    [if r.includeTrashed then 1 else 0, UInt64.ofNat (pageLimit r.pageSize)]

/-- The hash of what shapes the list of matches of a request. -/
def Request.fingerprint (r : Request) : UInt64 := Mixing.hash r.shape

/-- What a page token carries. -/
structure PageToken where
  offset : UInt64
  fingerprint : UInt64
  deriving DecidableEq, Repr, Inhabited

namespace PageToken

/-- The token as a record. -/
def toJson (t : PageToken) : Json :=
  .record [("o", .nat t.offset.toNat), ("f", .nat t.fingerprint.toNat)]

/-- The token that a value is a record of. -/
def ofJson? (v : Json) : Option PageToken := do
  match ← Json.cells? ["o", "f"] v with
  | [offset, fingerprint] =>
    return {
      offset := UInt64.ofNat (← Json.required Json.word? offset)
      fingerprint := UInt64.ofNat (← Json.required Json.word? fingerprint) }
  | _ => none

/-- The text of the token. -/
def encode (t : PageToken) : String :=
  String.ofList (Base64.encodeUrl t.toJson.compact.toUTF8.toList)

/-- The token that a text spells. -/
def decode? (text : String) : Option PageToken := do
  let bytes ← Base64.decodeUrl? text.toList
  let v ← Json.parseBytes? ⟨bytes.toArray⟩
  ofJson? v

/--
The offset that a text carries for the query of a fingerprint.  The empty text stands for the
first page.
-/
def offsetFor (fingerprint : UInt64) (text : String) : Except PageTokenFault Nat :=
  if text = "" then .ok 0
  else
    match decode? text with
    | none => .error .malformed
    | some t =>
      if t.fingerprint ≠ fingerprint then .error .foreign
      else if resultWindow < t.offset.toNat then .error (.beyondWindow t.offset.toNat)
      else .ok t.offset.toNat

end PageToken

end ScopedSearch
