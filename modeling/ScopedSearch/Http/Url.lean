import ScopedSearch.Encoding.Percent
import ScopedSearch.Text.Split

/-!
# Addresses of the web

What a request needs of an address: the server it goes to, and the path and query it asks for, in
the spelling that is sent.  Dots between slashes are resolved, a backslash is a slash, what may not
stand in an address is percent-encoded, and what follows a number sign is not sent.

## Main results

* `notMem_resolve`: no dot segment is left.
-/

namespace ScopedSearch.Http

open ScopedSearch.Text

/-- An address in the parts that a request needs. -/
structure Url where
  /-- Scheme, host and port, as written. -/
  origin : String
  /-- Path and query. -/
  target : String
  deriving DecidableEq, Repr, Inhabited

namespace Url

/-- A slash, in either form. -/
def isSlash (c : Char) : Bool := c = '/' || c = '\\'

/-- The segment stands for the directory that it is in. -/
def isSingleDot (seg : List Char) : Bool :=
  seg = ['.'] || seg.map Char.toLower = ['%', '2', 'e']

/-- The segment stands for the directory above. -/
def isDoubleDot (seg : List Char) : Bool :=
  [['.', '.'], ['.', '%', '2', 'e'], ['%', '2', 'e', '.'], ['%', '2', 'e', '%', '2', 'e']].contains
    (seg.map Char.toLower)

/-- Resolves dot segments; `above` holds the segments so far, the last one first. -/
def resolve (above : List (List Char)) : List (List Char) → List (List Char)
  | [] => above.reverse
  | seg :: rest =>
    if isDoubleDot seg then
      if rest.isEmpty then resolve ([] :: above.tail) rest else resolve above.tail rest
    else if isSingleDot seg then
      if rest.isEmpty then resolve ([] :: above) rest else resolve above rest
    else resolve (seg :: above) rest

/-- No dot segment is left. -/
theorem notMem_resolve {above segs : List (List Char)}
    (h : ∀ s ∈ above, isSingleDot s = false ∧ isDoubleDot s = false) :
    ∀ s ∈ resolve above segs, isSingleDot s = false ∧ isDoubleDot s = false := by
  have hnil : isSingleDot [] = false ∧ isDoubleDot [] = false := by decide
  induction segs generalizing above with
  | nil => simpa [resolve] using h
  | cons seg rest ih =>
    have htail : ∀ s ∈ above.tail, isSingleDot s = false ∧ isDoubleDot s = false :=
      fun s hs => h s (List.mem_of_mem_tail hs)
    have hcons : ∀ t : List (List Char),
        (∀ s ∈ t, isSingleDot s = false ∧ isDoubleDot s = false) →
        ∀ s ∈ [] :: t, isSingleDot s = false ∧ isDoubleDot s = false := by
      intro t ht s hs
      rcases List.mem_cons.1 hs with rfl | hs
      · exact hnil
      · exact ht s hs
    unfold resolve
    split
    · split
      · exact ih (hcons _ htail)
      · exact ih htail
    · split
      · split
        · exact ih (hcons _ h)
        · exact ih h
      · rename_i h2 h1
        refine ih fun s hs => ?_
        rcases List.mem_cons.1 hs with rfl | hs
        · exact ⟨by simpa using h1, by simpa using h2⟩
        · exact h s hs

/-- A text with every byte outside printable ASCII, and those named, percent-encoded. -/
def escape (also : List Char) (cs : List Char) : List Char :=
  cs.flatMap fun c =>
    if c.toNat ≤ 0x20 || 0x7F ≤ c.toNat || also.contains c then
      (String.singleton c).toUTF8.toList.flatMap Percent.encodeByte
    else [c]

/-- What is percent-encoded in a path. -/
def pathEscapes : List Char := ['\x22', '#', '<', '>', '?', '\x60', '\x7b', '\x7d']

/-- What is percent-encoded in a query. -/
def queryEscapes : List Char := ['\x22', '#', '<', '>', '\x27']

/-- A path with its slashes in one form. -/
def slashed (cs : List Char) : List Char := cs.map fun c => if isSlash c then '/' else c

/-- The path that is asked for. -/
def readPath (cs : List Char) : List Char :=
  let cs := slashed cs
  let body := if cs.head? = some '/' then cs.tail else cs
  '/' :: join '/' ((resolve [] (splitOn '/' body)).map (escape pathEscapes))

/-- The query that is asked for, with the question mark before it. -/
def readQuery : List Char → List Char
  | [] => []
  | _ :: cs => '?' :: escape queryEscapes cs

/-- The character does not end the name of a host. -/
def isInHost (c : Char) : Bool := !isSlash c && c ≠ '?' && c ≠ '#'

/-- What may not stand in the name of a host. -/
def isForbiddenInHost (c : Char) : Bool :=
  c.toNat ≤ 0x20 || c = '\x7f' || ['<', '>', '^', '|', '%', '\x60', '\x22'].contains c

/-- A text without what stands in front of an address, and without tabs and ends of lines. -/
def trimFront (cs : List Char) : List Char :=
  (cs.filter fun c => c ≠ '\t' && c ≠ '\n' && c ≠ '\r').dropWhile (·.toNat ≤ 0x20)

/-- An address without what may stand around it. -/
def trim (cs : List Char) : List Char :=
  ((trimFront cs).reverse.dropWhile (·.toNat ≤ 0x20)).reverse

/-- Reads an address that nothing stands around. -/
def readTrimmed? (cs : List Char) : Option Url :=
  let scheme := (cs.takeWhile (· ≠ ':')).map Char.toLower
  let rest := (cs.dropWhile (· ≠ ':')).tail.dropWhile isSlash
  let host := rest.takeWhile isInHost
  let after := (rest.drop host.length).takeWhile (· ≠ '#')
  let path := after.takeWhile (· ≠ '?')
  let query := after.drop path.length
  if scheme ≠ "http".toList ∧ scheme ≠ "https".toList then none
  else if host = [] ∨ host.any isForbiddenInHost then none
  else some {
    origin := String.ofList (scheme ++ "://".toList ++ host)
    target := String.ofList (readPath path ++ readQuery query) }

/-- Reads an address of the web. -/
def read? (address : String) : Option Url := readTrimmed? (trim address.toList)

/-- An address without slashes at its end. -/
def trimSlashes (address : String) : String :=
  String.ofList ((address.toList.reverse.dropWhile (· = '/')).reverse)

end Url

end ScopedSearch.Http
