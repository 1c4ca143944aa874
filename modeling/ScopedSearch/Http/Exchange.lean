import ScopedSearch.Http.Status
import ScopedSearch.Http.Url
import ScopedSearch.Op

/-!
# Exchanges

A request goes to a server and a reply comes back, or none does.  How that happens is up to a
`Network`; a `Client` spells the request out: which address it goes to and which headers it
carries.
-/

namespace ScopedSearch.Http

/-- Header names, in lower case, with their values. -/
abbrev Headers := List (String × String)

/-- A request as it is sent. -/
structure Request where
  method : String
  url : Url
  headers : Headers
  body : ByteArray

/-- A reply. -/
structure Reply where
  status : Nat
  body : ByteArray

/-- Why there is no reply. -/
inductive TransportFault
  | timedOut
  | unreachable
  deriving DecidableEq, Repr, Inhabited

/-- Sends a request, and waits for the reply at most so many milliseconds. -/
abbrev Network (σ : Type) := Request → Nat → Op σ (Except TransportFault Reply)

/-- The network of a program that has none. -/
def Network.closed {σ : Type} : Network σ := fun _ _ => pure (.error .unreachable)

/-! ## Headers -/

/-- A character of the names of headers. -/
def isNameChar (c : Char) : Bool := c.isAlphanum || "!#$%&'*+-.^_|~".toList.contains c || c = '\x60'

/-- The text can be the name of a header. -/
def isHeaderName (name : String) : Bool := name ≠ "" && name.toList.all isNameChar

/-- The text can be the value of a header. -/
def isHeaderValue (value : String) : Bool :=
  value.toUTF8.toList.all fun b => (32 ≤ b && b ≠ 127) || b = 9

/-- The headers of the first list that the second one does not give, and then the second one. -/
def Headers.merge (defaults given : Headers) : Headers :=
  defaults.filter (fun h => !given.any (·.1 == h.1)) ++ given

/-! ## Clients -/

/-- The name under which the program presents itself. -/
def userAgent : String := "space-search/0.1.0"

/-- A sender of requests. -/
structure Client (σ : Type) where
  network : Network σ
  /-- Headers of every request that does not give its own. -/
  defaults : Headers := []

/-- The headers of every request, those given taking the place of what they name. -/
def Client.defaultHeaders (given : Headers) : Headers :=
  Headers.merge (Headers.merge [("accept", "*/*")] given) [("user-agent", userAgent)]

/-- The reply as its reader gets it: some replies have no body whatever was sent. -/
def Reply.received (method : String) (r : Reply) : Reply :=
  if method = "HEAD" ∨ r.status = 204 ∨ r.status = 304 then { r with body := ByteArray.empty }
  else r

/-- Sends a request to an address. -/
def Client.send {σ : Type} (c : Client σ) (method address : String) (headers : Headers)
    (body : ByteArray) (millis : Nat) : Op σ (Except TransportFault Reply) := do
  match Url.read? address with
  | none => return .error .unreachable
  | some url =>
    if headers.all fun (_, value) => isHeaderValue value then
      let reply ← c.network ⟨method, url, c.defaults.merge headers, body⟩ millis
      return reply.map (·.received method)
    else return .error .unreachable

end ScopedSearch.Http
