import ScopedSearch.Cluster.Body
import ScopedSearch.Cluster.Reply
import ScopedSearch.Encoding.Base64
import ScopedSearch.Encoding.Percent
import ScopedSearch.Settings

/-!
# The index in a cluster

A backend that keeps the documents in one index of a cluster.  The servers of the cluster take
turns.  A document is reached under its key, which is one segment of the address.
-/

namespace ScopedSearch

open ScopedSearch.Http

/-- A cluster and how it is reached. -/
structure Cluster (σ : Type) where
  client : Client σ
  /-- The addresses of the servers, without slashes at their ends. -/
  addresses : List String
  /-- How many requests have been addressed. -/
  turns : Part σ Nat
  index : String
  /-- Headers that every request carries to say who sends it. -/
  credentials : Headers
  /-- Milliseconds to wait for a reply. -/
  timeout : Nat

namespace Cluster

variable {σ : Type}

/-- The header that names a user. -/
def basicAuth (user password : String) : Headers :=
  [("authorization",
    "Basic " ++ String.ofList (Base64.encode (user ++ ":" ++ password).toUTF8.toList))]

/-- Header names in lower case with their values; a later one takes the place of its namesake. -/
def headersOf : List (String × String) → Except Fault Headers
  | [] => .ok []
  | (name, value) :: rest => do
    if !isHeaderName name then
      throw (.internal s!"invalid header name {name}: invalid HTTP header name")
    if !isHeaderValue value then
      throw (.internal "invalid header value: failed to parse header value")
    let name := String.ofList (name.toList.map Char.toLower)
    let others ← headersOf rest
    return if others.any (·.1 == name) then others else (name, value) :: others

/-- The cluster that settings tell. -/
def make (s : ClusterSettings) (network : Network σ) (turns : Part σ Nat) :
    Except Fault (Cluster σ) := do
  if s.addresses.isEmpty then throw (.internal "remote engine needs at least one address")
  let headers ← headersOf s.headers
  return {
    client := { network, defaults := Client.defaultHeaders headers }
    addresses := s.addresses.map Url.trimSlashes
    turns
    index := s.index
    credentials := match s.username with
      | some user => basicAuth user (s.password.getD "")
      | none => []
    timeout := 1000 * max s.timeoutSeconds 1 }

/-- The server whose turn it is after so many requests. -/
def turn (c : Cluster σ) (k : Nat) : String := c.addresses.getD (k % c.addresses.length) ""

/-- The server for the next request. -/
def server (c : Cluster σ) : Op σ String := do
  let k ← Op.read c.turns.get
  c.turns.modify (· + 1)
  return c.turn k

/-- The path of a document on a server. -/
def documentPath (action space item : String) : String :=
  "/" ++ action ++ "/" ++ Percent.encode (documentKey space item)

/-- Sends a request to an address. -/
def send (c : Cluster σ) (ctx : Context σ) (method address : String) (headers : Headers)
    (body : String) : Op σ Reply := do
  ctx.check
  let millis ← ctx.clamp c.timeout
  match ← c.client.send method address (headers.merge c.credentials) body.toUTF8 millis with
  | .ok reply => return reply
  | .error .timedOut => Op.fail (.cancelled (.reported "cluster request timed out: no reply"))
  | .error .unreachable => Op.fail (.engineUnavailable "cluster unreachable: no reply")

/-- Sends a request to a path of the index. -/
def ask (c : Cluster σ) (ctx : Context σ) (method path : String) (body : Option Json := none) :
    Op σ Reply := do
  let address := (← c.server) ++ "/" ++ c.index ++ path
  match body with
  | none => c.send ctx method address [] ""
  | some v => c.send ctx method address [("content-type", "application/json")] v.compact

/-- The body of a reply that grants the request. -/
def granted (r : Reply) : Except Fault ByteArray :=
  if isSuccess r.status then .ok r.body else .error (refusal r.status r.body)

/-- What one reads off a reply that grants the request. -/
def granting {α : Type} (read : Json → Option α) (r : Reply) : Op σ α :=
  Op.ofExcept ((granted r).bind (readReply read))

/-- Makes sure that the index is there. -/
def connect (c : Cluster σ) (ctx : Context σ) : Op σ Unit := do
  let r ← c.ask ctx "HEAD" ""
  if isSuccess r.status then return
  else if r.status = 404 then
    let r ← c.ask ctx "PUT" "" (some indexMapping)
    Op.ofExcept ((granted r).map fun _ => ())
  else Op.fail (refusal r.status ByteArray.empty)

/-- Stores documents. -/
def upsert (c : Cluster σ) (ctx : Context σ) (ds : List Document) : Op σ Unit := do
  if ds.isEmpty then return
  let address := (← c.server) ++ "/_bulk?refresh=true"
  let r ← c.send ctx "POST" address [("content-type", "application/x-ndjson")] (bulkBody c.index ds)
  let v ← granting whole? r
  match bulkFault? v with
  | some fault => Op.fail fault
  | none => return

/-- The document stored for an item. -/
def get (c : Cluster σ) (ctx : Context σ) (space item : String) : Op σ (Option Document) := do
  let r ← c.ask ctx "GET" (documentPath "_doc" space item)
  if r.status = 404 then return none else granting found? r

/-- Applies a patch to a stored document. -/
def patch (c : Cluster σ) (ctx : Context σ) (space item : String) (p : Patch) : Op σ Bool := do
  let path := documentPath "_update" space item ++ "?refresh=true"
  let r ← c.ask ctx "POST" path (some p.body)
  if r.status = 404 then return false
  else
    let _ ← Op.ofExcept (granted r)
    return true

def search (c : Cluster σ) (ctx : Context σ) (q : BackendQuery) : Op σ Hits := do
  granting hits? (← c.ask ctx "POST" "/_search" (some q.body))

def count (c : Cluster σ) (ctx : Context σ) : Op σ Nat := do
  granting count? (← c.ask ctx "GET" "/_count")

/-- The cluster as a backend. -/
def backend (c : Cluster σ) : Backend σ where
  name := "remote"
  upsert := c.upsert
  get := c.get
  patch := c.patch
  search := c.search
  count := c.count

end Cluster

end ScopedSearch
