import ScopedSearch.Digest.Sha256
import ScopedSearch.Encoding.Base64
import ScopedSearch.Fault
import ScopedSearch.Json.Printer
import ScopedSearch.Json.Reader
import ScopedSearch.Json.Record
import ScopedSearch.Resource
import ScopedSearch.Text.Blank
import ScopedSearch.Text.Split

/-!
# Request tokens

A token names an actor and says until when it is good.  It has three parts joined by dots, each in
URL-safe base 64: a header, the claims, and a signature over the two parts before it, made with a
secret that only the manager of the tokens holds.

A token is looked at in a fixed order: its parts, the header, the algorithm, the signature, the
claims, and last whether the claims hold now.  The first thing wrong is the one reported.

## Main results

* `split?_joined`: the parts that were joined are found again.
-/

namespace ScopedSearch

/-- What a token claims. -/
structure Claims where
  subject : String
  displayName : String := ""
  /-- Seconds since 1970 after which the token is no longer good. -/
  expiry : Int
  service : Bool := false
  deriving DecidableEq, Repr, Inhabited

/-- The account on whose behalf the program itself works. -/
structure ServiceAccount where
  id : String := ""
  secret : String := ""
  deriving DecidableEq, Repr, Inhabited

namespace Token

/-- The claims as a record. -/
def claimsJson (c : Claims) : Json :=
  .record [
    ("sub", .text c.subject), ("name", .text c.displayName), ("exp", .int c.expiry),
    ("svc", .bool c.service)]

/-- The header of every token that is issued. -/
def headerJson : Json := .record [("typ", .text "JWT"), ("alg", .text "HS256")]

/-- A record as a part of a token. -/
def part (v : Json) : List Char := Base64.encodeUrl v.compact.toUTF8.toList

/-- The signature of what stands before it. -/
def signature (secret : String) (message : List Char) : List UInt8 :=
  Sha256.keyed secret.toUTF8.toList (String.ofList message).toUTF8.toList

/-- The token of claims. -/
def encode (secret : String) (c : Claims) : String :=
  let message := part headerJson ++ '.' :: part (claimsJson c)
  String.ofList (message ++ '.' :: Base64.encodeUrl (signature secret message))

/-- What stands before and behind the last dot. -/
def splitLast? (cs : List Char) : Option (List Char × List Char) :=
  let backwards := cs.reverse
  match backwards.dropWhile (· ≠ '.') with
  | [] => none
  | _ :: before => some (before.reverse, (backwards.takeWhile (· ≠ '.')).reverse)

theorem splitLast?_append (before behind : List Char) (h : '.' ∉ behind) :
    splitLast? (before ++ '.' :: behind) = some (before, behind) := by
  have hall : ∀ c ∈ behind.reverse, (decide (c ≠ '.')) = true := by
    intro c hc
    have : c ≠ '.' := fun e => h (e ▸ List.mem_reverse.1 hc)
    simpa using this
  simp only [splitLast?, List.reverse_append, List.reverse_cons, List.append_assoc,
    List.singleton_append]
  rw [List.dropWhile_append_of_pos hall, List.takeWhile_append_of_pos hall]
  simp

/-- Header, claims and signature of a token. -/
def split? (token : List Char) : Option (List Char × List Char × List Char) := do
  let (message, sign) ← splitLast? token
  let (header, claims) ← splitLast? message
  return (header, claims, sign)

/-- The parts that were joined are found again. -/
theorem split?_joined (header claims sign : List Char) (hc : '.' ∉ claims) (hs : '.' ∉ sign) :
    split? (header ++ '.' :: claims ++ '.' :: sign) = some (header, claims, sign) := by
  simp only [split?]
  rw [splitLast?_append _ _ hs]
  simp only [Option.bind_eq_bind, Option.bind_some]
  rw [splitLast?_append _ _ hc]
  rfl

/-! ## Headers -/

/-- The algorithms that a header may name. -/
def algorithms : List String := [
  "HS256", "HS384", "HS512", "ES256", "ES384", "RS256", "RS384", "RS512", "PS256", "PS384",
  "PS512", "EdDSA"]

/-- The fields of a header that are texts or null. -/
def textFields : List String :=
  ["typ", "cty", "jku", "kid", "x5u", "x5t", "x5t#S256", "url", "nonce"]

/-- The fields of a header that are lists of texts or null. -/
def listFields : List String := ["x5c", "crit"]

/-- A field of a header has a value of its type. -/
def isHeaderField (field : String × Json) : Bool :=
  if textFields.contains field.1 || field.1 = "jwk" then (Json.optionText? field.2).isSome
  else if listFields.contains field.1 then
    match field.2 with
    | .null => true
    | v => (Json.textList? v).isSome
  else (Json.text? field.2).isSome

/-- The names of a header that may stand in it only once. -/
def headerNames : List String := "alg" :: "jwk" :: textFields ++ listFields

/-- The algorithm that a header names. -/
def headerAlgorithm? (v : Json) : Option String :=
  if !v.isReadable then none
  else match v with
    | .record fields => do
      let _ ← headerNames.mapM (Json.cell fields)
      let name ← Json.required Json.text? (← Json.cell fields "alg")
      if algorithms.contains name && fields.all isHeaderField then some name else none
    | _ => none

/-! ## Claims -/

/-- A number that a claim of time can be: a count of seconds. -/
def isTime : Json → Bool
  | .int n => 0 ≤ n
  | _ => false

/-- The audience of a token: a text or texts. -/
def isAudience : Json → Bool
  | .text _ => true
  | .list items => items.all fun v => (Json.text? v).isSome
  | _ => false

/-- A claim of time that is no time is passed over, unless something stands inside it. -/
def isPassable : Json → Bool
  | .list items => items.isEmpty
  | .record fields => fields.isEmpty
  | _ => true

/-- The claims of a record, with what else in it has a say. -/
def claims? (v : Json) : Option (Claims × Bool) :=
  match v with
  | .record fields => do
    let subject ← Json.required Json.text? (← Json.cell fields "sub")
    let displayName ← Json.withDefault Json.text? "" (← Json.cell fields "name")
    let expiry ← Json.required Json.signed? (← Json.cell fields "exp")
    let service ← Json.withDefault Json.bool? false (← Json.cell fields "svc")
    let start ← Json.cell fields "nbf"
    let issuer ← Json.cell fields "iss"
    let audience ← Json.cell fields "aud"
    if !start.all isPassable then none
    if !issuer.all Json.isReadable || !audience.all Json.isReadable then none
    return ({ subject, displayName, expiry, service }, audience.any isAudience)
  | _ => none

/-- The bytes of a part. -/
def bytesOfPart (cs : List Char) : Except TokenFault (List UInt8) :=
  match Base64.decodeUrl? cs with
  | some bytes => .ok bytes
  | none => .error (.encoding "not base 64")

/-- The value that a part holds. -/
def valueOfPart (cs : List Char) : Except TokenFault Json := do
  match Json.parseBytes? ⟨(← bytesOfPart cs).toArray⟩ with
  | some v => return v
  | none => throw (.json "not JSON")

/-- The claims of a token, if they hold at a time. -/
def decode (secret : String) (now : Nat) (token : String) : Except TokenFault Claims := do
  if Text.trim token = "" then throw .missing
  match split? token.toList with
  | none => throw .parts
  | some (header, claims, sign) =>
    let some algorithm := headerAlgorithm? (← valueOfPart header) | throw (.json "not a header")
    if algorithm ≠ "HS256" then throw .algorithm
    if (← bytesOfPart sign) ≠ signature secret (header ++ '.' :: claims) then throw .signature
    let some (c, hasAudience) := claims? (← valueOfPart claims) | throw (.json "not claims")
    if c.expiry < 0 then throw (.missingClaim "exp")
    if c.expiry < now then throw .expired
    if hasAudience then throw .audience
    return c

end Token

/-- The actor that claims name. -/
def Claims.actor (c : Claims) : Actor where
  id := c.subject
  username := c.subject
  displayName := if c.displayName = "" then none else some c.displayName
  service := c.service

/-- Issues tokens and finds out who is behind them. -/
structure TokenManager where
  secret : String
  /-- Seconds for which a token is good. -/
  lifetime : Int := 3600
  account : ServiceAccount := {}
  deriving DecidableEq, Repr, Inhabited

namespace TokenManager

/-- A manager of tokens; the secret must not be empty. -/
def make (secret : String) (lifetime : Int) (account : ServiceAccount) :
    Except Fault TokenManager :=
  if secret = "" then .error (.internal "token manager secret is not configured")
  else .ok { secret, lifetime, account }

/-- A token for a user that is good until a time. -/
def mintUntil (m : TokenManager) (user displayName : String) (expiry : Int) : String :=
  Token.encode m.secret { subject := user, displayName, expiry }

/-- A token for a user that is good from now on. -/
def mint (m : TokenManager) (now : Nat) (user displayName : String) : String :=
  m.mintUntil user displayName (now + m.lifetime)

/-- Who is behind a token. -/
def actorOf (m : TokenManager) (now : Nat) (token : String) : Except Fault Actor :=
  ((Token.decode m.secret now token).map Claims.actor).mapError .unauthenticated

/-- The identity that may see every space. -/
def serviceActor (m : TokenManager) : Except Fault Actor :=
  if m.account.id = "" ∨ m.account.secret = "" then .error (.unauthenticated .accountNotConfigured)
  else .ok {
    id := m.account.id
    username := m.account.id
    displayName := some "service account"
    service := true }

end TokenManager

end ScopedSearch
