import ScopedSearch.Text.Quoted

/-!
# Faults

What can go wrong below the service: each constructor is one cause, and `Fault.message` is the one
place that words them.  Faults fall into kinds, which the service folds into three classes of its
own.  Where another program words a cause (a cluster, the operating system), its words are kept
as they came.
-/

namespace ScopedSearch

/-- Why a request token is refused. -/
inductive TokenFault
  /-- No token, or a blank one. -/
  | missing
  /-- The token does not have three parts. -/
  | parts
  /-- A part is not base 64; the words of the reader follow. -/
  | encoding (detail : String)
  /-- A part is not the JSON it should be; the words of the reader follow. -/
  | json (detail : String)
  | algorithm
  | signature
  | missingClaim (name : String)
  | expired
  | audience
  | accountNotConfigured
  | reported (text : String)
  deriving DecidableEq, Repr, Inhabited

def TokenFault.message : TokenFault → String
  | .missing => "missing token"
  | .parts => "invalid token: InvalidToken"
  | .encoding detail => "invalid token: Base64 error: " ++ detail
  | .json detail => "invalid token: JSON error: " ++ detail
  | .algorithm => "invalid token: InvalidAlgorithm"
  | .signature => "invalid token: InvalidSignature"
  | .missingClaim name => "invalid token: Missing required claim: " ++ name
  | .expired => "invalid token: ExpiredSignature"
  | .audience => "invalid token: InvalidAudience"
  | .accountNotConfigured => "service account is not configured"
  | .reported wording => wording

/-- The deepest offset that a page token may carry. -/
def resultWindow : Nat := 10000

/-- Why a page token is refused. -/
inductive PageTokenFault
  | malformed
  /-- The token was issued for another query. -/
  | foreign
  | beyondWindow (offset : Nat)
  deriving DecidableEq, Repr, Inhabited

def PageTokenFault.message : PageTokenFault → String
  | .malformed => "malformed page token"
  | .foreign => "page token does not belong to this query"
  | .beyondWindow offset =>
    s!"page token offset {offset} exceeds the result window of {resultWindow}"

/-- Why the text of a query is refused. -/
inductive QueryTextFault
  /-- The text is not of the query language. -/
  | unreadable (query : String)
  | unsupported (what : String)
  | unknownField (name : String)
  | notIndexed (field : String)
  | noPositions (field : String)
  | expectedInt (fault : Text.NumeralFault)
  | expectedBool
  /-- Every clause of the query excludes. -/
  | onlyExcluding
  | noDefaultField
  | phraseInRange
  | shortPhrase (phrase tokenizer : String)
  | unknownTokenizer (tokenizer field : String)
  | dateFormat
  | facetFormat (detail : String)
  | addressFormat (detail : String)
  deriving DecidableEq, Repr, Inhabited

/-- The name of a fault of a numeral inside a message. -/
def numeralFaultName : Text.NumeralFault → String
  | .empty => "Empty"
  | .invalidDigit => "InvalidDigit"
  | .aboveRange => "PosOverflow"
  | .belowRange => "NegOverflow"

def QueryTextFault.message : QueryTextFault → String
  | .unreadable query => "Syntax Error: " ++ query
  | .unsupported what => "Unsupported query: " ++ what
  | .unknownField name => s!"Field does not exist: '{name}'"
  | .notIndexed field => s!"The field '{field}' is not declared as indexed"
  | .noPositions field =>
    s!"A phrase query was requested for a field '{field}' not indexed for positions"
  | .expectedInt fault =>
    "Expected a valid integer: 'ParseIntError \x7b kind: " ++ numeralFaultName fault ++ " \x7d'"
  | .expectedBool => "Expected a bool value: 'ParseBoolError'"
  | .onlyExcluding => "Invalid query: Only excluding terms given"
  | .noDefaultField => "No default field declared and no field specified in query"
  | .phraseInRange => "A range query cannot have a phrase as one of the bounds"
  | .shortPhrase phrase tokenizer =>
    "The phrase '" ++ Text.quoted phrase ++
      "' does not produce at least two terms using the tokenizer '" ++
      Text.quoted tokenizer ++ "'"
  | .unknownTokenizer tokenizer field =>
    "The tokenizer '" ++ Text.quoted tokenizer ++ "' for the field '" ++ Text.quoted field ++
      "' is unknown"
  | .dateFormat => "The date field has an invalid format"
  | .facetFormat detail => "The facet field is malformed: " ++ detail
  | .addressFormat detail => "The ip field is malformed: " ++ detail

/-- Why a search is refused that its sender can mend. -/
inductive QueryFault
  | pageToken (cause : PageTokenFault)
  | text (cause : QueryTextFault)
  | unknownReference (item space : String)
  | reported (text : String)
  deriving DecidableEq, Repr, Inhabited

def QueryFault.message : QueryFault → String
  | .pageToken cause => cause.message
  | .text cause => cause.message
  | .unknownReference item space => s!"reference item {item} not found in space {space}"
  | .reported wording => wording

/-- Why work was given up before its end. -/
inductive CancelCause
  | cancelled
  | deadline
  | reported (text : String)
  deriving DecidableEq, Repr, Inhabited

def CancelCause.message : CancelCause → String
  | .cancelled => "context cancelled"
  | .deadline => "deadline exceeded"
  | .reported wording => wording

/-- What storage refuses or fails at. -/
inductive StorageFault
  | invalidSpace (space : String)
  | unknownSpace (space : String)
  | unavailableSpace (space : String)
  | listing
  | listingRoot (root detail : String)
  | isDirectory (path : String)
  | reported (text : String)
  deriving DecidableEq, Repr, Inhabited

def StorageFault.message : StorageFault → String
  | .invalidSpace space => "invalid space id " ++ Text.quoted space
  | .unknownSpace space => s!"space {space} not found"
  | .unavailableSpace space => s!"space {space} unavailable"
  | .listing => "listing spaces failed"
  | .listingRoot root detail => s!"listing spaces in {root}: {detail}"
  | .isDirectory path => s!"{path} is a directory"
  | .reported wording => wording

/-- A fault below the service. -/
inductive Fault
  | unauthenticated (cause : TokenFault)
  | badQuery (cause : QueryFault)
  /-- An index or converter cannot be reached or does not work. -/
  | engineUnavailable (detail : String)
  | enumerationFailed (detail : String)
  /-- One space failed in a rebuild of all spaces. -/
  | perSpace (space : String) (source : Fault)
  | itemNotFound (detail : String)
  | cancelled (cause : CancelCause)
  | storage (cause : StorageFault)
  | io (detail : String)
  | serialization (detail : String)
  | internal (detail : String)
  deriving DecidableEq, Repr, Inhabited

namespace Fault

def message : Fault → String
  | .unauthenticated cause => "unauthenticated: " ++ cause.message
  | .badQuery cause => "bad query: " ++ cause.message
  | .engineUnavailable detail => "engine unavailable: " ++ detail
  | .enumerationFailed detail => "space enumeration failed: " ++ detail
  | .perSpace space source => s!"indexing space {space} failed: " ++ source.message
  | .itemNotFound detail => "item not found: " ++ detail
  | .cancelled cause => "request cancelled: " ++ cause.message
  | .storage cause => "storage error: " ++ cause.message
  | .io detail => "i/o error: " ++ detail
  | .serialization detail => "serialization error: " ++ detail
  | .internal detail => "internal error: " ++ detail

/-- The stable name of the kind of a fault. -/
def kind : Fault → String
  | .unauthenticated _ => "UNAUTHENTICATED"
  | .badQuery _ => "BAD_QUERY"
  | .engineUnavailable _ => "ENGINE_UNAVAILABLE"
  | .enumerationFailed _ => "ENUMERATION_FAILED"
  | .perSpace _ _ => "PER_SPACE_INDEX_FAILED"
  | .itemNotFound _ => "ITEM_NOT_FOUND"
  | .cancelled _ => "CANCELLED"
  | .storage _ => "STORAGE_ERROR"
  | .io _ => "IO_ERROR"
  | .serialization _ => "SERIALIZATION_ERROR"
  | .internal _ => "INTERNAL_ERROR"

/-- The caller can mend the request and try again. -/
def isClientFault : Fault → Bool
  | .badQuery _ | .unauthenticated _ => true
  | _ => false

/-- The same request may succeed later. -/
def isRetryable : Fault → Bool
  | .engineUnavailable _ | .enumerationFailed _ | .io _ => true
  | _ => false

end Fault

/-! ## Faults of the index files -/

/-- What can go wrong with the files of an embedded index. -/
inductive IndexFault
  | io (detail : String)
  | directoryMissing (path : String)
  | fileMissing (path : String)
  | fileExists (path : String)
  /-- Another handle holds the writer of the index. -/
  | locked
  | lockIo (detail : String)
  | indexExists
  | unknownField (name : String)
  | invalidArgument (detail : String)
  | thread (detail : String)
  | missingArgument (detail : String)
  | schema (detail : String)
  | system (detail : String)
  | internal (detail : String)
  | poisoned
  deriving DecidableEq, Repr, Inhabited

namespace IndexFault

def message : IndexFault → String
  | .io detail => detail
  | .directoryMissing path => s!"Directory does not exist: '{path}'."
  | .fileMissing path => "Files does not exist: " ++ Text.quoted path
  | .fileExists path => s!"File already exists: '{path}'"
  | .locked => "Could not acquire lock as it is already held, possibly by a different process."
  | .lockIo detail => s!"Failed to acquire Lockfile: {detail}"
  | .indexExists => "Index already exists"
  | .unknownField name => s!"The field does not exist: '{name}'"
  | .invalidArgument detail => s!"An invalid argument was passed: '{detail}'"
  | .thread detail => s!"An error occurred in a thread: '{detail}'"
  | .missingArgument detail =>
    s!"Missing required index builder argument when open/create index: '{detail}'"
  | .schema detail => s!"Schema error: '{detail}'"
  | .system detail => s!"System error.'{detail}'"
  | .internal detail => s!"An internal error occurred: '{detail}'"
  | .poisoned => "A thread holding the locked panicked and poisoned the lock"

/-- The files cannot be reached, opened or locked. -/
def isUnavailable : IndexFault → Bool
  | .io _ | .directoryMissing _ | .fileMissing _ | .fileExists _ | .locked | .lockIo _ => true
  | _ => false

/-- The fault that is reported: unavailable for the files themselves, internal for the rest. -/
def toFault (f : IndexFault) : Fault :=
  if f.isUnavailable then .engineUnavailable f.message else .internal f.message

end IndexFault

end ScopedSearch
