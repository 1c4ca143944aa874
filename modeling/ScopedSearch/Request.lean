import ScopedSearch.Resource

/-!
# Searches and their answers

A request names the text to look for, how many matches a page holds, the part of the spaces to look
in, and the page.  An answer holds the matches of one page, the number of matches on all pages, and
the token of the next page.
-/

namespace ScopedSearch

/--
The part of the spaces to look in: a space, and in it a subtree.  `item` names the top of the
subtree by identity, and `path` is relative to it, or to the space when no item is named.
-/
structure Reference where
  space : Option String := none
  item : Option String := none
  path : Option String := none
  deriving DecidableEq, Repr, Inhabited

/-- No space is named; an empty name counts as none. -/
def Reference.isUnscoped (r : Reference) : Bool := r.space.getD "" == ""

/-- The space that is named, unless its name is empty. -/
def Reference.space? (r : Reference) : Option String := r.space.filter (· ≠ "")

/-- A search. -/
structure Request where
  query : String
  /-- Matches per page; zero and below ask for the default. -/
  pageSize : Int32
  reference : Reference := {}
  /-- Token of the page, from the answer before; empty for the first page. -/
  pageToken : String := ""
  includeTrashed : Bool := false
  deriving DecidableEq, Repr, Inhabited

/-- How well a document answers a query. -/
abbrev Score := Float32

/-- One match: what is known of a document but its text, and how well it answers. -/
structure Match where
  score : Score
  space : String
  item : String
  path : String
  name : String
  mimeType : String
  size : UInt64
  mtime : Int64
  tags : List String
  trashed : Bool
  deriving Repr, Inhabited

/-- The match that a document makes with a score. -/
def Match.ofDocument (d : Document) (score : Score) : Match where
  score := score
  space := d.space
  item := d.item
  path := d.path
  name := d.name
  mimeType := d.mimeType
  size := d.size
  mtime := d.mtime
  tags := d.tags.toList
  trashed := d.trashed

/-- The answer to a search. -/
structure Response where
  hits : List Match := []
  /-- The number of matches on all pages. -/
  total : Int64 := 0
  /-- Token of the next page; empty when there is none. -/
  nextToken : String := ""
  deriving Repr, Inhabited

end ScopedSearch
