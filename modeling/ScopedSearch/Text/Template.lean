/-!
# Templates

A text with places to fill in, each a name in braces behind a dollar sign.  A place whose name has
no text stays as it is.

## Main results

* `fillIn_empty`: an empty text has no places.
-/

namespace ScopedSearch.Text

/-- A text with its places filled in, and nothing filled in behind a place that is not closed. -/
def fillInChars (lookup : String → Option String) : Nat → List Char → List Char
  | 0, cs => cs
  | _, [] => []
  | fuel + 1, '$' :: '\x7b' :: cs =>
    let name := cs.takeWhile (· ≠ '\x7d')
    match cs.drop name.length, lookup (String.ofList name) with
    | _ :: rest, some text => text.toList ++ fillInChars lookup fuel rest
    | _, _ => '$' :: '\x7b' :: fillInChars lookup fuel cs
  | fuel + 1, c :: cs => c :: fillInChars lookup fuel cs

/-- A text with its places filled in. -/
def fillIn (lookup : String → Option String) (s : String) : String :=
  String.ofList (fillInChars lookup s.toList.length s.toList)

theorem fillIn_empty (lookup : String → Option String) : fillIn lookup "" = "" := rfl

end ScopedSearch.Text
