import ScopedSearch.Extraction

/-!
# Plain text

An extractor that takes the bytes of a file for its text.  It counts what it is asked, and it can
be switched off, as a whole or for some items.
-/

namespace ScopedSearch

/-- The state of an extractor of plain text. -/
structure PlainText where
  /-- It is switched off. -/
  isDown : Bool := false
  /-- The items that it is switched off for. -/
  failing : List String := []
  /-- How often it was asked. -/
  uses : Nat := 0
  deriving Repr, Inhabited

namespace PlainText

variable {σ : Type}

/-- The text of a file's bytes. -/
def textOf (bytes : ByteArray) : Except Fault String :=
  match String.fromUTF8? bytes with
  | some text => .ok text
  | none => .error (.internal "body is not utf-8")

/-- Reads a file as text. -/
def tryExtract (p : Part σ PlainText) (storage : σ → Storage) (r : Resource) : Op σ String := do
  p.modify fun x => { x with uses := x.uses + 1 }
  let x ← Op.read p.get
  if x.isDown ∨ x.failing.contains r.item then
    Op.fail (.engineUnavailable "converter down")
  else
    let bytes ← Op.ofExcept ((← Op.read storage).bytes r)
    Op.ofExcept (textOf bytes)

/-- The extractor whose state is a piece of the state. -/
def extractor (p : Part σ PlainText) (storage : σ → Storage) : Extractor σ :=
  ⟨"plain", fun _ r => tryExtract p storage r⟩

end PlainText

end ScopedSearch
