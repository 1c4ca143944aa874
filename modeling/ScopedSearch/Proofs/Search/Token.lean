import ScopedSearch.Proofs.Json.RoundTrip
import ScopedSearch.Search.Paging

/-!
# Page tokens

A page token is read back as the token that was written, so the offset that an answer puts into a
token is the offset that the next search starts from.  A token is accepted with the fingerprint it
was made with, as long as its offset lies within the result window.

## Main results

* `decode?_encode`: a token reads back.
* `offsetFor_encode`: a token that stays within the window is accepted.
* `offsetFor_le_resultWindow`: an accepted offset lies within the window.
-/

namespace ScopedSearch.PageToken

theorem isExact_toJson (t : PageToken) : t.toJson.isExact = true := by
  have ho := Json.isExact_nat t.offset.toNat_lt
  have hf := Json.isExact_nat t.fingerprint.toNat_lt
  simp [toJson, Json.isExact, Json.exactFields, ho, hf]

/-- The record of a token is read as the token. -/
theorem ofJson?_toJson (t : PageToken) : ofJson? t.toJson = some t := by
  have hcells : Json.cells? ["o", "f"] t.toJson =
      some [some (.nat t.offset.toNat), some (.nat t.fingerprint.toNat)] := rfl
  simp [ofJson?, hcells, Json.required, Json.word?_nat t.offset.toNat_lt,
    Json.word?_nat t.fingerprint.toNat_lt]

/-- A token reads back. -/
theorem decode?_encode (t : PageToken) : decode? t.encode = some t := by
  rw [decode?, encode, String.toList_ofList, Base64.decodeUrl?_encodeUrl]
  simp only [Option.bind_eq_bind, Option.bind_some]
  rw [Json.parseBytes?_compact (isExact_toJson t), Option.bind_some, ofJson?_toJson]

@[simp] theorem decode?_empty : decode? "" = none := by decide +kernel

/-- A token is never the empty text, which stands for the first page. -/
theorem encode_ne_empty (t : PageToken) : t.encode ≠ "" := by
  intro h
  have hempty := decode?_empty
  rw [← h, decode?_encode] at hempty
  cases hempty

@[simp] theorem offsetFor_empty (fingerprint : UInt64) : offsetFor fingerprint "" = .ok 0 := rfl

/-- A token that stays within the window is accepted with its fingerprint. -/
theorem offsetFor_encode {offset : Nat} (h : offset ≤ resultWindow) (fingerprint : UInt64) :
    offsetFor fingerprint (encode ⟨UInt64.ofNat offset, fingerprint⟩) = .ok offset := by
  have hwidth : resultWindow < UInt64.size := by decide
  have hoffset : (UInt64.ofNat offset).toNat = offset :=
    UInt64.toNat_ofNat_of_lt (Nat.lt_of_le_of_lt h hwidth)
  rw [offsetFor, if_neg (encode_ne_empty _), decode?_encode]
  simp [hoffset, Nat.not_lt.2 h]

/-- An accepted offset lies within the window. -/
theorem offsetFor_le_resultWindow {fingerprint : UInt64} {text : String} {offset : Nat}
    (h : offsetFor fingerprint text = .ok offset) : offset ≤ resultWindow := by
  unfold offsetFor at h
  split at h
  · cases h
    exact Nat.zero_le _
  · split at h
    · cases h
    · split at h
      · cases h
      · split at h
        · cases h
        · next hwindow =>
          cases h
          exact Nat.le_of_not_lt hwindow

end ScopedSearch.PageToken
