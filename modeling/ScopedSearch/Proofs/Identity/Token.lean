import ScopedSearch.Identity.Token
import ScopedSearch.Proofs.Json.RoundTrip

/-!
# Tokens that are issued

A token that a manager has issued passes all that the manager looks at: it has three parts, its
header and its signature are the ones expected, and its claims are read back as they were.  What is
left to decide is whether the claims still hold.

## Main results

* `decode_encode`: the claims of a token are found again, as long as they hold.
* `actorOf_encode`: a manager knows who is behind a token with its own signature.
-/

namespace ScopedSearch

theorem Base64.dot_not_mem_encodeUrl (bytes : List UInt8) : '.' ∉ Base64.encodeUrl bytes := by
  intro h
  obtain ⟨n, hn, hdot⟩ := List.mem_map.1 h
  have hvalue := Base64.value?_symbol n (Base64.sextets_lt bytes n hn)
  rw [hdot] at hvalue
  cases hvalue

namespace Token

variable {c : Claims}

/-- A part holds the value that it was made of. -/
theorem valueOfPart_part {v : Json} (h : v.isExact = true) : valueOfPart (part v) = .ok v := by
  have hbytes : bytesOfPart (part v) = .ok v.compact.toUTF8.toList := by
    rw [bytesOfPart, part, Base64.decodeUrl?_encodeUrl]
  simp only [valueOfPart, hbytes, bind, Except.bind, Json.parseBytes?_compact h]
  rfl

theorem headerAlgorithm?_headerJson : headerAlgorithm? headerJson = some "HS256" := by decide

/-- The claims of a record are those that it was made of. -/
theorem claims?_claimsJson (hlow : Text.minSigned ≤ c.expiry) (hhigh : c.expiry ≤ Text.maxSigned) :
    claims? (claimsJson c) = some (c, false) := by
  have hexpiry : Json.signed? (.int c.expiry) = some c.expiry := if_pos ⟨hlow, hhigh⟩
  simp [claims?, claimsJson, Json.cell, Json.required, Json.withDefault, Json.text?, Json.bool?,
    hexpiry]

theorem isExact_claimsJson (hlow : Text.minSigned ≤ c.expiry)
    (hhigh : c.expiry ≤ Text.maxSigned) : (claimsJson c).isExact = true := by
  have hword : c.expiry ≤ Text.maxWord := Int.le_trans hhigh (by decide)
  simp [claimsJson, Json.isExact, Json.exactFields, hlow, hword]

/-- A token is not blank: it starts with its header. -/
theorem trim_encode_ne_empty (secret : String) (c : Claims) :
    Text.trim (encode secret c) ≠ "" := by
  intro hblank
  have hhead : (part headerJson).head? = some 'e' := by decide +kernel
  obtain ⟨rest, hrest⟩ := List.head?_eq_some_iff.1 hhead
  have hmem : 'e' ∈ (encode secret c).toList := by
    simp [encode, hrest]
  exact absurd (Text.trim_eq_empty_iff.1 hblank 'e' hmem) (by decide)

theorem split?_encode (secret : String) (c : Claims) :
    split? (encode secret c).toList = some (part headerJson, part (claimsJson c),
      Base64.encodeUrl (signature secret (part headerJson ++ '.' :: part (claimsJson c)))) := by
  rw [encode, String.toList_ofList]
  exact split?_joined _ _ _ (Base64.dot_not_mem_encodeUrl _) (Base64.dot_not_mem_encodeUrl _)

/-- The claims of a token are found again, as long as they hold. -/
theorem decode_encode (secret : String) (now : Nat) (hlow : Text.minSigned ≤ c.expiry)
    (hhigh : c.expiry ≤ Text.maxSigned) :
    decode secret now (encode secret c) =
      if c.expiry < 0 then .error (.missingClaim "exp")
      else if c.expiry < now then .error .expired
      else .ok c := by
  have hheader := valueOfPart_part (v := headerJson) (by decide)
  have hclaims := valueOfPart_part (isExact_claimsJson hlow hhigh)
  have hsign : bytesOfPart (Base64.encodeUrl
      (signature secret (part headerJson ++ '.' :: part (claimsJson c)))) =
      .ok (signature secret (part headerJson ++ '.' :: part (claimsJson c))) := by
    rw [bytesOfPart, Base64.decodeUrl?_encodeUrl]
  rw [decode, if_neg (trim_encode_ne_empty secret c), split?_encode]
  simp only [hheader, hclaims, hsign, bind, Except.bind, headerAlgorithm?_headerJson,
    claims?_claimsJson hlow hhigh, ne_eq, not_true_eq_false, Bool.false_eq_true, if_false]
  by_cases hnegative : c.expiry < 0
  · rw [if_pos hnegative, if_pos hnegative]
    rfl
  · rw [if_neg hnegative, if_neg hnegative]
    by_cases hexpired : c.expiry < now
    · rw [if_pos hexpired, if_pos hexpired]
      rfl
    · rw [if_neg hexpired, if_neg hexpired]
      rfl

end Token

/-- A manager knows who is behind a token with its own signature, as long as its claims hold. -/
theorem TokenManager.actorOf_encode {m : TokenManager} {now : Nat} {c : Claims}
    (hnow : (now : Int) ≤ c.expiry) (hhigh : c.expiry ≤ Text.maxSigned) :
    m.actorOf now (Token.encode m.secret c) = .ok c.actor := by
  have hzero : 0 ≤ c.expiry := Int.le_trans (Int.natCast_nonneg now) hnow
  have hlow : Text.minSigned ≤ c.expiry := Int.le_trans (by decide) hzero
  rw [actorOf, Token.decode_encode m.secret now hlow hhigh, if_neg (by omega), if_neg (by omega)]
  rfl

end ScopedSearch
