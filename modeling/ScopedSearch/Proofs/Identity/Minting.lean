import ScopedSearch.Proofs.Identity.Token
import ScopedSearch.Proofs.Json.Fields

/-!
# Tokens name exactly their user

A manager puts the name of a user into the claims as a text of a record, so whatever stands in it,
quotes and braces included, comes back as the name and as nothing else.  A token is therefore as
good as its claims: two tokens are equal only when the claims are, and the manager that issued one
finds the same user behind it up to the second at which it expires.

## Main results

* `Token.encode_inj`: tokens with one secret are equal only for equal claims.
* `TokenManager.actorOf_mintUntil`: what a manager makes of a token that it has issued, at every
  time.
* `TokenManager.mintUntil_names_user`: tokens that are issued name exactly their user.
-/

namespace ScopedSearch

namespace Token

variable {c d : Claims}

/-- Tokens with one secret are equal only for equal claims. -/
theorem encode_inj {secret : String} (hclow : Text.minSigned ≤ c.expiry)
    (hchigh : c.expiry ≤ Text.maxSigned) (hdlow : Text.minSigned ≤ d.expiry)
    (hdhigh : d.expiry ≤ Text.maxSigned) (h : encode secret c = encode secret d) : c = d := by
  have hsplit : split? (encode secret c).toList = split? (encode secret d).toList := by rw [h]
  rw [split?_encode, split?_encode, Option.some.injEq, Prod.mk.injEq, Prod.mk.injEq] at hsplit
  obtain ⟨-, hpart, -⟩ := hsplit
  have hrecord : claimsJson c = claimsJson d := by
    have hvalue := valueOfPart_part (isExact_claimsJson hclow hchigh)
    rw [hpart, valueOfPart_part (isExact_claimsJson hdlow hdhigh)] at hvalue
    exact (Except.ok.inj hvalue).symm
  have hclaims := claims?_claimsJson hclow hchigh
  rw [hrecord, claims?_claimsJson hdlow hdhigh, Option.some.injEq, Prod.mk.injEq] at hclaims
  exact hclaims.1.symm

end Token

namespace TokenManager

variable {m : TokenManager}

/-- A manager turns a token away for one kind of reason only: nobody is known to be behind it. -/
theorem unauthenticated_of_actorOf {now : Nat} {token : String} {fault : Fault}
    (h : m.actorOf now token = .error fault) : ∃ cause, fault = .unauthenticated cause := by
  rw [actorOf] at h
  cases hdecode : Token.decode m.secret now token with
  | error cause =>
    rw [hdecode] at h
    exact ⟨cause, (Except.error.inj h).symm⟩
  | ok c =>
    rw [hdecode] at h
    cases h

/-- What a manager makes of a token that it has issued, at every time: it knows the user until the
token has expired, and nobody from then on. -/
theorem actorOf_mintUntil (m : TokenManager) (now : Nat) (user displayName : String)
    (expiry : Int64) :
    m.actorOf now (m.mintUntil user displayName expiry.toInt) =
      if (now : Int) ≤ expiry.toInt then
        .ok {
          id := user
          username := user
          displayName := if displayName = "" then none else some displayName
          service := false }
      else if expiry.toInt < 0 then .error (.unauthenticated (.missingClaim "exp"))
      else .error (.unauthenticated .expired) := by
  by_cases hnow : (now : Int) ≤ expiry.toInt
  · rw [if_pos hnow, mintUntil, actorOf_encode hnow (Json.toInt_le_maxSigned expiry)]
    rfl
  · rw [if_neg hnow, mintUntil, actorOf,
      Token.decode_encode m.secret now (Json.minSigned_le_toInt expiry)
        (Json.toInt_le_maxSigned expiry)]
    by_cases hzero : expiry.toInt < 0
    · rw [if_pos hzero, if_pos hzero]
      rfl
    · rw [if_neg hzero, if_neg hzero, if_pos (Int.not_le.1 hnow)]
      rfl

/-- A manager issues different tokens to different users, under different names and with different
times of expiry. -/
theorem mintUntil_inj {user user' displayName displayName' : String} {expiry expiry' : Int64}
    (h : m.mintUntil user displayName expiry.toInt =
      m.mintUntil user' displayName' expiry'.toInt) :
    user = user' ∧ displayName = displayName' ∧ expiry = expiry' := by
  have hclaims := Token.encode_inj (Json.minSigned_le_toInt expiry)
    (Json.toInt_le_maxSigned expiry) (Json.minSigned_le_toInt expiry')
    (Json.toInt_le_maxSigned expiry') h
  rw [Claims.mk.injEq] at hclaims
  exact ⟨hclaims.1, hclaims.2.1, Int64.toInt_inj.1 hclaims.2.2.1⟩

/-- Tokens that are issued name exactly their user.  With any secret but the empty one there is a
manager.  It accepts a token that it has issued exactly as long as the token has not expired, and
then the actor behind it is the user, under the name that was given and never as the service.
Different users, names and times give different tokens, and whatever token is turned away, it is
for being unauthenticated. -/
theorem mintUntil_names_user {secret : String} (hsecret : secret ≠ "") (lifetime : Int)
    (account : ServiceAccount) :
    ∃ m : TokenManager, make secret lifetime account = .ok m ∧
      (∀ (user displayName : String) (expiry : Int64) (now : Nat),
        ((∃ actor, m.actorOf now (m.mintUntil user displayName expiry.toInt) = .ok actor) ↔
          (now : Int) ≤ expiry.toInt) ∧
        ∀ actor, m.actorOf now (m.mintUntil user displayName expiry.toInt) = .ok actor →
          actor.id = user ∧ actor.username = user ∧
            (actor.displayName = if displayName = "" then none else some displayName) ∧
            actor.service = false) ∧
      (∀ (user displayName : String) (expiry : Int64) (user' displayName' : String)
        (expiry' : Int64), (user, displayName, expiry) ≠ (user', displayName', expiry') →
          m.mintUntil user displayName expiry.toInt ≠
            m.mintUntil user' displayName' expiry'.toInt) ∧
      ∀ (now : Nat) (token : String) (fault : Fault), m.actorOf now token = .error fault →
        ∃ cause, fault = .unauthenticated cause := by
  refine ⟨{ secret, lifetime, account }, if_neg hsecret, ?_, ?_, ?_⟩
  · intro user displayName expiry now
    rw [actorOf_mintUntil]
    by_cases hnow : (now : Int) ≤ expiry.toInt
    · rw [if_pos hnow]
      refine ⟨⟨fun _ => hnow, fun _ => ⟨_, rfl⟩⟩, ?_⟩
      rintro actor hactor
      cases hactor
      exact ⟨rfl, rfl, rfl, rfl⟩
    · rw [if_neg hnow]
      have hnobody : ∀ actor : Actor,
          (if expiry.toInt < 0 then .error (.unauthenticated (.missingClaim "exp"))
            else .error (.unauthenticated .expired) : Except Fault Actor) ≠ .ok actor := by
        intro actor
        split <;> simp
      exact ⟨⟨fun ⟨actor, hactor⟩ => absurd hactor (hnobody actor), fun h => absurd h hnow⟩,
        fun actor hactor => absurd hactor (hnobody actor)⟩
  · intro user displayName expiry user' displayName' expiry' hne h
    obtain ⟨rfl, rfl, rfl⟩ := mintUntil_inj h
    exact hne rfl
  · exact fun now token fault h => unauthenticated_of_actorOf h

/-- A name that spells the claim of a service is a name: the token is good up to its last second,
and for a user. -/
theorem mintUntil_names_user_spelledClaim :
    "key" ≠ "" ∧ ∃ m : TokenManager, make "key" 3600 {} = .ok m ∧
      (∃ actor, m.actorOf 40 (m.mintUntil "ann" "x\",\"svc\":true,\"y\":\"" 40) = .ok actor ∧
        actor.id = "ann" ∧ actor.displayName = some "x\",\"svc\":true,\"y\":\"" ∧
        actor.service = false) ∧
      (¬ ∃ actor, m.actorOf 41 (m.mintUntil "ann" "x\",\"svc\":true,\"y\":\"" 40) = .ok actor) ∧
      m.mintUntil "ann" "x\",\"svc\":true,\"y\":\"" 40 ≠ m.mintUntil "ann" "x" 40 := by
  have hforty : (40 : Int64).toInt = 40 := rfl
  obtain ⟨m, hmake, hactor, hne, -⟩ := mintUntil_names_user (show "key" ≠ "" by decide) 3600 {}
  obtain ⟨hgood, hnamed⟩ := hactor "ann" "x\",\"svc\":true,\"y\":\"" 40 40
  obtain ⟨hlate, -⟩ := hactor "ann" "x\",\"svc\":true,\"y\":\"" 40 41
  rw [hforty] at hgood hnamed hlate
  obtain ⟨actor, hok⟩ := hgood.2 (by decide)
  obtain ⟨hid, -, hname, hservice⟩ := hnamed actor hok
  refine ⟨by decide, m, hmake, ⟨actor, hok, hid, hname, hservice⟩, ?_, ?_⟩
  · exact fun h => absurd (hlate.1 h) (by decide)
  · exact hne "ann" "x\",\"svc\":true,\"y\":\"" 40 "ann" "x" 40 (by decide)

end TokenManager

end ScopedSearch
