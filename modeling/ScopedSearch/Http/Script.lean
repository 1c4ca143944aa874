import ScopedSearch.Http.Exchange

/-!
# Scripted servers

Servers that answer from a script: each request takes the next reply, whichever server it goes to.
A reply may be late, which moves the clock on, or not come at all.
-/

namespace ScopedSearch.Http

/-- A reply of a script. -/
structure ScriptedReply where
  reply : Reply
  /-- The connection is closed in the place of the reply. -/
  drops : Bool := false
  /-- Milliseconds before the reply. -/
  delay : Nat := 0

/-- What servers will say and have heard. -/
structure Script where
  replies : List ScriptedReply := []
  /-- The requests so far, each with the number of the server it went to. -/
  heard : List (Nat × Request) := []
  /-- Milliseconds that have gone by. -/
  clock : Nat := 0

instance : Inhabited Script := ⟨{}⟩

/-- What a server says when the script is at its end. -/
def unscripted : ScriptedReply := { reply := ⟨500, "no scripted reply".toUTF8⟩ }

/-- The reply to a request that a server has heard, waited for so many milliseconds. -/
def Script.answer (s : Script) (server : Nat) (request : Request) (millis : Nat) :
    Except TransportFault Reply × Script :=
  let next := s.replies.headD unscripted
  let s := { s with replies := s.replies.tail, heard := s.heard ++ [(server, request)] }
  if millis ≤ next.delay then (.error .timedOut, { s with clock := s.clock + millis })
  else
    (if next.drops then .error .unreachable else .ok next.reply,
      { s with clock := s.clock + next.delay })

/-- The network of the servers at some origins, and of no others. -/
def Script.network {σ : Type} (origins : List String) (script : Part σ Script) : Network σ :=
  fun request millis => Op.make fun st =>
    match origins.idxOf? request.url.origin with
    | none => (.ok (.error .unreachable), st)
    | some server =>
      let (answer, s) := (script.get st).answer server request millis
      (.ok answer, script.put s st)

end ScopedSearch.Http
