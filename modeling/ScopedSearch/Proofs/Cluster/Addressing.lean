import ScopedSearch.Http.Script
import ScopedSearch.Proofs.Cancellation.Backends
import ScopedSearch.Proofs.Cluster.Bulk
import ScopedSearch.Proofs.Http.Segment

/-!
# Where requests to a cluster go

A document is stored under its key in the body of a request, and looked up and patched under its key
in the address of a request.  The key is text from outside, so in an address it is encoded as one
segment.  Nothing in it can be taken for a slash, for the start of a query or for a dot segment, and
what a server decodes is the key again.

The servers take turns.  What is asked next may depend on all replies so far, so requests in a row
are a `Dialogue` here: a tree that branches at each reply.  Every operation of the backend is one,
and so are two of them in a row.  A request takes its turn when it is made; a caller who gives it up
before it is sent does not give the turn back.

## Main results

* `isName_segment`, `lastSegment_append`: the segment of a document ends an address, and means
  nothing there but itself.
* `isRequest_get`, `isRequest_patch`, `isRequest_upsert`, `isRequest_search`, `isRequest_count`,
  `connect_eq_run`, `Dialogue.run_andThen`: operations are dialogues.
* `Dialogue.perform_run`: the requests of a dialogue go to the servers in turn.
* `requests_address_documents`: what is addressed by the requests of a cluster.
-/

namespace ScopedSearch.Cluster

open ScopedSearch.Http ScopedSearch.Text

variable {σ α β : Type}

/-! ## The segment of a document -/

/-- The key of a document as a segment of an address. -/
def segment (space item : String) : String := Percent.encode (documentKey space item)

theorem segment_eq (space item : String) :
    segment space item = Percent.encode space ++ "%21" ++ Percent.encode item := by
  have hseparator : Percent.encode keySeparator = "%21" := by decide +kernel
  rw [segment, documentKey, Percent.encode_append, Percent.encode_append, hseparator]

theorem isInert_of_mem_segment {space item : String} {c : Char}
    (hc : c ∈ (segment space item).toList) : Url.isInert c = true := by
  have hmarks : ['-', '.', '_', '~', '%'].all Url.isInert = true := by decide
  rcases (Percent.isSegment_encode _).of_mem hc with halnum | hmark
  · simp [Url.isInert, halnum]
  · exact List.all_eq_true.1 hmarks c hmark

/-- The segment of a document means nothing in a path but itself. -/
theorem isName_segment (space item : String) : Url.IsName (segment space item).toList := by
  -- no dot segment has a digit of the escape between the space and the item
  have hone : '1' ∈ (segment space item).toList := by simp [segment_eq]
  have hlower : '1' ∈ (segment space item).toList.map Char.toLower :=
    List.mem_map.2 ⟨'1', hone, by decide⟩
  refine ⟨fun c => isInert_of_mem_segment, ?_, ?_⟩ <;> rw [Bool.eq_false_iff] <;> intro h
  · simp only [Url.isSingleDot, Bool.or_eq_true, decide_eq_true_eq] at h
    rcases h with h | h
    · exact absurd (h ▸ hone) (by decide)
    · exact absurd (h ▸ hlower) (by decide)
  · have hdots : ∀ dots ∈ [['.', '.'], ['.', '%', '2', 'e'], ['%', '2', 'e', '.'],
        ['%', '2', 'e', '%', '2', 'e']], '1' ∉ dots := by decide
    exact hdots _ (List.contains_iff_mem.1 h) hlower

/-- What stands behind the last slash of an address, without the query. -/
def lastSegment (address : String) : List Char :=
  ((splitOn '/' address.toList).getLastD []).takeWhile (· ≠ '?')

/-- The segment of a document at the end of an address is the last one, also before a query. -/
theorem lastSegment_append (before space item : String) {query : String}
    (hquery : Url.IsQuery query.toList) :
    lastSegment (before ++ "/" ++ segment space item ++ query) = (segment space item).toList := by
  have hseg := isName_segment space item
  have htext : (before ++ "/" ++ segment space item ++ query).toList =
      before.toList ++ '/' :: ((segment space item).toList ++ query.toList) := by simp
  have hslash : '/' ∉ (segment space item).toList ++ query.toList := by
    simp [hseg.not_mem (d := '/') (by decide), hquery.not_mem (d := '/') (by decide) (by decide)]
  have hmark := hseg.not_mem (d := '?') (by decide)
  rw [lastSegment, htext, Path.splitOn_append_sep, splitOn_of_not_mem '/' _ hslash,
    List.getLastD_concat, Url.takeWhile_ne_append hmark, hquery.takeWhile, List.append_nil]

/-! ## Dialogues -/

/-- A request, apart from the server that it goes to. -/
structure Inquiry where
  method : String
  /-- What stands behind the server in the address. -/
  place : String
  headers : Headers := []
  body : String := ""

/-- Makes a request of the server whose turn it is. -/
def inquire (c : Cluster σ) (ctx : Context σ) (q : Inquiry) : Op σ Reply := do
  let server ← c.server
  c.send ctx q.method (server ++ q.place) q.headers q.body

/-- Makes a request of a server, which then has had its turn. -/
def inquireOf (c : Cluster σ) (server : String) (ctx : Context σ) (q : Inquiry) : Op σ Reply := do
  c.turns.modify (· + 1)
  c.send ctx q.method (server ++ q.place) q.headers q.body

/-- Requests in a row, each of which may depend on what came of those before it. -/
inductive Dialogue (σ α : Type)
  | done (outcome : Except Fault α)
  | ask (ctx : Context σ) (q : Inquiry) (next : Except Fault Reply → Dialogue σ α)

namespace Dialogue

/-- The dialogue with a cluster. -/
def run (c : Cluster σ) : Dialogue σ α → Op σ α
  | .done outcome => Op.ofExcept outcome
  | .ask ctx q next => do
    let reply ← (c.inquire ctx q).outcome
    (next reply).run c

/-- The dialogue with a cluster when its requests, counted from `k`, go to the given servers. -/
def runOf (c : Cluster σ) (servers : Nat → String) (k : Nat) : Dialogue σ α → Op σ α
  | .done outcome => Op.ofExcept outcome
  | .ask ctx q next => do
    let reply ← (c.inquireOf (servers k) ctx q).outcome
    (next reply).runOf c servers (k + 1)

/-- One request, and what follows its reply; without one the dialogue ends. -/
def request (ctx : Context σ) (q : Inquiry) (next : Reply → Dialogue σ α) : Dialogue σ α :=
  .ask ctx q fun
    | .ok reply => next reply
    | .error fault => .done (.error fault)

/-- One request, and what is read off its reply. -/
def single (ctx : Context σ) (q : Inquiry) (read : Reply → Except Fault α) : Dialogue σ α :=
  request ctx q fun reply => .done (read reply)

/-- A dialogue, and then another one that may depend on how the first one ended. -/
def andThen (next : Except Fault α → Dialogue σ β) : Dialogue σ α → Dialogue σ β
  | .done outcome => next outcome
  | .ask ctx q more => .ask ctx q fun reply => (more reply).andThen next

variable {c : Cluster σ}

theorem run_request (ctx : Context σ) (q : Inquiry) (next : Reply → Dialogue σ α) :
    (request ctx q next).run c = (do (next (← c.inquire ctx q)).run c) := by
  funext s
  show ((request ctx q next).run c).perform s = Op.perform _ s
  rw [request, run, Op.perform_bind, Op.perform_bind, Op.perform_outcome]
  rcases (c.inquire ctx q).perform s with ⟨e | reply, t⟩ <;> rfl

theorem run_single (ctx : Context σ) (q : Inquiry) (read : Reply → Except Fault α) :
    (single ctx q read).run c = (do Op.ofExcept (read (← c.inquire ctx q))) :=
  run_request ctx q fun reply => .done (read reply)

/-- Two dialogues in a row are one dialogue. -/
theorem run_andThen (d : Dialogue σ α) (next : Except Fault α → Dialogue σ β) :
    (d.andThen next).run c = (do (next (← (d.run c).outcome)).run c) := by
  induction d with
  | done outcome => rfl
  | ask ctx q more ih =>
    funext s
    show ((andThen next (.ask ctx q more)).run c).perform s = Op.perform _ s
    simp only [andThen, run, Op.perform_bind, Op.perform_outcome, ih]

end Dialogue

/-! ## Operations as dialogues -/

/-- Asks for a path of the index. -/
def asking (c : Cluster σ) (method path : String) : Option Json → Inquiry
  | none => { method, place := "/" ++ c.index ++ path }
  | some v => {
    method, place := "/" ++ c.index ++ path, headers := [("content-type", "application/json")],
    body := v.compact }

/-- Asks for the document of an item. -/
def lookup (c : Cluster σ) (space item : String) : Inquiry :=
  { method := "GET", place := "/" ++ c.index ++ "/_doc/" ++ segment space item }

/-- Asks for a patch of the document of an item. -/
def update (c : Cluster σ) (space item : String) (p : Patch) : Inquiry where
  method := "POST"
  place := "/" ++ c.index ++ "/_update/" ++ segment space item ++ "?refresh=true"
  headers := [("content-type", "application/json")]
  body := p.body.compact

/-- Asks to store documents. -/
def store (c : Cluster σ) (ds : List Document) : Inquiry where
  method := "POST"
  place := "/_bulk?refresh=true"
  headers := [("content-type", "application/x-ndjson")]
  body := bulkBody c.index ds

/-- Asks whether the index is there, and asks for it if it is not. -/
def connecting (c : Cluster σ) (ctx : Context σ) : Dialogue σ Unit :=
  .request ctx (c.asking "HEAD" "" none) fun r =>
    if isSuccess r.status then .done (.ok ())
    else if r.status = 404 then
      .single ctx (c.asking "PUT" "" (some indexMapping)) fun r => (granted r).map fun _ => ()
    else .done (.error (refusal r.status ByteArray.empty))

/-- The operation is one request, and what is read off its reply. -/
def IsRequest (c : Cluster σ) (ctx : Context σ) (q : Inquiry) (op : Op σ α) : Prop :=
  ∃ read, op = (Dialogue.single ctx q read).run c

section

variable (c : Cluster σ) (ctx : Context σ)

theorem ask_eq (method path : String) (body : Option Json) :
    c.ask ctx method path body = c.inquire ctx (c.asking method path body) := by
  have haddress : ∀ server, server ++ "/" ++ c.index ++ path =
      server ++ ("/" ++ c.index ++ path) := by
    intro server
    rw [String.append_assoc, String.append_assoc, String.append_assoc]
  cases body <;> simp only [ask, inquire, asking, haddress]

theorem isRequest_get (space item : String) :
    c.IsRequest ctx (c.lookup space item) (c.get ctx space item) := by
  refine ⟨fun r => if r.status = 404 then .ok none else (granted r).bind (readReply found?), ?_⟩
  have hplace : c.asking "GET" (documentPath "_doc" space item) none = c.lookup space item := by
    simp [asking, lookup, documentPath, segment, String.append_assoc]
  rw [Dialogue.run_single, get, ask_eq, hplace]
  congr 1
  funext r
  split <;> rfl

theorem isRequest_patch (space item : String) (p : Patch) :
    c.IsRequest ctx (c.update space item p) (c.patch ctx space item p) := by
  refine ⟨fun r => if r.status = 404 then .ok false else (granted r).map fun _ => true, ?_⟩
  have hplace : c.asking "POST" (documentPath "_update" space item ++ "?refresh=true")
      (some p.body) = c.update space item p := by
    simp [asking, update, documentPath, segment, String.append_assoc]
  rw [Dialogue.run_single, patch, ask_eq, hplace]
  congr 1
  funext r
  split
  · rfl
  · cases granted r <;> rfl

theorem isRequest_upsert {ds : List Document} (hds : ds ≠ []) :
    c.IsRequest ctx (c.store ds) (c.upsert ctx ds) := by
  refine ⟨fun r => ((granted r).bind (readReply whole?)).bind fun v =>
    (bulkFault? v).elim (.ok ()) .error, ?_⟩
  have hsome : ¬ ds.isEmpty = true := by rwa [List.isEmpty_iff]
  rw [Dialogue.run_single, upsert, if_neg hsome, inquire, bind_assoc]
  refine bind_congr fun server => bind_congr fun r => ?_
  have hgranting : (granting whole? r : Op σ Json) =
      Op.ofExcept ((granted r).bind (readReply whole?)) := rfl
  rw [hgranting]
  rcases (granted r).bind (readReply whole?) with fault | v
  · rfl
  · have hok : ∀ next : Json → Op σ Unit, (Op.ofExcept (.ok v) >>= next) = next v := fun _ => rfl
    have hread : ∀ next : Json → Except Fault Unit, (Except.ok v).bind next = next v :=
      fun _ => rfl
    rw [hok, hread]
    cases bulkFault? v <;> rfl

theorem isRequest_search (q : BackendQuery) :
    c.IsRequest ctx (c.asking "POST" "/_search" (some q.body)) (c.search ctx q) := by
  refine ⟨fun r => (granted r).bind (readReply hits?), ?_⟩
  rw [Dialogue.run_single, search, ask_eq]
  rfl

theorem isRequest_count : c.IsRequest ctx (c.asking "GET" "/_count" none) (c.count ctx) := by
  refine ⟨fun r => (granted r).bind (readReply count?), ?_⟩
  rw [Dialogue.run_single, count, ask_eq]
  rfl

theorem connect_eq_run : c.connect ctx = (c.connecting ctx).run c := by
  rw [connecting, Dialogue.run_request, connect, ask_eq]
  congr 1
  funext r
  split
  · rfl
  split
  · rw [Dialogue.run_single, ask_eq]
  · rfl

end

/-! ## Turns -/

/-- It is the same server's turn in both states. -/
def SameTurn (turns : Part σ Nat) (s t : σ) : Prop := turns.get t = turns.get s

namespace SameTurn

variable {turns : Part σ Nat} {s t u : σ}

theorem refl (s : σ) : SameTurn turns s s := rfl

theorem trans (h : SameTurn turns s t) (h' : SameTurn turns t u) : SameTurn turns s u :=
  Eq.trans h' h

end SameTurn

/-- The operation leaves it alone whose turn it is. -/
def KeepsTurns (turns : Part σ Nat) (op : Op σ α) : Prop := op.Within (SameTurn turns)

/-- A caller who leaves it alone whose turn it is. -/
structure IsBystander (turns : Part σ Nat) (ctx : Context σ) : Prop where
  check : KeepsTurns turns ctx.check
  remaining : KeepsTurns turns ctx.remaining

theorem isBystander_background (turns : Part σ Nat) : IsBystander turns Context.background :=
  ⟨SameTurn.refl, SameTurn.refl⟩

namespace Dialogue

/-- A dialogue on behalf of callers who leave it alone whose turn it is. -/
def KeepsTurns (turns : Part σ Nat) : Dialogue σ α → Prop
  | .done _ => True
  | .ask ctx _ next => IsBystander turns ctx ∧ ∀ reply, (next reply).KeepsTurns turns

variable {turns : Part σ Nat} {ctx : Context σ}

theorem keepsTurns_request (hctx : IsBystander turns ctx) (q : Inquiry)
    {next : Reply → Dialogue σ α} (hnext : ∀ reply, (next reply).KeepsTurns turns) :
    (request ctx q next).KeepsTurns turns := by
  refine ⟨hctx, fun reply => ?_⟩
  cases reply with
  | ok reply => exact hnext reply
  | error fault => trivial

theorem keepsTurns_single (hctx : IsBystander turns ctx) (q : Inquiry)
    (read : Reply → Except Fault α) : (single ctx q read).KeepsTurns turns :=
  keepsTurns_request hctx q fun _ => trivial

theorem keepsTurns_connecting {c : Cluster σ} (hctx : IsBystander turns ctx) :
    (c.connecting ctx).KeepsTurns turns := by
  refine keepsTurns_request hctx _ fun r => ?_
  split
  · trivial
  split
  · exact keepsTurns_single hctx _ _
  · trivial

theorem KeepsTurns.andThen {d : Dialogue σ α} (hd : d.KeepsTurns turns)
    {next : Except Fault α → Dialogue σ β} (hnext : ∀ outcome, (next outcome).KeepsTurns turns) :
    (d.andThen next).KeepsTurns turns := by
  induction d with
  | done outcome => exact hnext outcome
  | ask ctx q more ih => exact ⟨hd.1, fun reply => ih reply (hd.2 reply)⟩

end Dialogue

section

variable {c : Cluster σ} {ctx : Context σ}

/-- A request goes to the server whose turn it is. -/
theorem perform_inquire (q : Inquiry) (s : σ) :
    (c.inquire ctx q).perform s = (c.inquireOf (c.turn (c.turns.get s)) ctx q).perform s := by
  simp only [inquire, inquireOf, server, Part.modify, Op.perform_bind, Op.perform_read,
    Op.perform_change, Op.perform_pure]

theorem keepsTurns_send (hnetwork : ∀ request millis,
      KeepsTurns c.turns (c.client.network request millis))
    (hctx : IsBystander c.turns ctx) (method address : String) (headers : Headers)
    (body : String) :
    KeepsTurns c.turns (c.send ctx method address headers body) := by
  let R := SameTurn c.turns
  refine Op.Within.bind (R := R) SameTurn.trans hctx.check fun _ => ?_
  refine Op.Within.bind (R := R) SameTurn.trans
    (Watch.within_clamp SameTurn.refl SameTurn.trans hctx.remaining c.timeout) fun _ => ?_
  refine Op.Within.bind (R := R) SameTurn.trans
    (Watch.within_client SameTurn.refl SameTurn.trans hnetwork _ _ _ _ _) fun reply => ?_
  split
  · exact Op.within_pure SameTurn.refl _
  · exact fun s => SameTurn.refl s
  · exact fun s => SameTurn.refl s

/-- After a request the next server has its turn, whatever came of the request. -/
theorem turns_inquireOf (hnetwork : ∀ request millis,
      KeepsTurns c.turns (c.client.network request millis))
    (hctx : IsBystander c.turns ctx) (server : String) (q : Inquiry) (s : σ) :
    c.turns.get ((c.inquireOf server ctx q).perform s).2 = c.turns.get s + 1 := by
  have hsend := keepsTurns_send hnetwork hctx q.method (server ++ q.place) q.headers
    q.body (c.turns.put (c.turns.get s + 1) s)
  rw [SameTurn, Part.get_put] at hsend
  exact hsend

/-- The requests of a dialogue go to the servers in turn. -/
theorem Dialogue.perform_run (hnetwork : ∀ request millis,
      Cluster.KeepsTurns c.turns (c.client.network request millis))
    {d : Dialogue σ α} (hd : d.KeepsTurns c.turns) (s : σ) :
    (d.run c).perform s = (d.runOf c c.turn (c.turns.get s)).perform s := by
  induction d generalizing s with
  | done outcome => rfl
  | ask ctx q next ih =>
    obtain ⟨hctx, hnext⟩ := hd
    have hturns := turns_inquireOf hnetwork hctx (c.turn (c.turns.get s)) q s
    rw [run, runOf, Op.perform_bind, Op.perform_bind, Op.perform_outcome, Op.perform_outcome,
      perform_inquire]
    show ((next _).run c).perform _ = ((next _).runOf c c.turn (c.turns.get s + 1)).perform _
    rw [ih _ (hnext _), hturns]

end

/-! ## The servers -/

/-- An address is what is left of it without slashes at its end, and slashes. -/
theorem exists_trimSlashes (address : String) : ∃ n,
    address.toList = (Url.trimSlashes address).toList ++ List.replicate n '/' ∧
      (Url.trimSlashes address).toList.getLast? ≠ some '/' := by
  let p : Char → Bool := (· = '/')
  have hslashes : address.toList.reverse.takeWhile p =
      List.replicate (address.toList.reverse.takeWhile p).length '/' :=
    List.eq_replicate_of_mem fun c hc =>
      of_decide_eq_true (show p c = true from List.mem_takeWhile_imp hc)
  have htrimmed : (Url.trimSlashes address).toList = (address.toList.reverse.dropWhile p).reverse :=
    String.toList_ofList
  refine ⟨(address.toList.reverse.takeWhile p).length, ?_, ?_⟩
  · rw [htrimmed, ← List.reverse_replicate, ← hslashes, ← List.reverse_append,
      List.takeWhile_append_dropWhile, List.reverse_reverse]
  · rw [htrimmed, List.getLast?_reverse]
    intro hlast
    have hend := List.head?_dropWhile_not p address.toList.reverse
    rw [hlast] at hend
    exact absurd hend (by decide)

theorem make_eq_ok {settings : ClusterSettings} {network : Network σ} {turns : Part σ Nat}
    {c : Cluster σ} (h : make settings network turns = .ok c) :
    settings.addresses ≠ [] ∧ c.addresses = settings.addresses.map Url.trimSlashes ∧
      c.index = settings.index ∧ c.turns = turns ∧ c.client.network = network := by
  rw [make] at h
  split at h
  · cases h
  · next hsome =>
    rcases hheaders : headersOf settings.headers with fault | headers <;> rw [hheaders] at h
    · cases h
    · cases h
      exact ⟨fun hnone => hsome (by rw [hnone]; rfl), rfl, rfl, rfl, rfl⟩

/-- The server for a request is the address at the number of the request, modulo how many there
are, without the slashes at its end. -/
theorem exists_address {settings : ClusterSettings} {network : Network σ} {turns : Part σ Nat}
    {c : Cluster σ} (h : make settings network turns = .ok c) (k : Nat) : ∃ address n,
    settings.addresses[k % settings.addresses.length]? = some address ∧
      address.toList = (c.turn k).toList ++ List.replicate n '/' ∧
      (c.turn k).toList.getLast? ≠ some '/' := by
  obtain ⟨hsome, haddresses, -⟩ := make_eq_ok h
  have hk : k % settings.addresses.length < settings.addresses.length :=
    Nat.mod_lt k (List.length_pos_iff.2 hsome)
  have hturn : c.turn k =
      Url.trimSlashes (settings.addresses.get ⟨k % settings.addresses.length, hk⟩) := by
    rw [turn, haddresses, List.length_map, List.getD_eq_getElem?_getD, List.getElem?_map,
      List.getElem?_eq_getElem hk]
    rfl
  obtain ⟨n, haddress, hlast⟩ :=
    exists_trimSlashes (settings.addresses.get ⟨k % settings.addresses.length, hk⟩)
  rw [← hturn] at haddress hlast
  exact ⟨_, n, List.getElem?_eq_getElem hk, haddress, hlast⟩

/-! ## What is addressed -/

/-- In the text for documents sent in bulk, each stands under what its segment decodes to. -/
theorem exists_bulk_id (c : Cluster σ) {ds : List Document} {i : Nat} {d : Document}
    (hd : ds[i]? = some d) : ∃ line id,
    (splitOn '\n' (c.store ds).body.toList)[2 * i]? = some line ∧
      Json.parseChars? line = some (.record [
        ("index", .record [("_index", .text c.index), ("_id", .text id)])]) ∧
      Percent.decode? (segment d.space d.item) = some id := by
  refine ⟨(bulkAction c.index d).chars, d.key, ?_, Json.parseChars?_chars (isExact_bulkAction _ _),
    Percent.decode?_encode _⟩
  have hline : ((bulkLines c.index ds).map Json.chars)[2 * i]? =
      some (bulkAction c.index d).chars := by
    rw [getElem?_bulkLines, Nat.mul_div_cancel_left i Nat.two_pos, hd, Nat.mul_mod_right]
    rfl
  show (splitOn '\n' (bulkBody c.index ds).toList)[2 * i]? = _
  rw [splitOn_bulkBody, List.getElem?_append_left (List.getElem?_eq_some_iff.1 hline).1, hline]

/-- In front of the segment of a document stands an address that does not depend on the document. -/
theorem exists_read?_segment (server index action : String) {c : Char} (hc : Url.isInert c = true)
    (hmark : '?' ∉ (server ++ index).toList ∧ '?' ∉ action.toList)
    (hsharp : '#' ∉ (server ++ index).toList ∧ '#' ∉ action.toList) {query : String}
    (hquery : Url.IsQuery query.toList) : ∃ base : Option Url, ∀ space item,
    Url.read? (server ++ "/" ++ index ++ (action ++ String.singleton c) ++ "/" ++
        segment space item ++ query) =
      base.map (·.append ('/' :: ((segment space item).toList ++ query.toList))) := by
  have hplace : ∀ d, d ≠ '/' → d ∉ (server ++ index).toList ∧ d ∉ action.toList →
      d ∉ (server ++ "/" ++ index ++ action).toList := by
    intro d hslash hd
    simpa [hslash, and_assoc] using hd
  obtain ⟨base, hbase⟩ := Url.read?_append_name hc (hplace '?' (by decide) hmark)
    (hplace '#' (by decide) hsharp)
  refine ⟨base, fun space item => ?_⟩
  have hread := hbase _ _ (isName_segment space item) hquery
  rw [String.ofList_toList, String.ofList_toList] at hread
  rw [← hread, ← String.append_assoc]

section

variable (c : Cluster σ) (server : String)

theorem append_place_lookup (space item : String) : server ++ (c.lookup space item).place =
    server ++ "/" ++ c.index ++ "/_doc" ++ "/" ++ segment space item ++ "" := by
  simp [lookup, String.append_assoc]

theorem append_place_update (space item : String) (p : Patch) :
    server ++ (c.update space item p).place =
      server ++ "/" ++ c.index ++ "/_update" ++ "/" ++ segment space item ++ "?refresh=true" := by
  simp [update, String.append_assoc]

theorem isQuery_empty : Url.IsQuery "".toList := .inl rfl

theorem isQuery_refresh : Url.IsQuery "?refresh=true".toList :=
  .inr ⟨"refresh=true".toList, rfl, List.all_eq_true.1 (by decide)⟩

/-- Look-ups and patches are addressed by the segment of the document. -/
theorem lastSegment_places (space item : String) (p : Patch) :
    lastSegment (server ++ (c.lookup space item).place) = (segment space item).toList ∧
      lastSegment (server ++ (c.update space item p).place) = (segment space item).toList := by
  rw [append_place_lookup, append_place_update]
  exact ⟨lastSegment_append _ space item isQuery_empty,
    lastSegment_append _ space item isQuery_refresh⟩

/-- How the addresses of look-ups and patches are read, apart from the segment. -/
theorem exists_read?_places (hmark : '?' ∉ (server ++ c.index).toList)
    (hsharp : '#' ∉ (server ++ c.index).toList) :
    ∃ lookups updates : Option Url, ∀ space item p,
      Url.read? (server ++ (c.lookup space item).place) =
        lookups.map (·.append ('/' :: (segment space item).toList)) ∧
      Url.read? (server ++ (c.update space item p).place) =
        updates.map (·.append ('/' :: ((segment space item).toList ++
          "?refresh=true".toList))) := by
  have hdoc : "/_doc" = "/_do" ++ String.singleton 'c' := by decide
  have hact : "/_update" = "/_updat" ++ String.singleton 'e' := by decide
  have hinert : Url.isInert 'c' = true ∧ Url.isInert 'e' = true := by decide
  obtain ⟨lookups, hlookups⟩ := exists_read?_segment server c.index "/_do" hinert.1
    ⟨hmark, by decide⟩ ⟨hsharp, by decide⟩ isQuery_empty
  obtain ⟨updates, hupdates⟩ := exists_read?_segment server c.index "/_updat" hinert.2
    ⟨hmark, by decide⟩ ⟨hsharp, by decide⟩ isQuery_refresh
  refine ⟨lookups, updates, fun space item p => ⟨?_, ?_⟩⟩
  · rw [append_place_lookup, hdoc, hlookups, String.toList_empty, List.append_nil]
  · rw [append_place_update, hact, hupdates]

end

/--
Looking a document up and patching it are one request each.  Behind the last slash of the address
stands the segment of the document, which has in it characters that stand for themselves and
escapes, is no dot segment, and decodes to what documents of that identity are stored under.  Where
server and index have no query and no fragment in them, the address is read alike whatever the
document: no identity changes the server or the path before the segment, or adds a segment or a
query.

All operations are dialogues, and so are dialogues in a row.  In every dialogue the request with
number `k` goes to the address with that number, modulo how many there are, without the slashes at
its end.
-/
theorem requests_address_documents {settings : ClusterSettings} {network : Network σ}
    {turns : Part σ Nat} {c : Cluster σ} (hmake : make settings network turns = .ok c)
    (hnetwork : ∀ request millis, KeepsTurns turns (network request millis)) :
    (∀ ctx,
      (∀ space item, c.IsRequest ctx (c.lookup space item) (c.get ctx space item)) ∧
      (∀ space item p, c.IsRequest ctx (c.update space item p) (c.patch ctx space item p)) ∧
      (∀ ds, ds ≠ [] → c.IsRequest ctx (c.store ds) (c.upsert ctx ds)) ∧
      c.upsert ctx [] = pure () ∧
      (∀ q, c.IsRequest ctx (c.asking "POST" "/_search" (some q.body)) (c.search ctx q)) ∧
      c.IsRequest ctx (c.asking "GET" "/_count" none) (c.count ctx) ∧
      c.connect ctx = (c.connecting ctx).run c) ∧
    (∀ space item,
      Percent.IsSegment (segment space item).toList ∧
      Url.isSingleDot (segment space item).toList = false ∧
      Url.isDoubleDot (segment space item).toList = false ∧
      (∀ server p,
        lastSegment (server ++ (c.lookup space item).place) = (segment space item).toList ∧
        lastSegment (server ++ (c.update space item p).place) = (segment space item).toList) ∧
      ∀ ds i d, ds[i]? = some d → d.space = space → d.item = item → ∃ line id,
        (splitOn '\n' (c.store ds).body.toList)[2 * i]? = some line ∧
          Json.parseChars? line = some (.record [
            ("index", .record [("_index", .text settings.index), ("_id", .text id)])]) ∧
          Percent.decode? (segment space item) = some id) ∧
    (∀ server, '?' ∉ (server ++ settings.index).toList → '#' ∉ (server ++ settings.index).toList →
      ∃ lookups updates : Option Url, ∀ space item p,
        Url.read? (server ++ (c.lookup space item).place) =
          lookups.map (·.append ('/' :: (segment space item).toList)) ∧
        Url.read? (server ++ (c.update space item p).place) =
          updates.map (·.append ('/' :: ((segment space item).toList ++
            "?refresh=true".toList)))) ∧
    (∀ k, ∃ address n,
      settings.addresses[k % settings.addresses.length]? = some address ∧
        address.toList = (c.turn k).toList ++ List.replicate n '/' ∧
        (c.turn k).toList.getLast? ≠ some '/') ∧
    (∀ {α β : Type} (d : Dialogue σ α) (next : Except Fault α → Dialogue σ β),
      (d.andThen next).run c = (do (next (← (d.run c).outcome)).run c)) ∧
    ∀ {α : Type} (d : Dialogue σ α), d.KeepsTurns turns → ∀ s, turns.get s = 0 →
      (d.run c).perform s = (d.runOf c c.turn 0).perform s := by
  obtain ⟨-, -, hindex, rfl, rfl⟩ := make_eq_ok hmake
  rw [← hindex]
  refine ⟨fun ctx => ⟨c.isRequest_get ctx, c.isRequest_patch ctx, fun ds => c.isRequest_upsert ctx,
    rfl, c.isRequest_search ctx, c.isRequest_count ctx, c.connect_eq_run ctx⟩, ?_,
    c.exists_read?_places, exists_address hmake, Dialogue.run_andThen, ?_⟩
  · rintro space item
    have hname := isName_segment space item
    refine ⟨Percent.isSegment_encode _, hname.notSingleDot, hname.notDoubleDot,
      fun server => c.lastSegment_places server space item, ?_⟩
    rintro ds i d hd rfl rfl
    exact c.exists_bulk_id hd
  · intro α d hd s hs
    rw [Dialogue.perform_run hnetwork hd, hs]

/-! ## Two servers -/

/-- Two servers, the first one with slashes at the end of its address. -/
def twinSettings : ClusterSettings :=
  { addresses := ["http://a:9200/", "http://b:9200"], index := "idx" }

/-- How many requests have been addressed, and what the servers have heard. -/
abbrev Twins := Nat × Script

def twinTurns : Part Twins Nat where
  get := Prod.fst
  put k s := (k, s.2)

def twinNetwork : Network Twins :=
  Script.network ["http://a:9200", "http://b:9200"] {
    get := Prod.snd
    put := fun script s => (s.1, script) }

theorem keepsTurns_twinNetwork (request : Http.Request) (millis : Nat) :
    KeepsTurns twinTurns (twinNetwork request millis) := by
  intro s
  show SameTurn twinTurns s (Op.perform (Script.network _ _ request millis) s).2
  rw [Script.network, Op.perform_make]
  split <;> rfl

/-- The index is asked for, and then two documents with keys that look like places. -/
def twinRow (c : Cluster Twins) : Dialogue Twins Reply :=
  (c.connecting .background).andThen fun _ =>
    (Dialogue.single .background (c.lookup "s" "a/b") .ok).andThen fun _ =>
      .single .background (c.lookup ".." "?x#y") .ok

theorem keepsTurns_twinRow (c : Cluster Twins) : (twinRow c).KeepsTurns twinTurns :=
  have hctx := isBystander_background twinTurns
  (Dialogue.keepsTurns_connecting hctx).andThen fun _ =>
    (Dialogue.keepsTurns_single hctx _ _).andThen fun _ => Dialogue.keepsTurns_single hctx _ _

/-- The servers are asked in turn; the index is not there, so two requests are made for it. -/
theorem requests_address_documents_twins : ∃ c,
    make twinSettings twinNetwork twinTurns = .ok c ∧
      let script : Script := { replies := [⟨⟨404, ByteArray.empty⟩, false, 0⟩] }
      let after := (((twinRow c).run c).perform (0, script)).2
      after.1 = 4 ∧ after.2.heard.map (fun (server, request) => (server, request.url.target)) =
        [(0, "/idx"), (1, "/idx"), (0, "/idx/_doc/s%21a%2Fb"), (1, "/idx/_doc/..%21%3Fx%23y")] := by
  refine ⟨_, rfl, ?_⟩
  obtain ⟨-, -, -, -, -, hturns⟩ := requests_address_documents
    (show make twinSettings twinNetwork twinTurns = .ok _ from rfl) keepsTurns_twinNetwork
  dsimp only
  rw [hturns (twinRow _) (keepsTurns_twinRow _) _ rfl]
  decide +kernel

end ScopedSearch.Cluster
