import ScopedSearch.Cluster.Remote
import ScopedSearch.Extraction.Converter
import ScopedSearch.Index.Embedded
import ScopedSearch.Proofs.Cancellation.Watch
import ScopedSearch.Proofs.Rebuild.Frame

/-!
# What heeds a context

Both backends check the context of a caller before they write.  The embedded index checks it before
it takes the writer, and the cluster before it sends a request, so what there is to see of the
documents, the files and the view of a handle or the requests that servers have been sent, is
behind the check.  To write no documents at all is not to check.

The converter checks the context too, but its failures are told to nobody: they become texts that
are empty.  All that can be said is that it does not write.

## Main results

* `heeded_embedded`, `heeded_cluster`: the two backends heed a context.
* `Watches.heeded`: so does a backend that is watched.
* `converter_minds`: the converter changes nothing that can be seen.
-/

namespace ScopedSearch

/-- The network, with every request that is sent noted in a piece of the state. -/
def Http.Network.noting {σ : Type} (network : Http.Network σ)
    (sent : Part σ (List Http.Request)) : Http.Network σ := fun request millis => do
  sent.modify (· ++ [request])
  network request millis

/-- The cluster, with every request that its servers are sent noted in a piece of the state. -/
def Cluster.noting {σ : Type} (c : Cluster σ) (sent : Part σ (List Http.Request)) : Cluster σ :=
  { c with client := { c.client with network := c.client.network.noting sent } }

namespace Watch

variable {σ α : Type} {W : Watch σ α} {ctx : Context σ}

variable (W) in
/-- Each request to the backend heeds the context, except for a write of no documents. -/
structure Heeded (ctx : Context σ) (b : Backend σ) : Prop where
  get : ∀ space item, W.Heeds (b.get (W.context ctx) space item)
  patch : ∀ space item p, W.Heeds (b.patch (W.context ctx) space item p)
  upsert : ∀ d docs, W.Heeds (b.upsert (W.context ctx) (d :: docs))
  upsert_nil : b.upsert (W.context ctx) [] = pure ()

/-! ## The embedded index -/

section

variable {handle heap : Nat} {files : Part σ IndexFiles} {view : Part σ Collection}
  (hfiles : ∀ f s, W.Keeps s (files.put f s)) (hview : ∀ c s, W.Keeps s (view.put c s))

include hfiles

theorem takeWriter_keeps : Op.Within W.Keeps (Embedded.takeWriter handle heap files) :=
  Embedded.takeWriter_within Keeps.refl hfiles

include hview

theorem write_keeps (docs : List Document) :
    Op.Within W.Keeps (Embedded.write files view docs) :=
  Embedded.write_within (R := W.Keeps) Keeps.trans hfiles hview docs

/-- The embedded index checks the context before it takes the writer. -/
theorem heeded_embedded (hctx : W.Ends ctx) :
    W.Heeded ctx (Embedded.backend handle files view heap) where
  get space item := (heeds_check hctx).bind fun _ =>
    Op.Within.bind (R := W.Keeps) Keeps.trans (Op.within_read Keeps.refl _) fun _ =>
      Op.within_pure Keeps.refl _
  patch space item p := (heeds_check hctx).bind fun _ => by
    refine Op.Within.bind (R := W.Keeps) Keeps.trans (takeWriter_keeps hfiles) fun _ => ?_
    refine Op.Within.bind (R := W.Keeps) Keeps.trans (Op.within_read Keeps.refl _) fun docs => ?_
    split
    · exact Op.within_pure Keeps.refl false
    · exact Op.Within.bind (R := W.Keeps) Keeps.trans (write_keeps hfiles hview _) fun _ =>
        Op.within_pure Keeps.refl true
  upsert d docs := (heeds_check hctx).bind fun _ =>
    Op.Within.bind (R := W.Keeps) Keeps.trans (takeWriter_keeps hfiles) fun _ =>
      write_keeps hfiles hview (d :: docs)
  upsert_nil := rfl

end

/-! ## The cluster -/

section

variable {c : Cluster σ}

theorem within_clamp {R : σ → σ → Prop} (hrefl : ∀ s, R s s)
    (htrans : ∀ {s t u}, R s t → R t u → R s u) (h : Op.Within R ctx.remaining) (millis : Nat) :
    Op.Within R (ctx.clamp millis) := by
  refine Op.Within.bind (R := R) htrans h fun left => ?_
  cases left <;> exact Op.within_pure hrefl _

/-- A client does to the state what the network does. -/
theorem within_client {R : σ → σ → Prop} (hrefl : ∀ s, R s s)
    (htrans : ∀ {s t u}, R s t → R t u → R s u) {client : Http.Client σ}
    (h : ∀ request millis, Op.Within R (client.network request millis))
    (method address : String) (headers : Http.Headers) (body : ByteArray) (millis : Nat) :
    Op.Within R (client.send method address headers body millis) := by
  rw [Http.Client.send]
  split
  · exact Op.within_pure hrefl _
  · split
    · exact Op.Within.bind (R := R) htrans (h _ millis) fun _ => Op.within_pure hrefl _
    · exact Op.within_pure hrefl _

/-- Which server is next cannot be seen. -/
theorem heeds_after_server {β : Type} (hturns : ∀ k s, W.Still s (c.turns.put k s))
    {next : String → Op σ β} (h : ∀ server, W.Heeds (next server)) :
    W.Heeds (c.server >>= next) :=
  heeds_bind_of_still (fun s => ⟨c.turn (c.turns.get s), _, rfl, hturns _ s⟩) h

variable (hctx : W.Ends ctx) (hturns : ∀ k s, W.Still s (c.turns.put k s))
  (hnetwork : ∀ request millis, Op.Within W.Keeps (c.client.network request millis))

include hctx hnetwork

/-- The cluster checks the context before it sends a request. -/
theorem heeds_send (method address : String) (headers : Http.Headers) (body : String) :
    W.Heeds (c.send (W.context ctx) method address headers body) := by
  refine (heeds_check hctx).bind fun _ => ?_
  refine Op.Within.bind (R := W.Keeps) Keeps.trans
    (within_clamp Keeps.refl Keeps.trans (within_keeps hctx.remaining) c.timeout) fun millis => ?_
  refine Op.Within.bind (R := W.Keeps) Keeps.trans
    (within_client Keeps.refl Keeps.trans hnetwork _ _ _ _ _) fun reply => ?_
  split
  · exact Op.within_pure Keeps.refl _
  · exact fun s => Keeps.refl s
  · exact fun s => Keeps.refl s

include hturns

theorem heeds_ask (method path : String) (body : Option Json) :
    W.Heeds (c.ask (W.context ctx) method path body) := by
  refine heeds_after_server hturns fun server => ?_
  cases body <;> exact heeds_send hctx hnetwork _ _ _ _

/-- Each request to the cluster checks the context before it is sent. -/
theorem heeded_cluster : W.Heeded ctx c.backend where
  get space item := (heeds_ask hctx hturns hnetwork _ _ _).bind fun reply => by
    split
    · exact Op.within_pure Keeps.refl none
    · exact Op.within_ofExcept Keeps.refl _
  patch space item p := (heeds_ask hctx hturns hnetwork _ _ _).bind fun reply => by
    split
    · exact Op.within_pure Keeps.refl false
    · exact Op.Within.bind (R := W.Keeps) Keeps.trans (Op.within_ofExcept Keeps.refl _) fun _ =>
        Op.within_pure Keeps.refl true
  upsert d docs := heeds_after_server hturns fun server =>
    (heeds_send hctx hnetwork _ _ _ _).bind fun reply => by
      refine Op.Within.bind (R := W.Keeps) Keeps.trans (Op.within_ofExcept Keeps.refl _) fun v => ?_
      split
      · exact fun s => Keeps.refl s
      · exact Op.within_pure Keeps.refl ()
  upsert_nil := rfl

end

/-! ## Watched backends -/

/-- What there is to see of a backend: the files of an embedded index and the view of the handle, or
the requests that the servers of a cluster have been sent. -/
inductive Watches : {α : Type} → Watch σ α → Backend σ → Prop
  | embedded {W : Watch σ (IndexFiles × Collection)} {handle heap : Nat}
    {files : Part σ IndexFiles} {view : Part σ Collection}
    (hlook : ∀ s, W.look s = (files.get s, view.get s))
    (hfiles : ∀ f s, W.Keeps s (files.put f s)) (hview : ∀ c s, W.Keeps s (view.put c s)) :
    Watches W (Embedded.backend handle files view heap)
  | cluster {W : Watch σ (List Http.Request)} {c : Cluster σ} {sent : Part σ (List Http.Request)}
    (hlook : ∀ s, W.look s = sent.get s) (hsent : ∀ l s, W.Keeps s (sent.put l s))
    (hturns : ∀ k s, W.Still s (c.turns.put k s))
    (hnetwork : ∀ request millis, Op.Within W.Keeps (c.client.network request millis)) :
    Watches W (c.noting sent).backend

/-- A watched backend heeds a context. -/
theorem Watches.heeded {b : Backend σ} (h : Watches W b) (hctx : W.Ends ctx) :
    W.Heeded ctx b := by
  cases h with
  | embedded _ hfiles hview => exact heeded_embedded hfiles hview hctx
  | @cluster W c sent _ hsent hturns hnetwork =>
    refine heeded_cluster (c := c.noting sent) hctx hturns fun request millis => ?_
    exact Op.Within.bind (R := W.Keeps) Keeps.trans (fun s => hsent _ s) fun _ =>
      hnetwork request millis

/-! ## The converter -/

/-- The converter changes nothing that can be seen, when the network it is in does not. -/
theorem converter_minds (hctx : W.Ends ctx) {x : Converter σ}
    (hnetwork : ∀ request millis, Op.Within W.Still (x.client.network request millis))
    (r : Resource) : Op.Within W.Minds (x.extractor.tryExtract (W.context ctx) r) := by
  show Op.Within W.Minds (x.tryExtract (W.context ctx) r)
  rw [Converter.tryExtract]
  split
  · exact Op.within_pure Minds.refl ""
  refine Op.Within.bind (R := W.Minds) Minds.trans (check_minds hctx) fun _ => ?_
  refine Op.Within.bind (R := W.Minds) Minds.trans (Op.within_read Minds.refl _) fun storage => ?_
  refine Op.Within.bind (R := W.Minds) Minds.trans (Op.within_ofExcept Minds.refl _)
    fun bytes => ?_
  refine Op.Within.bind (R := W.Minds) Minds.trans
    (within_clamp Minds.refl Minds.trans (within_minds hctx.remaining) x.timeout) fun millis => ?_
  split
  · exact fun s => Minds.refl s
  refine Op.Within.bind (R := W.Minds) Minds.trans
    (within_client Minds.refl Minds.trans (fun request millis =>
      within_minds (hnetwork request millis)) _ _ _ _ _) fun reply => ?_
  split
  · exact Op.within_ofExcept Minds.refl _
  · exact fun s => Minds.refl s
  · exact fun s => Minds.refl s

end Watch

end ScopedSearch
