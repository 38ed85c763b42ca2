import ProxmoxMcp.Core.GuestIndex
import ProxmoxMcp.Interaction.Determined

/-!
# Runs in a state of the clusters

What a cluster lists is its **state**. A run took place in a state when the index and the clusters
answered from it (`TookPlaceIn`): a guest read from the cache is the one listed, and a request for
the guests is answered with the list. Everything else that a run is told, the answers to other
requests, the clock and the records, stands in a `Backdrop`, so that two runs can be compared that
differ in nothing but what is listed.
-/

namespace ProxmoxMcp

open Interaction ProxmoxError
open Program hiding bind

variable [Externals]

/-- The entries that each cluster lists. -/
abbrev ClusterState := String → List Json

/-- The guests of a cluster. -/
def ClusterState.guests (state : ClusterState) (cluster : String) : GuestMap :=
  parseGuests cluster (state cluster)

/-- What a run is told apart from the guests. -/
structure Backdrop where
  respond : String → ApiRequest → Except HttpError HttpResponse
  now : UInt64
  records : (op : CoordinatorOp) → op.Reply

/-- The request that a ticket was given for last, and the client that sent it. -/
def askedWith (ticket : ℕ) : History Effect → Option (String × ApiRequest)
  | ⟨.http (.dispatch client request), given⟩ :: older =>
    if (show ℕ from given) = ticket then some (client, request) else askedWith ticket older
  | _ :: older => askedWith ticket older
  | [] => none

/-- What a request is answered with: the list, if it asks for the guests. -/
def RepliesFrom (backdrop : Backdrop) (state : ClusterState) (client : String)
    (request : ApiRequest) (reply : Except HttpError HttpResponse) : Prop :=
  if request = listingRequest then ∃ response, reply = .ok response ∧
    ProxmoxClient.readAnswer response = .ok (.array (state client))
  else reply = backdrop.respond client request

/-- An event is told from a state, after older events. -/
def ToldFrom (backdrop : Backdrop) (state : ClusterState) (older : History Effect) :
    Event Effect → Prop
  | ⟨.index (.lookupFresh cluster vmid), some hit⟩ =>
    state.guests cluster vmid = some hit.guest
  | ⟨.http (.await ticket), reply⟩ => ∀ client request,
    askedWith ticket older = some (client, request) →
      RepliesFrom backdrop state client request reply
  | ⟨.unixNow, now⟩ => now = backdrop.now
  | ⟨.coordinator op, reply⟩ => reply = backdrop.records op
  | _ => True

/-- A run took place in a state of the clusters. -/
def TookPlaceIn (backdrop : Backdrop) (state : ClusterState) : History Effect → Prop
  | [] => True
  | event :: older => ToldFrom backdrop state older event ∧ TookPlaceIn backdrop state older

/-- The runs in a state, as a setting. -/
def runsIn (backdrop : Backdrop) (state : ClusterState) : Setting Effect where
  Admits := TookPlaceIn backdrop state
  of_suffix {h h'} hh htook := by
    obtain ⟨later, rfl⟩ := hh
    induction later with
    | nil => exact htook
    | cons event later ih => exact ih htook.2

private theorem repliesFrom_listing {backdrop : Backdrop} {state : ClusterState} {client : String}
    {reply : Except HttpError HttpResponse} :
    RepliesFrom backdrop state client listingRequest reply ↔ ∃ response, reply = .ok response ∧
      ProxmoxClient.readAnswer response = .ok (.array (state client)) := by
  rw [RepliesFrom, if_pos rfl]

/-- Every operation can be answered from a state. -/
private theorem exists_toldFrom (backdrop : Backdrop) (state : ClusterState)
    (older : History Effect) (op : Op) : ∃ reply, ToldFrom backdrop state older ⟨op, reply⟩ := by
  obtain ⟨reply⟩ := Effect.nonempty_reply op
  -- a cache may always miss; a listing is answered with what the state lists
  cases op with
  | index op =>
    cases op with
    | lookupFresh cluster vmid => exact ⟨none, trivial⟩
    | _ => exact ⟨reply, trivial⟩
  | http op =>
    cases op with
    | dispatch client request => exact ⟨reply, trivial⟩
    | await ticket =>
      cases hasked : askedWith ticket older with
      | none => exact ⟨reply, fun client request h => by rw [hasked] at h; cases h⟩
      | some asked =>
        obtain ⟨client, request⟩ := asked
        obtain ⟨answer, hanswer⟩ : ∃ answer, RepliesFrom backdrop state client request answer := by
          by_cases hrequest : request = listingRequest
          · subst hrequest
            exact ⟨.ok ⟨200, "", .ok (.object [("data", .array (state client))])⟩,
              repliesFrom_listing.mpr ⟨_, rfl, rfl⟩⟩
          · exact ⟨backdrop.respond client request, (if_neg hrequest).mpr rfl⟩
        refine ⟨answer, fun client' request' h => ?_⟩
        rw [hasked] at h
        obtain ⟨rfl, rfl⟩ := Prod.mk.inj (Option.some.inj h)
        exact hanswer
  | coordinator op => exact ⟨backdrop.records op, rfl⟩
  | unixNow => exact ⟨backdrop.now, rfl⟩
  | _ => exact ⟨reply, trivial⟩

/-- Every program has a run in every state. -/
theorem exists_run {α : Type} (backdrop : Backdrop) (state : ClusterState) (p : Program Effect α)
    {h : History Effect} (htook : TookPlaceIn backdrop state h) : ∃ events value,
      Reaches p events (.done value) ∧ TookPlaceIn backdrop state (events.reverse ++ h) := by
  induction p generalizing h with
  | done value => exact ⟨[], value, .refl _, htook⟩
  | perform op next ih =>
    obtain ⟨reply, hreply⟩ := exists_toldFrom backdrop state h op
    have hnext : TookPlaceIn backdrop state (⟨op, reply⟩ :: h) := ⟨hreply, htook⟩
    obtain ⟨events, value, hrun, hend⟩ := ih reply hnext
    refine ⟨⟨op, reply⟩ :: events, value, .step op next reply hrun, ?_⟩
    rwa [List.reverse_cons, List.append_assoc, List.singleton_append]

section Rules

variable {backdrop : Backdrop} {state : ClusterState} {client : ProxmoxClient}
  {request : ApiRequest}

/-- A request that is sent is answered from the state. -/
theorem confined_send (hsendable : client.Sendable request) :
    Confined (runsIn backdrop state)
      (fun outcome => ∃ reply, RepliesFrom backdrop state client.name request reply ∧
        outcome = ProxmoxClient.readReply reply) (client.send request).run := by
  rw [ProxmoxClient.run_send_of_sendable hsendable]
  refine fun h => ⟨trivial, fun ticket => ⟨trivial, fun reply => ?_⟩⟩
  intro htook
  exact ⟨reply, htook.1 client.name request (if_pos rfl), rfl⟩

/-- What a lookup of a guest comes to, in a state. -/
def ClusterState.found (state : ClusterState) (cluster : String) (vmid : UInt32) :
    Except ProxmoxError ResolvedGuest :=
  match state.guests cluster vmid with
  | some guest => .ok guest
  | none => .error (notFound s!"guest {vmid} in cluster {cluster}")

/-- **Resolving** finds what the state lists, whether in the cache or in a new listing. -/
theorem confined_resolve (hlists : client.Sendable listingRequest) (vmid : UInt32) :
    Confined (runsIn backdrop state) (· = state.found client.name vmid)
      (resolve client client.name vmid).run := by
  -- a listing, whenever it is fetched, is the one of the state
  have hfetched : Confined (runsIn backdrop state) (· = .ok (state.guests client.name))
      (fetchGuests client client.name).run := by
    refine Confined.run_bind (confined_send hlists) (fun data hdata => ?_) fun error herror => ?_
    · obtain ⟨reply, hreply, hread⟩ := hdata
      obtain ⟨response, rfl, hanswer⟩ := repliesFrom_listing.mp hreply
      obtain rfl : data = .array (state client.name) := by
        have heq : Except.ok data = ProxmoxClient.readAnswer response := hread
        rw [hanswer] at heq
        exact Except.ok.inj heq
      exact confined_done rfl
    · obtain ⟨reply, hreply, hread⟩ := herror
      obtain ⟨response, rfl, hanswer⟩ := repliesFrom_listing.mp hreply
      have heq : Except.error error = ProxmoxClient.readAnswer response := hread
      rw [hanswer] at heq
      cases heq
  -- so is the one in the cache
  refine Confined.perform (R := fun hit : Option (CacheHit vmid) =>
    ∀ found, hit = some found → state.guests client.name vmid = some found.guest) ?_ ?_
  · rintro h hit htook found rfl
    exact htook.1
  · intro hit hhit
    cases hit with
    | some hit =>
      refine confined_done ?_
      rw [ClusterState.found, hhit hit rfl]
    | none =>
      refine Confined.perform (R := fun _ => True) (fun _ _ _ => trivial) fun generation _ => ?_
      refine hfetched.run_bind (fun guests hguests => ?_) fun error herror => by cases herror
      obtain rfl := Except.ok.inj hguests
      refine Confined.perform (R := fun _ => True) (fun _ _ _ => trivial) fun _ _ => ?_
      rw [ClusterState.found]
      cases state.guests client.name vmid with
      | none => exact confined_done rfl
      | some guest => exact confined_done rfl

end Rules

end ProxmoxMcp
