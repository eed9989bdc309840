import Zerodisk.Basic

/-!
# The cluster-client factory's request/response protocol

`NewClient` sends its vdisk id on the unbuffered `requestCh` and then receives on
the unbuffered `responseCh`; the one `Listen` goroutine receives a request,
builds a client and sends it back. Any number of callers may block on either
channel. The model is a transition system over the callers' phases and the
listener's, where a rendezvous is one event that moves both parties; the
listener's phase records whose request it serves, so that every delivery can be
shown to go to that caller, with the client built for its vdisk id.
-/

namespace Zerodisk
namespace StorageCluster

/-- `clusterClientResponse`: a client, or the error `NewClusterClient` gave. -/
inductive ClusterClientResponse
  /-- `Client`: a `ClusterClient` built for this vdisk id. -/
  | client (vdiskID : String)
  /-- `Error`. -/
  | error (message : String)
  deriving DecidableEq, Repr

/-- Where one `NewClient` call is. -/
inductive CallerPhase
  /-- Not called yet. -/
  | idle
  /-- Blocked on `f.requestCh <- vdiskID`. -/
  | sending (vdiskID : String)
  /-- Its request was taken; blocked on `<-f.responseCh`. -/
  | receiving (vdiskID : String)
  /-- Returned the response it received. -/
  | returned (vdiskID : String) (response : ClusterClientResponse)
  /-- Returned "ClusterClient requires a non-empty vdiskID" without sending. -/
  | rejected
  deriving DecidableEq, Repr

/-- Where the `Listen` goroutine is. -/
inductive ListenerPhase
  /-- In the `select`, waiting for a request or for the context to end. -/
  | selecting
  /-- Running `NewClusterClient` for the request `caller` sent. -/
  | creating (caller : Nat) (vdiskID : String)
  /-- Blocked on `f.responseCh <- response`, the answer to `caller`'s request. -/
  | responding (caller : Nat) (vdiskID : String) (response : ClusterClientResponse)
  /-- Returned after `ctx.Done()`. -/
  | stopped
  deriving DecidableEq, Repr

/-- The request the listener is working on, if any. -/
def ListenerPhase.serving : ListenerPhase → Option (Nat × String)
  | .creating caller vdiskID | .responding caller vdiskID _ => some (caller, vdiskID)
  | .selecting | .stopped => none

/-- The callers, the listener, and the responses the listener has built, each
with the request it answers. -/
structure FactoryState where
  /-- Caller `c`'s phase; callers are numbered by the order of their calls. -/
  callers : Nat → CallerPhase
  /-- The `Listen` goroutine. -/
  listener : ListenerPhase
  /-- Every response `NewClusterClient` gave, with the caller and vdisk id of
  the request it was built for. -/
  built : List (Nat × String × ClusterClientResponse)

/-- The factory as `NewClusterClientFactory` returns it with `Listen` started. -/
def FactoryState.initial : FactoryState := ⟨fun _ => .idle, .selecting, []⟩

/-- The events of the protocol. -/
inductive FactoryEvent
  /-- Caller `c` calls `NewClient(vdiskID)`. -/
  | call (c : Nat) (vdiskID : String)
  /-- The rendezvous on `requestCh` between caller `c` and `Listen`. -/
  | takeRequest (c : Nat)
  /-- `NewClusterClient` returns: a client when the configuration loaded. -/
  | create (loaded : Bool)
  /-- The rendezvous on `responseCh` between `Listen` and caller `c`. -/
  | giveResponse (c : Nat)
  /-- The listener's context is done. -/
  | cancel

/-- What `NewClient(vdiskID)` does first: refuse an empty id, or send it. -/
def callPhase (vdiskID : String) : CallerPhase :=
  if vdiskID = "" then .rejected else .sending vdiskID

/-- One event, when the parties it moves are ready for it. -/
def factoryStep (s : FactoryState) : FactoryEvent → Option FactoryState
  | .call c vdiskID =>
    if s.callers c = .idle then
      some { s with callers := Function.update s.callers c (callPhase vdiskID) }
    else none
  | .takeRequest c =>
    match s.callers c, s.listener with
    | .sending vdiskID, .selecting =>
      some { s with callers := Function.update s.callers c (.receiving vdiskID),
                    listener := .creating c vdiskID }
    | _, _ => none
  | .create loaded =>
    match s.listener with
    | .creating caller vdiskID =>
      let response := if loaded then .client vdiskID else .error "couldn't load configuration"
      some { s with listener := .responding caller vdiskID response,
                    built := (caller, vdiskID, response) :: s.built }
    | _ => none
  | .giveResponse c =>
    match s.callers c, s.listener with
    | .receiving vdiskID, .responding _ _ response =>
      some { s with callers := Function.update s.callers c (.returned vdiskID response),
                    listener := .selecting }
    | _, _ => none
  | .cancel =>
    if s.listener = .selecting then some { s with listener := .stopped } else none

/-- The states of every interleaving of any number of callers with `Listen`. -/
def FactoryReachable : FactoryState → Prop :=
  Reachable (· = FactoryState.initial) factoryStep

/-! ## The invariant -/

/-- At most one caller waits on `responseCh`, the one the listener serves, and
every caller that returned holds a response built for its own request. -/
structure FactoryInvariant (s : FactoryState) : Prop where
  /-- A caller waits for a response only while its request is being served. -/
  receiving_served : ∀ c vdiskID, s.callers c = .receiving vdiskID →
    s.listener.serving = some (c, vdiskID)
  /-- The request being served is one whose caller waits for its response. -/
  served_receiving : ∀ c vdiskID, s.listener.serving = some (c, vdiskID) →
    s.callers c = .receiving vdiskID
  /-- The response being sent was built for the request being served. -/
  responding_built : ∀ c vdiskID response, s.listener = .responding c vdiskID response →
    (c, vdiskID, response) ∈ s.built
  /-- A caller returns only a response built for its own request. -/
  returned_built : ∀ c vdiskID response, s.callers c = .returned vdiskID response →
    (c, vdiskID, response) ∈ s.built

theorem factoryInvariant_initial : FactoryInvariant FactoryState.initial :=
  ⟨by simp [FactoryState.initial], by simp [FactoryState.initial, ListenerPhase.serving],
    by simp [FactoryState.initial], by simp [FactoryState.initial]⟩

section Step

variable {s s' : FactoryState}

/-! ### What each event does -/

theorem factoryStep_call {c : Nat} {vdiskID : String}
    (stepped : factoryStep s (.call c vdiskID) = some s') :
    s.callers c = .idle ∧
      s' = { s with callers := Function.update s.callers c (callPhase vdiskID) } := by
  simp only [factoryStep] at stepped
  split at stepped
  · next wasIdle => exact ⟨wasIdle, (Option.some.inj stepped).symm⟩
  · cases stepped

theorem factoryStep_takeRequest {c : Nat} (stepped : factoryStep s (.takeRequest c) = some s') :
    ∃ vdiskID, s.callers c = .sending vdiskID ∧ s.listener = .selecting ∧
      s' = { s with callers := Function.update s.callers c (.receiving vdiskID),
                    listener := .creating c vdiskID } := by
  simp only [factoryStep] at stepped
  split at stepped
  · next vdiskID sending selecting => exact ⟨vdiskID, sending, selecting, (Option.some.inj stepped).symm⟩
  · cases stepped

theorem factoryStep_create {loaded : Bool} (stepped : factoryStep s (.create loaded) = some s') :
    ∃ caller vdiskID, s.listener = .creating caller vdiskID ∧
      s' = { s with
        listener := .responding caller vdiskID
          (if loaded then .client vdiskID else .error "couldn't load configuration"),
        built := (caller, vdiskID,
          if loaded then .client vdiskID else .error "couldn't load configuration") :: s.built } := by
  simp only [factoryStep] at stepped
  split at stepped
  · next caller vdiskID creating => exact ⟨caller, vdiskID, creating, (Option.some.inj stepped).symm⟩
  · cases stepped

theorem factoryStep_giveResponse {c : Nat} (stepped : factoryStep s (.giveResponse c) = some s') :
    ∃ vdiskID caller servedID response, s.callers c = .receiving vdiskID ∧
      s.listener = .responding caller servedID response ∧
      s' = { s with callers := Function.update s.callers c (.returned vdiskID response),
                    listener := .selecting } := by
  simp only [factoryStep] at stepped
  split at stepped
  · next vdiskID caller servedID response receiving responding =>
    exact ⟨vdiskID, caller, servedID, response, receiving, responding, (Option.some.inj stepped).symm⟩
  · cases stepped

theorem factoryStep_cancel (stepped : factoryStep s .cancel = some s') :
    s.listener = .selecting ∧ s' = { s with listener := .stopped } := by
  simp only [factoryStep] at stepped
  split at stepped
  · next selecting => exact ⟨selecting, (Option.some.inj stepped).symm⟩
  · cases stepped

/-! ### Each event keeps the invariant -/

/-- Nobody waits for a response while the listener serves no request. -/
theorem FactoryInvariant.not_receiving (inv : FactoryInvariant s) (idle : s.listener.serving = none)
    (c : Nat) (vdiskID : String) : s.callers c ≠ .receiving vdiskID := fun receiving => by
  simpa [idle] using inv.receiving_served c vdiskID receiving

/-- A response is delivered to the caller whose request is being served. -/
theorem FactoryInvariant.receiving_responding (inv : FactoryInvariant s) {c caller : Nat}
    {vdiskID servedID : String} {response : ClusterClientResponse}
    (receiving : s.callers c = .receiving vdiskID)
    (responding : s.listener = .responding caller servedID response) :
    caller = c ∧ servedID = vdiskID := by
  have served := inv.receiving_served c vdiskID receiving
  simpa [responding, ListenerPhase.serving] using served

theorem factoryInvariant_call {c : Nat} {vdiskID : String} (inv : FactoryInvariant s)
    (stepped : factoryStep s (.call c vdiskID) = some s') : FactoryInvariant s' := by
  obtain ⟨wasIdle, rfl⟩ := factoryStep_call stepped
  have fresh : ∀ v r, callPhase vdiskID ≠ .receiving v ∧ callPhase vdiskID ≠ .returned v r := by
    intro v r
    unfold callPhase
    split <;> simp
  constructor
  · intro d v receiving
    by_cases same : d = c
    · subst same; simp at receiving; exact absurd receiving (fresh v (.error "")).1
    · exact inv.receiving_served d v (by simpa [same] using receiving)
  · intro d v serving
    have := inv.served_receiving d v serving
    by_cases same : d = c
    · subst same; simp_all
    · simpa [same] using this
  · exact inv.responding_built
  · intro d v r returned
    by_cases same : d = c
    · subst same; simp at returned; exact absurd returned (fresh v r).2
    · exact inv.returned_built d v r (by simpa [same] using returned)

theorem factoryInvariant_takeRequest {c : Nat} (inv : FactoryInvariant s)
    (stepped : factoryStep s (.takeRequest c) = some s') : FactoryInvariant s' := by
  obtain ⟨vdiskID, sending, selecting, rfl⟩ := factoryStep_takeRequest stepped
  have idle : s.listener.serving = none := by simp [selecting, ListenerPhase.serving]
  constructor
  · intro d v receiving
    by_cases same : d = c
    · subst same; simp_all [ListenerPhase.serving]
    · exact absurd (by simpa [same] using receiving) (inv.not_receiving idle d v)
  · intro d v serving
    simp only [ListenerPhase.serving, Option.some.injEq, Prod.mk.injEq] at serving
    obtain ⟨rfl, rfl⟩ := serving
    simp
  · intro d v r responding
    cases responding
  · intro d v r returned
    by_cases same : d = c
    · subst same; simp at returned
    · exact inv.returned_built d v r (by simpa [same] using returned)

theorem factoryInvariant_create {loaded : Bool} (inv : FactoryInvariant s)
    (stepped : factoryStep s (.create loaded) = some s') : FactoryInvariant s' := by
  obtain ⟨caller, vdiskID, creating, rfl⟩ := factoryStep_create stepped
  have sameServing : ∀ response,
      (ListenerPhase.responding caller vdiskID response).serving = s.listener.serving := by
    intro response
    rw [creating]
    rfl
  constructor
  · intro d v receiving
    exact (sameServing _).trans (inv.receiving_served d v receiving)
  · intro d v serving
    exact inv.served_receiving d v ((sameServing _).symm.trans serving)
  · intro d v r responding
    simp only [ListenerPhase.responding.injEq] at responding
    obtain ⟨rfl, rfl, rfl⟩ := responding
    exact List.mem_cons_self _ _
  · intro d v r returned
    exact List.mem_cons_of_mem _ (inv.returned_built d v r returned)

theorem factoryInvariant_giveResponse {c : Nat} (inv : FactoryInvariant s)
    (stepped : factoryStep s (.giveResponse c) = some s') : FactoryInvariant s' := by
  obtain ⟨vdiskID, caller, servedID, response, receiving, responding, rfl⟩ :=
    factoryStep_giveResponse stepped
  obtain ⟨rfl, rfl⟩ := inv.receiving_responding receiving responding
  constructor
  · intro d v waiting
    by_cases same : d = caller
    · subst same; simp at waiting
    · have := inv.receiving_served d v (by simpa [same] using waiting)
      simp only [responding, ListenerPhase.serving, Option.some.injEq, Prod.mk.injEq] at this
      exact absurd this.1.symm same
  · intro d v serving
    cases serving
  · intro d v r responding'
    cases responding'
  · intro d v r returned
    by_cases same : d = caller
    · subst same
      simp only [Function.update_same, CallerPhase.returned.injEq] at returned
      obtain ⟨rfl, rfl⟩ := returned
      exact inv.responding_built _ _ _ responding
    · exact inv.returned_built d v r (by simpa [same] using returned)

theorem factoryInvariant_cancel (inv : FactoryInvariant s)
    (stepped : factoryStep s .cancel = some s') : FactoryInvariant s' := by
  obtain ⟨selecting, rfl⟩ := factoryStep_cancel stepped
  have idle : s.listener.serving = none := by simp [selecting, ListenerPhase.serving]
  exact ⟨fun d v receiving => absurd receiving (inv.not_receiving idle d v),
    (fun d v serving => by cases serving), (fun d v r responding => by cases responding),
    inv.returned_built⟩

/-- Every event keeps the invariant. -/
theorem factoryInvariant_step {event : FactoryEvent} (inv : FactoryInvariant s)
    (stepped : factoryStep s event = some s') : FactoryInvariant s' := by
  cases event with
  | call c vdiskID => exact factoryInvariant_call inv stepped
  | takeRequest c => exact factoryInvariant_takeRequest inv stepped
  | create loaded => exact factoryInvariant_create inv stepped
  | giveResponse c => exact factoryInvariant_giveResponse inv stepped
  | cancel => exact factoryInvariant_cancel inv stepped

end Step

theorem factoryInvariant_of_reachable {s : FactoryState} (reachable : FactoryReachable s) :
    FactoryInvariant s :=
  Reachable.invariant (fun _ isInitial => isInitial ▸ factoryInvariant_initial)
    (fun _ _ _ => factoryInvariant_step) reachable

/-! ## Requests and responses are matched -/

/-- In every interleaving, a response sent on `responseCh` is received by the
caller whose request `Listen` built it for, and that caller returns it. -/
theorem newClient_receives_own_response {s s' : FactoryState} {c : Nat}
    (reachable : FactoryReachable s) (delivery : factoryStep s (.giveResponse c) = some s') :
    ∃ vdiskID response, s.listener = .responding c vdiskID response ∧
      s.callers c = .receiving vdiskID ∧ s'.callers c = .returned vdiskID response ∧
      (c, vdiskID, response) ∈ s.built := by
  have inv := factoryInvariant_of_reachable reachable
  obtain ⟨vdiskID, caller, servedID, response, receiving, responding, rfl⟩ :=
    factoryStep_giveResponse delivery
  obtain ⟨callerEq, servedEq⟩ := inv.receiving_responding receiving responding
  subst caller servedID
  exact ⟨vdiskID, response, responding, receiving, by simp, inv.responding_built _ _ _ responding⟩

/-- Two callers, the second served first: the listener's answer to caller 1
goes to caller 1. -/
theorem newClient_receives_own_response_secondServedFirst :
    ∃ s s', runEvents factoryStep FactoryState.initial
        [.call 0 "vd0", .call 1 "vd1", .takeRequest 1, .create true] = some s ∧
      factoryStep s (.giveResponse 1) = some s' ∧
      ∃ vdiskID response, s.listener = .responding 1 vdiskID response ∧
        s.callers 1 = .receiving vdiskID ∧ s'.callers 1 = .returned vdiskID response ∧
        (1, vdiskID, response) ∈ s.built := by
  have run : runEvents factoryStep FactoryState.initial
      [.call 0 "vd0", .call 1 "vd1", .takeRequest 1, .create true] = some _ := rfl
  exact ⟨_, _, run, rfl, newClient_receives_own_response (Reachable.runEvents (.start rfl) run) rfl⟩

end StorageCluster
end Zerodisk
