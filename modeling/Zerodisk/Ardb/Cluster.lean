import Zerodisk.Ardb.Routing
import Zerodisk.Config

/-!
# Static clusters and batched dispatch

`UniCluster` sends everything to its one server. `Cluster` routes each object
index with `ComputeServerIndex` over its `Online` and `RIP` slots, and its `Do`
sends an action to the first `Online` server. `DoForAll` sends a list of
index/action pairs: `Cluster` sorts them into one map per server, sends each map
as one batch from its own goroutine, and writes each reply back at the input
position the map recorded. Servers are a `ServerBehaviour`, and `schedule` is
the order in which the goroutines' results arrive.
-/

namespace Zerodisk
namespace Ardb

open Config

/-- `ErrServerStateNotSupported`. -/
def errServerStateNotSupported : GoError := "server state is not supported"

/-- What the servers do with what they are sent, by the config the dialer
dials; a failed dial is an error of the same call. -/
structure ServerBehaviour (Action Reply : Type) where
  /-- `action.Do(conn)`. -/
  doAction : StorageServerConfig → Action → Except GoError Reply
  /-- `Values(Commands(actions...).Do(conn))`: the replies of a pipelined
  batch. -/
  doBatch : StorageServerConfig → List Action → Except GoError (List Reply)

/-- `IndexActionPair`. -/
structure IndexActionPair (Action : Type) where
  /-- `Index`. -/
  index : Int
  /-- `Action`. -/
  action : Action

variable {Action Reply : Type}

/-! ## `UniCluster` -/

/-- `UniCluster`. -/
structure UniCluster where
  /-- `server`. -/
  server : StorageServerConfig

/-- `NewUniCluster`. -/
def newUniCluster (cfg : StorageServerConfig) : Except GoError UniCluster := do
  cfg.validate
  match cfg.state with
  | .online => pure ⟨cfg⟩
  | .rip => throw errNoServersAvailable
  | _ => throw errServerStateNotSupported

namespace UniCluster

variable (cluster : UniCluster) (server : ServerBehaviour Action Reply)

/-- `UniCluster.Do`. -/
def «do» (action : Action) : Except GoError Reply := server.doAction cluster.server action

/-- `UniCluster.DoFor`: the object index plays no part. -/
def doFor (_objectIndex : Int) (action : Action) : Except GoError Reply :=
  cluster.do server action

/-- `UniCluster.DoForAll`; a `none` reply is a slot `DoForAll` never wrote. -/
def doForAll : List (IndexActionPair Action) → Except GoError (List (Option Reply))
  | [] => .ok []
  | [pair] => (cluster.doFor server pair.index pair.action).map fun reply => [some reply]
  | pairs => (server.doBatch cluster.server (pairs.map (·.action))).map (·.map some)

end UniCluster

/-! ## `Cluster` -/

/-- `Cluster`. -/
structure Cluster where
  /-- `servers`. -/
  servers : List StorageServerConfig
  /-- `serverCount`. -/
  serverCount : Int
  /-- `availableServerCount`. -/
  availableServerCount : Int

/-- The loop of `NewCluster` over one server: `Online` servers count,
retired ones do not, any other state is refused. -/
def countAvailable (available : Int) (server : StorageServerConfig) : Except GoError Int :=
  match server.state with
  | .online => .ok available
  | .rip => .ok (available - 1)
  | _ => .error errServerStateNotSupported

/-- `NewCluster`. -/
def newCluster (cfg : StorageClusterConfig) : Except GoError Cluster := do
  cfg.validate
  let serverCount : Int := cfg.servers.length
  let availableServerCount ← cfg.servers.foldlM countAvailable serverCount
  if availableServerCount = 0 then throw errNoServersAvailable
  pure ⟨cfg.servers, serverCount, availableServerCount⟩

/-- `storageServer`: a server of a cluster, dialled through the cluster's
dialer, which the model keeps in the `ServerBehaviour`. -/
structure StorageServer where
  /-- `cfg`. -/
  cfg : StorageServerConfig

/-- `storageServer.Do`: dial the server and apply the action. -/
def StorageServer.«do» (storageServer : StorageServer) (server : ServerBehaviour Action Reply)
    (action : Action) : Except GoError Reply :=
  server.doAction storageServer.cfg action

/-- `IndexActionMap`: input positions and their actions, in input order. -/
structure IndexActionMap (Action : Type) where
  /-- `Indices`. -/
  indices : List Int
  /-- `Actions`. -/
  actions : List Action

/-- `IndexActionMap.Add`. -/
def IndexActionMap.add (m : IndexActionMap Action) (index : Int) (action : Action) :
    IndexActionMap Action :=
  ⟨m.indices ++ [index], m.actions ++ [action]⟩

/-- The Go map `servers` of `DoForAll`: its keys, in the order they were
first added, and the map stored under each key (the empty map under a key it
does not hold). -/
structure ServerMaps (Action : Type) where
  /-- The keys. -/
  keys : List Int
  /-- `servers[serverIndex]`. -/
  maps : Int → IndexActionMap Action

/-- `make(map[int64]*IndexActionMap)`. -/
def ServerMaps.empty : ServerMaps Action := ⟨[], fun _ => ⟨[], []⟩⟩

/-- `server.Add(index, action)` on the map of `serverIndex`, created first
when it is missing. -/
def ServerMaps.add (servers : ServerMaps Action) (serverIndex index : Int) (action : Action) :
    ServerMaps Action where
  keys := if serverIndex ∈ servers.keys then servers.keys else servers.keys ++ [serverIndex]
  maps := Function.update servers.maps serverIndex ((servers.maps serverIndex).add index action)

/-- `errors.Wrapf(err, "error while applying actions in serverIndex %d", serverIndex)`. -/
def wrapServerError (serverIndex : Int) (err : GoError) : GoError :=
  "error while applying actions in serverIndex " ++ toString serverIndex ++ ": " ++ err

/-- `s[i] = x` on a Go slice. -/
def goSet {α : Type} (xs : List α) (i : Int) (x : α) : Outcome (List α) :=
  if 0 ≤ i ∧ i < xs.length then .returns (xs.set i.toNat x) else .panics

/-- Setting the slot right after a prefix. -/
theorem goSet_append_length {α : Type} (xs ys : List α) (y x : α) :
    goSet (xs ++ y :: ys) xs.length x = .returns (xs ++ x :: ys) := by
  rw [goSet, if_pos ⟨Int.natCast_nonneg _, by simp only [List.length_append, List.length_cons]; omega⟩,
    Int.toNat_natCast, List.set_append_right _ _ (le_refl _)]
  simp

/-- The loop `for i, reply := range result.Replies`, from `i`: each reply goes
to the input position `m.Indices[i]`. -/
def scatterReplies (indices : List Int) :
    (i : Nat) → List Reply → List (Option Reply) → Outcome (List (Option Reply))
  | _, [], replies => .returns replies
  | i, reply :: rest, replies => do
    let replyIndex ← goIndex indices i
    let replies ← goSet replies replyIndex (some reply)
    scatterReplies indices (i + 1) rest replies

/-- The loop `for result := range ch` over the servers' results in the order
they arrive: the first error ends it, every other result is scattered. -/
def collectReplies (servers : ServerMaps Action) :
    List (Int × Except GoError (List Reply)) → List (Option Reply) →
      Outcome (Except GoError (List (Option Reply)))
  | [], replies => .returns (.ok replies)
  | (serverIndex, .error err) :: _, _ => .returns (.error (wrapServerError serverIndex err))
  | (serverIndex, .ok serverReplies) :: results, replies => do
    let replies ← scatterReplies (servers.maps serverIndex).indices 0 serverReplies replies
    collectReplies servers results replies

/-! ## Routing over a server list

The clusters of this package and of `storage` share two bodies: the predicate
that a slot holds an `Online` server, and `DoFor`'s route-then-dial. Each
method is the shared body applied to its own fields. -/

/-- The body of `serverOperational` and `serverIsOnline`: whether the slot at
`index` holds an `Online` server; a panic outside the list. -/
def serverOnline (servers : List StorageServerConfig) : ServerIndexPredicate := fun index => do
  let cfg ← goIndex servers index
  pure (cfg.state == .online, none)

/-- A list without an `Online` server rejects every slot, or panics outside
the list. -/
theorem serverOnline_rejects_of_noneOnline {servers : List StorageServerConfig}
    (noneOnline : ∀ cfg ∈ servers, cfg.state ≠ .online) (index : Int) :
    serverOnline servers index = .returns (false, none) ∨ serverOnline servers index = .panics := by
  simp only [serverOnline, goIndex]
  split
  · cases found : servers[index.toNat]? with
    | none => exact .inr rfl
    | some cfg =>
      have offline : cfg.state ≠ .online := noneOnline cfg (List.getElem?_mem found)
      exact .inl (by simp [offline])
  · exact .inr rfl

/-- The body of the `DoFor` methods: route `objectIndex` with
`ComputeServerIndex` over `serverOnline servers`, then apply the action on the
server routed to. -/
def routeAndDo (servers : List StorageServerConfig) (serverCount objectIndex : Int)
    (server : ServerBehaviour Action Reply) (action : Action) : Outcome (Except GoError Reply) := do
  let (serverIndex, err) ← computeServerIndex serverCount objectIndex (serverOnline servers)
  match err with
  | some err => pure (.error err)
  | none => do
    let cfg ← goIndex servers serverIndex
    pure (server.doAction cfg action)

/-- The body of the `Do` methods of the reloaded clusters: take the first slot
`FindFirstServerIndex` finds over `serverOnline servers`, then apply the action
on its server. -/
def firstAndDo (servers : List StorageServerConfig) (serverCount : Int)
    (server : ServerBehaviour Action Reply) (action : Action) : Outcome (Except GoError Reply) := do
  let (serverIndex, err) ← findFirstServerIndex serverCount (serverOnline servers)
  match err with
  | some err => pure (.error err)
  | none => do
    let cfg ← goIndex servers serverIndex
    pure (server.doAction cfg action)

/-- `FindFirstAvailableServerConfig`: the first `Online` server of the config,
or `ErrNoServersAvailable`. -/
def findFirstAvailableServerConfig (cfg : StorageClusterConfig) :
    Except GoError StorageServerConfig :=
  match cfg.servers.find? (·.state == .online) with
  | some serverCfg => .ok serverCfg
  | none => .error errNoServersAvailable

namespace Cluster

variable (cluster : Cluster) (server : ServerBehaviour Action Reply)

/-- `Cluster.serverOperational`. -/
def serverOperational : ServerIndexPredicate := serverOnline cluster.servers

/-- `Cluster.doAt`. -/
def doAt (serverIndex : Int) (action : Action) : Outcome (Except GoError Reply) := do
  let cfg ← goIndex cluster.servers serverIndex
  pure (server.doAction cfg action)

/-- `Values(cluster.doAt(serverIndex, Commands(actions...)))`. -/
def doBatchAt (serverIndex : Int) (actions : List Action) :
    Outcome (Except GoError (List Reply)) := do
  let cfg ← goIndex cluster.servers serverIndex
  pure (server.doBatch cfg actions)

/-- `Cluster.Do`: the first operational server. -/
def «do» (action : Action) : Outcome (Except GoError Reply) := do
  let (serverIndex, err) ← findFirstServerIndex cluster.serverCount cluster.serverOperational
  match err with
  | some err => pure (.error err)
  | none => cluster.doAt server serverIndex action

/-- `Cluster.DoFor`: the server `ComputeServerIndex` maps the index to. -/
def doFor (objectIndex : Int) (action : Action) : Outcome (Except GoError Reply) :=
  routeAndDo cluster.servers cluster.serverCount objectIndex server action

/-- The loop of `DoForAll` that sorts the pairs, from input position
`position`: route each pair and add it to its server's map. -/
def routePairs : (position : Nat) → List (IndexActionPair Action) → ServerMaps Action →
    Outcome (Except GoError (ServerMaps Action))
  | _, [], servers => .returns (.ok servers)
  | position, pair :: pairs, servers => do
    let (serverIndex, err) ← computeServerIndex cluster.serverCount pair.index cluster.serverOperational
    match err with
    | some err => pure (.error err)
    | none => routePairs (position + 1) pairs (servers.add serverIndex position pair.action)

/-- The goroutines of `DoForAll`: each server's batch, in the order
`schedule` delivers them. -/
def batchResults (schedule : List Int → List Int) (servers : ServerMaps Action) :
    Outcome (List (Int × Except GoError (List Reply))) :=
  (schedule servers.keys).mapM fun serverIndex => do
    let replies ← cluster.doBatchAt server serverIndex (servers.maps serverIndex).actions
    pure (serverIndex, replies)

/-- `Cluster.DoForAll`. -/
def doForAll (schedule : List Int → List Int) :
    List (IndexActionPair Action) → Outcome (Except GoError (List (Option Reply)))
  | [] => .returns (.ok [])
  | [pair] => do
    let second ← goIndex [pair] 1
    let reply ← cluster.doFor server pair.index second.action
    pure (reply.map fun reply => [some reply])
  | pairs => do
    let routed ← cluster.routePairs 0 pairs .empty
    match routed with
    | .error err => pure (.error err)
    | .ok servers =>
      match servers.keys with
      | [serverIndex] => do
        -- only one server: its replies are the replies in order
        let replies ← cluster.doBatchAt server serverIndex (servers.maps serverIndex).actions
        pure (replies.map (·.map some))
      | _ => do
        let results ← cluster.batchResults server schedule servers
        collectReplies servers results (List.replicate pairs.length none)

/-- `Cluster.ServerIterator`, read until the channel closes under a context
that is never cancelled: the goroutine sends a `storageServer` for each
server whose state is `Online`, in config order, and skips the others. -/
def serverIterator : List StorageServer :=
  cluster.servers.filterMap fun cfg => if cfg.state ≠ .online then none else some ⟨cfg⟩

/-- `Cluster.ServerCount()`; the capital keeps the method apart from the field
`serverCount`, the length of the server list. -/
def ServerCount : Int := cluster.availableServerCount

end Cluster

/-! ## The one-pair path -/

/-- A cluster config of one online server. -/
def oneOnlineServer : StorageClusterConfig := ⟨[⟨"localhost:16379", 0, .online⟩]⟩

/-- The one-pair path of `Cluster.DoForAll` reads `pairs[1]`: on a cluster
that `NewCluster` builds, every one-pair call panics, whatever the pair, the
servers and the schedule. -/
theorem cluster_doForAll_onePair_panics :
    ∃ cluster, newCluster oneOnlineServer = .ok cluster ∧
      ∀ (server : ServerBehaviour Action Reply) (schedule : List Int → List Int)
        (pair : IndexActionPair Action), cluster.doForAll server schedule [pair] = .panics :=
  ⟨_, rfl, fun _ _ _ => rfl⟩

/-! ## What `NewCluster` builds

`NewCluster` counts down from the number of servers, one for each retired
server, and refuses the first server that is neither `Online` nor `RIP`. So it
builds a cluster exactly when every state is supported and some server is
`Online`, and then `ServerCount`, `ServerIterator` and `Do` all see the same
`Online` servers. -/

section NewCluster

/-- The counting loop of `NewCluster` over servers that are all `Online` or
`RIP` counts the `Online` ones. -/
theorem foldlM_countAvailable_of_supported :
    ∀ (servers : List StorageServerConfig) (available : Int),
      (∀ server ∈ servers, server.state = .online ∨ server.state = .rip) →
      servers.foldlM countAvailable available =
        .ok (available + (servers.filter (·.state == .online)).length - servers.length)
  | [], available, _ => congrArg Except.ok (by simp)
  | server :: servers, available, supported => by
    have rest := foldlM_countAvailable_of_supported servers
    have supportedRest := fun other member => supported other (List.mem_cons_of_mem server member)
    rw [List.foldlM_cons, List.filter_cons, List.length_cons]
    rcases supported server (List.mem_cons_self _ _) with online | retired
    · simp only [countAvailable, online, beq_self_eq_true, if_true, List.length_cons]
      rw [show (Except.ok available >>= fun init => servers.foldlM countAvailable init) =
        servers.foldlM countAvailable available from rfl, rest available supportedRest]
      congr 1
      omega
    · simp only [countAvailable, retired, List.length_cons]
      rw [show (Except.ok (available - 1) >>= fun init => servers.foldlM countAvailable init) =
        servers.foldlM countAvailable (available - 1) from rfl, rest _ supportedRest]
      congr 1
      simp only [reduceCtorEq, beq_iff_eq, if_false]
      omega

/-- The counting loop of `NewCluster` refuses a server whose state is neither
`Online` nor `RIP`, whatever comes before it. -/
theorem foldlM_countAvailable_of_unsupported :
    ∀ (servers : List StorageServerConfig) (available : Int),
      (∃ server ∈ servers, server.state ≠ .online ∧ server.state ≠ .rip) →
      servers.foldlM countAvailable available = .error errServerStateNotSupported
  | [], _, ⟨_, member, _⟩ => absurd member (List.not_mem_nil _)
  | server :: servers, available, ⟨bad, member, unsupported⟩ => by
    have rest := foldlM_countAvailable_of_unsupported servers
    rw [List.foldlM_cons]
    cases state : server.state
    case offline | respread =>
      rw [show countAvailable available server = .error errServerStateNotSupported by
        simp only [countAvailable, state]]
      rfl
    all_goals
      rcases List.mem_cons.mp member with rfl | laterMember
      · simp_all
      · simp only [countAvailable, state]
        exact rest _ ⟨bad, laterMember, unsupported⟩

variable {cfg : StorageClusterConfig}

/-- `NewCluster` refuses a valid config with a state it does not support. -/
theorem newCluster_of_unsupported (valid : cfg.validate = .ok ())
    (unsupported : ∃ server ∈ cfg.servers, server.state ≠ .online ∧ server.state ≠ .rip) :
    newCluster cfg = .error errServerStateNotSupported := by
  simp only [newCluster, valid, foldlM_countAvailable_of_unsupported _ _ unsupported]
  rfl

/-- On a valid config whose states are all supported, `NewCluster` builds the
cluster of its servers with the `Online` ones available, unless none is. -/
theorem newCluster_of_supported (valid : cfg.validate = .ok ())
    (supported : ∀ server ∈ cfg.servers, server.state = .online ∨ server.state = .rip) :
    newCluster cfg =
      if (cfg.servers.filter (·.state == .online)).length = 0 then .error errNoServersAvailable
      else .ok ⟨cfg.servers, cfg.servers.length, (cfg.servers.filter (·.state == .online)).length⟩ := by
  have counted : (cfg.servers.length : Int) + (cfg.servers.filter (·.state == .online)).length -
      cfg.servers.length = (cfg.servers.filter (·.state == .online)).length := by omega
  simp only [newCluster, valid, foldlM_countAvailable_of_supported _ _ supported, counted]
  by_cases noneOnline : (cfg.servers.filter (·.state == .online)).length = 0
  · rw [if_pos noneOnline, noneOnline]
    rfl
  · rw [if_neg noneOnline]
    exact if_neg (by omega)


/-- `ServerIterator` yields the `Online` servers, in config order. -/
theorem Cluster.serverIterator_eq (cluster : Cluster) :
    cluster.serverIterator = (cluster.servers.filter (·.state == .online)).map StorageServer.mk := by
  rw [Cluster.serverIterator]
  induction cluster.servers with
  | nil => rfl
  | cons server servers ih =>
    by_cases online : server.state = .online
    · rw [List.filterMap_cons, if_neg (not_not.mpr online), List.filter_cons_of_pos (by simp [online]),
        List.map_cons, ih]
    · rw [List.filterMap_cons, if_pos online, List.filter_cons_of_neg (by simp [online]), ih]

/-- The loop of `FindFirstServerIndex` over `serverOnline`, from the slot after
`front`, passes the servers of `pre`, none of them `Online`, and stops at the
`Online` server `first` after them. -/
theorem findFirstFrom_serverOnline {first : StorageServerConfig} (isOnline : first.state = .online)
    (post : List StorageServerConfig) :
    ∀ (pre front : List StorageServerConfig) (remaining : Nat), (∀ server ∈ pre, server.state ≠ .online) →
      pre.length < remaining →
      findFirstFrom (serverOnline (front ++ pre ++ first :: post)) remaining front.length =
        .returns ((front.length + pre.length : Nat), none)
  | _, _, 0, _, bound => absurd bound (Nat.not_lt_zero _)
  | [], front, remaining + 1, _, _ => by
    simp [findFirstFrom, serverOnline, goIndex_append_length, isOnline]
  | server :: pre, front, remaining + 1, offline, bound => by
    have passed : (server.state == .online) = false := by
      simpa using offline server (List.mem_cons_self _ _)
    have rest := findFirstFrom_serverOnline isOnline post pre (front ++ [server]) remaining
      (fun other member => offline other (List.mem_cons_of_mem _ member))
      (by simp only [List.length_cons] at bound; omega)
    simp only [List.append_assoc, List.singleton_append, List.cons_append, List.nil_append,
      List.length_append, List.length_singleton] at rest
    simp only [findFirstFrom, serverOnline, List.append_assoc, List.cons_append, goIndex_append_length,
      Outcome.returns_bind, Outcome.pure_eq_returns, passed, Bool.false_or, Option.isSome_none,
      Bool.false_eq_true, if_false]
    rw [show (front.length : Int) + 1 = ((front.length + 1 : Nat) : Int) by omega, rest]
    congr 2
    simp only [List.length_cons]
    omega

/-- `Do` on a cluster over its whole server list, whose first `Online` server
is `first`, sends the action to `first`. -/
theorem Cluster.do_of_first_online {cluster : Cluster} (counted : cluster.serverCount = cluster.servers.length)
    {pre post : List StorageServerConfig} {first : StorageServerConfig}
    (servers : cluster.servers = pre ++ first :: post) (offline : ∀ server ∈ pre, server.state ≠ .online)
    (isOnline : first.state = .online) (server : ServerBehaviour Action Reply) (action : Action) :
    cluster.do server action = .returns (server.doAction first action) := by
  have found : findFirstFrom (serverOnline cluster.servers) cluster.servers.length 0 =
      .returns (pre.length, none) := by
    simpa [← servers] using
      findFirstFrom_serverOnline isOnline post pre [] cluster.servers.length offline (by simp [servers])
  simp only [Cluster.do, findFirstServerIndex, counted, Int.toNat_natCast, serverOperational, found,
    Outcome.returns_bind, doAt]
  rw [servers, goIndex_append_length]
  rfl

/-- The two refusals of `NewCluster` differ. -/
theorem errNoServersAvailable_ne_errServerStateNotSupported :
    errNoServersAvailable ≠ errServerStateNotSupported := by
  decide

/-- Servers all `Online` or `RIP`, none `Online`: the `Online` list is empty. -/
theorem length_filter_online_eq_zero {servers : List StorageServerConfig} :
    (servers.filter (·.state == .online)).length = 0 ↔ ∀ server ∈ servers, server.state ≠ .online := by
  rw [List.length_eq_zero, List.filter_eq_nil_iff]
  simp

/-- A cluster whose `Online` servers start with `first` yields `first` first
and sends `Do` to it. -/
theorem Cluster.first_online {cluster : Cluster} (counted : cluster.serverCount = cluster.servers.length)
    {first : StorageServerConfig} (found : cluster.servers.find? (·.state == .online) = some first) :
    ∃ rest, cluster.serverIterator = ⟨first⟩ :: rest ∧
      ∀ {Action Reply : Type} (server : ServerBehaviour Action Reply) (action : Action),
        cluster.do server action = .returns ((⟨first⟩ : StorageServer).do server action) := by
  obtain ⟨isOnline, pre, post, servers, offline⟩ := List.find?_eq_some.mp found
  have offline' : ∀ server ∈ pre, server.state ≠ .online := fun server member => by
    simpa using offline server member
  refine ⟨(post.filter (·.state == .online)).map StorageServer.mk, ?_,
    fun server action => Cluster.do_of_first_online counted servers offline' (by simpa using isOnline) server action⟩
  rw [Cluster.serverIterator_eq, servers, List.filter_append, List.filter_eq_nil_iff.mpr (by simpa using offline'),
    List.nil_append, @List.filter_cons_of_pos _ (·.state == .online) first post isOnline, List.map_cons]

/-- The static cluster and its views agree. On every config that passes
`Validate`, `NewCluster` refuses with `ErrServerStateNotSupported` exactly when
a state is neither `Online` nor `RIP`, and otherwise with
`ErrNoServersAvailable` exactly when no server is `Online`. The cluster it
builds has as many servers as `ServerIterator` yields, which are the `Online`
ones in config order and at least one, and `Do` sends every action to the
first of them. -/
theorem newCluster_views_agree (cfg : StorageClusterConfig) (valid : cfg.validate = .ok ()) :
    (newCluster cfg = .error errServerStateNotSupported ↔
      ∃ server ∈ cfg.servers, server.state ≠ .online ∧ server.state ≠ .rip) ∧
    ((∀ server ∈ cfg.servers, server.state = .online ∨ server.state = .rip) →
      (newCluster cfg = .error errNoServersAvailable ↔ ∀ server ∈ cfg.servers, server.state ≠ .online)) ∧
    ∀ cluster, newCluster cfg = .ok cluster →
      cluster.serverIterator = (cfg.servers.filter (·.state == .online)).map StorageServer.mk ∧
      cluster.ServerCount = cluster.serverIterator.length ∧
      ∃ first rest, cluster.serverIterator = first :: rest ∧
        ∀ {Action Reply : Type} (server : ServerBehaviour Action Reply) (action : Action),
          cluster.do server action = .returns (first.do server action) := by
  by_cases unsupported : ∃ server ∈ cfg.servers, server.state ≠ .online ∧ server.state ≠ .rip
  · have refused := newCluster_of_unsupported valid unsupported
    obtain ⟨bad, member, notOnline, notRetired⟩ := unsupported
    refine ⟨iff_of_true refused ⟨bad, member, notOnline, notRetired⟩, fun supported => ?_,
      fun cluster built => ?_⟩
    · exact absurd (supported bad member) (by simp [notOnline, notRetired])
    · rw [refused] at built
      cases built
  have supported : ∀ server ∈ cfg.servers, server.state = .online ∨ server.state = .rip := by
    push_neg at unsupported
    exact fun server member => (em _).imp_right (unsupported server member)
  have built := newCluster_of_supported valid supported
  refine ⟨iff_of_false ?_ unsupported, fun _ => ?_, fun cluster ok => ?_⟩
  · rw [built]
    split
    · exact fun same => errNoServersAvailable_ne_errServerStateNotSupported (Except.error.inj same)
    · exact fun same => by cases same
  · rw [built, ← length_filter_online_eq_zero]
    split
    · exact iff_of_true rfl ‹_›
    · exact iff_of_false (fun same => by cases same) ‹_›
  · rw [built] at ok
    split at ok
    · cases ok
    · next someOnline =>
      cases ok
      rcases found : cfg.servers.find? (·.state == .online) with _ | first
      · refine absurd (length_filter_online_eq_zero.mpr fun server member => ?_) someOnline
        simpa using List.find?_eq_none.mp found server member
      · have iterator := Cluster.serverIterator_eq ⟨cfg.servers, cfg.servers.length,
          (cfg.servers.filter (·.state == .online)).length⟩
        obtain ⟨rest, yields, dispatch⟩ := @Cluster.first_online ⟨cfg.servers, cfg.servers.length,
          (cfg.servers.filter (·.state == .online)).length⟩ rfl first found
        refine ⟨iterator, ?_, ⟨first⟩, rest, yields, dispatch⟩
        rw [iterator, List.length_map]
        rfl

/-- The last config of `TestCluster`: the middle one of three servers is
`Online`, the others are retired. -/
def testClusterConfig : StorageClusterConfig := ⟨[ripServer, ⟨"localhost:16379", 0, .online⟩, ripServer]⟩

/-- `TestCluster`'s last config passes `Validate`, so the views agree on it. -/
theorem newCluster_views_agree_testCluster :
    testClusterConfig.validate = .ok () ∧
    (newCluster testClusterConfig = .error errServerStateNotSupported ↔
      ∃ server ∈ testClusterConfig.servers, server.state ≠ .online ∧ server.state ≠ .rip) ∧
    ((∀ server ∈ testClusterConfig.servers, server.state = .online ∨ server.state = .rip) →
      (newCluster testClusterConfig = .error errNoServersAvailable ↔
        ∀ server ∈ testClusterConfig.servers, server.state ≠ .online)) ∧
    ∀ cluster, newCluster testClusterConfig = .ok cluster →
      cluster.serverIterator = (testClusterConfig.servers.filter (·.state == .online)).map StorageServer.mk ∧
      cluster.ServerCount = cluster.serverIterator.length ∧
      ∃ first rest, cluster.serverIterator = first :: rest ∧
        ∀ {Action Reply : Type} (server : ServerBehaviour Action Reply) (action : Action),
          cluster.do server action = .returns (first.do server action) :=
  ⟨rfl, newCluster_views_agree testClusterConfig rfl⟩

end NewCluster

/-! ## The first available server

`FindFirstAvailableServerConfig` picks a server from a config, and the `Do`
methods pick a slot with `FindFirstServerIndex`; the source warns that the two
might come to decide differently. Over the whole server list they do not. -/

section FirstAvailable

/-- The loop of `FindFirstServerIndex` over `serverOnline`, from the slot after
`front`, through servers none of which is `Online`, runs out with
`ErrNoServersAvailable`. -/
theorem findFirstFrom_serverOnline_of_offline :
    ∀ (rest front : List StorageServerConfig), (∀ server ∈ rest, server.state ≠ .online) →
      findFirstFrom (serverOnline (front ++ rest)) rest.length front.length =
        .returns (-1, some errNoServersAvailable)
  | [], _, _ => rfl
  | server :: rest, front, offline => by
    have passed : (server.state == .online) = false := by
      simpa using offline server (List.mem_cons_self _ _)
    have later := findFirstFrom_serverOnline_of_offline rest (front ++ [server])
      (fun other member => offline other (List.mem_cons_of_mem _ member))
    simp only [List.append_assoc, List.singleton_append, List.length_append,
      List.length_singleton] at later
    simp only [findFirstFrom, serverOnline, List.length_cons, goIndex_append_length,
      Outcome.returns_bind, Outcome.pure_eq_returns, passed, Bool.false_or, Option.isSome_none,
      Bool.false_eq_true, if_false]
    rw [show (front.length : Int) + 1 = ((front.length + 1 : Nat) : Int) by omega, later]

/-- Over its whole server list, the first-available `Do` body is
`FindFirstAvailableServerConfig` followed by the action on the server it
finds. -/
theorem firstAndDo_length (servers : List StorageServerConfig) (server : ServerBehaviour Action Reply)
    (action : Action) :
    firstAndDo servers servers.length server action =
      .returns (findFirstAvailableServerConfig ⟨servers⟩ >>= fun cfg => server.doAction cfg action) := by
  rcases found : servers.find? (·.state == .online) with _ | first
  · have exhausted : findFirstFrom (serverOnline servers) servers.length 0 =
        .returns (-1, some errNoServersAvailable) :=
      findFirstFrom_serverOnline_of_offline servers [] fun other member => by
        simpa using List.find?_eq_none.mp found other member
    simp only [firstAndDo, findFirstServerIndex, Int.toNat_natCast, exhausted, Outcome.returns_bind,
      findFirstAvailableServerConfig, found]
    rfl
  · obtain ⟨isOnline, pre, post, split, offline⟩ := List.find?_eq_some.mp found
    simp only [findFirstAvailableServerConfig, found]
    exact @Cluster.do_of_first_online Action Reply ⟨servers, servers.length, 0⟩ rfl pre post first split
      (fun other member => by simpa using offline other member) (by simpa using isOnline) server action

/-- `Cluster.Do` is the first-available body over the cluster's fields. -/
theorem Cluster.do_eq_firstAndDo (cluster : Cluster) (server : ServerBehaviour Action Reply)
    (action : Action) : cluster.do server action =
      firstAndDo cluster.servers cluster.serverCount server action := rfl

/-- A cluster `NewCluster` builds holds the config's servers, one slot each. -/
theorem newCluster_servers {cfg : StorageClusterConfig} {cluster : Cluster}
    (built : newCluster cfg = .ok cluster) :
    cluster.servers = cfg.servers ∧ cluster.serverCount = cfg.servers.length := by
  simp only [newCluster, bind, Except.bind] at built
  split at built
  · cases built
  · split at built
    · cases built
    · split at built <;> cases built
      exact ⟨rfl, rfl⟩

end FirstAvailable

end Ardb
end Zerodisk
