import Zerodisk.Ardb.JumpHash
import Zerodisk.Storage.LegacyCluster

/-!
# Where the clusters send an action

Every reloader installs a config's servers together with their number, so in
every reachable state `serverCount` is the length of `servers`. Over such a list
the two ways the source picks "the first available server" agree, and `DoFor`,
with at most `2^31` servers and a non-negative object index, sends the action to
an `Online` server or keeps searching; it panics only on an empty list, which
the newer template cluster guards against.
-/

namespace Zerodisk
namespace Storage

open Config Ardb

variable {Action Reply : Type}

/-! ## Every reloaded state counts its servers -/

/-- A primary cluster `NewPrimaryCluster` builds has one slot per server. -/
theorem newPrimaryCluster_counted {clusterID : String} {watchError : Option GoError}
    {cfg : StorageClusterConfig} {pc : PrimaryCluster}
    (built : newPrimaryCluster clusterID watchError cfg = .returns (.ok pc)) :
    pc.serverCount = pc.servers.length := by
  simp only [newPrimaryCluster] at built
  split at built
  · cases built
  · split at built
    · cases built
    · cases built
      rfl

/-- Every step of the primary reloader keeps one slot per server. -/
theorem PrimaryCluster.step_counted {pc pc' : PrimaryCluster} {event : ReloadEvent}
    (stepped : pc.step event = some pc') (counted : pc.serverCount = pc.servers.length) :
    pc'.serverCount = pc'.servers.length := by
  cases event with
  | reference => cases stepped; exact counted
  | receive =>
    simp only [PrimaryCluster.step, Option.bind_eq_bind, Option.bind_eq_some, Option.some.injEq] at stepped
    obtain ⟨_, _, _, _, rfl⟩ := stepped
    rfl
  | send =>
    simp only [PrimaryCluster.step, Option.bind_eq_bind, Option.bind_eq_some, Option.some.injEq] at stepped
    obtain ⟨_, _, rfl⟩ := stepped
    exact counted
  | close =>
    simp only [PrimaryCluster.step, Option.bind_eq_bind, Option.bind_eq_some, Option.some.injEq] at stepped
    obtain ⟨_, _, rfl⟩ := stepped
    exact counted

/-- Every state a run of the primary reloader reaches has one slot per
server. -/
theorem PrimaryReachable.counted {pc : PrimaryCluster} (reachable : PrimaryReachable pc) :
    pc.serverCount = pc.servers.length := by
  induction reachable with
  | start built => obtain ⟨_, _, _, built⟩ := built; exact newPrimaryCluster_counted built
  | next _ _ stepped counted => exact PrimaryCluster.step_counted stepped counted

/-- A template cluster `NewTemplateCluster` builds has one slot per server. -/
theorem newTemplateCluster_counted {clusterID : String} {watchError : Option GoError}
    {cfg : StorageClusterConfig} {tsc : TemplateCluster}
    (built : newTemplateCluster clusterID watchError cfg = .ok tsc) :
    tsc.serverCount = tsc.servers.length := by
  simp only [newTemplateCluster] at built
  split at built
  · cases built
  · cases built
    split <;> rfl

/-- Every step of the template reloader keeps one slot per server. -/
theorem TemplateCluster.step_counted {tsc tsc' : TemplateCluster} {event : ReloadEvent}
    (stepped : tsc.step event = some tsc') (counted : tsc.serverCount = tsc.servers.length) :
    tsc'.serverCount = tsc'.servers.length := by
  cases event with
  | reference =>
    simp only [TemplateCluster.step] at stepped
    split at stepped
    · cases stepped; exact counted
    · split at stepped <;> cases stepped
      · rfl
      · exact counted
  | receive =>
    simp only [TemplateCluster.step, Option.bind_eq_bind, Option.bind_eq_some, Option.some.injEq] at stepped
    obtain ⟨_, _, _, _, rfl⟩ := stepped
    rfl
  | send =>
    simp only [TemplateCluster.step, Option.bind_eq_bind, Option.bind_eq_some, Option.some.injEq] at stepped
    obtain ⟨_, _, rfl⟩ := stepped
    exact counted
  | close =>
    simp only [TemplateCluster.step, Option.bind_eq_bind, Option.bind_eq_some, Option.some.injEq] at stepped
    obtain ⟨_, _, rfl⟩ := stepped
    exact counted

/-- Every state a run of the template reloader reaches has one slot per
server. -/
theorem TemplateReachable.counted {tsc : TemplateCluster} (reachable : TemplateReachable tsc) :
    tsc.serverCount = tsc.servers.length := by
  induction reachable with
  | start built => obtain ⟨_, _, _, built⟩ := built; exact newTemplateCluster_counted built
  | next _ _ stepped counted => exact TemplateCluster.step_counted stepped counted

namespace Legacy

/-- The earlier `updateStorageConfig` installs one slot per server. -/
theorem TemplateCluster.updateStorageConfig_counted {tsc tsc' : TemplateCluster}
    {cfg : StorageClusterConfig} (updated : tsc.updateStorageConfig cfg = .ok tsc') :
    tsc'.serverCount = tsc'.servers.length := by
  simp only [TemplateCluster.updateStorageConfig, bind, Except.bind] at updated
  split at updated <;> cases updated
  rfl

/-- The earlier reloader's reference case leaves the servers alone. -/
theorem TemplateCluster.onReference_servers (tsc : TemplateCluster) (clusterID : String)
    (watchError : Option GoError) :
    (tsc.onReference clusterID watchError).servers = tsc.servers ∧
      (tsc.onReference clusterID watchError).serverCount = tsc.serverCount := by
  simp only [TemplateCluster.onReference]
  split_ifs
  · exact ⟨rfl, rfl⟩
  · exact ⟨rfl, rfl⟩
  · cases watchError <;> exact ⟨rfl, rfl⟩

/-- A template cluster the earlier `NewTemplateCluster` builds has one slot
per server. -/
theorem newTemplateCluster_counted {clusterID : String} {watchError : Option GoError}
    {cfg : StorageClusterConfig} {tsc : TemplateCluster}
    (built : newTemplateCluster clusterID watchError cfg = .ok tsc) :
    tsc.serverCount = tsc.servers.length := by
  simp only [newTemplateCluster] at built
  split at built
  · cases built; rfl
  · split at built
    · cases built
    · exact TemplateCluster.updateStorageConfig_counted built

/-- Every step of the earlier template reloader keeps one slot per server. -/
theorem TemplateCluster.step_counted {tsc tsc' : TemplateCluster} {event : ReloadEvent}
    (stepped : tsc.step event = some tsc') (counted : tsc.serverCount = tsc.servers.length) :
    tsc'.serverCount = tsc'.servers.length := by
  cases event with
  | reference clusterID watchError =>
    cases stepped
    obtain ⟨servers, count⟩ := tsc.onReference_servers clusterID watchError
    rw [servers, count, counted]
  | receive =>
    simp only [TemplateCluster.step, Option.bind_eq_bind, Option.bind_eq_some] at stepped
    obtain ⟨_, _, _, _, stepped⟩ := stepped
    split at stepped <;> cases stepped
    · exact TemplateCluster.updateStorageConfig_counted ‹_›
    · exact counted
  | send =>
    simp only [TemplateCluster.step, Option.bind_eq_bind, Option.bind_eq_some, Option.some.injEq] at stepped
    obtain ⟨_, _, rfl⟩ := stepped
    exact counted
  | close =>
    simp only [TemplateCluster.step, Option.bind_eq_bind, Option.bind_eq_some, Option.some.injEq] at stepped
    obtain ⟨_, _, rfl⟩ := stepped
    exact counted

/-- Every state a run of the earlier template reloader reaches has one slot
per server. -/
theorem TemplateReachable.counted {tsc : TemplateCluster} (reachable : TemplateReachable tsc) :
    tsc.serverCount = tsc.servers.length := by
  induction reachable with
  | start built => obtain ⟨_, _, _, built⟩ := built; exact newTemplateCluster_counted built
  | next _ _ stepped counted => exact TemplateCluster.step_counted stepped counted

end Legacy

/-! ## `Do`: the first available server -/

/-- Every `Do` that takes the first available server agrees with
`FindFirstAvailableServerConfig` on the same servers: on every cluster
`NewCluster` builds, and on every state a run of the primary or of the earlier
template reloader reaches, `Do` sends the action to the server
`FindFirstAvailableServerConfig` picks, refuses with `ErrNoServersAvailable`
exactly when it finds none, and never panics. -/
theorem first_available_server_agrees (server : ServerBehaviour Action Reply) (action : Action) :
    (∀ cfg cluster, newCluster cfg = .ok cluster →
      cluster.do server action =
        .returns (findFirstAvailableServerConfig cfg >>= fun found => server.doAction found action)) ∧
    (∀ pc : PrimaryCluster, PrimaryReachable pc →
      pc.do server action =
        .returns (findFirstAvailableServerConfig ⟨pc.servers⟩ >>= fun found =>
          server.doAction found action)) ∧
    (∀ tsc : Legacy.TemplateCluster, Legacy.TemplateReachable tsc →
      tsc.do server action =
        .returns (findFirstAvailableServerConfig ⟨tsc.servers⟩ >>= fun found =>
          server.doAction found action)) := by
  refine ⟨fun cfg cluster built => ?_, fun pc reachable => ?_, fun tsc reachable => ?_⟩
  · obtain ⟨servers, count⟩ := newCluster_servers built
    rw [Cluster.do_eq_firstAndDo, servers, count, firstAndDo_length]
  · rw [PrimaryCluster.do, reachable.counted, firstAndDo_length]
  · rw [Legacy.TemplateCluster.do, reachable.counted, firstAndDo_length]

/-- A server behaviour that answers every action with the address it was
sent to. -/
def addressServer : ServerBehaviour Unit String :=
  ⟨fun cfg _ => .ok cfg.address, fun cfg actions => .ok (actions.map fun _ => cfg.address)⟩

/-- On `TestCluster`'s last config, and on a primary cluster started on one
online server, `Do` goes to the one `Online` server. -/
theorem first_available_server_agrees_testCluster :
    (∃ cluster, newCluster testClusterConfig = .ok cluster ∧
      cluster.do addressServer () = .returns (.ok "localhost:16379")) ∧
    ∃ pc, newPrimaryCluster "primary" none oneOnlineServer = .returns (.ok pc) ∧
      pc.do addressServer () = .returns (.ok "localhost:16379") :=
  ⟨⟨_, rfl, ((first_available_server_agrees addressServer ()).1 testClusterConfig _ rfl).trans rfl⟩,
    ⟨_, rfl, ((first_available_server_agrees addressServer ()).2.1 _
      (.start ⟨"primary", none, oneOnlineServer, rfl⟩)).trans rfl⟩⟩

/-! ## `DoFor`: a slot inside the list -/

/-- What `DoFor` may do on a server list: send the action to an `Online`
server of the list, or keep searching for one. -/
def DialsOnline (servers : List StorageServerConfig) (server : ServerBehaviour Action Reply)
    (action : Action) (outcome : Outcome (Except GoError Reply)) : Prop :=
  outcome = .hangs ∨ ∃ cfg ∈ servers, cfg.state = .online ∧ outcome = .returns (server.doAction cfg action)

/-- `serverOnline` at a slot: whether its server is `Online`. -/
theorem serverOnline_of_lt {servers : List StorageServerConfig} {i : Nat} (inBounds : i < servers.length) :
    serverOnline servers i = .returns (servers[i].state == .online, none) := by
  simp only [serverOnline, goIndex_of_lt inBounds, Outcome.returns_bind, Outcome.pure_eq_returns,
    List.get_eq_getElem]

/-- Route-then-dial over a list of at most `2^31` servers, one slot each, for
a non-negative object index, sends the action to an `Online` server or keeps
searching. -/
theorem routeAndDo_dialsOnline {servers : List StorageServerConfig} (nonempty : servers ≠ [])
    (fits : servers.length ≤ 2 ^ 31) {objectIndex : Int} (nonneg : 0 ≤ objectIndex)
    (server : ServerBehaviour Action Reply) (action : Action) :
    DialsOnline servers server action (routeAndDo servers servers.length objectIndex server action) := by
  have countPos : (0 : Int) < servers.length := by
    have := List.length_pos.mpr nonempty
    omega
  have countLe : (servers.length : Int) ≤ 2 ^ 31 := by exact_mod_cast fits
  have total : ∀ i, 0 ≤ i → i < (servers.length : Int) → serverOnline servers i ≠ .panics := by
    intro i slotNonneg slotBelow
    obtain ⟨n, rfl⟩ := Int.eq_ofNat_of_zero_le slotNonneg
    rw [serverOnline_of_lt (by omega)]
    exact Outcome.noConfusion
  rw [routeAndDo]
  rcases routed : computeServerIndex servers.length objectIndex (serverOnline servers) with
    ⟨i, err⟩ | _ | _
  · obtain ⟨slotNonneg, slotBelow, ok, answer, stops⟩ :=
      computeServerIndex_returns countPos countLe nonneg routed
    obtain ⟨n, rfl⟩ := Int.eq_ofNat_of_zero_le slotNonneg
    have inBounds : n < servers.length := by omega
    rw [serverOnline_of_lt inBounds] at answer
    cases answer
    simp only [Option.isSome_none, Bool.or_false, beq_iff_eq] at stops
    refine .inr ⟨servers[n], List.getElem_mem inBounds, stops, ?_⟩
    simp only [Outcome.returns_bind, goIndex_of_lt inBounds]
    rfl
  · exact absurd routed (computeServerIndex_ne_panics countPos countLe nonneg total)
  · exact .inl rfl

/-- What `DoFor` does on every state the reloaders reach, with at most
`2^31` servers and a non-negative object index. With no server, the newer
template cluster answers `ErrClusterNotDefined`, while the primary and the
earlier template cluster have no such guard and panic on a division by zero.
With servers, each of the three sends the action to an `Online` server of its
list or keeps searching for one: it never panics and never dials a server
that is not `Online`. -/
theorem reloaded_doFor_dials_online (server : ServerBehaviour Action Reply) (action : Action)
    {objectIndex : Int} (nonneg : 0 ≤ objectIndex) :
    (∀ tsc : TemplateCluster, TemplateReachable tsc → tsc.servers.length ≤ 2 ^ 31 →
      (tsc.servers = [] →
        tsc.doFor server objectIndex action = .returns (.error errClusterNotDefined)) ∧
      (tsc.servers ≠ [] → DialsOnline tsc.servers server action (tsc.doFor server objectIndex action))) ∧
    (∀ pc : PrimaryCluster, PrimaryReachable pc → pc.servers.length ≤ 2 ^ 31 →
      (pc.servers = [] → pc.doFor server objectIndex action = .panics) ∧
      (pc.servers ≠ [] → DialsOnline pc.servers server action (pc.doFor server objectIndex action))) ∧
    (∀ tsc : Legacy.TemplateCluster, Legacy.TemplateReachable tsc → tsc.servers.length ≤ 2 ^ 31 →
      (tsc.servers = [] → tsc.doFor server objectIndex action = .panics) ∧
      (tsc.servers ≠ [] →
        DialsOnline tsc.servers server action (tsc.doFor server objectIndex action))) := by
  refine ⟨fun tsc reachable fits => ⟨fun none => ?_, fun some => ?_⟩,
    fun pc reachable fits => ⟨fun none => ?_, fun some => ?_⟩,
    fun tsc reachable fits => ⟨fun none => ?_, fun some => ?_⟩⟩
  · rw [TemplateCluster.doFor, reachable.counted, if_pos (by simp [none])]
  · rw [TemplateCluster.doFor, reachable.counted, if_neg (by simpa using some)]
    exact routeAndDo_dialsOnline some fits nonneg server action
  · rw [PrimaryCluster.doFor, reachable.counted, none]
    rfl
  · rw [PrimaryCluster.doFor, reachable.counted]
    exact routeAndDo_dialsOnline some fits nonneg server action
  · rw [Legacy.TemplateCluster.doFor, reachable.counted, none]
    rfl
  · rw [Legacy.TemplateCluster.doFor, reachable.counted]
    exact routeAndDo_dialsOnline some fits nonneg server action

/-- On a primary cluster started on one online server, `DoFor` dials it. -/
theorem reloaded_doFor_dials_online_oneOnline :
    0 ≤ (0 : Int) ∧ ∃ pc, newPrimaryCluster "primary" none oneOnlineServer = .returns (.ok pc) ∧
      pc.servers ≠ [] ∧ DialsOnline pc.servers addressServer () (pc.doFor addressServer 0 ()) :=
  ⟨le_refl 0, _, rfl, by decide, ((reloaded_doFor_dials_online addressServer () (le_refl 0)).2.1 _
    (.start ⟨"primary", none, oneOnlineServer, rfl⟩) (by decide)).2 (by decide)⟩

end Storage
end Zerodisk
