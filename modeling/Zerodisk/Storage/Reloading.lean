import Zerodisk.Storage.LegacyCluster

/-!
# What the reloaders let through

Three runs of the reloaders, each from a constructor that succeeds. The
precondition of routing, a server list with an `Online` server, is not kept: an
empty list, an all-retired config and the zero config of a closed channel all
get installed. The earlier template reloader never updates the ID it compares
reference updates against, so it misses `A → B → A`. And `SetClusterID` cancels
a watch but keeps its channel, so the newer reloaders install a config the
cancelled watch had sent.
-/

namespace Zerodisk
namespace Storage

open Config Ardb

variable {Action Reply : Type}

/-- A cluster config whose one server is retired. -/
def retiredCluster : StorageClusterConfig := ⟨[ripServer]⟩

/-- A second cluster config of one online server. -/
def otherOnlineServer : StorageClusterConfig := ⟨[⟨"localhost:16380", 0, .online⟩]⟩

/-- With no server, `ComputeServerIndex` divides by zero. -/
theorem routeAndDo_of_noServers (server : ServerBehaviour Action Reply) (objectIndex : Int)
    (action : Action) : routeAndDo [] 0 objectIndex server action = .panics := rfl

/-- No reachable state of the reloaded clusters is guaranteed an `Online`
server: the earlier template cluster built without a template cluster panics
in every `DoFor`; a primary cluster whose cluster retires its one server
rejects every slot and sends `DoFor(0, a)` into the rehash loop; and a primary
cluster whose reference goes empty installs no server at all once the
cancelled watch closes its channel. -/
theorem reloaded_clusters_lose_online_server :
    (∃ tsc, Legacy.newTemplateCluster "" none ⟨[]⟩ = .ok tsc ∧ tsc.servers = [] ∧
      ∀ (server : ServerBehaviour Action Reply) objectIndex action,
        tsc.doFor server objectIndex action = .panics) ∧
    (∃ pc pc', newPrimaryCluster "primary" none oneOnlineServer = .returns (.ok pc) ∧
      runEvents PrimaryCluster.step pc [.send 0 retiredCluster, .receive] = some pc' ∧
      pc'.servers = [ripServer] ∧
      (∀ index, pc'.serverIsOnline index = .returns (false, none) ∨ pc'.serverIsOnline index = .panics) ∧
      computeServerIndex pc'.serverCount 0 pc'.serverIsOnline =
        rehashLoop pc'.serverCount pc'.serverIsOnline (2 ^ 64) 0 0) ∧
    (∃ pc pc', newPrimaryCluster "primary" none oneOnlineServer = .returns (.ok pc) ∧
      runEvents PrimaryCluster.step pc [.reference "" none, .close 0, .receive] = some pc' ∧
      pc'.servers = [] ∧
      ∀ (server : ServerBehaviour Action Reply) objectIndex action,
        pc'.doFor server objectIndex action = .panics) := by
  refine ⟨⟨_, rfl, rfl, fun server objectIndex action => routeAndDo_of_noServers server objectIndex action⟩,
    ⟨_, _, rfl, rfl, rfl, serverOnline_rejects_of_noneOnline
        (by decide : ∀ cfg ∈ [ripServer], cfg.state ≠ .online),
      computeServerIndex_of_rejected (by decide) rfl⟩,
    ⟨_, _, rfl, rfl, rfl, fun server objectIndex action => routeAndDo_of_noServers server objectIndex action⟩⟩

/-- The earlier template reloader does not follow its references. After
`A → B → A` it receives from `B`'s watch and `A`'s watch is cancelled; after
`"" → B → ""` it still receives from `B`'s live watch and keeps the servers
`B`'s config installed. -/
theorem legacy_reloader_loses_track_of_reference :
    (∃ tsc tsc', Legacy.newTemplateCluster "A" none oneOnlineServer = .ok tsc ∧
      runEvents Legacy.TemplateCluster.step tsc [.reference "B" none, .reference "A" none] =
        some tsc' ∧
      tsc'.templateClusterCh = some 1 ∧
      tsc'.watches = [⟨"A", [], true, false⟩, ⟨"B", [], false, false⟩]) ∧
    (∃ tsc tsc', Legacy.newTemplateCluster "" none oneOnlineServer = .ok tsc ∧
      runEvents Legacy.TemplateCluster.step tsc
        [.reference "B" none, .send 0 otherOnlineServer, .receive, .reference "" none] = some tsc' ∧
      tsc'.templateClusterCh = some 0 ∧ tsc'.watches = [⟨"B", [], false, false⟩] ∧
      tsc'.servers = otherOnlineServer.servers) :=
  ⟨⟨_, _, rfl, rfl, rfl, rfl⟩, ⟨_, _, rfl, rfl, rfl, rfl, rfl⟩⟩

/-- The newer reloaders install a config of a cancelled watch: a config the
watch of `A` sent before the reference went empty is received after it, and
replaces the server list of the primary cluster, and of the template cluster
that had just cleared it. -/
theorem reloaders_install_config_of_cancelled_watch :
    (∃ pc pc₁ pc₂, newPrimaryCluster "A" none oneOnlineServer = .returns (.ok pc) ∧
      runEvents PrimaryCluster.step pc [.send 0 otherOnlineServer, .reference "" none] = some pc₁ ∧
      pc₁.watcher.clusterID = "" ∧ pc₁.servers = oneOnlineServer.servers ∧
      pc₁.watches = [⟨"A", [otherOnlineServer], true, false⟩] ∧
      pc₁.step .receive = some pc₂ ∧ pc₂.servers = otherOnlineServer.servers) ∧
    (∃ tsc tsc₁ tsc₂, newTemplateCluster "A" none oneOnlineServer = .ok tsc ∧
      runEvents TemplateCluster.step tsc [.send 0 otherOnlineServer, .reference "" none] =
        some tsc₁ ∧
      tsc₁.watcher.clusterID = "" ∧ tsc₁.servers = [] ∧
      tsc₁.watches = [⟨"A", [otherOnlineServer], true, false⟩] ∧
      tsc₁.step .receive = some tsc₂ ∧ tsc₂.servers = otherOnlineServer.servers) :=
  ⟨⟨_, _, _, rfl, rfl, rfl, rfl, rfl, rfl, rfl⟩, ⟨_, _, _, rfl, rfl, rfl, rfl, rfl, rfl, rfl⟩⟩

end Storage
end Zerodisk
