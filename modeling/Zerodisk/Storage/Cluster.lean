import Zerodisk.Storage.Watcher
import Zerodisk.Ardb.Cluster

/-!
# Hot-reloaded primary and template clusters

`PrimaryCluster` and `TemplateCluster` hold the server list of the storage
cluster their vdisk references, kept current by a reloader goroutine: a
reference update goes through `storageClusterWatcher.SetClusterID`, and a config
received from the watch replaces the server list. The template cluster may
reference no cluster, and its `DoFor` then answers `ErrClusterNotDefined`. Each
cluster is its fields with its reloader's state, and `step` is one round of the
reloader's `select` or a step of a watch's goroutine.
-/

namespace Zerodisk
namespace Storage

open Config Ardb

/-- `ErrClusterNotDefined`. -/
def errClusterNotDefined : GoError := "ARDB storage cluster is not defined"

/-- `ErrMethodNotSupported`. -/
def errMethodNotSupported : GoError := "method is not supported"

variable {Action Reply : Type}

/-! ## `PrimaryCluster` -/

/-- `PrimaryCluster`, with its reloader's `primaryWatcher` and the watches. -/
structure PrimaryCluster where
  /-- `servers`. -/
  servers : List StorageServerConfig
  /-- `serverCount`. -/
  serverCount : Int
  /-- The reloader's `primaryWatcher`. -/
  watcher : StorageClusterWatcher
  /-- The watches the config source opened. -/
  watches : Watches
  deriving DecidableEq, Repr

namespace PrimaryCluster

/-- `updatePrimaryStorageConfig`: install the config's servers. -/
def updatePrimaryStorageConfig (pc : PrimaryCluster) (cfg : StorageClusterConfig) :
    PrimaryCluster :=
  { pc with servers := cfg.servers, serverCount := cfg.servers.length }

/-- `serverIsOnline`. -/
def serverIsOnline (pc : PrimaryCluster) : ServerIndexPredicate := serverOnline pc.servers

/-- `PrimaryCluster.Do`: the first `Online` server. -/
def «do» (pc : PrimaryCluster) (server : ServerBehaviour Action Reply) (action : Action) :
    Outcome (Except GoError Reply) :=
  firstAndDo pc.servers pc.serverCount server action

/-- `PrimaryCluster.DoFor`. -/
def doFor (pc : PrimaryCluster) (server : ServerBehaviour Action Reply) (objectIndex : Int)
    (action : Action) : Outcome (Except GoError Reply) :=
  routeAndDo pc.servers pc.serverCount objectIndex server action

/-- One step of the reloader goroutine, or of a watch's goroutine. -/
def step (pc : PrimaryCluster) : ReloadEvent → Option PrimaryCluster
  | .reference clusterID watchError =>
    let (_, watcher, watches) := pc.watcher.setClusterID pc.watches clusterID watchError
    some { pc with watcher := watcher, watches := watches }
  | .receive => do
    let k ← pc.watcher.channel
    let (cfg, watches) ← pc.watches.receive k
    some ({ pc with watches := watches }.updatePrimaryStorageConfig cfg)
  | .send k cfg => do
    let watches ← pc.watches.send k cfg
    some { pc with watches := watches }
  | .close k => do
    let watches ← pc.watches.close k
    some { pc with watches := watches }

end PrimaryCluster

/-- `NewPrimaryCluster`, when the first reference names `clusterID`, a watch
on it fails with `watchError` or opens, and its first config is `cfg`. -/
def newPrimaryCluster (clusterID : String) (watchError : Option GoError)
    (cfg : StorageClusterConfig) : Outcome (Except GoError PrimaryCluster) :=
  let ((clusterExists, err), watcher, watches) :=
    StorageClusterWatcher.empty.setClusterID [] clusterID watchError
  match err with
  | some err => .returns (.error err)
  | none =>
    -- `panic("primary cluster should exist on a non-error path")`
    if !clusterExists then .panics
    else .returns (.ok ((⟨[], 0, watcher, watches⟩ : PrimaryCluster).updatePrimaryStorageConfig cfg))

/-- The primary clusters a run of the reloader reaches from a successful
`NewPrimaryCluster`. -/
def PrimaryReachable : PrimaryCluster → Prop :=
  Reachable (fun pc => ∃ clusterID watchError cfg,
    newPrimaryCluster clusterID watchError cfg = .returns (.ok pc)) PrimaryCluster.step

/-! ## `TemplateCluster` -/

/-- `TemplateCluster`, with its reloader's `watcher` and the watches. -/
structure TemplateCluster where
  /-- `servers`. -/
  servers : List StorageServerConfig
  /-- `serverCount`. -/
  serverCount : Int
  /-- The reloader's `watcher`. -/
  watcher : StorageClusterWatcher
  /-- The watches the config source opened. -/
  watches : Watches
  deriving DecidableEq, Repr

namespace TemplateCluster

/-- `updateStorageConfig`: install the config's servers. -/
def updateStorageConfig (tsc : TemplateCluster) (cfg : StorageClusterConfig) : TemplateCluster :=
  { tsc with servers := cfg.servers, serverCount := cfg.servers.length }

/-- `serverIsOnline`. -/
def serverIsOnline (tsc : TemplateCluster) : ServerIndexPredicate := serverOnline tsc.servers

/-- `TemplateCluster.Do`: not supported. -/
def «do» (_tsc : TemplateCluster) (_server : ServerBehaviour Action Reply) (_action : Action) :
    Outcome (Except GoError Reply) :=
  .returns (.error errMethodNotSupported)

/-- `TemplateCluster.DoFor`: `ErrClusterNotDefined` while no server is
installed. -/
def doFor (tsc : TemplateCluster) (server : ServerBehaviour Action Reply) (objectIndex : Int)
    (action : Action) : Outcome (Except GoError Reply) :=
  if tsc.serverCount = 0 then .returns (.error errClusterNotDefined)
  else routeAndDo tsc.servers tsc.serverCount objectIndex server action

/-- One step of the reloader goroutine, or of a watch's goroutine. -/
def step (tsc : TemplateCluster) : ReloadEvent → Option TemplateCluster
  | .reference clusterID watchError =>
    let clusterWasDefined := tsc.watcher.defined
    let ((clusterExists, err), watcher, watches) :=
      tsc.watcher.setClusterID tsc.watches clusterID watchError
    let tsc := { tsc with watcher := watcher, watches := watches }
    match err with
    | some _ => some tsc
    | none =>
      -- no cluster exists any longer: delete the old state
      if clusterWasDefined && !clusterExists then some { tsc with servers := [], serverCount := 0 }
      else some tsc
  | .receive => do
    let k ← tsc.watcher.channel
    let (cfg, watches) ← tsc.watches.receive k
    some ({ tsc with watches := watches }.updateStorageConfig cfg)
  | .send k cfg => do
    let watches ← tsc.watches.send k cfg
    some { tsc with watches := watches }
  | .close k => do
    let watches ← tsc.watches.close k
    some { tsc with watches := watches }

end TemplateCluster

/-- `NewTemplateCluster`, when the first reference names `clusterID`, a watch
on it fails with `watchError` or opens, and its first config is `cfg`. -/
def newTemplateCluster (clusterID : String) (watchError : Option GoError)
    (cfg : StorageClusterConfig) : Except GoError TemplateCluster :=
  let ((clusterExists, err), watcher, watches) :=
    StorageClusterWatcher.empty.setClusterID [] clusterID watchError
  match err with
  | some err => .error err
  | none =>
    let tsc : TemplateCluster := ⟨[], 0, watcher, watches⟩
    .ok (if clusterExists then tsc.updateStorageConfig cfg else tsc)

/-- The template clusters a run of the reloader reaches from a successful
`NewTemplateCluster`. -/
def TemplateReachable : TemplateCluster → Prop :=
  Reachable (fun tsc => ∃ clusterID watchError cfg,
    newTemplateCluster clusterID watchError cfg = .ok tsc) TemplateCluster.step

end Storage
end Zerodisk
