import Zerodisk.Storage.Cluster

/-!
# The template cluster of `nbd/ardb/storage`

The earlier `TemplateCluster` keeps its reloader's state in local variables
instead of a `storageClusterWatcher`: the template cluster ID it compares
reference updates against, the channel it receives configs from (nil while no
cluster is referenced), and the `CancelFunc` of the current watch's context.
Its `updateStorageConfig` validates a config before installing it, its `Do`
sends an action to the first `Online` server, and its `DoFor` has no guard for
an empty server list.
-/

namespace Zerodisk
namespace Storage
namespace Legacy

open Config Ardb

variable {Action Reply : Type}

/-- `TemplateCluster` of `nbd/ardb/storage`, with its reloader's variables. -/
structure TemplateCluster where
  /-- `servers`. -/
  servers : List StorageServerConfig
  /-- `serverCount`. -/
  serverCount : Int
  /-- The reloader's `templateClusterID`. -/
  templateClusterID : String
  /-- The reloader's `templateClusterCh`; `none` for a nil channel. -/
  templateClusterCh : Option Nat
  /-- The watch whose context the reloader's `templateCancel` cancels;
  `none` for the first context when no watch was opened in it. -/
  templateCancel : Option Nat
  /-- The watches the config source opened. -/
  watches : Watches
  deriving DecidableEq, Repr

namespace TemplateCluster

/-- `updateStorageConfig`: install the config's servers, iff it validates. -/
def updateStorageConfig (tsc : TemplateCluster) (cfg : StorageClusterConfig) :
    Except GoError TemplateCluster := do
  cfg.validate
  pure { tsc with servers := cfg.servers, serverCount := cfg.servers.length }

/-- `serverIsOnline`. -/
def serverIsOnline (tsc : TemplateCluster) : ServerIndexPredicate := serverOnline tsc.servers

/-- `TemplateCluster.Do`: the first `Online` server. -/
def «do» (tsc : TemplateCluster) (server : ServerBehaviour Action Reply) (action : Action) :
    Outcome (Except GoError Reply) :=
  firstAndDo tsc.servers tsc.serverCount server action

/-- `TemplateCluster.DoFor`. -/
def doFor (tsc : TemplateCluster) (server : ServerBehaviour Action Reply) (objectIndex : Int)
    (action : Action) : Outcome (Except GoError Reply) :=
  routeAndDo tsc.servers tsc.serverCount objectIndex server action

/-- The reloader's reference case: ignore the ID it compares against, stop
receiving on an empty one, otherwise watch the new cluster. -/
def onReference (tsc : TemplateCluster) (clusterID : String) (watchError : Option GoError) :
    TemplateCluster :=
  if clusterID = tsc.templateClusterID then tsc
  else if clusterID = "" then
    { tsc with templateClusterID := "", templateClusterCh := none,
               watches := tsc.watches.cancelIf tsc.templateCancel }
  else
    match watchError with
    | some _ => tsc
    | none =>
      { tsc with templateClusterCh := some tsc.watches.length,
                 watches := (tsc.watches.open clusterID).cancelIf tsc.templateCancel,
                 templateCancel := some tsc.watches.length }

/-- One step of the reloader goroutine, or of a watch's goroutine. A config
that does not validate is received but not installed. -/
def step (tsc : TemplateCluster) : ReloadEvent → Option TemplateCluster
  | .reference clusterID watchError => some (tsc.onReference clusterID watchError)
  | .receive => do
    let k ← tsc.templateClusterCh
    let (cfg, watches) ← tsc.watches.receive k
    let tsc := { tsc with watches := watches }
    match tsc.updateStorageConfig cfg with
    | .ok updated => some updated
    | .error _ => some tsc
  | .send k cfg => do
    let watches ← tsc.watches.send k cfg
    some { tsc with watches := watches }
  | .close k => do
    let watches ← tsc.watches.close k
    some { tsc with watches := watches }

end TemplateCluster

/-- `NewTemplateCluster` of `nbd/ardb/storage`, when the first reference names
`clusterID`, a watch on it fails with `watchError` or opens, and its first
config is `cfg`. -/
def newTemplateCluster (clusterID : String) (watchError : Option GoError)
    (cfg : StorageClusterConfig) : Except GoError TemplateCluster :=
  if clusterID = "" then .ok ⟨[], 0, "", none, none, []⟩
  else
    match watchError with
    | some err => .error err
    | none =>
      (⟨[], 0, clusterID, some 0, some 0, [⟨clusterID, [], false, false⟩]⟩ : TemplateCluster)
        |>.updateStorageConfig cfg

/-- The template clusters a run of the reloader reaches from a successful
`NewTemplateCluster`. -/
def TemplateReachable : TemplateCluster → Prop :=
  Reachable (fun tsc => ∃ clusterID watchError cfg,
    newTemplateCluster clusterID watchError cfg = .ok tsc) TemplateCluster.step

end Legacy
end Storage
end Zerodisk
