import Zerodisk.Config

/-!
# Cluster-config watches and the watcher helper

The reloaders listen to the vdisk's reference channel, which names the storage
cluster to use, and to the channel of a watch on that cluster's config. The
config source is outside the sources; a watch is modelled as the spec describes
it and as the reloaders' code relies on it: its goroutine sends configs until
its context is cancelled, a config it sent may still wait on the channel after
that, and it may then close the channel, after which a receive yields the zero
config at once. Each `ReloadEvent` is one step: a reference update, a received
config, or a send or close by a watch's goroutine.
-/

namespace Zerodisk
namespace Storage

open Config

/-- A cluster-config watch the config source opened. -/
structure ClusterWatch where
  /-- The storage cluster whose config it watches. -/
  clusterID : String
  /-- The configs its goroutine sent that no one has received yet, oldest
  first. -/
  pending : List StorageClusterConfig
  /-- Its context was cancelled. -/
  cancelled : Bool
  /-- Its channel was closed. -/
  closed : Bool
  deriving DecidableEq, Repr

/-- Every watch opened so far; a watch is named by its position. -/
abbrev Watches := List ClusterWatch

namespace Watches

/-- Open a watch on `clusterID`; it is named `ws.length`. -/
def «open» (ws : Watches) (clusterID : String) : Watches := ws ++ [⟨clusterID, [], false, false⟩]

/-- Cancel the context of watch `k`. -/
def cancel (ws : Watches) (k : Nat) : Watches := ws.modify (fun w => { w with cancelled := true }) k

/-- Cancel the context of watch `k`, if there is one: a `CancelFunc` that
belongs to no watch cancels nothing another watch sees. -/
def cancelIf (ws : Watches) : Option Nat → Watches
  | some k => ws.cancel k
  | none => ws

/-- The goroutine of watch `k` sends `cfg`; only a watch whose context is
live sends. -/
def send (ws : Watches) (k : Nat) (cfg : StorageClusterConfig) : Option Watches :=
  match ws[k]? with
  | some w => if w.cancelled then none else some (ws.set k { w with pending := w.pending ++ [cfg] })
  | none => none

/-- The goroutine of watch `k` returns after its cancellation and closes the
channel; a config it was still offering is not sent. -/
def close (ws : Watches) (k : Nat) : Option Watches :=
  match ws[k]? with
  | some w => if w.cancelled ∧ !w.closed then some (ws.set k { w with pending := [], closed := true })
    else none
  | none => none

/-- A receive on the channel of watch `k`: its oldest pending config, the
zero config once it is closed, and no step while it is open and empty. -/
def receive (ws : Watches) (k : Nat) : Option (StorageClusterConfig × Watches) :=
  match ws[k]? with
  | some w =>
    match w.pending with
    | cfg :: rest => some (cfg, ws.set k { w with pending := rest })
    | [] => if w.closed then some (⟨[]⟩, ws) else none
  | none => none

@[simp] theorem length_open (ws : Watches) (clusterID : String) :
    (ws.open clusterID).length = ws.length + 1 := by
  simp [Watches.open]

@[simp] theorem length_cancelIf (ws : Watches) (k : Option Nat) : (ws.cancelIf k).length = ws.length := by
  cases k <;> simp [cancelIf, cancel]

/-- Opening a watch leaves the others as they are. -/
theorem getElem?_open_of_lt {ws : Watches} {k : Nat} (clusterID : String) (older : k < ws.length) :
    (ws.open clusterID)[k]? = ws[k]? := by
  simp [Watches.open, List.getElem?_append_left older]

/-- The watch opened last is live and watches `clusterID`. -/
@[simp] theorem getElem?_open_length (ws : Watches) (clusterID : String) :
    (ws.open clusterID)[ws.length]? = some ⟨clusterID, [], false, false⟩ := by
  simp [Watches.open]

/-- Cancelling watch `j` cancels it and no other. -/
theorem getElem?_cancelIf (ws : Watches) (j : Option Nat) (k : Nat) :
    (ws.cancelIf j)[k]? = if j = some k then ws[k]?.map fun w => { w with cancelled := true } else ws[k]? := by
  cases j with
  | none => simp [cancelIf]
  | some j =>
    by_cases same : j = k
    · subst same; simp [cancelIf, cancel, List.getElem?_modify]
    · simp [cancelIf, cancel, List.getElem?_modify, same]

end Watches

/-- What a reloader does next: one of its `select` cases, or a step of a
watch's goroutine. -/
inductive ReloadEvent
  /-- The reloader receives a reference naming `clusterID`; a watch it opens
  on it fails with `watchError`, or opens when that is `none`. -/
  | reference (clusterID : String) (watchError : Option GoError)
  /-- The reloader receives from its cluster-config channel. -/
  | receive
  /-- The goroutine of watch `k` sends `cfg`. -/
  | send (k : Nat) (cfg : StorageClusterConfig)
  /-- The goroutine of watch `k` closes its channel. -/
  | close (k : Nat)
  deriving DecidableEq, Repr

/-- `storageClusterWatcher`: the watched cluster, the channel of its watch, and
the `CancelFunc` of that watch; `none` for a nil channel or function. -/
structure StorageClusterWatcher where
  /-- `clusterID`. -/
  clusterID : String
  /-- `channel`. -/
  channel : Option Nat
  /-- `cancel`. -/
  cancel : Option Nat
  deriving DecidableEq, Repr

namespace StorageClusterWatcher

/-- The zero `storageClusterWatcher`. -/
def empty : StorageClusterWatcher := ⟨"", none, none⟩

/-- `storageClusterWatcher.Defined`. -/
def defined (scw : StorageClusterWatcher) : Bool := scw.clusterID != ""

/-- `storageClusterWatcher.SetClusterID`: its `(exists, err)` answer, the
watcher after it, and the watches after it. -/
def setClusterID (scw : StorageClusterWatcher) (ws : Watches) (clusterID : String)
    (watchError : Option GoError) : (Bool × Option GoError) × StorageClusterWatcher × Watches :=
  if scw.clusterID = clusterID then ((scw.clusterID != "", none), scw, ws)
  else if clusterID = "" then
    -- cancel the watch, keep `scw.channel`
    ((false, none), { scw with cancel := none, clusterID := "" }, ws.cancelIf scw.cancel)
  else
    match watchError with
    | some err => ((false, some err), scw, ws)
    | none => ((true, none), ⟨clusterID, some ws.length, some ws.length⟩, (ws.cancelIf scw.cancel).open clusterID)

end StorageClusterWatcher

end Storage
end Zerodisk
