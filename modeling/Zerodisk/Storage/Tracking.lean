import Zerodisk.Storage.Reloading

/-!
# The newer template reloader follows its references

Where the earlier reloader loses track of its references, the reloader of
the newer `TemplateCluster` follows them through `SetClusterID`: after every
reference update, it watches the cluster of the last update that was empty or
whose watch opened, the watch of that cluster is the only live one, and no
watch is live and no server installed while that cluster is none.

`TracksReference` states this of one state, and `tracksReference_step` shows
that every reference update keeps it, moving to the cluster the update names
unless its watch fails. The run theorem follows by induction over the updates.
-/

namespace Zerodisk
namespace Storage

/-- The cluster a run of reference updates leaves the reloader on, from
`current`: an update that is empty or whose watch opens moves it, one whose
watch fails does not. -/
def referencedCluster (current : String) : List (String × Option GoError) → String
  | [] => current
  | (clusterID, watchError) :: updates =>
    referencedCluster (if clusterID = "" ∨ watchError = none then clusterID else current) updates

/-- The reloader events of a run of reference updates. -/
def referenceUpdates (updates : List (String × Option GoError)) : List ReloadEvent :=
  updates.map fun update => .reference update.1 update.2

/-- The template reloader follows the cluster `ref`. -/
structure TracksReference (tsc : TemplateCluster) (ref : String) : Prop where
  /-- The watcher is on `ref`. -/
  watching : tsc.watcher.clusterID = ref
  /-- Only the watch opened last is live, and only while `ref` is a cluster. -/
  live : ∀ k w, tsc.watches[k]? = some w → (w.cancelled = false ↔ ref ≠ "" ∧ k + 1 = tsc.watches.length)
  /-- While `ref` is a cluster, the watcher holds the watch opened last, a
  watch on `ref`. -/
  current : ref ≠ "" → ∃ k, tsc.watcher.cancel = some k ∧ tsc.watcher.channel = some k ∧
    k + 1 = tsc.watches.length ∧ (tsc.watches[k]?.map (·.clusterID)) = some ref
  /-- While `ref` is none, no server is installed and no watch is held. -/
  cleared : ref = "" → tsc.servers = [] ∧ tsc.watcher.cancel = none

namespace TemplateCluster

variable {tsc : TemplateCluster} {ref : String}

/-- A reference update to the cluster the watcher is on changes nothing. -/
theorem step_reference_same (watching : tsc.watcher.clusterID = ref) (watchError : Option GoError) :
    tsc.step (.reference ref watchError) = some tsc := by
  by_cases empty : ref = "" <;>
    simp [step, StorageClusterWatcher.setClusterID, StorageClusterWatcher.defined, watching, empty]

/-- A reference update whose watch fails changes nothing. -/
theorem step_reference_failed {clusterID : String} {err : GoError}
    (watching : tsc.watcher.clusterID = ref) (other : ref ≠ clusterID) (named : clusterID ≠ "") :
    tsc.step (.reference clusterID (some err)) = some tsc := by
  simp [step, StorageClusterWatcher.setClusterID, watching, other, named]

/-- A reference update to none cancels the watch and clears the servers. -/
theorem step_reference_detach (watching : tsc.watcher.clusterID = ref) (named : ref ≠ "")
    (watchError : Option GoError) :
    tsc.step (.reference "" watchError) = some { tsc with
      servers := [], serverCount := 0, watches := tsc.watches.cancelIf tsc.watcher.cancel,
      watcher := { tsc.watcher with cancel := none, clusterID := "" } } := by
  simp [step, StorageClusterWatcher.setClusterID, StorageClusterWatcher.defined, watching, named]

/-- A reference update to another cluster whose watch opens moves the watcher
to a new watch and cancels the old one. -/
theorem step_reference_switch {clusterID : String} (watching : tsc.watcher.clusterID = ref)
    (other : ref ≠ clusterID) (named : clusterID ≠ "") :
    tsc.step (.reference clusterID none) = some { tsc with
      watches := (tsc.watches.cancelIf tsc.watcher.cancel).open clusterID,
      watcher := ⟨clusterID, some tsc.watches.length, some tsc.watches.length⟩ } := by
  simp [step, StorageClusterWatcher.setClusterID, StorageClusterWatcher.defined, watching, other,
    named]

end TemplateCluster

/-- Cancelling the watch the watcher holds leaves no watch live. -/
theorem TracksReference.cancelled_of_cancel {tsc : TemplateCluster} {ref : String}
    (tracks : TracksReference tsc ref) (k : Nat) (w : ClusterWatch)
    (found : (tsc.watches.cancelIf tsc.watcher.cancel)[k]? = some w) : w.cancelled = true := by
  rw [Watches.getElem?_cancelIf] at found
  split at found
  · obtain ⟨_, _, rfl⟩ := Option.map_eq_some'.mp found
    rfl
  · next notHeld =>
    by_contra live
    obtain ⟨named, last⟩ := (tracks.live k w found).mp (by simpa using live)
    obtain ⟨held, cancel, _, heldLast, _⟩ := tracks.current named
    exact notHeld (by rw [cancel]; congr; omega)

open TemplateCluster in
/-- Every reference update keeps the reloader on the cluster it should be
on. -/
theorem tracksReference_step {tsc : TemplateCluster} {ref : String} (tracks : TracksReference tsc ref)
    (clusterID : String) (watchError : Option GoError) :
    ∃ tsc', tsc.step (.reference clusterID watchError) = some tsc' ∧
      TracksReference tsc' (if clusterID = "" ∨ watchError = none then clusterID else ref) := by
  by_cases same : ref = clusterID
  · subst same
    exact ⟨tsc, step_reference_same tracks.watching watchError, by simpa using tracks⟩
  by_cases detach : clusterID = ""
  · -- the watch of `ref` is cancelled and the servers are cleared
    subst detach
    refine ⟨_, step_reference_detach tracks.watching same watchError, ?_⟩
    simp only [true_or, if_true]
    refine ⟨rfl, fun k w found => ?_, fun named => absurd rfl named, fun _ => ⟨rfl, rfl⟩⟩
    simp [tracks.cancelled_of_cancel k w found]
  cases watchError with
  | some err =>
    -- the watch fails: nothing changes
    simpa [detach] using ⟨tsc, step_reference_failed tracks.watching same detach, tracks⟩
  | none =>
    -- a new watch on `clusterID`, the old one cancelled
    refine ⟨_, step_reference_switch tracks.watching same detach, ?_⟩
    simp only [or_true, if_true]
    refine ⟨rfl, fun k w found => ?_, fun _ => ⟨tsc.watches.length, rfl, rfl, by simp, by
      rw [← Watches.length_cancelIf tsc.watches tsc.watcher.cancel, Watches.getElem?_open_length]
      rfl⟩,
      fun named => absurd named detach⟩
    simp only [Watches.length_open, Watches.length_cancelIf] at found ⊢
    rcases Nat.lt_trichotomy k tsc.watches.length with older | newest | beyond
    · rw [Watches.getElem?_open_of_lt _ (by simpa using older)] at found
      simp [tracks.cancelled_of_cancel k w found]
      omega
    · subst newest
      rw [← Watches.length_cancelIf tsc.watches tsc.watcher.cancel, Watches.getElem?_open_length] at found
      cases found
      simp [detach]
    · have : (tsc.watches.cancelIf tsc.watcher.cancel |>.open clusterID)[k]? = none :=
        List.getElem?_eq_none (by simp; omega)
      simp [this] at found

/-- `NewTemplateCluster` on a first reference to a cluster whose watch
opens: the watch `0` and the servers of its first config. -/
theorem newTemplateCluster_of_named {clusterID : String} (named : clusterID ≠ "")
    (cfg : Config.StorageClusterConfig) :
    newTemplateCluster clusterID none cfg =
      .ok ⟨cfg.servers, cfg.servers.length, ⟨clusterID, some 0, some 0⟩, [⟨clusterID, [], false, false⟩]⟩ := by
  simp [newTemplateCluster, StorageClusterWatcher.setClusterID, StorageClusterWatcher.empty, named,
    Ne.symm named, TemplateCluster.updateStorageConfig, Watches.cancelIf, Watches.open]

/-- `NewTemplateCluster` fails when the watch of its first cluster fails. -/
theorem newTemplateCluster_of_failed {clusterID : String} (named : clusterID ≠ "") (err : GoError)
    (cfg : Config.StorageClusterConfig) : newTemplateCluster clusterID (some err) cfg = .error err := by
  simp [newTemplateCluster, StorageClusterWatcher.setClusterID, StorageClusterWatcher.empty, named,
    Ne.symm named]

/-- A template cluster that `NewTemplateCluster` builds follows its first
reference. -/
theorem tracksReference_of_new {clusterID : String} {watchError : Option GoError}
    {cfg : Config.StorageClusterConfig} {tsc : TemplateCluster}
    (built : newTemplateCluster clusterID watchError cfg = .ok tsc) : TracksReference tsc clusterID := by
  by_cases named : clusterID = ""
  · subst named
    cases built
    exact ⟨rfl, fun k w found => by simp [StorageClusterWatcher.empty] at found,
      fun named => absurd rfl named, fun _ => ⟨rfl, rfl⟩⟩
  cases watchError with
  | some err => simp [newTemplateCluster_of_failed named] at built
  | none =>
    rw [newTemplateCluster_of_named named, Except.ok.injEq] at built
    subst built
    refine ⟨rfl, fun k w found => ?_, fun _ => ⟨0, rfl, rfl, rfl, rfl⟩, fun empty => absurd empty named⟩
    match k, found with
    | 0, found => cases found; simp [named]

/-- A run of reference updates keeps the reloader on the cluster of the last
update that was empty or whose watch opened. -/
theorem tracksReference_run {tsc : TemplateCluster} {ref : String} (tracks : TracksReference tsc ref) :
    ∀ updates, ∃ tsc', runEvents TemplateCluster.step tsc (referenceUpdates updates) = some tsc' ∧
      TracksReference tsc' (referencedCluster ref updates)
  | [] => ⟨tsc, rfl, tracks⟩
  | (clusterID, watchError) :: updates => by
    obtain ⟨next, stepped, nextTracks⟩ := tracksReference_step tracks clusterID watchError
    obtain ⟨last, run, lastTracks⟩ := tracksReference_run nextTracks updates
    exact ⟨last, by simp [referenceUpdates, runEvents, stepped] at run ⊢; exact run, lastTracks⟩

/-- The newer template reloader follows its references: from any template
cluster `NewTemplateCluster` builds, after every run of reference updates, it
watches the cluster of the last update that was empty or whose watch opened,
the watch of that cluster is the only live watch, and while that cluster is
none no watch is live and no server is installed. -/
theorem template_reloader_tracks_references {clusterID : String} {watchError : Option GoError}
    {cfg : Config.StorageClusterConfig} {tsc : TemplateCluster}
    (built : newTemplateCluster clusterID watchError cfg = .ok tsc)
    (updates : List (String × Option GoError)) :
    ∃ tsc', runEvents TemplateCluster.step tsc (referenceUpdates updates) = some tsc' ∧
      TracksReference tsc' (referencedCluster clusterID updates) :=
  tracksReference_run (tracksReference_of_new built) updates

/-- The run `A → B → A` that the earlier reloader loses track of: the newer
one ends on `A`. -/
theorem template_reloader_tracks_A_B_A :
    ∃ tsc, newTemplateCluster "A" none Ardb.oneOnlineServer = .ok tsc ∧
      ∃ tsc', runEvents TemplateCluster.step tsc (referenceUpdates [("B", none), ("A", none)]) =
        some tsc' ∧ TracksReference tsc' "A" :=
  have built := newTemplateCluster_of_named (by decide : "A" ≠ "") Ardb.oneOnlineServer
  ⟨_, built, template_reloader_tracks_references built [("B", none), ("A", none)]⟩

end Storage
end Zerodisk
