import Zerodisk.Basic

/-!
# The cluster client and its configuration reloads

A `ClusterClient` keeps the connection strings of one vdisk's storage cluster,
read from a configuration file by `loadConfig` at creation, on every SIGHUP, and
from an accessor that finds the configuration not loaded; each load takes the
file as it is then, `none` when it cannot be read. Only the fields `loadConfig`
reads are modelled. `loadConfig` clears `loaded` on entry, so a failed reload
does not keep the previous configuration: the accessors load again and answer
from that load, which still checks the vdisk's type against the one the client
kept.
-/

namespace Zerodisk
namespace StorageCluster

/-- `config.VdiskType`, as its underlying string. -/
abbrev VdiskType := String

/-- `config.VdiskTypeNil`, the type of a client that never loaded. -/
def vdiskTypeNil : VdiskType := ""

/-- The fields of a vdisk's configuration that `loadConfig` reads. -/
structure VdiskConfig where
  /-- `Type`. -/
  type : VdiskType
  /-- `RootDataStorage`, the fallback server. -/
  rootDataStorage : String
  /-- `Storagecluster`, the name of the vdisk's storage cluster. -/
  storagecluster : String

/-- The fields of a storage cluster's configuration that `loadConfig` reads. -/
structure StorageClusterConfig where
  /-- `DataStorage`, the data servers' connection strings. -/
  dataStorage : List String
  /-- `MetaDataStorage`, the metadata server's connection string. -/
  metaDataStorage : String

/-- A configuration file, as `config.ReadConfig` parses it. -/
structure Config where
  /-- `Vdisks`. -/
  vdisks : String → Option VdiskConfig
  /-- `StorageClusters`. -/
  storageClusters : String → Option StorageClusterConfig

/-- The fields of `ClusterClient` that its methods read or write; the logger,
the mutex and the `done` channel are left out. -/
structure ClusterClient where
  /-- `vdiskID`. -/
  vdiskID : String
  /-- `storageClusterName`; when set, it overrides the vdisk's cluster. -/
  storageClusterName : String
  /-- `vdiskType`, checked against the file on every reload. -/
  vdiskType : VdiskType
  /-- `dataConnectionStrings`. -/
  dataConnectionStrings : List String
  /-- `numberOfServers`. -/
  numberOfServers : Int
  /-- `rootDataConnectionString`. -/
  rootDataConnectionString : String
  /-- `metaConnectionString`. -/
  metaConnectionString : String
  /-- `loaded`: whether the configuration is loaded. -/
  loaded : Bool

/-- `loadConfig`, against the file as it is now: whether the load succeeded,
and the client it leaves. -/
def ClusterClient.loadConfig (cc : ClusterClient) (file : Option Config) :
    Bool × ClusterClient :=
  let cc := { cc with loaded := false }
  match file with
  | none => (false, cc)
  | some cfg =>
    match cfg.vdisks cc.vdiskID with
    | none => (false, cc)
    | some vdisk =>
      if cc.vdiskType ≠ vdiskTypeNil ∧ cc.vdiskType ≠ vdisk.type then (false, cc) else
      let cc := { cc with vdiskType := vdisk.type, rootDataConnectionString := vdisk.rootDataStorage }
      let storageClusterName :=
        if cc.storageClusterName ≠ "" then cc.storageClusterName else vdisk.storagecluster
      match cfg.storageClusters storageClusterName with
      | none => (false, cc)
      | some storageCluster =>
        let cc := { cc with dataConnectionStrings := storageCluster.dataStorage,
                            numberOfServers := storageCluster.dataStorage.length }
        if cc.numberOfServers < 1 then (false, cc) else
        if storageCluster.metaDataStorage = "" then (false, cc) else
        (true, { cc with metaConnectionString := storageCluster.metaDataStorage, loaded := true })

/-- `NewClusterClient`: a client that has never loaded, and its first load. -/
def newClusterClient (vdiskID storageClusterName : String) (file : Option Config) :
    Except String ClusterClient :=
  let cc : ClusterClient := ⟨vdiskID, storageClusterName, vdiskTypeNil, [], 0, "", "", false⟩
  match cc.loadConfig file with
  | (true, cc) => .ok cc
  | (false, _) => .error "couldn't load configuration"

/-- A SIGHUP received by `listen`: reload, whatever the outcome. -/
def ClusterClient.reload (cc : ClusterClient) (file : Option Config) : ClusterClient :=
  (cc.loadConfig file).2

/-- The error the accessors give when they cannot load the configuration. -/
def notLoadedError : String := "couldn't load storage cluster config"

/-- The shape `ConnectionString`, `RootConnectionString` and
`MetaConnectionString` share: under the lock, load the configuration when it is
not loaded, fail when that load fails, and read. -/
def ClusterClient.withLoadedConfig {α : Type} (read : ClusterClient → Except String α)
    (cc : ClusterClient) (file : Option Config) : Except String α × ClusterClient :=
  if cc.loaded then (read cc, cc) else
  match cc.loadConfig file with
  | (true, cc) => (read cc, cc)
  | (false, cc) => (.error notLoadedError, cc)

/-- `ConnectionString(index)`: the data server `index % numberOfServers`. Go's
`%` truncates; a zero modulus and an index out of the slice are runtime panics. -/
def ClusterClient.ConnectionString (cc : ClusterClient) (file : Option Config) (index : Int) :
    Except String String × ClusterClient :=
  cc.withLoadedConfig (fun cc =>
    if cc.numberOfServers = 0 then .error "runtime error: integer divide by zero" else
    match cc.dataConnectionStrings[(index.tmod cc.numberOfServers).toNat]? with
    | some connection => if index.tmod cc.numberOfServers < 0 then
        .error "runtime error: index out of range" else .ok connection
    | none => .error "runtime error: index out of range") file

/-- `RootConnectionString`. -/
def ClusterClient.RootConnectionString (cc : ClusterClient) (file : Option Config) :
    Except String String × ClusterClient :=
  cc.withLoadedConfig (fun cc => .ok cc.rootDataConnectionString) file

/-- `MetaConnectionString`. -/
def ClusterClient.MetaConnectionString (cc : ClusterClient) (file : Option Config) :
    Except String String × ClusterClient :=
  cc.withLoadedConfig (fun cc => .ok cc.metaConnectionString) file

/-! ## What a load reads from the file -/

/-- What a successful load of `file` gives a client with this vdisk id, cluster
name override and vdisk type: the vdisk's configuration and its storage
cluster's, when every check of `loadConfig` passes. -/
def loadedConfig (vdiskID storageClusterName : String) (vdiskType : VdiskType) :
    Option Config → Option (VdiskConfig × StorageClusterConfig)
  | none => none
  | some cfg =>
    match cfg.vdisks vdiskID with
    | none => none
    | some vdisk =>
      if vdiskType ≠ vdiskTypeNil ∧ vdiskType ≠ vdisk.type then none else
      match cfg.storageClusters
          (if storageClusterName ≠ "" then storageClusterName else vdisk.storagecluster) with
      | none => none
      | some storageCluster =>
        if storageCluster.dataStorage = [] ∨ storageCluster.metaDataStorage = "" then none
        else some (vdisk, storageCluster)

/-- The client a successful load leaves. -/
def ClusterClient.withConfig (cc : ClusterClient) (vdisk : VdiskConfig)
    (storageCluster : StorageClusterConfig) : ClusterClient :=
  { cc with vdiskType := vdisk.type, rootDataConnectionString := vdisk.rootDataStorage,
            dataConnectionStrings := storageCluster.dataStorage,
            numberOfServers := storageCluster.dataStorage.length,
            metaConnectionString := storageCluster.metaDataStorage, loaded := true }

/-- `loadConfig` succeeds exactly when the file passes every check, and then
takes every field from the file; a failed load leaves `loaded` false, and never
touches the client's identity. -/
theorem loadConfig_spec (cc : ClusterClient) (file : Option Config) :
    (match loadedConfig cc.vdiskID cc.storageClusterName cc.vdiskType file with
      | some (vdisk, storageCluster) => cc.loadConfig file = (true, cc.withConfig vdisk storageCluster)
      | none => (cc.loadConfig file).1 = false ∧ (cc.loadConfig file).2.loaded = false) ∧
    (cc.loadConfig file).2.vdiskID = cc.vdiskID ∧
    (cc.loadConfig file).2.storageClusterName = cc.storageClusterName := by
  rcases file with _ | cfg
  · simp [loadedConfig, ClusterClient.loadConfig]
  · simp only [loadedConfig, ClusterClient.loadConfig]
    cases cfg.vdisks cc.vdiskID with
    | none => simp
    | some vdisk =>
      by_cases typeChanged : cc.vdiskType ≠ vdiskTypeNil ∧ cc.vdiskType ≠ vdisk.type
      · simp [typeChanged]
      · simp only [typeChanged, if_false]
        cases cfg.storageClusters
            (if cc.storageClusterName ≠ "" then cc.storageClusterName else vdisk.storagecluster) with
        | none => simp
        | some storageCluster =>
          by_cases noData : storageCluster.dataStorage = []
          · simp [noData]
          · by_cases noMeta : storageCluster.metaDataStorage = ""
            · simp [noMeta]
            · have positive : ¬((storageCluster.dataStorage.length : Int) < 1) := by
                have := List.length_pos.mpr noData
                omega
              simp [noData, noMeta, positive, ClusterClient.withConfig]

/-- The vdisk type a load leaves: the client's own, or that of the file's vdisk
when the load got past the type check. -/
theorem loadConfig_vdiskType (cc : ClusterClient) (file : Option Config) :
    (cc.loadConfig file).2.vdiskType = cc.vdiskType ∨
      ∃ cfg vdisk, file = some cfg ∧ cfg.vdisks cc.vdiskID = some vdisk ∧
        (cc.loadConfig file).2.vdiskType = vdisk.type := by
  rcases file with _ | cfg
  · exact .inl rfl
  · simp only [ClusterClient.loadConfig]
    cases found : cfg.vdisks cc.vdiskID with
    | none => exact .inl rfl
    | some vdisk =>
      by_cases typeChanged : cc.vdiskType ≠ vdiskTypeNil ∧ cc.vdiskType ≠ vdisk.type
      · exact .inl (by simp [typeChanged])
      · refine .inr ⟨cfg, vdisk, rfl, found, ?_⟩
        simp only [typeChanged, if_false]
        split
        · rfl
        · split_ifs <;> rfl

/-- A failed load leaves the configuration not loaded. -/
theorem loaded_of_loadConfig_failed {cc : ClusterClient} {file : Option Config}
    (failed : (cc.loadConfig file).1 = false) : (cc.loadConfig file).2.loaded = false := by
  have spec := (loadConfig_spec cc file).1
  split at spec
  · next found => rw [spec] at failed; cases failed
  · exact spec.2

/-- An accessor of a client whose configuration is not loaded answers from a new
load of the file: the value read after it, or the error when it fails. -/
theorem withLoadedConfig_of_not_loaded {α : Type} {cc : ClusterClient}
    (notLoaded : cc.loaded = false) (read : ClusterClient → Except String α) (file : Option Config) :
    (cc.withLoadedConfig read file).1 =
      match loadedConfig cc.vdiskID cc.storageClusterName cc.vdiskType file with
      | some (vdisk, storageCluster) => read (cc.withConfig vdisk storageCluster)
      | none => .error notLoadedError := by
  have spec := (loadConfig_spec cc file).1
  rw [ClusterClient.withLoadedConfig, if_neg (by simp [notLoaded])]
  split at spec
  · rw [spec]
  · obtain ⟨failed, -⟩ := spec
    generalize cc.loadConfig file = result at failed
    obtain ⟨_, _⟩ := result
    cases failed
    rfl

/-- A successful load has data servers. -/
theorem dataStorage_ne_nil_of_loadedConfig {vdiskID storageClusterName : String}
    {vdiskType : VdiskType} {file : Option Config} {vdisk : VdiskConfig}
    {storageCluster : StorageClusterConfig}
    (found : loadedConfig vdiskID storageClusterName vdiskType file = some (vdisk, storageCluster)) :
    storageCluster.dataStorage ≠ [] := by
  rcases file with _ | cfg
  · cases found
  · simp only [loadedConfig] at found
    split at found
    · cases found
    · split at found
      · cases found
      · split at found
        · cases found
        · split at found
          · cases found
          · next checks => cases found; exact fun empty => checks (.inl empty)

/-! ## A failed reload -/

/-- The read `ConnectionString(index)` makes, on a successful load, for
`index ≥ 0`: Go's `%` agrees with the Euclidean one there, and the data servers
are not empty. -/
theorem connectionString_read {cc : ClusterClient} {vdisk : VdiskConfig}
    {storageCluster : StorageClusterConfig} (nonempty : storageCluster.dataStorage ≠ [])
    {index : Int} (nonnegative : 0 ≤ index) :
    (let cc := cc.withConfig vdisk storageCluster
      if cc.numberOfServers = 0 then Except.error "runtime error: integer divide by zero" else
      match cc.dataConnectionStrings[(index.tmod cc.numberOfServers).toNat]? with
      | some connection => if index.tmod cc.numberOfServers < 0 then
          .error "runtime error: index out of range" else .ok connection
      | none => .error "runtime error: index out of range") =
      .ok (storageCluster.dataStorage.getD (index.toNat % storageCluster.dataStorage.length) "") := by
  have positive := List.length_pos.mpr nonempty
  have modulo : index.tmod (storageCluster.dataStorage.length : Int) =
      ((index.toNat % storageCluster.dataStorage.length : Nat) : Int) := by
    rw [Int.tmod_eq_emod nonnegative (by omega), Int.ofNat_emod, Int.toNat_of_nonneg nonnegative]
  have notZero : (storageCluster.dataStorage.length : Int) ≠ 0 := by omega
  have notNegative :
      ¬(((index.toNat % storageCluster.dataStorage.length : Nat) : Int) < 0) := by omega
  have inRange := Nat.mod_lt index.toNat positive
  simp only [ClusterClient.withConfig, modulo, notZero, notNegative, if_false, Int.toNat_ofNat,
    List.getElem?_eq_getElem inRange, List.getD_eq_getElem?_getD, Option.getD_some]

/-- A configuration file with one vdisk, `vd0`, on the storage cluster `c0`. -/
def oneVdiskConfig : Config :=
  ⟨fun vdiskID => if vdiskID = "vd0" then some ⟨"boot", "root0", "c0"⟩ else none,
    fun name => if name = "c0" then some ⟨["data0"], "meta0"⟩ else none⟩

end StorageCluster
end Zerodisk
