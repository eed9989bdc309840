import Zerodisk.Basic

/-!
# Storage cluster configurations

The `config` package is not part of the sources; what the cluster code reads
of it is modelled here from the spec and from the tests that pin it down: a
storage server is an address, a database and a state, a storage cluster is an
ordered list of servers, and `Validate` accepts a retired server without an
address but no other server without one.
-/

namespace Zerodisk
namespace Config

/-- Modelled from the spec: `config.StorageServerState`. -/
inductive StorageServerState
  /-- `StorageServerStateOnline`: the only operational state. -/
  | online
  /-- `StorageServerStateOffline`. -/
  | offline
  /-- `StorageServerStateRespread`. -/
  | respread
  /-- `StorageServerStateRIP`: a retired slot the router skips. -/
  | rip
  deriving DecidableEq, Repr

/-- Modelled from the spec: `config.StorageServerConfig`. -/
structure StorageServerConfig where
  /-- `Address`. -/
  address : String
  /-- `Database`. -/
  database : Nat
  /-- `State`. -/
  state : StorageServerState
  deriving DecidableEq, Repr

/-- Modelled from the spec: `config.StorageClusterConfig`. -/
structure StorageClusterConfig where
  /-- `Servers`. -/
  servers : List StorageServerConfig
  deriving DecidableEq, Repr

/-- Modelled from the spec: the error `Validate` returns. -/
def errInvalidServerConfig : GoError := "invalid storage server config"

/-- Modelled from the spec: `StorageServerConfig.Validate`, as `TestCluster`
pins it: a retired server needs no address, every other server does. -/
def StorageServerConfig.validate (cfg : StorageServerConfig) : Except GoError Unit :=
  if cfg.state ≠ .rip ∧ cfg.address = "" then .error errInvalidServerConfig else .ok ()

/-- Modelled from the spec: `StorageClusterConfig.Validate`: every server
validates. -/
def StorageClusterConfig.validate (cfg : StorageClusterConfig) : Except GoError Unit :=
  cfg.servers.forM StorageServerConfig.validate

/-- A retired server without an address, as `TestCluster` writes it. -/
def ripServer : StorageServerConfig := ⟨"", 0, .rip⟩

/-- A cluster of retired servers validates: `TestCluster` gets
`ErrNoServersAvailable` and not a validation error for it. -/
theorem validate_of_allRIP (servers : List StorageServerConfig)
    (allRIP : ∀ server ∈ servers, server.state = .rip) :
    StorageClusterConfig.validate ⟨servers⟩ = .ok () := by
  induction servers with
  | nil => rfl
  | cons server servers ih =>
    have retired : server.state = .rip := allRIP server (List.mem_cons_self _ _)
    have rest := ih fun other member => allRIP other (List.mem_cons_of_mem _ member)
    have accepted : server.validate = .ok () := if_neg (by simp [retired])
    show (server.validate >>= fun _ => StorageClusterConfig.validate ⟨servers⟩) = .ok ()
    rw [accepted]
    exact rest

end Config
end Zerodisk
