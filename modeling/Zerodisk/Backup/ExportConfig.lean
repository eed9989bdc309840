import Zerodisk.Basic

/-!
# The export/import config of `backup`

`Config.validate` checks a backup export or import config and fills in what was
left out: the snapshot ID defaults to the vdisk ID, the block size to
`DefaultBlockSize` and the job count to the number of CPUs. It writes through
its pointer receiver, so a config that fails a later check keeps the earlier
defaults. The checks it calls that the sources do not define are parameters
(`ConfigChecks`). `validate_eq_none_iff` says once what a passing `validate`
does; its idempotence and its fixed points follow from it.
-/

namespace Zerodisk
namespace Backup

/-- `DefaultBlockSize`: 128 KiB. -/
def defaultBlockSize : Int := 1024 * 128

/-- `errNilVdiskID`. -/
def errNilVdiskID : GoError := "vdisk's identifier not given"

/-- The error `validate` returns for a block size `config.ValidateBlockSize` refuses. -/
def errInvalidBlockSize (blockSize : Int) : GoError :=
  "blockSize '" ++ toString blockSize ++ "' is not valid"

/-- A Go `validate` method on a pointer receiver: the error it returns, if any,
and what it leaves of its receiver. -/
abbrev Validator (σ : Type) := σ → Option GoError × σ

/-- `err := receiver.Field.validate()`: a method called on one field of the
receiver, which keeps what the method leaves of the field. -/
def validateIn {σ α : Type} (validate : Validator α) (get : σ → α) (set : σ → α → σ) :
    Validator σ :=
  fun receiver =>
    let (err, field) := validate (get receiver)
    (err, set receiver field)

/-- `if err != nil { return err }` after a statement on the receiver: the first
error ends `validate`, with the receiver as the statements so far left it. -/
def thenValidate {σ : Type} : Option GoError × σ → (σ → Option GoError × σ) → Option GoError × σ
  | (some err, receiver), _ => (some err, receiver)
  | (none, receiver), rest => rest receiver

/-- The `Config` of package `backup`: the fields `validate` reads or writes. -/
structure Config (Source Storage Compression : Type) where
  /-- `VdiskID`: required. -/
  vdiskID : String
  /-- `SnapshotID`: the vdisk ID by default. -/
  snapshotID : String
  /-- `BlockSize`: `DefaultBlockSize` by default. -/
  blockSize : Int
  /-- `BlockStorageConfig`. -/
  blockStorageConfig : Source
  /-- `BackupStorageConfig`. -/
  backupStorageConfig : Storage
  /-- `JobCount`: the number of CPUs by default. -/
  jobCount : Int
  /-- `CompressionType`. -/
  compressionType : Compression

/-- What `validate` calls that the sources do not define. -/
structure ConfigChecks (Source Storage Compression : Type) where
  /-- `config.ValidateBlockSize`. -/
  validateBlockSize : Int → Bool
  /-- `BlockStorageConfig.Validate`. -/
  validateSource : Validator Source
  /-- `BackupStorageConfig.validate`. -/
  validateStorage : Validator Storage
  /-- `CompressionType.validate`. -/
  validateCompression : Validator Compression
  /-- `runtime.NumCPU()`. -/
  numCPU : Int

variable {Source Storage Compression : Type} (checks : ConfigChecks Source Storage Compression)

/-- `cfg.validate()`: the error, if any, and the config as it leaves it. -/
def Config.validate (cfg : Config Source Storage Compression) :
    Option GoError × Config Source Storage Compression :=
  if cfg.vdiskID = "" then (some errNilVdiskID, cfg) else
  let cfg := { cfg with snapshotID := if cfg.snapshotID = "" then cfg.vdiskID else cfg.snapshotID }
  thenValidate
    (if cfg.blockSize = 0 then (none, { cfg with blockSize := defaultBlockSize })
      else if checks.validateBlockSize cfg.blockSize then (none, cfg)
      else (some (errInvalidBlockSize cfg.blockSize), cfg)) fun cfg =>
  thenValidate (validateIn checks.validateSource Config.blockStorageConfig
    (fun cfg source => { cfg with blockStorageConfig := source }) cfg) fun cfg =>
  thenValidate (validateIn checks.validateStorage Config.backupStorageConfig
    (fun cfg storage => { cfg with backupStorageConfig := storage }) cfg) fun cfg =>
  let cfg := { cfg with jobCount := if cfg.jobCount ≤ 0 then checks.numCPU else cfg.jobCount }
  validateIn checks.validateCompression Config.compressionType
    (fun cfg compression => { cfg with compressionType := compression }) cfg

/-- What a passing `validate` does: the vdisk ID is given, the defaults are filled
in, the block size check and every external method pass, and the config keeps
what they leave. -/
structure Config.Passes (cfg cfg' : Config Source Storage Compression) : Prop where
  /-- A vdisk ID is given, and kept. -/
  vdiskID_ne : cfg.vdiskID ≠ ""
  vdiskID_eq : cfg'.vdiskID = cfg.vdiskID
  /-- The snapshot ID, or the vdisk ID. -/
  snapshotID_eq : cfg'.snapshotID = if cfg.snapshotID = "" then cfg.vdiskID else cfg.snapshotID
  /-- A block size the check accepts, or `DefaultBlockSize`. -/
  blockSize_valid : cfg.blockSize ≠ 0 → checks.validateBlockSize cfg.blockSize = true
  blockSize_eq : cfg'.blockSize = if cfg.blockSize = 0 then defaultBlockSize else cfg.blockSize
  /-- The source config validates, to the one kept. -/
  source_ok : checks.validateSource cfg.blockStorageConfig = (none, cfg'.blockStorageConfig)
  /-- The backup storage config validates, to the one kept. -/
  storage_ok : checks.validateStorage cfg.backupStorageConfig = (none, cfg'.backupStorageConfig)
  /-- A positive job count, or the number of CPUs. -/
  jobCount_eq : cfg'.jobCount = if cfg.jobCount ≤ 0 then checks.numCPU else cfg.jobCount
  /-- The compression type validates, to the one kept. -/
  compression_ok :
    checks.validateCompression cfg.compressionType = (none, cfg'.compressionType)

/-- A config that validates as it is: what `validate` returns unchanged. -/
structure Validated (cfg : Config Source Storage Compression) : Prop where
  /-- A vdisk ID. -/
  vdiskID_ne : cfg.vdiskID ≠ ""
  /-- A snapshot ID. -/
  snapshotID_ne : cfg.snapshotID ≠ ""
  /-- A block size other than 0, which the check accepts. -/
  blockSize_ne : cfg.blockSize ≠ 0
  blockSize_valid : checks.validateBlockSize cfg.blockSize = true
  /-- The source config validates, unchanged. -/
  source_ok : checks.validateSource cfg.blockStorageConfig = (none, cfg.blockStorageConfig)
  /-- The backup storage config validates, unchanged. -/
  storage_ok : checks.validateStorage cfg.backupStorageConfig = (none, cfg.backupStorageConfig)
  /-- A positive job count. -/
  jobCount_pos : 0 < cfg.jobCount
  /-- The compression type validates, unchanged. -/
  compression_ok : checks.validateCompression cfg.compressionType = (none, cfg.compressionType)

/-- Each external method accepts, unchanged, what it left on success. -/
structure ConfigChecks.Settled : Prop where
  /-- `BlockStorageConfig.Validate` settles. -/
  source : ∀ x x', checks.validateSource x = (none, x') → checks.validateSource x' = (none, x')
  /-- `BackupStorageConfig.validate` settles. -/
  storage : ∀ x x', checks.validateStorage x = (none, x') → checks.validateStorage x' = (none, x')
  /-- `CompressionType.validate` settles. -/
  compression : ∀ x x',
    checks.validateCompression x = (none, x') → checks.validateCompression x' = (none, x')

/-- The fields with a default that a caller set come back as they were. -/
structure Config.KeepsGiven (cfg cfg' : Config Source Storage Compression) : Prop where
  /-- The vdisk ID is never written. -/
  vdiskID_eq : cfg'.vdiskID = cfg.vdiskID
  /-- A given snapshot ID is kept. -/
  snapshotID_eq : cfg.snapshotID ≠ "" → cfg'.snapshotID = cfg.snapshotID
  /-- A given block size is kept. -/
  blockSize_eq : cfg.blockSize ≠ 0 → cfg'.blockSize = cfg.blockSize
  /-- A given job count is kept. -/
  jobCount_eq : 0 < cfg.jobCount → cfg'.jobCount = cfg.jobCount

/-- Sample checks: block sizes that are positive multiples of 512, source and
storage configs as they are, compression types 0 and 1, and four CPUs. -/
def sampleChecks : ConfigChecks Unit Unit Nat where
  validateBlockSize size := decide (0 < size ∧ size % 512 = 0)
  validateSource source := (none, source)
  validateStorage storage := (none, storage)
  validateCompression compression :=
    if compression < 2 then (none, compression) else (some "invalid compression type", compression)
  numCPU := 4

/-- A config that gives its vdisk ID and nothing else. -/
def vdiskOnly : Config Unit Unit Nat :=
  ⟨"vd0", "", 0, (), (), 0, 0⟩

section Stages

variable {σ α : Type}

@[simp] theorem thenValidate_some (err : GoError) (receiver : σ) (rest : σ → Option GoError × σ) :
    thenValidate (some err, receiver) rest = (some err, receiver) := rfl

@[simp] theorem thenValidate_none (receiver : σ) (rest : σ → Option GoError × σ) :
    thenValidate (none, receiver) rest = rest receiver := rfl

theorem thenValidate_eq_none_iff {first : Option GoError × σ} {rest : σ → Option GoError × σ}
    {receiver : σ} :
    thenValidate first rest = (none, receiver) ↔ ∃ s, first = (none, s) ∧ rest s = (none, receiver) := by
  rcases first with ⟨_ | err, s⟩ <;> simp

/-- What every statement keeps, the receiver `thenValidate` returns keeps. -/
theorem thenValidate_preserves {P : σ → Prop} {first : Option GoError × σ}
    {rest : σ → Option GoError × σ} (first_ok : P first.2) (rest_ok : ∀ s, P s → P (rest s).2) :
    P (thenValidate first rest).2 := by
  rcases first with ⟨_ | err, s⟩
  · exact rest_ok s first_ok
  · exact first_ok

@[simp] theorem validateIn_snd (validate : Validator α) (get : σ → α) (set : σ → α → σ)
    (receiver : σ) :
    (validateIn validate get set receiver).2 = set receiver (validate (get receiver)).2 := rfl

theorem validateIn_eq_none_iff {validate : Validator α} {get : σ → α} {set : σ → α → σ}
    {receiver receiver' : σ} :
    validateIn validate get set receiver = (none, receiver') ↔
      ∃ field, validate (get receiver) = (none, field) ∧ set receiver field = receiver' := by
  rcases validated : validate (get receiver) with ⟨err, field⟩
  simp [validateIn, validated, and_assoc]

end Stages

namespace Config

variable {checks} {cfg cfg' : Config Source Storage Compression}

theorem KeepsGiven.refl (cfg : Config Source Storage Compression) : cfg.KeepsGiven cfg :=
  ⟨rfl, fun _ => rfl, fun _ => rfl, fun _ => rfl⟩

theorem KeepsGiven.trans {cfg'' : Config Source Storage Compression} (first : cfg.KeepsGiven cfg')
    (second : cfg'.KeepsGiven cfg'') : cfg.KeepsGiven cfg'' where
  vdiskID_eq := second.vdiskID_eq.trans first.vdiskID_eq
  snapshotID_eq given := by
    rw [second.snapshotID_eq (first.snapshotID_eq given ▸ given), first.snapshotID_eq given]
  blockSize_eq given := by
    rw [second.blockSize_eq (first.blockSize_eq given ▸ given), first.blockSize_eq given]
  jobCount_eq given := by
    rw [second.jobCount_eq (first.jobCount_eq given ▸ given), first.jobCount_eq given]

/-- `Passes` as the record `validate` builds. -/
theorem passes_iff : cfg.Passes checks cfg' ↔ cfg.vdiskID ≠ "" ∧
    (cfg.blockSize ≠ 0 → checks.validateBlockSize cfg.blockSize = true) ∧
    ∃ source, checks.validateSource cfg.blockStorageConfig = (none, source) ∧
    ∃ storage, checks.validateStorage cfg.backupStorageConfig = (none, storage) ∧
    ∃ compression, checks.validateCompression cfg.compressionType = (none, compression) ∧
    { vdiskID := cfg.vdiskID
      snapshotID := if cfg.snapshotID = "" then cfg.vdiskID else cfg.snapshotID
      blockSize := if cfg.blockSize = 0 then defaultBlockSize else cfg.blockSize
      blockStorageConfig := source
      backupStorageConfig := storage
      jobCount := if cfg.jobCount ≤ 0 then checks.numCPU else cfg.jobCount
      compressionType := compression } = cfg' := by
  constructor
  · intro passes
    refine ⟨passes.vdiskID_ne, passes.blockSize_valid, _, passes.source_ok, _, passes.storage_ok, _,
      passes.compression_ok, ?_⟩
    rw [← passes.snapshotID_eq, ← passes.blockSize_eq, ← passes.jobCount_eq, ← passes.vdiskID_eq]
  · rintro ⟨given, valid, source, sourced, storage, stored, compression, compressed, rfl⟩
    exact ⟨given, rfl, rfl, valid, rfl, sourced, stored, rfl, compressed⟩

/-- The spec of `validate`: it passes exactly as `Passes` says. -/
theorem validate_eq_none_iff : cfg.validate checks = (none, cfg') ↔ cfg.Passes checks cfg' := by
  rw [passes_iff]
  unfold Config.validate
  by_cases noVdisk : cfg.vdiskID = ""
  · simp only [noVdisk, ↓reduceIte, Prod.mk.injEq, reduceCtorEq, false_and, ne_eq,
      not_true_eq_false]
  by_cases zero : cfg.blockSize = 0
  · simp only [noVdisk, zero, ↓reduceIte, thenValidate_none, thenValidate_eq_none_iff,
      validateIn_eq_none_iff, exists_exists_and_eq_and, ne_eq, not_false_eq_true, not_true_eq_false,
      IsEmpty.forall_iff, true_and]
  cases checked : checks.validateBlockSize cfg.blockSize <;>
    simp only [noVdisk, zero, checked, ↓reduceIte, Bool.false_eq_true, thenValidate_some,
      thenValidate_none, thenValidate_eq_none_iff, validateIn_eq_none_iff, exists_exists_and_eq_and,
      Prod.mk.injEq, reduceCtorEq, false_and, and_false, ne_eq, not_false_eq_true, imp_false, imp_self,
      not_true_eq_false, true_and]

/-- The snapshot ID `validate` fills in first. -/
theorem keepsGiven_fillSnapshotID (cfg : Config Source Storage Compression) :
    cfg.KeepsGiven
      { cfg with snapshotID := if cfg.snapshotID = "" then cfg.vdiskID else cfg.snapshotID } :=
  ⟨rfl, fun given => if_neg given, fun _ => rfl, fun _ => rfl⟩

/-- After the snapshot ID, every statement of `validate` keeps what is given, so
its receiver does too, whether `validate` passes or not. -/
theorem keepsGiven_validate_of_filled (given : cfg.vdiskID ≠ "") :
    KeepsGiven { cfg with snapshotID := if cfg.snapshotID = "" then cfg.vdiskID else cfg.snapshotID }
      (cfg.validate checks).2 := by
  unfold Config.validate
  rw [if_neg given]
  generalize { cfg with snapshotID := if cfg.snapshotID = "" then cfg.vdiskID else cfg.snapshotID } = c
  refine thenValidate_preserves ?_ fun c kept =>
    thenValidate_preserves (kept.trans ⟨rfl, fun _ => rfl, fun _ => rfl, fun _ => rfl⟩) fun c kept =>
    thenValidate_preserves (kept.trans ⟨rfl, fun _ => rfl, fun _ => rfl, fun _ => rfl⟩) fun c kept =>
    kept.trans ⟨rfl, fun _ => rfl, fun _ => rfl, fun pos => if_neg (Int.not_le.mpr pos)⟩
  split_ifs with zero
  · exact ⟨rfl, fun _ => rfl, fun given => absurd zero given, fun _ => rfl⟩
  all_goals exact .refl _

/-- `validate` never overwrites a field the caller set, whether it passes or not. -/
theorem validate_keeps_given (cfg : Config Source Storage Compression) :
    cfg.KeepsGiven (cfg.validate checks).2 := by
  by_cases given : cfg.vdiskID = ""
  · simp only [Config.validate, given, if_true]
    exact .refl cfg
  · exact (keepsGiven_fillSnapshotID cfg).trans (keepsGiven_validate_of_filled given)

/-- Whether `validate` passes or not, a config with a vdisk ID comes back with a
snapshot ID: the receiver keeps what `validate` wrote before it failed. -/
theorem validate_fills_snapshotID (given : cfg.vdiskID ≠ "") :
    (cfg.validate checks).2.snapshotID ≠ "" := by
  have filled : (if cfg.snapshotID = "" then cfg.vdiskID else cfg.snapshotID) ≠ "" := by
    split_ifs with empty
    exacts [given, empty]
  rw [(keepsGiven_validate_of_filled given).snapshotID_eq filled]
  exact filled

/-- An unknown compression type fails the last check, and the config still comes
back with its snapshot ID filled in. -/
example :
    ({ vdiskOnly with compressionType := 2 }.validate sampleChecks).1 =
        some "invalid compression type" ∧
      ({ vdiskOnly with compressionType := 2 }.validate sampleChecks).2.snapshotID ≠ "" :=
  ⟨rfl, validate_fills_snapshotID (by decide)⟩

theorem Passes.snapshotID_ne (passes : cfg.Passes checks cfg') : cfg'.snapshotID ≠ "" := by
  rw [passes.snapshotID_eq]
  split_ifs with empty
  exacts [passes.vdiskID_ne, empty]

theorem Passes.blockSize_ne (passes : cfg.Passes checks cfg') : cfg'.blockSize ≠ 0 := by
  rw [passes.blockSize_eq]
  split_ifs with zero
  exacts [by decide, zero]

/-- What `validate` leaves passes again, unchanged, when the default block size
passes the check and the external methods settle. -/
theorem Passes.settle (settled : checks.Settled)
    (defaultOk : checks.validateBlockSize defaultBlockSize = true)
    (passes : cfg.Passes checks cfg') : cfg'.Passes checks cfg' where
  vdiskID_ne := passes.vdiskID_eq ▸ passes.vdiskID_ne
  vdiskID_eq := rfl
  snapshotID_eq := (if_neg passes.snapshotID_ne).symm
  blockSize_valid _ := by
    rw [passes.blockSize_eq]
    split_ifs with zero
    exacts [defaultOk, passes.blockSize_valid zero]
  blockSize_eq := (if_neg passes.blockSize_ne).symm
  source_ok := settled.source _ _ passes.source_ok
  storage_ok := settled.storage _ _ passes.storage_ok
  jobCount_eq := by
    rw [passes.jobCount_eq]
    split_ifs <;> omega
  compression_ok := settled.compression _ _ passes.compression_ok

/-- Validation is idempotent: what `validate` passes, it passes again unchanged. -/
theorem validate_idempotent (settled : checks.Settled)
    (defaultOk : checks.validateBlockSize defaultBlockSize = true)
    (passed : cfg.validate checks = (none, cfg')) : cfg'.validate checks = (none, cfg') :=
  validate_eq_none_iff.mpr ((validate_eq_none_iff.mp passed).settle settled defaultOk)

/-- The sample checks settle. -/
theorem sampleChecks_settled : sampleChecks.Settled where
  source _ _ _ := rfl
  storage _ _ _ := rfl
  compression x x' passed := by
    simp only [sampleChecks] at passed ⊢
    split_ifs at passed with small
    · cases passed
      rw [if_pos small]
    · cases passed

theorem validate_idempotent_vdiskOnly :
    ∃ cfg', vdiskOnly.validate sampleChecks = (none, cfg') ∧
      cfg'.validate sampleChecks = (none, cfg') :=
  ⟨_, rfl, @validate_idempotent _ _ _ sampleChecks vdiskOnly _ sampleChecks_settled (by decide) rfl⟩

/-- Given a CPU, `validate` returns a config unchanged exactly when it is `Validated`. -/
theorem validate_fixed_iff_validated (cpu : 0 < checks.numCPU) :
    cfg.validate checks = (none, cfg) ↔ Validated checks cfg := by
  rw [validate_eq_none_iff]
  constructor
  · intro passes
    have jobs := passes.jobCount_eq
    exact ⟨passes.vdiskID_ne, passes.snapshotID_ne, passes.blockSize_ne,
      passes.blockSize_valid passes.blockSize_ne, passes.source_ok, passes.storage_ok,
      by split_ifs at jobs <;> omega, passes.compression_ok⟩
  · intro validated
    exact ⟨validated.vdiskID_ne, rfl, (if_neg validated.snapshotID_ne).symm,
      fun _ => validated.blockSize_valid, (if_neg validated.blockSize_ne).symm, validated.source_ok,
      validated.storage_ok, (if_neg (Int.not_le.mpr validated.jobCount_pos)).symm,
      validated.compression_ok⟩

theorem validate_fixed_iff_validated_vdiskOnly :
    0 < sampleChecks.numCPU ∧
      (((vdiskOnly.validate sampleChecks).2.validate sampleChecks =
          (none, (vdiskOnly.validate sampleChecks).2)) ↔
        Validated sampleChecks (vdiskOnly.validate sampleChecks).2) :=
  ⟨by decide, validate_fixed_iff_validated (by decide)⟩

end Config

end Backup
end Zerodisk
