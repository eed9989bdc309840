import Zerodisk.Basic
import Mathlib.Data.List.OfFn
import Mathlib.Algebra.BigOperators.Group.List

/-!
# LBA shards and their byte record

A shard holds `numberOfRecordsPerLBAShard` hash slots and a dirty flag.
`shardFromBytes` decodes the record the meta cluster keeps for it and
`Shard.write` encodes it, refusing a shard whose slots are all nil so that the
store deletes its record instead. `hash.go` is not among the sources: a hash
follows the spec, a 32-byte digest, all zeros for "no block". The codec round
trips in both directions.
-/

namespace Zerodisk
namespace Lba

/-- Modelled from the spec: `HashSize`, the length of a block hash in bytes. -/
def hashSize : Nat := 32

/-- A block hash; `none` stands for a nil slice. -/
abbrev Hash := Bytes

/-- Modelled from the spec: `nilHash`, the all-zero hash that stands for no block. -/
def nilHash : Hash := zeroBytes hashSize

/-- Modelled from the spec: `NewHash()`, a zeroed hash of `hashSize` bytes. -/
def newHash : Hash := zeroBytes hashSize

/-- `NumberOfRecordsPerLBAShard`, the number of hash slots of a shard. -/
def numberOfRecordsPerLBAShard : Nat := 128

/-- `BytesPerShard`, the length of a shard's byte record. -/
def bytesPerShard : Nat := numberOfRecordsPerLBAShard * hashSize

@[simp] theorem length_nilHash : nilHash.length = hashSize := length_zeroBytes _

/-- The two errors of the shard codec. -/
inductive ShardError
  /-- `shardFromBytes`: "raw shard is too small, expected 4096 bytes". -/
  | tooSmall
  /-- `errNilShardWrite`: "shard is nil, and cannot be written". -/
  | nilShardWrite
  deriving DecidableEq, Repr

/-- `shard`: the slots of one shard of the deduped map, and whether it changed
since it was last written. -/
structure Shard where
  /-- `hashes`: slot `i`, `none` for a nil slice. -/
  hashes : Fin numberOfRecordsPerLBAShard → Option Hash
  /-- `dirty`. -/
  dirty : Bool

/-- `newShard()`: every slot nil, not dirty. -/
def newShard : Shard := ⟨fun _ => none, false⟩

/-- `shard.Set`: overwrite one slot and mark the shard dirty. -/
def Shard.set (s : Shard) (hashIndex : Fin numberOfRecordsPerLBAShard)
    (hash : Option Hash) : Shard :=
  ⟨Function.update s.hashes hashIndex hash, true⟩

/-- `shard.Get`. -/
def Shard.get (s : Shard) (hashIndex : Fin numberOfRecordsPerLBAShard) : Option Hash :=
  s.hashes hashIndex

/-- The slots of a shard in order. -/
def Shard.slots (s : Shard) : List (Option Hash) := List.ofFn s.hashes

@[simp] theorem Shard.length_slots (s : Shard) :
    s.slots.length = numberOfRecordsPerLBAShard := List.length_ofFn _

/-- The bytes `write` gives a slot: its hash, or `nilHash` for a nil one. -/
def slotBytes (slot : Option Hash) : Bytes := slot.getD nilHash

/-- `shard.Write`, into a byte buffer (whose writes never fail). The first loop
finds the first non-nil slot; if there is none the shard is refused, otherwise
`nilHash` is written for each slot before it and every slot from it on is
written, a nil one as `nilHash`. -/
def Shard.write (s : Shard) : Except ShardError Bytes :=
  let index := s.slots.findIdx Option.isSome
  if index = numberOfRecordsPerLBAShard then .error .nilShardWrite
  else .ok ((List.replicate index nilHash).flatten ++
    ((s.slots.drop index).map slotBytes).flatten)

/-- The hash `shardFromBytes` reads for slot `i`:
`h := NewHash(); copy(h, bytes[i*HashSize:])`. -/
def readSlot (bytes : Bytes) (i : Nat) : Hash :=
  copyBytes newHash (bytes.drop (i * hashSize))

/-- `shardFromBytes`: a record shorter than `bytesPerShard` is refused; otherwise
slot `i` is the `i`-th `hashSize`-byte chunk, kept as nil when it equals
`nilHash`. The new shard is not dirty. -/
def shardFromBytes (bytes : Bytes) : Except ShardError Shard :=
  if bytes.length < bytesPerShard then .error .tooSmall
  else .ok ⟨fun i => if readSlot bytes i = nilHash then none else some (readSlot bytes i), false⟩

/-! ## Writing -/

/-- The record of a shard: every slot's bytes, in slot order. -/
def Shard.record (s : Shard) : Bytes := (s.slots.map slotBytes).flatten

theorem Shard.mem_slots (s : Shard) {slot : Option Hash} :
    slot ∈ s.slots ↔ ∃ i, s.hashes i = slot := by
  rw [Shard.slots, List.mem_ofFn, Set.mem_range]

/-- Writing `nilHash` for the nil slots before the first non-nil one, then the
slots from there on, writes every slot's bytes. -/
theorem flatten_nilPrefix (slots : List (Option Hash)) :
    (List.replicate (slots.findIdx Option.isSome) nilHash).flatten ++
        ((slots.drop (slots.findIdx Option.isSome)).map slotBytes).flatten =
      (slots.map slotBytes).flatten := by
  have prefixNil : (slots.take (slots.findIdx Option.isSome)).map slotBytes =
      List.replicate (slots.findIdx Option.isSome) nilHash := by
    apply List.eq_replicate_iff.mpr
    refine ⟨by simpa using List.findIdx_le_length Option.isSome, fun bytes member => ?_⟩
    obtain ⟨slot, slotMember, rfl⟩ := List.mem_map.mp member
    obtain ⟨j, lt, rfl⟩ := List.getElem_of_mem slotMember
    have isNone := List.not_of_lt_findIdx (lt_of_lt_of_le lt (List.length_take_le _ _))
    simp_all [slotBytes]
  rw [← prefixNil, ← List.flatten_append, ← List.map_append, List.take_append_drop]

/-- A shard with a non-nil slot is written as its record. -/
theorem Shard.write_of_exists_some {s : Shard} (someSlot : ∃ i, (s.hashes i).isSome) :
    s.write = .ok s.record := by
  obtain ⟨i, isSome⟩ := someSlot
  have member : ∃ x ∈ s.slots, x.isSome := ⟨_, s.mem_slots.mpr ⟨i, rfl⟩, isSome⟩
  have found := List.findIdx_lt_length_of_exists member
  rw [Shard.length_slots] at found
  rw [Shard.write, if_neg found.ne, flatten_nilPrefix, Shard.record]

/-- A shard whose slots are all nil is refused. -/
theorem Shard.write_of_forall_none {s : Shard} (allNil : ∀ i, s.hashes i = none) :
    s.write = .error .nilShardWrite := by
  have none : s.slots.findIdx Option.isSome = numberOfRecordsPerLBAShard := by
    rw [← s.length_slots, List.findIdx_eq_length]
    intro slot member
    obtain ⟨i, rfl⟩ := s.mem_slots.mp member
    simp [allNil]
  rw [Shard.write, if_pos none]

/-- The bytes of a well-formed slot are `hashSize` long. -/
theorem length_slotBytes {slot : Option Hash} (wellFormed : ∀ h, slot = some h → h.length = hashSize) :
    (slotBytes slot).length = hashSize := by
  cases slot <;> simp_all [slotBytes]

/-- With every slot nil or `hashSize` bytes long, the record is `bytesPerShard` bytes. -/
theorem Shard.length_record {s : Shard}
    (slotsWellFormed : ∀ i h, s.hashes i = some h → h.length = hashSize) :
    s.record.length = bytesPerShard := by
  have eachSlot : ∀ slot ∈ s.slots, (slotBytes slot).length = hashSize := by
    intro slot member
    obtain ⟨i, rfl⟩ := s.mem_slots.mp member
    exact length_slotBytes (slotsWellFormed i)
  have lengths : s.slots.map (List.length ∘ slotBytes) =
      List.replicate numberOfRecordsPerLBAShard hashSize :=
    List.eq_replicate_iff.mpr ⟨by simp, by simpa using eachSlot⟩
  rw [Shard.record, List.length_flatten, List.map_map, lengths, List.sum_const_nat, bytesPerShard]

/-! ## Reading -/

/-- The `i`-th chunk of `n` bytes of a concatenation of `n`-byte chunks. -/
theorem take_drop_flatten {n : Nat} :
    ∀ (chunks : List Bytes) (i : Nat), (∀ c ∈ chunks, c.length = n) → (lt : i < chunks.length) →
      ((chunks.flatten.drop (i * n)).take n) = chunks[i]
  | c :: chunks, 0, sized, _ => by
    simp [List.take_append_of_le_length, sized c (List.mem_cons_self _ _)]
  | c :: chunks, i + 1, sized, lt => by
    have chunkLength := sized c (List.mem_cons_self _ _)
    have rest := take_drop_flatten chunks i (fun d member => sized d (List.mem_cons_of_mem _ member))
      (by simpa using lt)
    rwa [List.flatten_cons, Nat.succ_mul, Nat.add_comm, ← List.drop_drop,
      List.drop_left' chunkLength]

/-- Cutting a byte string into `k` consecutive chunks and joining them again gives
its first `k * n` bytes. -/
theorem flatten_ofFn_chunks (n : Nat) :
    ∀ (k : Nat) (bytes : Bytes),
      (List.ofFn fun i : Fin k => (bytes.drop (i * n)).take n).flatten = bytes.take (k * n)
  | 0, _ => by simp
  | k + 1, bytes => by
    have rest := flatten_ofFn_chunks n k (bytes.drop n)
    simp only [List.drop_drop] at rest
    rw [List.ofFn_succ, List.flatten_cons, Nat.succ_mul, Nat.add_comm (k * n), List.take_add, ← rest]
    simp only [Fin.val_zero, Nat.zero_mul, List.drop_zero, Fin.val_succ, Nat.succ_mul,
      Nat.add_comm _ n]

/-- A long enough record gives each slot its chunk. -/
theorem readSlot_of_le_length {bytes : Bytes} {i : Nat} (fits : (i + 1) * hashSize ≤ bytes.length) :
    readSlot bytes i = (bytes.drop (i * hashSize)).take hashSize := by
  rw [readSlot, copyBytes_of_length_le] <;> simp [newHash, hashSize, Nat.succ_mul] at fits ⊢
  omega

/-- A record of `bytesPerShard` bytes or more decodes to the shard of its chunks. -/
theorem shardFromBytes_of_le_length {bytes : Bytes} (long : bytesPerShard ≤ bytes.length) :
    shardFromBytes bytes = .ok ⟨fun i =>
      if (bytes.drop (i * hashSize)).take hashSize = nilHash then none
      else some ((bytes.drop (i * hashSize)).take hashSize), false⟩ := by
  have chunk : ∀ i : Fin numberOfRecordsPerLBAShard,
      readSlot bytes i = (bytes.drop (i * hashSize)).take hashSize := fun i =>
    readSlot_of_le_length (le_trans (Nat.mul_le_mul_right _ i.isLt) long)
  simp [shardFromBytes, Nat.not_lt.mpr long, chunk]

/-- A short record is refused. -/
theorem shardFromBytes_of_length_lt {bytes : Bytes} (short : bytes.length < bytesPerShard) :
    shardFromBytes bytes = .error .tooSmall := by
  simp [shardFromBytes, short]

/-! ## The round trip -/

/-- Slot `i` of the slot list is `hashes i`. -/
theorem Shard.getElem_slots (s : Shard) (i : Fin numberOfRecordsPerLBAShard)
    (lt : i.val < s.slots.length) : s.slots[i.val] = s.hashes i :=
  List.getElem_ofFn s.hashes i lt

/-- Decoding the record of a shard with well-formed slots reads back every slot,
a `nilHash` one as nil. -/
theorem shardFromBytes_record {s : Shard}
    (slotsWellFormed : ∀ i h, s.hashes i = some h → h.length = hashSize) :
    shardFromBytes s.record = .ok ⟨fun i =>
      if s.hashes i = none ∨ s.hashes i = some nilHash then none else s.hashes i, false⟩ := by
  have sized : ∀ c ∈ s.slots.map slotBytes, c.length = hashSize := by
    simp only [List.mem_map]
    rintro _ ⟨slot, member, rfl⟩
    obtain ⟨i, rfl⟩ := s.mem_slots.mp member
    exact length_slotBytes (slotsWellFormed i)
  rw [shardFromBytes_of_le_length (Shard.length_record slotsWellFormed).ge]
  congr
  funext i
  have lt : i.val < (s.slots.map slotBytes).length := by simp
  rw [Shard.record, take_drop_flatten _ i sized lt, List.getElem_map, Shard.getElem_slots]
  cases s.hashes i with
  | none => rfl
  | some h => simp only [slotBytes, Option.getD_some, reduceCtorEq, false_or, Option.some.injEq]

/-- Decoding and writing a record that is not all zeros gives back its first
`bytesPerShard` bytes. -/
theorem write_shardFromBytes {bytes : Bytes} (long : bytesPerShard ≤ bytes.length)
    (notNil : ∃ byte ∈ bytes.take bytesPerShard, byte ≠ 0) :
    ∃ s, shardFromBytes bytes = .ok s ∧ s.write = .ok (bytes.take bytesPerShard) := by
  refine ⟨_, shardFromBytes_of_le_length long, ?_⟩
  have chunks := flatten_ofFn_chunks hashSize numberOfRecordsPerLBAShard bytes
  have someSlot : ∃ i : Fin numberOfRecordsPerLBAShard,
      (bytes.drop (i * hashSize)).take hashSize ≠ nilHash := by
    by_contra allNil
    push_neg at allNil
    obtain ⟨byte, member, nonzero⟩ := notNil
    have zeros : (List.ofFn fun i : Fin numberOfRecordsPerLBAShard =>
        (bytes.drop (i * hashSize)).take hashSize) =
          List.replicate numberOfRecordsPerLBAShard nilHash := by
      rw [← List.ofFn_const]
      exact congrArg List.ofFn (funext allNil)
    rw [bytesPerShard, ← chunks, zeros] at member
    simp only [nilHash, zeroBytes, List.flatten_replicate_replicate, List.mem_replicate] at member
    exact nonzero member.2
  obtain ⟨i, nonNil⟩ := someSlot
  rw [Shard.write_of_exists_some ⟨i, by simp [nonNil]⟩, Shard.record, Shard.slots, List.map_ofFn,
    bytesPerShard, ← chunks]
  refine congrArg (fun slots => (.ok (List.ofFn slots).flatten : Except ShardError Bytes)) (funext fun j => ?_)
  simp only [Function.comp_apply, slotBytes]
  split
  · next isNil => exact isNil.symm
  · rfl

/-! ## What `write` refuses -/

/-- `write` refuses a shard exactly when every slot is nil: its first loop
tests `s.hashes[index] != nil`, where the decoder tests equality with
`nilHash`. -/
theorem Shard.write_eq_nilShardWrite_iff (s : Shard) :
    s.write = .error .nilShardWrite ↔ ∀ i, s.hashes i = none := by
  refine ⟨fun refused => ?_, Shard.write_of_forall_none⟩
  by_contra someSlot
  push_neg at someSlot
  obtain ⟨i, notNil⟩ := someSlot
  rw [s.write_of_exists_some ⟨i, Option.isSome_iff_ne_none.mpr notNil⟩] at refused
  cases refused

/-- `Set(0, nilHash)` on a new shard, the spec's `Delete` of slot `0`, leaves
every slot nil or `nilHash`, and the decoder reads the record back as a shard
with every slot absent; yet `write` does not refuse it: it writes the
`bytesPerShard`-byte record of zeros. -/
theorem write_persists_deleted_shard :
    (∀ i, (newShard.set ⟨0, by decide⟩ (some nilHash)).hashes i = none ∨
      (newShard.set ⟨0, by decide⟩ (some nilHash)).hashes i = some nilHash) ∧
    (newShard.set ⟨0, by decide⟩ (some nilHash)).write = .ok (zeroBytes bytesPerShard) ∧
    shardFromBytes (zeroBytes bytesPerShard) = .ok newShard := by
  have nilOrDeleted : ∀ i, (newShard.set ⟨0, by decide⟩ (some nilHash)).hashes i = none ∨
      (newShard.set ⟨0, by decide⟩ (some nilHash)).hashes i = some nilHash := by
    intro i
    by_cases slot : i = ⟨0, by decide⟩
    · exact .inr (slot ▸ Function.update_same _ _ _)
    · exact .inl (Function.update_noteq slot _ _)
  have wellFormed : ∀ i h, (newShard.set ⟨0, by decide⟩ (some nilHash)).hashes i = some h → h.length = hashSize := by
    intro i h stored
    rcases nilOrDeleted i with nil | deleted
    · rw [nil] at stored; cases stored
    · rw [deleted] at stored; cases stored; exact length_nilHash
  have zeros : (newShard.set ⟨0, by decide⟩ (some nilHash)).record = zeroBytes bytesPerShard := by
    have eachSlot : (newShard.set ⟨0, by decide⟩ (some nilHash)).slots.map slotBytes =
        List.replicate numberOfRecordsPerLBAShard nilHash := by
      refine List.eq_replicate_iff.mpr ⟨by simp, fun bytes member => ?_⟩
      obtain ⟨slot, slotMember, rfl⟩ := List.mem_map.mp member
      obtain ⟨i, rfl⟩ := (Shard.mem_slots _).mp slotMember
      rcases nilOrDeleted i with stored | stored <;> rw [stored] <;> rfl
    rw [Shard.record, eachSlot, nilHash, zeroBytes, List.flatten_replicate_replicate, zeroBytes,
      bytesPerShard]
  have decoded := shardFromBytes_record wellFormed
  rw [zeros] at decoded
  refine ⟨nilOrDeleted, (Shard.write_of_exists_some ⟨⟨0, by decide⟩, by simp [Shard.set]⟩).trans (congrArg _ zeros), decoded.trans ?_⟩
  exact congrArg (fun hashes => (.ok ⟨hashes, false⟩ : Except ShardError Shard))
    (funext fun i => if_pos (nilOrDeleted i))

/-- The LBA shard codec round-trips in both directions, and refuses short records. -/
theorem shard_codec_roundTrip :
    (∀ s : Shard, (∀ i h, s.hashes i = some h → h.length = hashSize) →
      (∃ i, (s.hashes i).isSome) →
      ∃ bytes, s.write = .ok bytes ∧ bytes.length = bytesPerShard ∧
        bytes = (s.slots.map slotBytes).flatten ∧
        shardFromBytes bytes = .ok ⟨fun i =>
          if s.hashes i = none ∨ s.hashes i = some nilHash then none else s.hashes i, false⟩) ∧
    (∀ bytes : Bytes, bytesPerShard ≤ bytes.length →
      (∃ byte ∈ bytes.take bytesPerShard, byte ≠ 0) →
      ∃ s, shardFromBytes bytes = .ok s ∧ s.write = .ok (bytes.take bytesPerShard)) ∧
    (∀ bytes : Bytes, bytes.length < bytesPerShard → shardFromBytes bytes = .error .tooSmall) :=
  ⟨fun _ slotsWellFormed someSlot =>
      ⟨_, Shard.write_of_exists_some someSlot, Shard.length_record slotsWellFormed, rfl,
        shardFromBytes_record slotsWellFormed⟩,
    fun _ => write_shardFromBytes, fun _ => shardFromBytes_of_length_lt⟩

end Lba
end Zerodisk
