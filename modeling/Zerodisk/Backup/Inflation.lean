import Zerodisk.Backup.Spans

/-!
# What the inflation fetcher computes

On every well-formed source stream, `inflationBlockFetcher` returns the
reference inflation of the source blocks it keeps (`survivors`), one destination
block per call, then `io.EOF` on every later call. The proof follows the fill
loop: each round copies the next source block of the span into its slot or
returns the destination block, and when an index gap leaves the span, the block
already taken from the inner fetcher is lost. The `int64` offsets never wrap on
these streams.
-/

namespace Zerodisk
namespace Backup

/-- A source stream of an inflation to `ratio * srcBS`-byte blocks: blocks of
`srcBS` bytes at non-negative, increasing indices, with every byte offset up
to one destination block past a block inside the `int64` range. -/
structure SourceStream (ratio srcBS : Nat) (blocks : List BlockIndexPair) : Prop where
  /-- Every block has `srcBS` bytes. -/
  sized : ∀ pair ∈ blocks, pair.block.length = srcBS
  /-- No index is negative. -/
  nonnegative : ∀ pair ∈ blocks, 0 ≤ pair.index
  /-- The byte offsets of a block fit an `int64`. -/
  fits : ∀ pair ∈ blocks, pair.index * srcBS + ratio * srcBS < 2 ^ 63
  /-- The indices increase. -/
  increasing : blocks.Pairwise fun a b => a.index < b.index

/-- Every part of a source stream that keeps its order is one. -/
theorem SourceStream.sublist {ratio srcBS : Nat} {blocks blocks' : List BlockIndexPair}
    (stream : SourceStream ratio srcBS blocks) (sub : blocks'.Sublist blocks) :
    SourceStream ratio srcBS blocks' where
  sized pair member := stream.sized pair (sub.subset member)
  nonnegative pair member := stream.nonnegative pair (sub.subset member)
  fits pair member := stream.fits pair (sub.subset member)
  increasing := stream.increasing.sublist sub

/-- The inner fetcher of a stream answers its first block first. -/
theorem streamOf_cons (pair : BlockIndexPair) (blocks : List BlockIndexPair) :
    streamOf (pair :: blocks) = .ok pair :: streamOf blocks := rfl

namespace InflationBlockFetcher

variable {ibf : InflationBlockFetcher}

/-- The fields of an inflator from `srcBS`-byte to `ratio * srcBS`-byte blocks. -/
structure Inflates (ibf : InflationBlockFetcher) (ratio srcBS : Nat) : Prop where
  /-- `srcBS`. -/
  srcBS_eq : ibf.srcBS = srcBS
  /-- `dstBS`. -/
  dstBS_eq : ibf.dstBS = ratio * srcBS
  /-- `ratio`. -/
  ratio_eq : ibf.ratio = ratio

/-! ## One round of the fill loop -/

/-- A fill loop with no source answers left returns its block. -/
theorem fill_nil (output : Bytes) (offset prev : Int) :
    ibf.fill output offset prev [] = ibf.emit output [] offset prev := rfl

/-- A full destination block is returned without fetching. -/
theorem fill_full {output : Bytes} {offset prev : Int} {answer : FetchResult} {rest : List FetchResult}
    (full : ibf.dstBS ≤ offset) :
    ibf.fill output offset prev (answer :: rest) = ibf.emit output (answer :: rest) offset prev :=
  ibf.fill_of_full (not_lt.mpr full) _

/-- A round of the fill loop after the block of index `prev` that fetches
`pair`: the offset moves over the index gap to `target`, and no `int64`
value of the round wraps. -/
structure Round (srcBS : Nat) (offset prev target : Int) (pair : BlockIndexPair) : Prop where
  /-- `prevIndex >= 0`. -/
  nonnegative : 0 ≤ prev
  /-- The indices increase. -/
  after : prev < pair.index
  /-- `indexDelta` does not wrap. -/
  deltaFits : InInt64Range (pair.index - prev)
  /-- The gap in bytes does not wrap. -/
  gapFits : InInt64Range ((pair.index - prev - 1) * srcBS)
  /-- Where the offset moves to. -/
  atTarget : target = offset + (pair.index - prev - 1) * srcBS
  /-- The moved offset does not wrap. -/
  targetFits : InInt64Range target
  /-- The end of the copied block does not wrap. -/
  endFits : InInt64Range (target + srcBS)

/-- A round whose index gap moves the offset out of the destination block
returns the block, and the fetched block is not copied. -/
theorem fill_leaves {ratio srcBS : Nat} (inflates : ibf.Inflates ratio srcBS) {output : Bytes}
    {offset prev target : Int} {pair : BlockIndexPair} {rest : List FetchResult}
    (room : offset < ratio * srcBS) (round : Round srcBS offset prev target pair)
    (leaves : ratio * srcBS ≤ target) :
    ibf.fill output offset prev (.ok pair :: rest) = ibf.emit output rest target prev := by
  have jumps : 0 ≤ prev ∧ 1 < pair.index - prev := by
    refine ⟨round.nonnegative, ?_⟩
    by_contra adjacent
    have stays := round.atTarget
    rw [show pair.index - prev - 1 = 0 by have := round.after; omega, Int.zero_mul, Int.add_zero] at stays
    omega
  rw [fill, inflates.dstBS_eq, if_pos room, inflates.srcBS_eq]
  simp only [wrapInt64_of_inRange round.deltaFits, ge_iff_le, gt_iff_lt, jumps, decide_True, if_true,
    true_and, wrapInt64_of_inRange round.gapFits, ← round.atTarget, wrapInt64_of_inRange round.targetFits,
    leaves]

/-- A round whose offset stays in the destination block copies the fetched
block at the offset and goes on after it. -/
theorem fill_copies {ratio srcBS : Nat} (inflates : ibf.Inflates ratio srcBS) {output copied : Bytes}
    {offset prev target : Int} {pair : BlockIndexPair} {rest : List FetchResult}
    (room : offset < ratio * srcBS) (round : Round srcBS offset prev target pair)
    (stays : target < ratio * srcBS) (copy : copyIntoSlice output target (target + srcBS) pair.block = some copied) :
    ibf.fill output offset prev (.ok pair :: rest) = ibf.fill copied (target + srcBS) pair.index rest := by
  rw [fill, inflates.dstBS_eq, if_pos room, inflates.srcBS_eq]
  simp only [wrapInt64_of_inRange round.deltaFits, ge_iff_le, gt_iff_lt]
  by_cases adjacent : pair.index - prev = 1
  · have still : ¬ (0 ≤ prev ∧ 1 < pair.index - prev) := by omega
    have same : offset = target := by
      rw [round.atTarget, adjacent, Int.sub_self, Int.zero_mul, Int.add_zero]
    simp only [still, decide_False, Bool.false_eq_true, if_false, false_and, same,
      wrapInt64_of_inRange round.endFits, copy]
  · have jumps : 0 ≤ prev ∧ 1 < pair.index - prev := ⟨round.nonnegative, by have := round.after; omega⟩
    simp only [jumps, decide_True, if_true, true_and, wrapInt64_of_inRange round.gapFits, ← round.atTarget,
      wrapInt64_of_inRange round.targetFits, not_le.mpr stays, if_false, wrapInt64_of_inRange round.endFits,
      copy]

/-- The block returned after slot `k` of `span` carries the index `span`. -/
theorem emit_span {ratio : Nat} {span : Int} {k : Nat} (ratioEq : ibf.ratio = ratio) (slot : k < ratio)
    (spanNonneg : 0 ≤ span) (output : Bytes) (answers : List FetchResult) (offset : Int) :
    ibf.emit output answers offset (span * ratio + k) =
      (.ok ⟨output, span⟩, { ibf with inner := answers, cache := ⟨none, offset, span * ratio + k⟩ }) := by
  rw [emit, ratioEq, Int.tdiv_eq_ediv (Int.add_nonneg (Int.mul_nonneg spanNonneg (by omega)) (by omega))
    (by omega), slot_ediv_ratio span slot]

/-- The round after slot `k` of `span` that fetches `q` moves the offset to
byte `(q.index - span * ratio) * srcBS` of the destination block, with no
`int64` value wrapping. -/
theorem round_after_slot {ratio srcBS k : Nat} {span : Int} {q : BlockIndexPair} (positive : 0 < srcBS)
    (slot : k < ratio) (spanNonneg : 0 ≤ span) (after : span * ratio + k < q.index)
    (fits : q.index * srcBS + ratio * srcBS < 2 ^ 63) :
    Round srcBS (k * srcBS + srcBS) (span * ratio + k) ((q.index - span * ratio) * srcBS) q := by
  have sPos : (0 : Int) < srcBS := by exact_mod_cast positive
  have spanRatio : 0 ≤ span * ratio := Int.mul_nonneg spanNonneg (by omega)
  have indexLe : q.index * 1 ≤ q.index * srcBS := Int.mul_le_mul_of_nonneg_left (by omega) (by omega)
  have gapLe : (q.index - (span * ratio + k) - 1) * srcBS ≤ q.index * srcBS :=
    Int.mul_le_mul_of_nonneg_right (by omega) sPos.le
  have gapNonneg : 0 ≤ (q.index - (span * ratio + k) - 1) * srcBS := Int.mul_nonneg (by omega) sPos.le
  have targetLe : (q.index - span * ratio) * srcBS ≤ q.index * srcBS :=
    Int.mul_le_mul_of_nonneg_right (by omega) sPos.le
  have targetNonneg : 0 ≤ (q.index - span * ratio) * srcBS := Int.mul_nonneg (by omega) sPos.le
  have srcLe : 1 * (srcBS : Int) ≤ ratio * srcBS := Int.mul_le_mul_of_nonneg_right (by omega) sPos.le
  exact ⟨by omega, after, ⟨by omega, by omega⟩, ⟨by omega, by omega⟩, by ring, ⟨by omega, by omega⟩,
    ⟨by omega, by omega⟩⟩

/-! ## The fill loop -/

/-- The fill loop of the destination block of `span` that holds the blocks
`run`, the last of them in slot `k`: it copies the following blocks of `span`
into their slots and returns the block, leaving the next source block in the
inner fetcher when the block is full and dropping it when an index gap leaves
the span. -/
theorem fill_span {ratio srcBS : Nat} (inflates : ibf.Inflates ratio srcBS) (positive : 0 < srcBS)
    {span : Int} (spanNonneg : 0 ≤ span) :
    ∀ (rest run : List BlockIndexPair) (k : Nat), k < ratio →
      (∀ p ∈ run, p.index / (ratio : Int) = span ∧ p.index ≤ span * ratio + k ∧ p.block.length = srcBS) →
      SourceStream ratio srcBS rest → (∀ p ∈ rest, span * ratio + k < p.index) →
      ∃ sameSpan next offset prev,
        survivors ratio (some (span * ratio + k)) rest = sameSpan ++ survivors ratio none next ∧
        (∀ p ∈ sameSpan, p.index / (ratio : Int) = span) ∧ next.Sublist rest ∧
        (∀ p ∈ next, span < p.index / (ratio : Int)) ∧
        ibf.fill (spanBlock ratio srcBS run span) (k * srcBS + srcBS) (span * ratio + k) (streamOf rest) =
          (.ok ⟨spanBlock ratio srcBS (run ++ sameSpan) span, span⟩,
            { ibf with inner := streamOf next, cache := ⟨none, offset, prev⟩ })
  | [], run, k, slot, _, _, _ => ⟨[], [], _, _, rfl, by simp, .slnil, by simp, by
      rw [List.append_nil]; exact emit_span inflates.ratio_eq slot spanNonneg _ _ _⟩
  | q :: rest, run, k, slot, runOk, stream, after => by
    have qIn := List.mem_cons_self q rest
    have qAfter := after q qIn
    have restAfter : ∀ p ∈ rest, q.index < p.index := (List.pairwise_cons.mp stream.increasing).1
    have sPos : (0 : Int) < srcBS := by exact_mod_cast positive
    have ratioPos : (0 : Int) < ratio := by omega
    rw [streamOf_cons]
    by_cases last : k + 1 = ratio
    · -- the block is full: it is returned, and `q` stays in the inner fetcher
      have fullSize : (ratio : Int) * srcBS = k * srcBS + srcBS := by rw [← last]; push_cast; ring
      refine ⟨[], q :: rest, k * srcBS + srcBS, span * ratio + k, ?_, by simp, List.Sublist.refl _,
        fun p member => ?_, ?_⟩
      · rw [survivors_keep fun ⟨_, notLast⟩ => notLast (by rw [slot_emod_ratio span slot]; omega)]
        rfl
      · have := after p member
        rw [Int.lt_iff_add_one_le, Int.le_ediv_iff_mul_le ratioPos, Int.add_mul, Int.one_mul]
        omega
      · rw [List.append_nil, fill_full (by rw [inflates.dstBS_eq, fullSize])]
        exact emit_span inflates.ratio_eq slot spanNonneg _ _ _
    -- the next block `q` is fetched
    have room : (k : Int) * srcBS + srcBS < ratio * srcBS := by
      have := Int.mul_lt_mul_of_pos_right (show (k : Int) + 1 < ratio by omega) sPos
      rwa [Int.add_mul, Int.one_mul] at this
    have round := round_after_slot positive slot spanNonneg qAfter (stream.fits q qIn)
    by_cases inSpan : q.index / ratio = span
    · -- `q` lies in `span`: it is copied into its slot
      have below := Int.lt_ediv_add_one_mul_self q.index ratioPos
      rw [inSpan, Int.add_mul, Int.one_mul] at below
      obtain ⟨k', atSlot⟩ : ∃ k' : Nat, q.index = span * ratio + k' :=
        ⟨(q.index - span * ratio).toNat, by omega⟩
      have slot' : k' < ratio := by omega
      have targetEq : (q.index - span * ratio) * srcBS = (k' : Int) * srcBS := by
        rw [atSlot]; ring
      have before := Int.mul_lt_mul_of_pos_right (show (k' : Int) < ratio by omega) sPos
      have copied := @copyIntoSlice_spanBlock ratio srcBS k' span run q slot' atSlot
        (fun p member => by have := (runOk p member).2.1; omega)
        (by simpa [or_imp, forall_and] using ⟨fun p member => (runOk p member).2.2, stream.sized q qIn⟩)
      rw [← targetEq] at before copied
      rw [fill_copies inflates room round before copied, targetEq, atSlot]
      obtain ⟨sameSpan, next, offset, prev, kept, inSpan', sub, later, filled⟩ :=
        fill_span inflates positive spanNonneg rest (run ++ [q]) k' slot'
          (by
            simp only [List.mem_append, List.mem_singleton]
            rintro p (member | rfl)
            · have := runOk p member
              exact ⟨this.1, by omega, this.2.2⟩
            · exact ⟨inSpan, atSlot.le, stream.sized _ qIn⟩)
          (stream.sublist (List.sublist_cons_self q rest))
          (fun p member => by have := restAfter p member; omega)
      refine ⟨q :: sameSpan, next, offset, prev, ?_, List.forall_mem_cons.mpr ⟨inSpan, inSpan'⟩, sub.cons q,
        later, ?_⟩
      · rw [survivors_keep fun ⟨differ, _⟩ => differ (by rw [slot_ediv_ratio span slot, inSpan]), atSlot, kept]
        rfl
      · rw [filled, List.append_assoc, List.singleton_append]
    · -- `q` lies in a later span: the gap branch took it, and it is dropped
      have later : span < q.index / ratio := by
        have := Int.ediv_le_ediv ratioPos qAfter.le
        rw [slot_ediv_ratio span slot] at this
        omega
      have beyond : span * ratio + ratio ≤ q.index := by
        have := (Int.le_ediv_iff_mul_le ratioPos).mp (show span + 1 ≤ q.index / ratio by omega)
        rwa [Int.add_mul, Int.one_mul] at this
      rw [fill_leaves inflates room round
        (Int.mul_le_mul_of_nonneg_right (show (ratio : Int) ≤ q.index - span * ratio by omega) sPos.le)]
      refine ⟨[], rest, (q.index - span * ratio) * srcBS, span * ratio + k, ?_, by simp,
        List.sublist_cons_self q rest, fun p member => ?_, ?_⟩
      · rw [survivors_drop ⟨by rw [slot_ediv_ratio span slot]; omega, by rw [slot_emod_ratio span slot]; omega⟩]
        rfl
      · have := Int.ediv_le_ediv ratioPos (restAfter p member).le
        omega
      · rw [List.append_nil]
        exact emit_span inflates.ratio_eq slot spanNonneg _ _ _

/-! ## A call of `FetchBlock` -/

/-- A call with no destination block started copies the first source block,
of slot `k` of `span`, into a zeroed block and runs the fill loop. -/
theorem fetchBlock_start {ratio srcBS : Nat} (inflates : ibf.Inflates ratio srcBS)
    (idle : ibf.cache.output = none) {q : BlockIndexPair} {rest : List FetchResult} (inner : ibf.inner = .ok q :: rest)
    {span : Int} {k : Nat} (spanNonneg : 0 ≤ span) (slot : k < ratio) (atSlot : q.index = span * ratio + k)
    (fits : q.index * srcBS + ratio * srcBS < 2 ^ 63) (sized : q.block.length = srcBS) :
    ibf.fetchBlock = ibf.fill (spanBlock ratio srcBS [q] span) (k * srcBS + srcBS) (span * ratio + k) rest := by
  have spanRatio : 0 ≤ span * ratio := Int.mul_nonneg spanNonneg (by omega)
  have slotNonneg : 0 ≤ (k : Int) * srcBS := Int.mul_nonneg (by omega) (by omega)
  have slotEnd : (k : Int) * srcBS + srcBS ≤ ratio * srcBS := by
    have := Int.mul_le_mul_of_nonneg_right (show (k : Int) + 1 ≤ ratio by omega) (Int.ofNat_nonneg srcBS)
    rwa [Int.add_mul, Int.one_mul] at this
  have indexNonneg : 0 ≤ q.index * srcBS := Int.mul_nonneg (by omega) (by omega)
  have offset : q.index.tmod ibf.ratio * ibf.srcBS = k * srcBS := by
    rw [inflates.ratio_eq, inflates.srcBS_eq, Int.tmod_eq_emod (by omega) (by omega), atSlot,
      slot_emod_ratio span slot]
  have dstBytes : ibf.dstBS.toNat = ratio * srcBS := by rw [inflates.dstBS_eq]; omega
  rw [fetchBlock, idle]
  simp only [inner, fetchFrom]
  rw [if_neg (by rw [inflates.ratio_eq]; omega), offset, inflates.srcBS_eq,
    wrapInt64_of_inRange ⟨by omega, by omega⟩, wrapInt64_of_inRange ⟨by omega, by omega⟩, dstBytes,
    ← @spanBlock_nil ratio srcBS span, copyIntoSlice_spanBlock slot atSlot (by simp) (by simpa using sized),
    ← atSlot]
  rfl

/-- A call with no destination block started, on a stream that starts with
`q`: it returns the destination block of the span of `q`, holding `q`
and the blocks of its span that follow it, and leaves a stream of later
spans. -/
theorem fetchBlock_idle {ratio srcBS : Nat} (inflates : ibf.Inflates ratio srcBS) (wide : 0 < ratio)
    (positive : 0 < srcBS) (idle : ibf.cache.output = none) {q : BlockIndexPair} {rest : List BlockIndexPair}
    (inner : ibf.inner = streamOf (q :: rest)) (stream : SourceStream ratio srcBS (q :: rest)) :
    ∃ sameSpan next offset prev,
      survivors ratio none (q :: rest) = q :: sameSpan ++ survivors ratio none next ∧
      (∀ p ∈ q :: sameSpan, p.index / (ratio : Int) = q.index / ratio) ∧ next.Sublist rest ∧
      (∀ p ∈ next, q.index / (ratio : Int) < p.index / ratio) ∧
      ibf.fetchBlock = (.ok ⟨spanBlock ratio srcBS (q :: sameSpan) (q.index / ratio), q.index / ratio⟩,
        { ibf with inner := streamOf next, cache := ⟨none, offset, prev⟩ }) := by
  have qIn := List.mem_cons_self q rest
  have qNonneg := stream.nonnegative q qIn
  have ratioPos : (0 : Int) < ratio := by omega
  have spanNonneg : 0 ≤ q.index / ratio := Int.ediv_nonneg qNonneg ratioPos.le
  have slot : (q.index % ratio).toNat < ratio := by
    have := Int.emod_lt_of_pos q.index ratioPos
    omega
  have atSlot : q.index = q.index / ratio * ratio + (q.index % ratio).toNat := by
    have := Int.ediv_add_emod' q.index ratio
    have := Int.emod_nonneg q.index ratioPos.ne'
    omega
  obtain ⟨sameSpan, next, offset, prev, kept, inSpan, sub, later, filled⟩ :=
    fill_span inflates positive spanNonneg rest [q] _ slot
      (by simp only [List.mem_singleton, forall_eq, true_and]; exact ⟨atSlot.le, stream.sized q qIn⟩)
      (stream.sublist (List.sublist_cons_self q rest))
      (fun p member => by have := (List.pairwise_cons.mp stream.increasing).1 p member; omega)
  refine ⟨sameSpan, next, offset, prev, ?_, List.forall_mem_cons.mpr ⟨rfl, inSpan⟩, sub, later, ?_⟩
  · rw [← atSlot] at kept
    rw [survivors, kept]
    rfl
  · rw [fetchBlock_start inflates idle (inner.trans (streamOf_cons q rest)) spanNonneg slot atSlot (stream.fits q qIn) (stream.sized q qIn),
      filled]
    rfl

/-- A fetcher whose inner fetcher is drained answers `io.EOF` from then on. -/
theorem results_drained {ibf : InflationBlockFetcher} (idle : ibf.cache.output = none) (inner : ibf.inner = []) :
    ∀ calls, (SizedBlockFetcher.inflation ibf).results calls = List.replicate calls (.error .eof)
  | 0 => rfl
  | calls + 1 => by
    have call : ibf.fetchBlock = (.error .eof, { ibf with inner := [] }) := by
      rw [fetchBlock, idle]
      simp only [inner, fetchFrom]
    rw [SizedBlockFetcher.results, SizedBlockFetcher.fetchBlock, call, List.replicate_succ]
    exact congrArg _ (@results_drained { ibf with inner := [] } idle rfl calls)

/-- From a fetcher with no destination block started, on every source stream,
the calls return the reference inflation of the blocks the fetcher keeps, one
destination block per call, and then `io.EOF`. By induction on the stream:
each call consumes the blocks of one span, and at most one block after it. -/
theorem results_idle {ratio srcBS : Nat} (wide : 0 < ratio) (positive : 0 < srcBS) (calls : Nat) :
    ∀ (fuel : Nat) (blocks : List BlockIndexPair) (ibf : InflationBlockFetcher), blocks.length ≤ fuel →
      ibf.Inflates ratio srcBS → ibf.cache.output = none → ibf.inner = streamOf blocks →
      SourceStream ratio srcBS blocks →
      (SizedBlockFetcher.inflation ibf).results
          ((referenceInflation ratio srcBS (survivors ratio none blocks)).length + calls) =
        (referenceInflation ratio srcBS (survivors ratio none blocks)).map .ok ++
          List.replicate calls (.error .eof)
  | _, [], _, _, _, idle, inner, _ => by
    have nothing : referenceInflation ratio srcBS (survivors ratio none []) = [] := rfl
    rw [nothing, List.length_nil, Nat.zero_add, List.map_nil, List.nil_append]
    exact results_drained idle inner calls
  | 0, _ :: _, _, bound, _, _, _, _ => absurd bound (by simp)
  | fuel + 1, q :: rest, ibf, bound, inflates, idle, inner, stream => by
    obtain ⟨sameSpan, next, offset, prev, kept, inSpan, sub, later, call⟩ :=
      fetchBlock_idle inflates wide positive idle inner stream
    have reference : referenceInflation ratio srcBS (survivors ratio none (q :: rest)) =
        ⟨spanBlock ratio srcBS (q :: sameSpan) (q.index / ratio), q.index / ratio⟩ ::
          referenceInflation ratio srcBS (survivors ratio none next) := by
      rw [kept]
      exact referenceInflation_append_span inSpan fun p member =>
        later p ((survivors_sublist ratio none next).subset member)
    have shorter : next.length ≤ fuel := by
      have := sub.length_le
      simp only [List.length_cons] at bound
      omega
    rw [reference, List.length_cons, Nat.add_right_comm, SizedBlockFetcher.results,
      SizedBlockFetcher.fetchBlock, call, List.map_cons, List.cons_append]
    exact congrArg _ (results_idle wide positive calls fuel next _ shorter
      ⟨inflates.srcBS_eq, inflates.dstBS_eq, inflates.ratio_eq⟩ rfl rfl
      (stream.sublist (sub.trans (List.sublist_cons_self q rest))))

end InflationBlockFetcher

/-! ## The inflation law -/

/-- `sizedBlockFetcher` puts an inflator with no destination block started
in front of a stream of smaller blocks. -/
theorem sizedBlockFetcher_inflation {ratio srcBS : Nat} (wide : 2 ≤ ratio) (positive : 0 < srcBS)
    (answers : List FetchResult) :
    sizedBlockFetcher answers srcBS (ratio * srcBS) =
      some (.inflation ⟨answers, srcBS, ratio * srcBS, ratio, ⟨none, 0, 0⟩⟩) := by
  have smaller : (srcBS : Int) < ratio * srcBS := by
    have := Int.mul_lt_mul_of_pos_right (show (1 : Int) < ratio by omega) (show (0 : Int) < srcBS by omega)
    rwa [Int.one_mul] at this
  rw [sizedBlockFetcher, if_pos smaller, newInflationBlockFetcher, if_neg (by omega),
    Int.mul_tdiv_cancel _ (by omega)]
  rfl

open InflationBlockFetcher in
/-- What the inflation fetcher computes: for every ratio `ratio ≥ 2`, every
source block size `srcBS > 0` and every source stream, the fetcher that
`sizedBlockFetcher` puts in front of the stream returns the reference
inflation of the blocks it keeps, one destination block per call, followed by
`io.EOF` on every later call. A block is lost exactly when it lies in a later
span than the block copied before it, and that block does not fill the last
slot of its span. -/
theorem inflator_returns_reference_of_survivors {ratio srcBS : Nat} {blocks : List BlockIndexPair}
    (wide : 2 ≤ ratio) (positive : 0 < srcBS) (stream : SourceStream ratio srcBS blocks) (calls : Nat) :
    ∃ inflator : SizedBlockFetcher, sizedBlockFetcher (streamOf blocks) srcBS (ratio * srcBS) = some inflator ∧
      inflator.results ((referenceInflation ratio srcBS (survivors ratio none blocks)).length + calls) =
        (referenceInflation ratio srcBS (survivors ratio none blocks)).map .ok ++
          List.replicate calls (.error .eof) :=
  ⟨_, sizedBlockFetcher_inflation wide positive _,
    results_idle (by omega) positive calls _ blocks ⟨streamOf blocks, srcBS, ratio * srcBS, ratio, ⟨none, 0, 0⟩⟩
      le_rfl ⟨rfl, rfl, rfl⟩ rfl rfl stream⟩

/-- The stream that loses a block: a stream the inflation law covers. -/
theorem spanGapBlocks_inflate_to_survivors :
    SourceStream 2 1 spanGapBlocks ∧
      ∃ inflator : SizedBlockFetcher,
        sizedBlockFetcher (streamOf spanGapBlocks) (1 : Nat) ((2 : Nat) * (1 : Nat)) = some inflator ∧
        inflator.results ((referenceInflation 2 1 (survivors 2 none spanGapBlocks)).length + 1) =
          (referenceInflation 2 1 (survivors 2 none spanGapBlocks)).map .ok ++ List.replicate 1 (.error .eof) :=
  have stream : SourceStream 2 1 spanGapBlocks := ⟨by decide, by decide, by decide, by decide⟩
  ⟨stream, inflator_returns_reference_of_survivors (by decide) (by decide) stream 1⟩

open InflationBlockFetcher in
/-- Where the inflation fetcher meets its reference: on every source stream
whose index gaps never leave a span before its last slot, and so on every
stream of consecutive indices, the fetcher returns exactly the reference
inflation of the stream, and then `io.EOF`. -/
theorem inflator_returns_reference {ratio srcBS : Nat} {blocks : List BlockIndexPair}
    (wide : 2 ≤ ratio) (positive : 0 < srcBS) (stream : SourceStream ratio srcBS blocks)
    (closed : SpansClosed ratio blocks) (calls : Nat) :
    ∃ inflator : SizedBlockFetcher, sizedBlockFetcher (streamOf blocks) srcBS (ratio * srcBS) = some inflator ∧
      inflator.results ((referenceInflation ratio srcBS blocks).length + calls) =
        (referenceInflation ratio srcBS blocks).map .ok ++ List.replicate calls (.error .eof) := by
  have results := results_idle (by omega) positive calls _ blocks ⟨streamOf blocks, srcBS, ratio * srcBS, ratio, ⟨none, 0, 0⟩⟩
      le_rfl ⟨rfl, rfl, rfl⟩ rfl rfl stream
  rw [survivors_of_spansClosed closed] at results
  exact ⟨_, sizedBlockFetcher_inflation wide positive _, results⟩

/-- Three consecutive one-byte blocks from index `1`. -/
def consecutiveBlocks : List BlockIndexPair := [⟨[1], 1⟩, ⟨[2], 2⟩, ⟨[3], 3⟩]

/-- Inflating `consecutiveBlocks` to two-byte blocks gives the reference
`[⟨[0, 1], 0⟩, ⟨[2, 3], 1⟩]`. -/
theorem consecutiveBlocks_inflate_to_reference :
    SourceStream 2 1 consecutiveBlocks ∧ SpansClosed 2 consecutiveBlocks ∧
      ∃ inflator : SizedBlockFetcher,
        sizedBlockFetcher (streamOf consecutiveBlocks) (1 : Nat) ((2 : Nat) * (1 : Nat)) = some inflator ∧
        inflator.results ((referenceInflation 2 1 consecutiveBlocks).length + 1) =
          (referenceInflation 2 1 consecutiveBlocks).map .ok ++ List.replicate 1 (.error .eof) :=
  have stream : SourceStream 2 1 consecutiveBlocks := ⟨by decide, by decide, by decide, by decide⟩
  have closed : SpansClosed 2 consecutiveBlocks := spansClosed_of_consecutive (by decide) (.cons rfl (.cons rfl .nil))
  ⟨stream, closed, inflator_returns_reference (by decide) (by decide) stream closed 1⟩

example : referenceInflation 2 1 consecutiveBlocks = [⟨[0, 1], 0⟩, ⟨[2, 3], 1⟩] := by decide

end Backup
end Zerodisk
