import Zerodisk.Backup.Conversion

/-!
# What the deflation fetcher computes

On every stream of source blocks of `ratio * dstBS` bytes, `ratio ≥ 2`,
`deflationBlockFetcher` returns the reference deflation, one slice per call,
then `io.EOF` on every later call, each index `i * ratio + k` computed in
`int64`, so that it wraps once `i * ratio` leaves the `int64` range. The proof
names what a deflator has left to return (`pendingOutput`): each call returns
the first slice left and keeps the others.
-/

namespace Zerodisk
namespace Backup

/-! ## Slices left to return -/

/-- The reference deflation takes the slices of each source block in turn. -/
theorem referenceDeflation_cons (ratio dstBS : Nat) (pair : BlockIndexPair) (blocks : List BlockIndexPair) :
    referenceDeflation ratio dstBS (pair :: blocks) =
      ((List.range ratio).map fun k =>
        (⟨(pair.block.drop (k * dstBS)).take dstBS, pair.index * ratio + k⟩ : BlockIndexPair)).filter
          (fun slice => !isNilBlock slice.block) ++ referenceDeflation ratio dstBS blocks := rfl

/-- Adding to a wrapped `int64` wraps the sum. -/
theorem wrapInt64_wrapInt64_add (x y : Int) : wrapInt64 (wrapInt64 x + y) = wrapInt64 (x + y) := by
  simp only [wrapInt64]
  rw [Int.add_comm, Int.add_bmod_bmod, Int.add_comm]

/-- The non-nil `dstBS`-byte slices of the first `n` slices of `cb`, the
first at index `cbi` and each next one at the next `int64`: what the deflator
has left to hand out of its current block. -/
def pendingSlices (dstBS : Nat) : (n : Nat) → (cb : Bytes) → (cbi : Int) → List BlockIndexPair
  | 0, _, _ => []
  | n + 1, cb, cbi =>
    let rest := pendingSlices dstBS n (cb.drop dstBS) (wrapInt64 (cbi + 1))
    if isNilBlock (cb.take dstBS) then rest else ⟨cb.take dstBS, cbi⟩ :: rest

/-- A block's slices from a wrapped index are its reference slices with the
indices wrapped. -/
theorem pendingSlices_wrap (dstBS : Nat) : ∀ (n : Nat) (cb : Bytes) (x : Int),
    pendingSlices dstBS n cb (wrapInt64 x) =
      (((List.range n).map fun k =>
        (⟨(cb.drop (k * dstBS)).take dstBS, x + k⟩ : BlockIndexPair)).filter
          fun slice => !isNilBlock slice.block).map fun slice => ⟨slice.block, wrapInt64 slice.index⟩
  | 0, _, _ => rfl
  | n + 1, cb, x => by
    have rest := pendingSlices_wrap dstBS n (cb.drop dstBS) (x + 1)
    rw [pendingSlices, wrapInt64_wrapInt64_add, rest, List.range_succ_eq_map, List.map_cons,
      List.map_map]
    have shifted : ((fun k : Nat => (⟨(cb.drop (k * dstBS)).take dstBS, x + k⟩ : BlockIndexPair)) ∘
        Nat.succ) = fun k => ⟨((cb.drop dstBS).drop (k * dstBS)).take dstBS, x + 1 + k⟩ := by
      funext k
      simp only [Function.comp, List.drop_drop, Nat.succ_mul, Nat.add_comm dstBS]
      congr 1
      omega
    rw [shifted, List.filter_cons]
    simp only [Nat.zero_mul, List.drop_zero, Int.ofNat_zero, Int.add_zero]
    by_cases nil : isNilBlock (cb.take dstBS) = true
    · simp only [nil, if_true, Bool.not_true]
      rfl
    · simp only [nil, if_false, Bool.not_false, List.map_cons]
      rfl

/-- The slices `cutSlice` finds in a block of `n` slices: the first pending
slice, or the block drained when none is left. -/
theorem cutSlice_pending {dstBS : Nat} (positive : 0 < dstBS) : ∀ (n fuel : Nat) (cb : Bytes) (cbi : Int),
    cb.length = n * dstBS → n ≤ fuel →
      (pendingSlices dstBS n cb cbi = [] → ∃ c, cutSlice dstBS fuel cb cbi = .drained c) ∧
      (∀ slice rest, pendingSlices dstBS n cb cbi = slice :: rest → ∃ m cb' cbi',
        cutSlice dstBS fuel cb cbi = .found slice.block slice.index cb' cbi' ∧ cb'.length = m * dstBS ∧
          pendingSlices dstBS m cb' cbi' = rest)
  | 0, fuel, cb, cbi, sized, _ => by
    have empty : cb = [] := List.eq_nil_of_length_eq_zero (by rw [sized, Nat.zero_mul])
    subst empty
    refine ⟨fun _ => ?_, fun _ _ none => by cases none⟩
    cases fuel <;> exact ⟨cbi, rfl⟩
  | n + 1, 0, _, _, _, bound => absurd bound (Nat.not_succ_le_zero n)
  | n + 1, fuel + 1, cb, cbi, sized, bound => by
    have long : dstBS ≤ cb.length := by rw [sized, Nat.succ_mul]; omega
    have rest := cutSlice_pending positive n fuel (cb.drop dstBS) (wrapInt64 (cbi + 1))
      (by rw [List.length_drop, sized, Nat.succ_mul]; omega) (by omega)
    have cut : cutSlice dstBS (fuel + 1) cb cbi =
        if !isNilBlock (cb.take dstBS) then .found (cb.take dstBS) cbi (cb.drop dstBS) (wrapInt64 (cbi + 1))
        else cutSlice dstBS fuel (cb.drop dstBS) (wrapInt64 (cbi + 1)) := by
      rw [cutSlice, if_neg (by omega), if_neg (by omega), Int.toNat_ofNat]
    rw [cut, pendingSlices]
    by_cases nil : isNilBlock (cb.take dstBS) = true
    · simp only [nil, if_true, Bool.not_true, Bool.false_eq_true, if_false]
      exact rest
    · simp only [nil, if_false, Bool.not_false, if_true]
      refine ⟨fun none => (by cases none), fun slice rest' found => ?_⟩
      cases found
      exact ⟨n, _, _, rfl, by rw [List.length_drop, sized, Nat.succ_mul]; omega, rfl⟩

/-- What a deflator by `ratio` into `dstBS`-byte blocks has left to return:
the pending slices of its current block of `n` slices, then those of every
source block still to fetch, the first slice of the block of index `i` at
`int64(i * ratio)`. -/
def pendingOutput (ratio dstBS n : Nat) (cb : Bytes) (cbi : Int) (blocks : List BlockIndexPair) :
    List BlockIndexPair :=
  pendingSlices dstBS n cb cbi ++
    blocks.flatMap fun pair => pendingSlices dstBS ratio pair.block (wrapInt64 (pair.index * ratio))

namespace DeflationBlockFetcher

variable {dbf : DeflationBlockFetcher}

/-- The fields of a deflator from `ratio * dstBS`-byte to `dstBS`-byte blocks. -/
structure Deflates (dbf : DeflationBlockFetcher) (ratio dstBS : Nat) : Prop where
  /-- `dstBS`. -/
  dstBS_eq : dbf.dstBS = dstBS
  /-- `ratio`. -/
  ratio_eq : dbf.ratio = ratio

/-- One run of the outer loop of `FetchBlock`, over a current block of `n`
slices and source blocks of `ratio` slices: it returns the first slice left,
keeping the rest, or `io.EOF` once none is left. -/
theorem loop_pending {ratio dstBS : Nat} (deflates : dbf.Deflates ratio dstBS) (positive : 0 < dstBS) :
    ∀ (blocks : List BlockIndexPair) (n : Nat) (cb : Bytes) (cbi : Int),
      (∀ pair ∈ blocks, pair.block.length = ratio * dstBS) → cb.length = n * dstBS →
      (pendingOutput ratio dstBS n cb cbi blocks = [] →
        ∃ c, dbf.loop cb cbi (streamOf blocks) = (.error .eof, { dbf with inner := [], cb := [], cbi := c })) ∧
      (∀ slice rest, pendingOutput ratio dstBS n cb cbi blocks = slice :: rest →
        ∃ blocks' m cb' cbi', dbf.loop cb cbi (streamOf blocks) =
            (.ok slice, { dbf with inner := streamOf blocks', cb := cb', cbi := cbi' }) ∧
          (∀ pair ∈ blocks', pair.block.length = ratio * dstBS) ∧ cb'.length = m * dstBS ∧
          pendingOutput ratio dstBS m cb' cbi' blocks' = rest)
  | blocks, n, cb, cbi, sized, cbSized => by
    obtain ⟨drained, found⟩ := cutSlice_pending positive n cb.length cb cbi cbSized
      (by rw [cbSized]; exact Nat.le_mul_of_pos_right n positive)
    cases pending : pendingSlices dstBS n cb cbi with
    | cons slice rest =>
      obtain ⟨m, cb', cbi', cut, cb'Sized, left⟩ := found slice rest pending
      refine ⟨fun none => by simp [pendingOutput, pending] at none, fun slice' rest' output => ?_⟩
      simp only [pendingOutput, pending, List.cons_append, List.cons.injEq] at output
      obtain ⟨rfl, rfl⟩ := output
      refine ⟨blocks, m, cb', cbi', ?_, sized, cb'Sized, by rw [pendingOutput, left]⟩
      rw [loop_of_found (deflates.dstBS_eq ▸ cut)]
    | nil =>
      obtain ⟨c, cut⟩ := drained pending
      cases blocks with
      | nil =>
        exact ⟨fun _ => ⟨c, loop_of_drained_nil (deflates.dstBS_eq ▸ cut)⟩,
          fun slice rest output => by simp [pendingOutput, pending] at output⟩
      | cons pair blocks =>
        have next := loop_pending deflates positive blocks ratio pair.block (wrapInt64 (pair.index * ratio))
          (fun other member => sized other (List.mem_cons_of_mem _ member)) (sized pair (List.mem_cons_self _ _))
        have same : pendingOutput ratio dstBS n cb cbi (pair :: blocks) =
            pendingOutput ratio dstBS ratio pair.block (wrapInt64 (pair.index * ratio)) blocks := by
          rw [pendingOutput, pending, List.nil_append, List.flatMap_cons, pendingOutput]
        have step : dbf.loop cb cbi (streamOf (pair :: blocks)) =
            dbf.loop pair.block (wrapInt64 (pair.index * ratio)) (streamOf blocks) := by
          rw [show streamOf (pair :: blocks) = .ok pair :: streamOf blocks from rfl, loop_of_drained_ok (deflates.dstBS_eq ▸ cut), deflates.ratio_eq]
        rw [same, step]
        exact next

/-- A deflator with nothing left answers `io.EOF` from then on. -/
theorem results_drained {dbf : DeflationBlockFetcher} (inner : dbf.inner = []) (drained : dbf.cb = []) :
    ∀ calls, (SizedBlockFetcher.deflation dbf).results calls = List.replicate calls (.error .eof)
  | 0 => rfl
  | calls + 1 => by
    have call : dbf.fetchBlock = (.error .eof, { dbf with inner := [], cb := [], cbi := dbf.cbi }) := by
      rw [fetchBlock, inner, drained]
      exact loop_of_drained_nil rfl
    rw [SizedBlockFetcher.results, SizedBlockFetcher.fetchBlock, call, List.replicate_succ]
    exact congrArg _ (@results_drained { dbf with inner := [], cb := [], cbi := dbf.cbi } rfl rfl calls)

/-- From every state over a stream of source blocks, the calls return what the
deflator has left, one slice per call, and then `io.EOF`. -/
theorem results_pending {ratio dstBS : Nat} (positive : 0 < dstBS) (calls : Nat) :
    ∀ (left : Nat) (blocks : List BlockIndexPair) (n : Nat) (dbf : DeflationBlockFetcher),
      dbf.Deflates ratio dstBS → (∀ pair ∈ blocks, pair.block.length = ratio * dstBS) →
      dbf.cb.length = n * dstBS → dbf.inner = streamOf blocks →
      (pendingOutput ratio dstBS n dbf.cb dbf.cbi blocks).length = left →
      (SizedBlockFetcher.deflation dbf).results (left + calls) =
        (pendingOutput ratio dstBS n dbf.cb dbf.cbi blocks).map .ok ++ List.replicate calls (.error .eof)
  | 0, blocks, n, dbf, deflates, sized, cbSized, inner, noneLeft => by
    have nothing := List.eq_nil_of_length_eq_zero noneLeft
    obtain ⟨c, call⟩ := (loop_pending deflates positive blocks n dbf.cb dbf.cbi sized cbSized).1 nothing
    rw [nothing, List.map_nil, List.nil_append, Nat.zero_add]
    cases calls with
    | zero => rfl
    | succ calls =>
      rw [SizedBlockFetcher.results, SizedBlockFetcher.fetchBlock, fetchBlock, inner, call,
        List.replicate_succ]
      exact congrArg _ (@results_drained { dbf with inner := [], cb := [], cbi := c } rfl rfl calls)
  | left + 1, blocks, n, dbf, deflates, sized, cbSized, inner, someLeft => by
    cases pending : pendingOutput ratio dstBS n dbf.cb dbf.cbi blocks with
    | nil => rw [pending] at someLeft; cases someLeft
    | cons slice rest =>
      obtain ⟨blocks', m, cb', cbi', call, sized', cb'Sized, rest'⟩ :=
        (loop_pending deflates positive blocks n dbf.cb dbf.cbi sized cbSized).2 slice rest pending
      rw [pending, List.length_cons, Nat.add_right_cancel_iff] at someLeft
      have later := results_pending positive calls left blocks' m
        { dbf with inner := streamOf blocks', cb := cb', cbi := cbi' } ⟨deflates.dstBS_eq, deflates.ratio_eq⟩
        sized' cb'Sized rfl (by rw [← someLeft, ← rest'])
      rw [rest'] at later
      rw [Nat.add_right_comm, SizedBlockFetcher.results, SizedBlockFetcher.fetchBlock, fetchBlock, inner, call,
        List.map_cons, List.cons_append]
      exact congrArg _ later

end DeflationBlockFetcher

/-! ## The deflation law -/

/-- `sizedBlockFetcher` puts a deflator with no current block in front of a
stream of bigger blocks. -/
theorem sizedBlockFetcher_deflation {ratio dstBS : Nat} (wide : 2 ≤ ratio) (positive : 0 < dstBS)
    (answers : List FetchResult) :
    sizedBlockFetcher answers (ratio * dstBS) dstBS =
      some (.deflation ⟨answers, ratio * dstBS, dstBS, ratio, [], -1⟩) := by
  have bigger : (dstBS : Int) < ratio * dstBS := by
    have := Int.mul_lt_mul_of_pos_right (show (1 : Int) < ratio by omega) (show (0 : Int) < dstBS by omega)
    rwa [Int.one_mul] at this
  rw [sizedBlockFetcher, if_neg (by omega), if_pos bigger, newDeflationBlockFetcher, if_neg (by omega),
    Int.mul_tdiv_cancel _ (by omega)]
  rfl

/-- The slices of the source blocks, from the first slice of each at
`int64(i * ratio)`, are the reference deflation with its indices wrapped. -/
theorem flatMap_pendingSlices (ratio dstBS : Nat) : ∀ blocks : List BlockIndexPair,
    (blocks.flatMap fun pair => pendingSlices dstBS ratio pair.block (wrapInt64 (pair.index * ratio))) =
      (referenceDeflation ratio dstBS blocks).map fun slice => ⟨slice.block, wrapInt64 slice.index⟩
  | [] => rfl
  | pair :: blocks => by
    rw [List.flatMap_cons, pendingSlices_wrap, flatMap_pendingSlices ratio dstBS blocks,
      referenceDeflation_cons, List.map_append]

/-- What the deflation fetcher computes: for every ratio `ratio ≥ 2`, every
destination block size `dstBS > 0` and every stream of source blocks of
`ratio * dstBS` bytes, the fetcher `sizedBlockFetcher` puts in front of the
stream returns the reference deflation, one slice per call, and then
`io.EOF` on every later call; each index is the reference's `i * ratio + k`
taken as an `int64`, which wraps when it leaves the `int64` range. -/
theorem deflator_returns_reference {ratio dstBS : Nat} {blocks : List BlockIndexPair}
    (wide : 2 ≤ ratio) (positive : 0 < dstBS) (sized : ∀ pair ∈ blocks, pair.block.length = ratio * dstBS)
    (calls : Nat) :
    ∃ deflator : SizedBlockFetcher, sizedBlockFetcher (streamOf blocks) (ratio * dstBS) dstBS = some deflator ∧
      deflator.results ((referenceDeflation ratio dstBS blocks).length + calls) =
        (referenceDeflation ratio dstBS blocks).map (fun slice => .ok ⟨slice.block, wrapInt64 slice.index⟩) ++
          List.replicate calls (.error .eof) := by
  have start : pendingOutput ratio dstBS 0 [] (-1) blocks =
      (referenceDeflation ratio dstBS blocks).map fun slice => ⟨slice.block, wrapInt64 slice.index⟩ := by
    rw [pendingOutput, pendingSlices, List.nil_append, flatMap_pendingSlices]
  have results := DeflationBlockFetcher.results_pending positive calls
    (pendingOutput ratio dstBS 0 [] (-1) blocks).length blocks 0
    ⟨streamOf blocks, ratio * dstBS, dstBS, ratio, [], -1⟩ ⟨rfl, rfl⟩ sized (Nat.zero_mul dstBS).symm rfl rfl
  rw [start, List.length_map, List.map_map] at results
  exact ⟨_, sizedBlockFetcher_deflation wide positive _, results⟩

/-- Two two-byte blocks at indices `0` and `3`, each with one zero byte. -/
def twoBlocks : List BlockIndexPair := [⟨[0, 5], 0⟩, ⟨[7, 0], 3⟩]

/-- Deflating `twoBlocks` to one-byte blocks: a stream the deflation law covers. -/
theorem deflator_returns_reference_twoBlocks :
    (∀ pair ∈ twoBlocks, pair.block.length = 2 * 1) ∧
      ∃ deflator : SizedBlockFetcher,
        sizedBlockFetcher (streamOf twoBlocks) ((2 : Nat) * (1 : Nat)) (1 : Nat) = some deflator ∧
        deflator.results ((referenceDeflation 2 1 twoBlocks).length + 1) =
          (referenceDeflation 2 1 twoBlocks).map (fun slice => .ok ⟨slice.block, wrapInt64 slice.index⟩) ++
            List.replicate 1 (.error .eof) :=
  have sized : ∀ pair ∈ twoBlocks, pair.block.length = 2 * 1 := by decide
  ⟨sized, deflator_returns_reference (by decide) (by decide) sized 1⟩

example : referenceDeflation 2 1 twoBlocks = [⟨[5], 1⟩, ⟨[7], 6⟩] := by decide

/-- One two-byte block at index `2^62`. -/
def farBlock : List BlockIndexPair := [⟨[1, 1], 2 ^ 62⟩]

/-- Deflating `farBlock` to one-byte blocks: `2^62 * 2` overflows `int64`, so
the two slices come out at `-2^63` and `-2^63 + 1`, where the reference puts
them at `2^63` and `2^63 + 1`. -/
theorem deflation_wraps_far_index :
    ∃ deflator : SizedBlockFetcher, sizedBlockFetcher (streamOf farBlock) 2 1 = some deflator ∧
      deflator.results 3 = [.ok ⟨[1], -2 ^ 63⟩, .ok ⟨[1], -2 ^ 63 + 1⟩, .error .eof] ∧
      referenceDeflation 2 1 farBlock = [⟨[1], 2 ^ 63⟩, ⟨[1], 2 ^ 63 + 1⟩] :=
  ⟨_, rfl, by decide, by decide⟩

end Backup
end Zerodisk
