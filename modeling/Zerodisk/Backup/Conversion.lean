import Zerodisk.Backup.BlockFetcher

/-!
# Block-size conversion

What the two adapters are for. Inflating by `ratio` turns small blocks into one
big block per destination span that holds a source index, each small block in
its slot (`referenceInflation`); deflating cuts each big block into its `ratio`
slices and keeps those not all zero, slice `k` of block `i` at index
`i * ratio + k` (`referenceDeflation`). Export inflates and import deflates, so
a round trip should give the stream back; the inflator's gap branch loses a
block and breaks it.
-/

namespace Zerodisk
namespace Backup

/-- The source blocks of a stream, as pairs. -/
def streamOf (blocks : List BlockIndexPair) : List FetchResult := blocks.map .ok

/-- The destination blocks an inflation by `ratio` of `srcBS`-byte source
blocks should give: one per destination span `index / ratio` that holds a
source index, in increasing order, whose `k`-th slot is the source block of
index `span * ratio + k`, or zeros where there is none. -/
def referenceInflation (ratio srcBS : Nat) (blocks : List BlockIndexPair) :
    List BlockIndexPair :=
  (blocks.map fun pair => pair.index / (ratio : Int)).eraseDups.map fun (span : Int) =>
    ⟨((List.range ratio).map fun (k : Nat) =>
      ((blocks.find? fun pair => pair.index = span * ratio + k).map (·.block)).getD
        (zeroBytes srcBS)).flatten, span⟩

/-- The destination blocks a deflation by `ratio` of `ratio * dstBS`-byte
source blocks should give: for each source block in order, its `ratio` slices
of `dstBS` bytes in order, slice `k` of the block of index `i` at index
`i * ratio + k`, with the all-zero slices left out. -/
def referenceDeflation (ratio dstBS : Nat) (blocks : List BlockIndexPair) : List BlockIndexPair :=
  blocks.flatMap fun pair =>
    ((List.range ratio).map fun k =>
      (⟨(pair.block.drop (k * dstBS)).take dstBS, pair.index * ratio + k⟩ : BlockIndexPair)).filter
        fun slice => !isNilBlock slice.block

/-- Two one-byte blocks whose indices `0` and `3` lie in the destination spans
`0` and `1` of an inflation to two-byte blocks. -/
def spanGapBlocks : List BlockIndexPair := [⟨[1], 0⟩, ⟨[2], 3⟩]

/-- Inflating `spanGapBlocks` from one-byte to two-byte blocks loses the
block of index `3`: the inflator answers one destination block and then
`io.EOF`, where the reference has a second block holding it. -/
theorem inflation_loses_block_after_span_gap :
    ∃ inflator : SizedBlockFetcher,
      sizedBlockFetcher (streamOf spanGapBlocks) 1 2 = some inflator ∧
      inflator.results 3 = [.ok ⟨[1, 0], 0⟩, .error .eof, .error .eof] ∧
      referenceInflation 2 1 spanGapBlocks = [⟨[1, 0], 0⟩, ⟨[0, 2], 1⟩] :=
  ⟨_, rfl, by decide, by decide⟩

/-- Deflating the inflated `spanGapBlocks` back to one-byte blocks gives only
the block of index `0`: the round trip loses the block of index `3`. -/
theorem sizedRoundTrip_loses_block_after_span_gap :
    ∃ inflator deflator : SizedBlockFetcher,
      sizedBlockFetcher (streamOf spanGapBlocks) 1 2 = some inflator ∧
      inflator.drain = [.ok ⟨[1, 0], 0⟩] ∧
      sizedBlockFetcher inflator.drain 2 1 = some deflator ∧
      deflator.results 2 = [.ok ⟨[1], 0⟩, .error .eof] :=
  ⟨_, _, rfl, by decide, rfl, by decide⟩

end Backup
end Zerodisk
