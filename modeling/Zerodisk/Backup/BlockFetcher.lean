import Zerodisk.Basic

/-!
# Block fetchers and the block-size adapters

A `blockFetcher` answers each `FetchBlock` with an `(index, block)` pair or an
error, `io.EOF` once it has no blocks left. `inflationBlockFetcher` glues `ratio`
small blocks into one big block, and `deflationBlockFetcher` cuts a big block
into `ratio` small ones and drops the all-zero ones. The inner fetchers answer a
finite list and then `io.EOF` forever. Both adapters carry their state across
calls as the Go structs do; `int64` arithmetic wraps, and the slice expressions
Go checks at run time (`copyIntoSlice`, `cutSlice`) answer `panic` when they fail.
-/

namespace Zerodisk
namespace Backup

/-- `blockIndexPair`: a fetched block and its index. -/
structure BlockIndexPair where
  /-- `Block`. -/
  block : Bytes
  /-- `Index`. -/
  index : Int
  deriving DecidableEq, Repr

/-- The errors a `FetchBlock` call can end with. -/
inductive FetchError
  /-- `io.EOF`: no blocks are left. -/
  | eof
  /-- Any other error of the inner fetcher, passed through. -/
  | failure (code : Nat)
  /-- A runtime panic: a slice expression out of range. -/
  | panic
  deriving DecidableEq, Repr

/-- The answer of one `FetchBlock` call: a pair, or an error. -/
inductive FetchResult
  /-- A block and its index, with a nil error. -/
  | ok (pair : BlockIndexPair)
  /-- A nil pair and an error. -/
  | error (e : FetchError)
  deriving DecidableEq, Repr

/-- The next answer of a fetcher that answers `answers` and then `io.EOF`
forever, and the answers it has left. -/
def fetchFrom : List FetchResult → FetchResult × List FetchResult
  | [] => (.error .eof, [])
  | answer :: answers => (answer, answers)

/-- `isNilBlock`: the block holds only zeros. -/
def isNilBlock (block : Bytes) : Bool := block.all (· == 0)

/-- `copy(dst[low:high], src)` on a slice whose capacity is its length: `none`
when the slice expression is out of range. -/
def copyIntoSlice (dst : Bytes) (low high : Int) (src : Bytes) : Option Bytes :=
  if 0 ≤ low ∧ low ≤ high ∧ high ≤ dst.length then
    some (dst.take low.toNat ++ copyBytes ((dst.drop low.toNat).take (high - low).toNat) src ++
      dst.drop high.toNat)
  else none

/-! ## The inflation fetcher -/

/-- `inflationBlockFetcher.cache`: the destination block being filled. -/
structure InflationCache where
  /-- `output`, `none` for a nil slice: no destination block is started. -/
  output : Option Bytes
  /-- `offset`: where the next source block goes in `output`. -/
  offset : Int
  /-- `prevIndex`: the index of the last source block copied. -/
  prevIndex : Int
  deriving DecidableEq, Repr

/-- `inflationBlockFetcher`. -/
structure InflationBlockFetcher where
  /-- `in`: the answers the inner fetcher has left. -/
  inner : List FetchResult
  /-- `srcBS`. -/
  srcBS : Int
  /-- `dstBS`. -/
  dstBS : Int
  /-- `ratio`. -/
  ratio : Int
  /-- `cache`. -/
  cache : InflationCache
  deriving DecidableEq, Repr

/-- `newInflationBlockFetcher`; `none` when `dstBS / srcBS` divides by zero. -/
def newInflationBlockFetcher (inner : List FetchResult) (srcBS dstBS : Int) :
    Option InflationBlockFetcher :=
  if srcBS = 0 then none else some ⟨inner, srcBS, dstBS, dstBS.tdiv srcBS, ⟨none, 0, 0⟩⟩

namespace InflationBlockFetcher

variable (ibf : InflationBlockFetcher)

/-- The destination block `FetchBlock` returns: `output` at the index of the
span of `prevIndex`, with the cache emptied. -/
def emit (output : Bytes) (answers : List FetchResult) (offset prevIndex : Int) :
    FetchResult × InflationBlockFetcher :=
  (.ok ⟨output, prevIndex.tdiv ibf.ratio⟩, { ibf with inner := answers, cache := ⟨none, offset, prevIndex⟩ })

/-- The loop `for ibf.cache.offset < ibf.dstBS` of `FetchBlock`, with `output`
started: fetch the next source block, move `offset` over an index gap and stop
when the gap leaves the span, otherwise copy the block in; stop at `io.EOF`,
and return any other error keeping the partial output. -/
def fill (output : Bytes) (offset prevIndex : Int) :
    List FetchResult → FetchResult × InflationBlockFetcher
  | [] => ibf.emit output [] offset prevIndex
  | answer :: rest =>
    if offset < ibf.dstBS then
      match answer with
      | .error .eof => ibf.emit output rest offset prevIndex
      | .error e =>
        (.error e, { ibf with inner := rest, cache := ⟨some output, offset, prevIndex⟩ })
      | .ok pair =>
        let indexDelta := wrapInt64 (pair.index - prevIndex)
        let jumps := decide (prevIndex ≥ 0 ∧ indexDelta > 1)
        let offset := if jumps then wrapInt64 (offset + wrapInt64 ((indexDelta - 1) * ibf.srcBS))
          else offset
        if jumps ∧ offset ≥ ibf.dstBS then ibf.emit output rest offset prevIndex
        else
          match copyIntoSlice output offset (wrapInt64 (offset + ibf.srcBS)) pair.block with
          | none => (.error .panic, { ibf with inner := rest, cache := ⟨some output, offset, pair.index⟩ })
          | some output => fill output (wrapInt64 (offset + ibf.srcBS)) pair.index rest
    else ibf.emit output (answer :: rest) offset prevIndex

/-- `inflationBlockFetcher.FetchBlock`: start a destination block with the next
source block unless one is started, then fill it. -/
def fetchBlock : FetchResult × InflationBlockFetcher :=
  match ibf.cache.output with
  | some output => ibf.fill output ibf.cache.offset ibf.cache.prevIndex ibf.inner
  | none =>
    match fetchFrom ibf.inner with
    | (.error e, rest) => (.error e, { ibf with inner := rest })
    | (.ok pair, rest) =>
      -- `blockPair.Index % ibf.ratio` divides by zero, after `output` is made
      if ibf.ratio = 0 then
        (.error .panic, { ibf with inner := rest, cache := { ibf.cache with output := some (zeroBytes ibf.dstBS.toNat) } })
      else
      let offset := wrapInt64 (pair.index.tmod ibf.ratio * ibf.srcBS)
      match copyIntoSlice (zeroBytes ibf.dstBS.toNat) offset (wrapInt64 (offset + ibf.srcBS))
          pair.block with
      | none => (.error .panic, { ibf with inner := rest, cache := ⟨some (zeroBytes ibf.dstBS.toNat), offset, pair.index⟩ })
      | some output =>
        ibf.fill output (wrapInt64 (offset + ibf.srcBS)) pair.index rest

/-- A full destination block is returned, whatever the answers left. -/
theorem fill_of_full {output : Bytes} {offset prev : Int} (full : ¬ offset < ibf.dstBS)
    (answers : List FetchResult) :
    ibf.fill output offset prev answers = ibf.emit output answers offset prev := by
  cases answers with
  | nil => rfl
  | cons answer rest => rw [fill.eq_def]; exact if_neg full

end InflationBlockFetcher

/-! ## The deflation fetcher -/

/-- `deflationBlockFetcher`. -/
structure DeflationBlockFetcher where
  /-- `in`: the answers the inner fetcher has left. -/
  inner : List FetchResult
  /-- `srcBS`. -/
  srcBS : Int
  /-- `dstBS`. -/
  dstBS : Int
  /-- `ratio`. -/
  ratio : Int
  /-- `cb`: the rest of the current source block. -/
  cb : Bytes
  /-- `cbi`: the index of the next slice of `cb`. -/
  cbi : Int
  deriving DecidableEq, Repr

/-- `newDeflationBlockFetcher`; `none` when `srcBS / dstBS` divides by zero. -/
def newDeflationBlockFetcher (inner : List FetchResult) (srcBS dstBS : Int) :
    Option DeflationBlockFetcher :=
  if dstBS = 0 then none else some ⟨inner, srcBS, dstBS, srcBS.tdiv dstBS, [], -1⟩

/-- How the loop `for len(dbf.cb) > 0` ends. -/
inductive SliceOutcome
  /-- A non-nil slice, its index, and the rest of the block and the next index. -/
  | found (block : Bytes) (index : Int) (cb : Bytes) (cbi : Int)
  /-- The block is used up; the next index. -/
  | drained (cbi : Int)
  /-- `dbf.cb[:dbf.dstBS]` was out of range. -/
  | panic
  deriving DecidableEq, Repr

/-- The loop `for len(dbf.cb) > 0`: cut `dstBS`-byte slices off `cb`, counting
each in `cbi`, until one is not nil. Every round shortens `cb`, so `fuel`
rounds for a `fuel`-byte `cb` are enough. -/
def cutSlice (dstBS : Int) : (fuel : Nat) → (cb : Bytes) → (cbi : Int) → SliceOutcome
  | 0, _, cbi => .drained cbi
  | fuel + 1, cb, cbi =>
    if cb.length = 0 then .drained cbi
    else if dstBS ≤ 0 ∨ cb.length < dstBS then .panic
    else if !isNilBlock (cb.take dstBS.toNat) then
      .found (cb.take dstBS.toNat) cbi (cb.drop dstBS.toNat) (wrapInt64 (cbi + 1))
    else cutSlice dstBS fuel (cb.drop dstBS.toNat) (wrapInt64 (cbi + 1))

namespace DeflationBlockFetcher

variable (dbf : DeflationBlockFetcher)

/-- The outer `for` loop of `FetchBlock`: hand out the next non-nil slice of
`cb`, or fetch the next source block and start over. -/
def loop (cb : Bytes) (cbi : Int) (answers : List FetchResult) :
    FetchResult × DeflationBlockFetcher :=
  match cutSlice dbf.dstBS cb.length cb cbi with
  | .found block index cb cbi => (.ok ⟨block, index⟩, { dbf with inner := answers, cb := cb, cbi := cbi })
  | .panic => (.error .panic, { dbf with inner := answers, cb := cb, cbi := cbi })
  | .drained cbi =>
    match answers with
    | [] => (.error .eof, { dbf with inner := [], cb := [], cbi := cbi })
    | .error e :: rest => (.error e, { dbf with inner := rest, cb := [], cbi := cbi })
    | .ok pair :: rest => loop pair.block (wrapInt64 (pair.index * dbf.ratio)) rest

/-- `deflationBlockFetcher.FetchBlock`. -/
def fetchBlock : FetchResult × DeflationBlockFetcher :=
  dbf.loop dbf.cb dbf.cbi dbf.inner

/-! The outer loop, one lemma per way `cutSlice` ends. Lean does not derive
equations for `loop`, so each lemma unfolds it with `delta`. -/

variable {dbf} {cb : Bytes} {cbi : Int}

/-- A non-nil slice is returned, and the rest of the block kept. -/
theorem loop_of_found {block cb' : Bytes} {index cbi' : Int}
    (cut : cutSlice dbf.dstBS cb.length cb cbi = .found block index cb' cbi') (answers : List FetchResult) :
    dbf.loop cb cbi answers = (.ok ⟨block, index⟩, { dbf with inner := answers, cb := cb', cbi := cbi' }) := by
  cases answers <;> (delta DeflationBlockFetcher.loop; dsimp only; rw [cut])

/-- A slice out of range panics. -/
theorem loop_of_panic (cut : cutSlice dbf.dstBS cb.length cb cbi = .panic) (answers : List FetchResult) :
    dbf.loop cb cbi answers = (.error .panic, { dbf with inner := answers, cb := cb, cbi := cbi }) := by
  cases answers <;> (delta DeflationBlockFetcher.loop; dsimp only; rw [cut])

/-- A drained block with no source answers left gives `io.EOF`. -/
theorem loop_of_drained_nil {cbi' : Int} (cut : cutSlice dbf.dstBS cb.length cb cbi = .drained cbi') :
    dbf.loop cb cbi [] = (.error .eof, { dbf with inner := [], cb := [], cbi := cbi' }) := by
  delta DeflationBlockFetcher.loop; dsimp only; rw [cut]

/-- A drained block passes the source's next error on. -/
theorem loop_of_drained_error {cbi' : Int} (cut : cutSlice dbf.dstBS cb.length cb cbi = .drained cbi')
    (e : FetchError) (rest : List FetchResult) :
    dbf.loop cb cbi (.error e :: rest) = (.error e, { dbf with inner := rest, cb := [], cbi := cbi' }) := by
  delta DeflationBlockFetcher.loop; dsimp only; rw [cut]

/-- A drained block moves on to the source's next block, whose first slice has
index `pair.index * ratio`. -/
theorem loop_of_drained_ok {cbi' : Int} (cut : cutSlice dbf.dstBS cb.length cb cbi = .drained cbi')
    (pair : BlockIndexPair) (rest : List FetchResult) :
    dbf.loop cb cbi (.ok pair :: rest) = dbf.loop pair.block (wrapInt64 (pair.index * dbf.ratio)) rest := by
  delta DeflationBlockFetcher.loop; dsimp only; rw [cut]

end DeflationBlockFetcher

/-! ## Choosing the adapter -/

/-- The fetcher `sizedBlockFetcher` returns. -/
inductive SizedBlockFetcher
  /-- `srcBS < dstBS`. -/
  | inflation (ibf : InflationBlockFetcher)
  /-- `srcBS > dstBS`. -/
  | deflation (dbf : DeflationBlockFetcher)
  /-- `srcBS = dstBS`: the inner fetcher itself. -/
  | unchanged (answers : List FetchResult)
  deriving DecidableEq, Repr

/-- `sizedBlockFetcher`; `none` when the adapter's constructor divides by zero. -/
def sizedBlockFetcher (bf : List FetchResult) (srcBS dstBS : Int) : Option SizedBlockFetcher :=
  if srcBS < dstBS then (newInflationBlockFetcher bf srcBS dstBS).map .inflation
  else if srcBS > dstBS then (newDeflationBlockFetcher bf srcBS dstBS).map .deflation
  else some (.unchanged bf)

namespace SizedBlockFetcher

/-- One `FetchBlock` call. -/
def fetchBlock : SizedBlockFetcher → FetchResult × SizedBlockFetcher
  | .inflation ibf => let (answer, ibf) := ibf.fetchBlock; (answer, .inflation ibf)
  | .deflation dbf => let (answer, dbf) := dbf.fetchBlock; (answer, .deflation dbf)
  | .unchanged answers => let (answer, answers) := fetchFrom answers; (answer, .unchanged answers)

/-- The answers of `n` successive `FetchBlock` calls. -/
def results : Nat → SizedBlockFetcher → List FetchResult
  | 0, _ => []
  | n + 1, f => f.fetchBlock.1 :: results n f.fetchBlock.2

/-- A bound on the number of answers before the first `io.EOF`: each answer
uses up a source answer or a byte of a source block. -/
def budget : SizedBlockFetcher → Nat
  | .inflation ibf => 2 * ibf.inner.length + 2
  | .deflation dbf => dbf.cb.length + dbf.inner.foldr (fun answer total =>
      (match answer with
      | .ok pair => pair.block.length + 1
      | .error _ => 1) + total) 0 + 1
  | .unchanged answers => answers.length + 1

/-- The answers up to the first `io.EOF`: what this fetcher gives a fetcher
wrapped around it. -/
def drain (f : SizedBlockFetcher) : List FetchResult :=
  (f.results f.budget).takeWhile (· != .error .eof)

end SizedBlockFetcher

end Backup
end Zerodisk
