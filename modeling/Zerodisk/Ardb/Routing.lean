import Zerodisk.Ardb.GoFloat

/-!
# Routing an object index to a server

`ComputeServerIndex` maps an object index to one of `serverCount` slots: by
`objectIndex % serverCount`, and when the predicate rejects that slot, by the
jump consistent hash, rehashing with `objectIndex + 1` until the predicate
accepts a candidate or fails. Both loops can run forever, and the model says
when: a loop that runs more rounds than its state has values repeats a state, so
`jumpLoop` with `2^128` rounds of fuel and `rehashLoop` with `2^64` answer
`hangs` exactly when the Go loop never ends.
-/

namespace Zerodisk
namespace Ardb

/-- `ErrNoServersAvailable`. -/
def errNoServersAvailable : GoError := "no servers available"

/-- `ServerIndexPredicate`: whether the slot at an index may be used, or an
error to quit the search. Calling it may panic, as an index out of range. -/
abbrev ServerIndexPredicate := Int → Outcome (Bool × Option GoError)

/-- `key = key*2862933555777941757 + 1` on a `uint64`. -/
def nextKey (key : Nat) : Nat := (key * 2862933555777941757 + 1) % 2 ^ 64

/-- `int64(float64(serverIndex+1) * (float64(int64(1)<<31) / float64((key>>33)+1)))`. -/
def jumpTarget (serverIndex : Int) (key : Nat) : Int :=
  (GoFloat.mul (GoFloat.ofInt (wrapInt64 (serverIndex + 1)))
    (GoFloat.div (GoFloat.ofInt (2 ^ 31)) (GoFloat.ofInt (key / 2 ^ 33 + 1 : Nat)))).toInt64

/-- The loop `for j < serverCount` of `ComputeServerIndex`, from its `key`,
`serverIndex` and `j`: the `serverIndex` it leaves. -/
def jumpLoop (serverCount : Int) : (fuel : Nat) → (key : Nat) → (serverIndex j : Int) → Outcome Int
  | 0, _, _, _ => .hangs
  | fuel + 1, key, serverIndex, j =>
    if j < serverCount then jumpLoop serverCount fuel (nextKey key) j (jumpTarget j (nextKey key))
    else .returns serverIndex

/-- The outer `for` loop of `ComputeServerIndex`: the jump hash of
`objectIndex` is the candidate; return it when the predicate accepts it or
fails, otherwise go on with `objectIndex++`. -/
def rehashLoop (serverCount : Int) (predicate : ServerIndexPredicate) :
    (fuel : Nat) → (objectIndex serverIndex : Int) → Outcome (Int × Option GoError)
  | 0, _, _ => .hangs
  | fuel + 1, objectIndex, serverIndex => do
    let serverIndex ← jumpLoop serverCount (2 ^ 128) (objectIndex % 2 ^ 64).toNat serverIndex 0
    let (ok, err) ← predicate serverIndex
    if ok || err.isSome then return (serverIndex, err)
    rehashLoop serverCount predicate fuel (wrapInt64 (objectIndex + 1)) serverIndex

/-- `ComputeServerIndex`: the modulo shard when the predicate accepts it,
otherwise the rehash loop. A zero `serverCount` divides by zero. -/
def computeServerIndex (serverCount objectIndex : Int) (predicate : ServerIndexPredicate) :
    Outcome (Int × Option GoError) :=
  if serverCount = 0 then .panics else do
  let serverIndex := objectIndex.tmod serverCount
  let (ok, err) ← predicate serverIndex
  if ok || err.isSome then return (serverIndex, err)
  rehashLoop serverCount predicate (2 ^ 64) objectIndex serverIndex

/-- The loop of `FindFirstServerIndex` from `serverIndex`, with `remaining`
slots left to try. -/
def findFirstFrom (predicate : ServerIndexPredicate) :
    (remaining : Nat) → (serverIndex : Int) → Outcome (Int × Option GoError)
  | 0, _ => .returns (-1, some errNoServersAvailable)
  | remaining + 1, serverIndex => do
    let (ok, err) ← predicate serverIndex
    if ok || err.isSome then return (serverIndex, err)
    findFirstFrom predicate remaining (serverIndex + 1)

/-- `FindFirstServerIndex`: the first slot the predicate accepts or fails on,
or `ErrNoServersAvailable`. -/
def findFirstServerIndex (serverCount : Int) (predicate : ServerIndexPredicate) :
    Outcome (Int × Option GoError) :=
  findFirstFrom predicate serverCount.toNat 0

/-- A predicate that rejects the modulo shard sends `ComputeServerIndex` into
its rehash loop. -/
theorem computeServerIndex_of_rejected {serverCount objectIndex : Int}
    {predicate : ServerIndexPredicate} (nonzero : serverCount ≠ 0)
    (rejected : predicate (objectIndex.tmod serverCount) = .returns (false, none)) :
    computeServerIndex serverCount objectIndex predicate =
      rehashLoop serverCount predicate (2 ^ 64) objectIndex (objectIndex.tmod serverCount) := by
  simp only [computeServerIndex, nonzero, if_false, rejected]
  rfl

end Ardb
end Zerodisk
