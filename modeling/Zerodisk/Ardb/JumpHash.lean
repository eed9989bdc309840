import Zerodisk.Ardb.Rounding
import Zerodisk.Ardb.Routing

/-!
# The routing of `ComputeServerIndex` is sound

For every slot count from 1 to `2^31` and every object index `≥ 0`,
`ComputeServerIndex` only asks the predicate about slots, every run of its jump
loop returns a slot within `serverCount` rounds, and what it returns is a slot
the predicate accepted or an error the predicate gave. The heart of it is that
a jump always goes past the slot it starts from (`jumpTarget_gt`), whatever the
`float64` rounding does. Whether the rehash loop ends depends on the hashes of
all later object indices, which these lemmas do not settle.
-/

namespace Zerodisk
namespace Ardb

/-! ## One jump -/

/-- The float step of the jump hash: `float64(slots) * (float64(2^31) / float64(divisor))`
for `slots` and `divisor` in `[1, 2^31]` is non-negative, at least `slots`, and below `2^63`. -/
theorem jumpProduct_bounds {slots divisor : Nat} (slotsPos : 0 < slots) (slotsLe : slots ≤ 2 ^ 31)
    (divisorPos : 0 < divisor) (divisorLe : divisor ≤ 2 ^ 31) :
    (GoFloat.mul (GoFloat.ofInt slots)
        (GoFloat.div (GoFloat.ofInt ((2 ^ 31 : Nat) : Int)) (GoFloat.ofInt divisor))).negative = false ∧
      (slots : ℚ) ≤ (GoFloat.mul (GoFloat.ofInt slots)
        (GoFloat.div (GoFloat.ofInt ((2 ^ 31 : Nat) : Int)) (GoFloat.ofInt divisor))).value ∧
      (GoFloat.mul (GoFloat.ofInt slots)
        (GoFloat.div (GoFloat.ofInt ((2 ^ 31 : Nat) : Int)) (GoFloat.ofInt divisor))).value < 2 ^ 63 := by
  obtain ⟨slotsNonneg, slotsValue⟩ := GoFloat.ofInt_exact slotsPos (by omega)
  obtain ⟨topNonneg, topValue⟩ := @GoFloat.ofInt_exact (2 ^ 31) (by norm_num) (by norm_num)
  obtain ⟨divisorNonneg, divisorValue⟩ := GoFloat.ofInt_exact divisorPos (by omega)
  have divisorQ : (0 : ℚ) < divisor := by exact_mod_cast divisorPos
  have divisorOne : (1 : ℚ) ≤ divisor := by exact_mod_cast divisorPos
  have divisorQLe : (divisor : ℚ) ≤ 2 ^ 31 := by exact_mod_cast divisorLe
  have slotsQLe : (slots : ℚ) ≤ 2 ^ 31 := by exact_mod_cast slotsLe
  have atLeastOne : ((1 : Nat) : ℚ) ≤ (GoFloat.ofInt ((2 ^ 31 : Nat) : Int)).value / (GoFloat.ofInt divisor).value := by
    rw [topValue, divisorValue, Nat.cast_one, le_div_iff₀ divisorQ, one_mul]
    push_cast
    exact divisorQLe
  obtain ⟨quotientNonneg, quotientLow, quotientHigh⟩ := GoFloat.div_bounds topNonneg divisorNonneg
    (GoFloat.mantissa_pos_of_value_pos divisorNonneg (by rw [divisorValue]; exact divisorQ)) (by norm_num)
    atLeastOne
  generalize GoFloat.div (GoFloat.ofInt ((2 ^ 31 : Nat) : Int)) (GoFloat.ofInt divisor) = quotient
    at quotientNonneg quotientLow quotientHigh ⊢
  rw [topValue, divisorValue] at quotientHigh
  rw [Nat.cast_one] at quotientLow
  have shareLe : ((2 ^ 31 : Nat) : ℚ) / divisor ≤ 2 ^ 31 := by
    rw [div_le_iff₀ divisorQ]; push_cast; exact le_mul_of_one_le_right (by positivity) divisorOne
  have quotientLe : quotient.value ≤ 2 ^ 31 + 2 ^ 31 / 2 ^ 52 :=
    quotientHigh.trans (add_le_add shareLe (div_le_div_of_nonneg_right shareLe (by positivity)))
  obtain ⟨productNonneg, productLow, productHigh⟩ := GoFloat.mul_bounds slotsNonneg quotientNonneg
    (by omega : slots ≤ 2 ^ 53) (by rw [slotsValue]; exact le_mul_of_one_le_right (Nat.cast_nonneg _) quotientLow)
  rw [slotsValue] at productHigh
  have exactLe : (slots : ℚ) * quotient.value ≤ 2 ^ 31 * (2 ^ 31 + 2 ^ 31 / 2 ^ 52) :=
    mul_le_mul slotsQLe quotientLe (zero_le_one.trans quotientLow) (by norm_num)
  refine ⟨productNonneg, productLow, ?_⟩
  calc _ ≤ (slots : ℚ) * quotient.value + slots * quotient.value / 2 ^ 52 := productHigh
    _ ≤ 2 ^ 31 * (2 ^ 31 + 2 ^ 31 / 2 ^ 52) + 2 ^ 31 * (2 ^ 31 + 2 ^ 31 / 2 ^ 52) / 2 ^ 52 :=
      add_le_add exactLe (div_le_div_of_nonneg_right exactLe (by positivity))
    _ < 2 ^ 63 := by norm_num

/-- The jump of the consistent hash from `serverIndex` goes past it: the
quotient `2^31 / ((key >> 33) + 1)` is at least one, so the product with
`serverIndex + 1` is at least `serverIndex + 1`, and `float64` rounding cannot
take a value below a natural of at most 53 bits under it. -/
theorem jumpTarget_gt {serverIndex : Int} (nonneg : 0 ≤ serverIndex) (small : serverIndex < 2 ^ 31)
    {key : Nat} (keySmall : key < 2 ^ 64) : serverIndex < jumpTarget serverIndex key := by
  obtain ⟨productNonneg, productLow, productSmall⟩ :=
    @jumpProduct_bounds (serverIndex + 1).toNat (key / 2 ^ 33 + 1) (by omega) (by omega) (by omega) (by omega)
  have slotsEq : wrapInt64 (serverIndex + 1) = (((serverIndex + 1).toNat : Nat) : Int) := by
    rw [wrapInt64_of_inRange ⟨by omega, by omega⟩]; omega
  have twoPow : GoFloat.ofInt (2 ^ 31) = GoFloat.ofInt ((2 ^ 31 : Nat) : Int) := by norm_num
  rw [jumpTarget, slotsEq, twoPow, GoFloat.toInt64_of_nonneg productNonneg productSmall]
  have := Nat.le_floor productLow
  omega

theorem nextKey_lt (key : Nat) : nextKey key < 2 ^ 64 := Nat.mod_lt _ (by norm_num)

section JumpLoop

variable {serverCount : Int}

/-- The jump loop from a `j` at or after `0`, with more rounds of fuel than
slots are left after `j`, returns a slot: the last `j` below `serverCount`, or
the `serverIndex` it started with when `j` is already past the slots. -/
theorem jumpLoop_returns (countLe : serverCount ≤ 2 ^ 31) : ∀ (fuel key : Nat) (serverIndex j : Int), 0 ≤ j →
    (serverCount - j).toNat < fuel → (j < serverCount ∨ 0 ≤ serverIndex ∧ serverIndex < serverCount) →
    ∃ i, jumpLoop serverCount fuel key serverIndex j = .returns i ∧ 0 ≤ i ∧ i < serverCount
  | 0, _, _, _, _, bound, _ => absurd bound (Nat.not_lt_zero _)
  | fuel + 1, key, serverIndex, j, nonneg, bound, inRange => by
    rw [jumpLoop]
    split
    · next below =>
      have passes := jumpTarget_gt nonneg (by omega) (nextKey_lt key)
      exact jumpLoop_returns countLe fuel (nextKey key) j _ (by omega) (by omega) (.inr ⟨nonneg, below⟩)
    · next past => exact ⟨serverIndex, rfl, by omega, by omega⟩

/-- More fuel does not change what the jump loop returns. -/
theorem jumpLoop_add_fuel {i : Int} : ∀ (fuel extra key : Nat) (serverIndex j : Int),
    jumpLoop serverCount fuel key serverIndex j = .returns i →
      jumpLoop serverCount (fuel + extra) key serverIndex j = .returns i
  | 0, _, _, _, _, hangs => by cases hangs
  | fuel + 1, extra, key, serverIndex, j, returns => by
    rw [Nat.add_right_comm, jumpLoop]
    rw [jumpLoop] at returns
    split at returns
    · next below => rw [if_pos below]; exact jumpLoop_add_fuel fuel extra _ _ _ returns
    · next past => rw [if_neg past]; exact returns

end JumpLoop

section Rehash

variable {serverCount : Int}

/-- Every run of the jump loop of `ComputeServerIndex`, from `j = 0`, returns a
slot within its `2^128` rounds of fuel. -/
theorem jumpLoop_from_zero (countPos : 0 < serverCount) (countLe : serverCount ≤ 2 ^ 31) (key : Nat) (serverIndex : Int) :
    ∃ i, jumpLoop serverCount (2 ^ 128) key serverIndex 0 = .returns i ∧ 0 ≤ i ∧ i < serverCount :=
  jumpLoop_returns countLe _ key serverIndex 0 le_rfl (by omega) (.inl countPos)

/-- The rehash loop only reads the predicate at slots. -/
theorem rehashLoop_congr (countPos : 0 < serverCount) (countLe : serverCount ≤ 2 ^ 31)
    {predicate predicate' : ServerIndexPredicate}
    (agree : ∀ i, 0 ≤ i → i < serverCount → predicate i = predicate' i) :
    ∀ (fuel : Nat) (objectIndex serverIndex : Int),
      rehashLoop serverCount predicate fuel objectIndex serverIndex =
        rehashLoop serverCount predicate' fuel objectIndex serverIndex
  | 0, _, _ => rfl
  | fuel + 1, objectIndex, serverIndex => by
    obtain ⟨i, jumped, nonneg, below⟩ := jumpLoop_from_zero countPos countLe (objectIndex % 2 ^ 64).toNat serverIndex
    simp only [rehashLoop, jumped, Outcome.returns_bind, agree i nonneg below,
      rehashLoop_congr countPos countLe agree fuel]

/-- What the rehash loop returns is a slot and the answer the predicate gave
there, one that ends the loop. -/
theorem rehashLoop_returns (countPos : 0 < serverCount) (countLe : serverCount ≤ 2 ^ 31)
    {predicate : ServerIndexPredicate} :
    ∀ (fuel : Nat) (objectIndex serverIndex i : Int) (err : Option GoError),
      rehashLoop serverCount predicate fuel objectIndex serverIndex = .returns (i, err) →
      0 ≤ i ∧ i < serverCount ∧ ∃ ok, predicate i = .returns (ok, err) ∧ (ok || err.isSome) = true
  | 0, _, _, _, _, hangs => by cases hangs
  | fuel + 1, objectIndex, serverIndex, i, err, returned => by
    obtain ⟨candidate, jumped, nonneg, below⟩ :=
      jumpLoop_from_zero countPos countLe (objectIndex % 2 ^ 64).toNat serverIndex
    rw [rehashLoop, jumped, Outcome.returns_bind] at returned
    cases answer : predicate candidate with
    | returns result =>
      obtain ⟨ok, candidateErr⟩ := result
      rw [answer, Outcome.returns_bind] at returned
      by_cases stops : (ok || candidateErr.isSome) = true
      · simp only [stops, if_true, Outcome.pure_eq_returns] at returned
        cases returned
        exact ⟨nonneg, below, ok, answer, stops⟩
      · simp only [stops, if_false, Outcome.pure_eq_returns, Outcome.returns_bind] at returned
        exact rehashLoop_returns countPos countLe fuel _ _ i err returned
    | panics => rw [answer] at returned; cases returned
    | hangs => rw [answer] at returned; cases returned

/-- The rehash loop never panics when the predicate does not panic at a
slot. -/
theorem rehashLoop_ne_panics (countPos : 0 < serverCount) (countLe : serverCount ≤ 2 ^ 31)
    {predicate : ServerIndexPredicate} (total : ∀ i, 0 ≤ i → i < serverCount → predicate i ≠ .panics) :
    ∀ (fuel : Nat) (objectIndex serverIndex : Int),
      rehashLoop serverCount predicate fuel objectIndex serverIndex ≠ .panics
  | 0, _, _ => Outcome.noConfusion
  | fuel + 1, objectIndex, serverIndex => by
    obtain ⟨candidate, jumped, nonneg, below⟩ :=
      jumpLoop_from_zero countPos countLe (objectIndex % 2 ^ 64).toNat serverIndex
    rw [rehashLoop, jumped, Outcome.returns_bind]
    cases answer : predicate candidate with
    | returns result =>
      obtain ⟨ok, err⟩ := result
      simp only [Outcome.returns_bind, Outcome.pure_eq_returns]
      split
      · exact Outcome.noConfusion
      · exact rehashLoop_ne_panics countPos countLe total fuel _ _
    | panics => exact absurd answer (total candidate nonneg below)
    | hangs => exact Outcome.noConfusion

end Rehash

/-! ## `ComputeServerIndex` -/

section ComputeServerIndex

variable {serverCount objectIndex : Int}

/-- The modulo shard of a non-negative object index is a slot. -/
theorem tmod_mem_slots (countPos : 0 < serverCount) (nonneg : 0 ≤ objectIndex) :
    0 ≤ objectIndex.tmod serverCount ∧ objectIndex.tmod serverCount < serverCount := by
  rw [Int.tmod_eq_emod nonneg countPos.le]
  exact ⟨Int.emod_nonneg _ countPos.ne', Int.emod_lt_of_pos _ countPos⟩

/-- `ComputeServerIndex` only reads the predicate at slots. -/
theorem computeServerIndex_congr (countPos : 0 < serverCount) (countLe : serverCount ≤ 2 ^ 31)
    (nonneg : 0 ≤ objectIndex) {predicate predicate' : ServerIndexPredicate}
    (agree : ∀ i, 0 ≤ i → i < serverCount → predicate i = predicate' i) :
    computeServerIndex serverCount objectIndex predicate = computeServerIndex serverCount objectIndex predicate' := by
  obtain ⟨modNonneg, modBelow⟩ := tmod_mem_slots countPos nonneg
  simp only [computeServerIndex, agree _ modNonneg modBelow, rehashLoop_congr countPos countLe agree]

/-- What `ComputeServerIndex` returns is a slot and the answer the predicate
gave there, one that ends the search. -/
theorem computeServerIndex_returns (countPos : 0 < serverCount) (countLe : serverCount ≤ 2 ^ 31)
    (nonneg : 0 ≤ objectIndex) {predicate : ServerIndexPredicate} {i : Int} {err : Option GoError}
    (returned : computeServerIndex serverCount objectIndex predicate = .returns (i, err)) :
    0 ≤ i ∧ i < serverCount ∧ ∃ ok, predicate i = .returns (ok, err) ∧ (ok || err.isSome) = true := by
  obtain ⟨modNonneg, modBelow⟩ := tmod_mem_slots countPos nonneg
  rw [computeServerIndex, if_neg countPos.ne'] at returned
  cases answer : predicate (objectIndex.tmod serverCount) with
  | returns result =>
    obtain ⟨ok, modErr⟩ := result
    simp only [answer, Outcome.returns_bind] at returned
    by_cases stops : (ok || modErr.isSome) = true
    · simp only [stops, if_true, Outcome.pure_eq_returns] at returned
      cases returned
      exact ⟨modNonneg, modBelow, ok, answer, stops⟩
    · simp only [stops, if_false, Outcome.pure_eq_returns, Outcome.returns_bind] at returned
      exact rehashLoop_returns countPos countLe _ _ _ i err returned
  | panics => simp only [answer] at returned; cases returned
  | hangs => simp only [answer] at returned; cases returned

/-- `ComputeServerIndex` never panics when the predicate does not panic at a
slot. -/
theorem computeServerIndex_ne_panics (countPos : 0 < serverCount) (countLe : serverCount ≤ 2 ^ 31)
    (nonneg : 0 ≤ objectIndex) {predicate : ServerIndexPredicate}
    (total : ∀ i, 0 ≤ i → i < serverCount → predicate i ≠ .panics) :
    computeServerIndex serverCount objectIndex predicate ≠ .panics := by
  obtain ⟨modNonneg, modBelow⟩ := tmod_mem_slots countPos nonneg
  rw [computeServerIndex, if_neg countPos.ne']
  dsimp only
  cases answer : predicate (objectIndex.tmod serverCount) with
  | returns result =>
    obtain ⟨ok, err⟩ := result
    simp only [Outcome.returns_bind, Outcome.pure_eq_returns]
    split
    · exact Outcome.noConfusion
    · exact rehashLoop_ne_panics countPos countLe total _ _ _
  | panics => exact absurd answer (total _ modNonneg modBelow)
  | hangs => exact Outcome.noConfusion

/-- With a predicate that accepts every slot, `ComputeServerIndex` is the
modulo shard. -/
theorem computeServerIndex_acceptAll (countPos : 0 < serverCount) (nonneg : 0 ≤ objectIndex) :
    computeServerIndex serverCount objectIndex (fun _ => .returns (true, none)) =
      .returns (objectIndex % serverCount, none) := by
  rw [computeServerIndex, if_neg countPos.ne', ← Int.tmod_eq_emod nonneg countPos.le]
  rfl

end ComputeServerIndex

/-- What the routing of `serverCount` slots guarantees for `objectIndex`. -/
structure RoutingSound (serverCount objectIndex : Int) : Prop where
  /-- The predicate is asked about slots only: its answers elsewhere never
  change the outcome, through the rehash loop as well. -/
  readsSlotsOnly : ∀ predicate predicate' : ServerIndexPredicate,
    (∀ i, 0 ≤ i → i < serverCount → predicate i = predicate' i) →
      computeServerIndex serverCount objectIndex predicate =
        computeServerIndex serverCount objectIndex predicate'
  /-- Every jump from a slot goes past it. -/
  jumpPasses : ∀ (serverIndex : Int) (key : Nat), 0 ≤ serverIndex → serverIndex < serverCount →
    key < 2 ^ 64 → serverIndex < jumpTarget serverIndex key
  /-- Every run of the jump loop returns a slot within `serverCount` rounds,
  and so within the `2^128` rounds of the model. -/
  jumpLoopReturns : ∀ (key : Nat) (serverIndex : Int), ∃ i,
    jumpLoop serverCount (serverCount.toNat + 1) key serverIndex 0 = .returns i ∧
      jumpLoop serverCount (2 ^ 128) key serverIndex 0 = .returns i ∧ 0 ≤ i ∧ i < serverCount
  /-- A slot returned without an error is one the predicate accepted. -/
  accepted : ∀ (predicate : ServerIndexPredicate) (i : Int),
    computeServerIndex serverCount objectIndex predicate = .returns (i, none) →
      0 ≤ i ∧ i < serverCount ∧ predicate i = .returns (true, none)
  /-- An error returned is the one the predicate gave at the slot returned. -/
  failed : ∀ (predicate : ServerIndexPredicate) (i : Int) (err : GoError),
    computeServerIndex serverCount objectIndex predicate = .returns (i, some err) →
      0 ≤ i ∧ i < serverCount ∧ ∃ ok, predicate i = .returns (ok, some err)
  /-- A predicate that accepts every slot gets the modulo shard. -/
  modulo : computeServerIndex serverCount objectIndex (fun _ => .returns (true, none)) =
    .returns (objectIndex % serverCount, none)

/-- The routing is sound for every slot count `1 ≤ serverCount ≤ 2^31` and
every object index `objectIndex ≥ 0`. -/
theorem computeServerIndex_sound {serverCount objectIndex : Int} (countPos : 1 ≤ serverCount)
    (countLe : serverCount ≤ 2 ^ 31) (nonneg : 0 ≤ objectIndex) : RoutingSound serverCount objectIndex where
  readsSlotsOnly _ _ agree := computeServerIndex_congr countPos countLe nonneg agree
  jumpPasses _ _ slotNonneg slotBelow keySmall := jumpTarget_gt slotNonneg (by omega) keySmall
  jumpLoopReturns key serverIndex := by
    obtain ⟨i, returned, slotNonneg, slotBelow⟩ :=
      jumpLoop_returns countLe (serverCount.toNat + 1) key serverIndex 0 le_rfl (by omega) (.inl (by omega))
    refine ⟨i, returned, ?_, slotNonneg, slotBelow⟩
    have more := jumpLoop_add_fuel _ (2 ^ 128 - (serverCount.toNat + 1)) key serverIndex 0 returned
    rwa [Nat.add_sub_cancel' (by omega)] at more
  accepted _ _ returned := by
    obtain ⟨slotNonneg, slotBelow, ok, answer, stops⟩ := computeServerIndex_returns countPos countLe nonneg returned
    simp only [Option.isSome_none, Bool.or_false] at stops
    exact ⟨slotNonneg, slotBelow, stops ▸ answer⟩
  failed _ _ _ returned := by
    obtain ⟨slotNonneg, slotBelow, ok, answer, _⟩ := computeServerIndex_returns countPos countLe nonneg returned
    exact ⟨slotNonneg, slotBelow, ok, answer⟩
  modulo := computeServerIndex_acceptAll countPos nonneg

/-- Three slots and object index `5`: the routing bounds hold. -/
theorem computeServerIndex_sound_threeSlots :
    1 ≤ (3 : Int) ∧ (3 : Int) ≤ 2 ^ 31 ∧ 0 ≤ (5 : Int) ∧ RoutingSound 3 5 :=
  ⟨by decide, by decide, by decide, computeServerIndex_sound (by decide) (by decide) (by decide)⟩

end Ardb
end Zerodisk
