import Zerodisk.Backup.Conversion
import Mathlib.Tactic.Ring

/-!
# The reference inflation, span by span

When the source indices increase, `referenceInflation` is built one span at a
time: the blocks of the first span give the first destination block, and the
rest of the stream the others. A destination block is its `ratio` slots laid end
to end, and copying a source block into its span's block fills its slot.
`survivors` names the source blocks the inflator keeps: the gap branch drops a
block of a later span whenever the block copied before it does not fill the last
slot of its span.
-/

namespace Zerodisk
namespace Backup

/-! ## `eraseDups` -/

section EraseDups

variable {α : Type} [DecidableEq α]

/-- The loop of `eraseDups`, from the elements `seen` it has kept so far
(latest first): it keeps, in order, the first occurrence of each element it
has not seen. -/
theorem eraseDups_loop : ∀ (as seen : List α),
    List.eraseDups.loop as seen = seen.reverse ++ (as.filter fun a => a ∉ seen).eraseDups
  | [], seen => by simp [List.eraseDups.loop, List.eraseDups]
  | a :: as, seen => by
    by_cases member : a ∈ seen
    · simp only [List.eraseDups.loop, List.elem_eq_mem, member, decide_True, List.filter_cons,
        not_true_eq_false, decide_False, Bool.false_eq_true, if_false]
      exact eraseDups_loop as seen
    · have tail := eraseDups_loop (as.filter fun b => b ∉ seen) [a]
      simp only [List.eraseDups.loop, List.elem_eq_mem, member, decide_False, List.filter_cons,
        not_false_eq_true, decide_True, if_true, List.eraseDups, List.not_mem_nil,
        List.reverse_cons, List.reverse_nil, List.nil_append] at tail ⊢
      rw [eraseDups_loop as (a :: seen), tail, List.filter_filter]
      simp [List.eraseDups, List.mem_cons, not_or, and_comm]
termination_by as => as.length
decreasing_by all_goals simp_wf <;> exact Nat.lt_succ_of_le (List.length_filter_le _ _)

/-- `eraseDups` keeps the first element and erases its later copies. -/
theorem eraseDups_cons (a : α) (as : List α) :
    (a :: as).eraseDups = a :: (as.filter fun b => decide (b ≠ a)).eraseDups := by
  have loop := eraseDups_loop as [a]
  simp only [List.mem_singleton, List.reverse_singleton, List.singleton_append] at loop
  exact loop

/-- `eraseDups` keeps only elements of its list. -/
theorem mem_of_mem_eraseDups : ∀ {as : List α} {x : α}, x ∈ as.eraseDups → x ∈ as
  | [], _, member => by simp [List.eraseDups, List.eraseDups.loop] at member
  | a :: as, x, member => by
    rw [eraseDups_cons] at member
    rcases List.mem_cons.mp member with rfl | member
    · exact List.mem_cons_self _ _
    · exact List.mem_cons_of_mem _ (List.mem_of_mem_filter (mem_of_mem_eraseDups member))
termination_by as => as.length
decreasing_by simp_wf; exact Nat.lt_succ_of_le (List.length_filter_le _ _)

end EraseDups

/-! ## Slots -/

/-- The `k`-th slot of the reference destination block of `span`: the source
block of index `span * ratio + k`, or zeros. -/
def spanSlot (ratio srcBS : Nat) (blocks : List BlockIndexPair) (span : Int) (k : Nat) : Bytes :=
  ((blocks.find? fun pair => pair.index = span * ratio + k).map (·.block)).getD (zeroBytes srcBS)

/-- The reference destination block of `span`: its `ratio` slots end to end. -/
def spanBlock (ratio srcBS : Nat) (blocks : List BlockIndexPair) (span : Int) : Bytes :=
  ((List.range ratio).map (spanSlot ratio srcBS blocks span)).flatten

/-- The reference inflation is the destination block of each span it names. -/
theorem referenceInflation_eq_spanBlock (ratio srcBS : Nat) (blocks : List BlockIndexPair) :
    referenceInflation ratio srcBS blocks =
      (blocks.map fun pair => pair.index / (ratio : Int)).eraseDups.map fun span =>
        ⟨spanBlock ratio srcBS blocks span, span⟩ := rfl

/-- Slot `k < ratio` of span `span` lies in that span. -/
theorem slot_ediv_ratio {ratio k : Nat} (span : Int) (slot : k < ratio) :
    (span * ratio + k) / (ratio : Int) = span := by
  rw [Int.add_comm, Int.add_mul_ediv_right _ _ (by omega), Int.ediv_eq_zero_of_lt (by omega) (by omega),
    zero_add]

/-- Slot `k < ratio` of span `span` is slot `k` of its span. -/
theorem slot_emod_ratio {ratio k : Nat} (span : Int) (slot : k < ratio) :
    (span * ratio + k) % (ratio : Int) = k := by
  rw [Int.add_comm, Int.add_mul_emod_self, Int.emod_eq_of_lt (by omega) (by omega)]

section Slots

variable {ratio srcBS : Nat} {span : Int}

/-- A slot of `span` is not found among blocks of other spans. -/
theorem spanSlot_append_of_elsewhere {front back : List BlockIndexPair} {k : Nat} (slot : k < ratio)
    (elsewhere : ∀ pair ∈ back, pair.index / (ratio : Int) ≠ span) :
    spanSlot ratio srcBS (front ++ back) span k = spanSlot ratio srcBS front span k := by
  have missing : back.find? (fun pair => pair.index = span * ratio + k) = none := by
    simp only [List.find?_eq_none, decide_eq_true_eq]
    intro pair member same
    exact elsewhere pair member (by rw [same, slot_ediv_ratio span slot])
  simp only [spanSlot, List.find?_append, missing, Option.or_none]

/-- Blocks of other spans in front leave the slots of `span` as they are. -/
theorem spanSlot_append_of_elsewhere_front {front back : List BlockIndexPair} {k : Nat}
    (slot : k < ratio) (elsewhere : ∀ pair ∈ front, pair.index / (ratio : Int) ≠ span) :
    spanSlot ratio srcBS (front ++ back) span k = spanSlot ratio srcBS back span k := by
  have missing : front.find? (fun pair => pair.index = span * ratio + k) = none := by
    simp only [List.find?_eq_none, decide_eq_true_eq]
    intro pair member same
    exact elsewhere pair member (by rw [same, slot_ediv_ratio span slot])
  simp only [spanSlot, List.find?_append, missing, Option.none_or]

/-- Blocks of other spans after the blocks of `span` leave its destination block as it is. -/
theorem spanBlock_append_of_elsewhere {front back : List BlockIndexPair}
    (elsewhere : ∀ pair ∈ back, pair.index / (ratio : Int) ≠ span) :
    spanBlock ratio srcBS (front ++ back) span = spanBlock ratio srcBS front span := by
  simp only [spanBlock]
  congr 1
  exact List.map_congr_left fun k member =>
    spanSlot_append_of_elsewhere (List.mem_range.mp member) elsewhere

/-- Blocks of other spans before the blocks of `span` leave its destination block as it is. -/
theorem spanBlock_append_of_elsewhere_front {front back : List BlockIndexPair}
    (elsewhere : ∀ pair ∈ front, pair.index / (ratio : Int) ≠ span) :
    spanBlock ratio srcBS (front ++ back) span = spanBlock ratio srcBS back span := by
  simp only [spanBlock]
  congr 1
  exact List.map_congr_left fun k member =>
    spanSlot_append_of_elsewhere_front (List.mem_range.mp member) elsewhere

/-- With no blocks, every slot is zeros, and the destination block is the
zeroed `make([]byte, dstBS)`. -/
theorem spanBlock_nil : spanBlock ratio srcBS [] span = zeroBytes (ratio * srcBS) := by
  have zeros : spanSlot ratio srcBS [] span = fun _ => zeroBytes srcBS := rfl
  rw [spanBlock, zeros, List.map_const', List.length_range, zeroBytes, zeroBytes,
    List.flatten_replicate_replicate]

/-- A block of slot `k` of `span` that the earlier blocks do not hold fills
that slot. -/
theorem spanSlots_concat {run : List BlockIndexPair} {pair : BlockIndexPair} {k : Nat}
    (atSlot : pair.index = span * ratio + k) (fresh : ∀ earlier ∈ run, earlier.index ≠ pair.index) :
    (List.range ratio).map (spanSlot ratio srcBS (run ++ [pair]) span) =
      ((List.range ratio).map (spanSlot ratio srcBS run span)).set k pair.block := by
  apply List.ext_getElem (by simp)
  intro i _ _
  have notInRun : i = k → run.find? (fun earlier => earlier.index = span * ratio + i) = none := by
    rintro rfl
    simp only [List.find?_eq_none, decide_eq_true_eq]
    exact fun earlier member same => fresh earlier member (same.trans atSlot.symm)
  by_cases same : i = k
  · subst same
    simp [spanSlot, notInRun rfl, atSlot]
  · have other : ¬ pair.index = span * ratio + i := by rw [atSlot]; omega
    simp [spanSlot, List.getElem_set_ne (Ne.symm same), other]

/-- A slot is zeros or a source block, so it has `srcBS` bytes. -/
theorem length_spanSlot {blocks : List BlockIndexPair} (k : Nat)
    (sized : ∀ pair ∈ blocks, pair.block.length = srcBS) : (spanSlot ratio srcBS blocks span k).length = srcBS := by
  rw [spanSlot]
  cases found : blocks.find? fun pair => pair.index = span * ratio + k with
  | none => exact length_zeroBytes srcBS
  | some pair => exact sized pair (List.mem_of_find?_eq_some found)

end Slots

/-! ## Copying into a slot -/

/-- Chunks of `size` bytes end to end. -/
theorem length_flatten_of_sized {size : Nat} : ∀ {chunks : List Bytes},
    (∀ chunk ∈ chunks, chunk.length = size) → chunks.flatten.length = chunks.length * size
  | [], _ => by simp
  | chunk :: chunks, sized => by
    rw [List.flatten_cons, List.length_append, sized chunk (List.mem_cons_self _ _),
      length_flatten_of_sized fun c member => sized c (List.mem_cons_of_mem _ member), List.length_cons,
      Nat.succ_mul, Nat.add_comm]

/-- Copying a `size`-byte block over the `size` bytes that follow `k` chunks. -/
theorem copyIntoSlice_middle {size k : Nat} {front old back block : Bytes}
    (frontLength : front.length = k * size) (oldLength : old.length = size) (blockLength : block.length = size) :
    copyIntoSlice (front ++ old ++ back) (k * size) (k * size + size) block = some (front ++ block ++ back) := by
  have low : (k : Int) * size = front.length := by rw [frontLength]; simp
  rw [low, copyIntoSlice, if_pos ⟨by omega, by omega, by simp only [List.length_append, oldLength]; omega⟩]
  simp only [Int.toNat_natCast, ← Nat.cast_add, add_sub_cancel_left, List.append_assoc, List.take_left',
    List.drop_left']
  have width : ((front.length + size : Nat) - (front.length : Int)).toNat = size := by omega
  rw [width, List.take_left' oldLength, List.drop_append, List.drop_left' oldLength,
    copyBytes_of_length_le (by omega), oldLength, ← blockLength, List.take_length]

/-- Copying a `size`-byte block over slot `k` of slots of `size` bytes. -/
theorem copyIntoSlice_slot {size k : Nat} {slots : List Bytes} {block : Bytes}
    (sized : ∀ slot ∈ slots, slot.length = size) (slot : k < slots.length) (fits : block.length = size) :
    copyIntoSlice slots.flatten (k * size) (k * size + size) block = some (slots.set k block).flatten := by
  have front : (slots.take k).flatten.length = k * size := by
    rw [length_flatten_of_sized fun c member => sized c (List.mem_of_mem_take member), List.length_take,
      min_eq_left slot.le]
  have whole : slots = slots.take k ++ slots[k] :: slots.drop (k + 1) := by
    rw [List.getElem_cons_drop, List.take_append_drop]
  rw [List.set_eq_take_append_cons_drop, if_pos slot]
  conv => lhs; rw [whole]
  simp only [List.flatten_append, List.flatten_cons]
  rw [← List.append_assoc, copyIntoSlice_middle front (sized _ (List.getElem_mem slot)) fits, List.append_assoc]

/-- Copying the block of slot `k` of `span` into the destination block of
the earlier blocks of its span gives the destination block of them all. -/
theorem copyIntoSlice_spanBlock {ratio srcBS k : Nat} {span : Int} {run : List BlockIndexPair}
    {pair : BlockIndexPair} (slot : k < ratio) (atSlot : pair.index = span * ratio + k)
    (fresh : ∀ earlier ∈ run, earlier.index ≠ pair.index) (sized : ∀ p ∈ run ++ [pair], p.block.length = srcBS) :
    copyIntoSlice (spanBlock ratio srcBS run span) (k * srcBS) (k * srcBS + srcBS) pair.block =
      some (spanBlock ratio srcBS (run ++ [pair]) span) := by
  have runSized : ∀ p ∈ run, p.block.length = srcBS := fun p member => sized p (List.mem_append_left _ member)
  rw [spanBlock, spanBlock, spanSlots_concat atSlot fresh]
  refine copyIntoSlice_slot ?_ (by simpa using slot) (sized pair (by simp))
  simp only [List.mem_map, List.mem_range]
  rintro _ ⟨i, _, rfl⟩
  exact length_spanSlot i runSized

/-! ## Span by span -/

/-- On a stream whose first blocks all lie in `span` and whose other blocks
lie in later spans, the reference inflation is the destination block of
`span` followed by the reference inflation of the other blocks. -/
theorem referenceInflation_append_span {ratio srcBS : Nat} {span : Int} {first : BlockIndexPair}
    {others rest : List BlockIndexPair} (inSpan : ∀ pair ∈ first :: others, pair.index / (ratio : Int) = span)
    (later : ∀ pair ∈ rest, span < pair.index / (ratio : Int)) :
    referenceInflation ratio srcBS (first :: others ++ rest) =
      ⟨spanBlock ratio srcBS (first :: others) span, span⟩ :: referenceInflation ratio srcBS rest := by
  have elsewhere : ∀ pair ∈ rest, pair.index / (ratio : Int) ≠ span := fun pair member =>
    (later pair member).ne'
  have spans : ((others ++ rest).map fun pair => pair.index / (ratio : Int)).filter (fun t => decide (t ≠ span)) =
      rest.map fun pair => pair.index / (ratio : Int) := by
    rw [List.map_append, List.filter_append, List.filter_eq_nil_iff.mpr, List.filter_eq_self.mpr, List.nil_append]
    · simpa using elsewhere
    · simp only [List.mem_map, decide_eq_true_eq, not_not]
      rintro _ ⟨pair, member, rfl⟩
      exact inSpan pair (List.mem_cons_of_mem _ member)
  rw [referenceInflation_eq_spanBlock, referenceInflation_eq_spanBlock, List.cons_append, List.map_cons,
    inSpan first (List.mem_cons_self _ _), eraseDups_cons, spans, List.map_cons, ← List.cons_append,
    spanBlock_append_of_elsewhere elsewhere]
  congr 1
  refine List.map_congr_left fun t member => ?_
  obtain ⟨pair, inRest, rfl⟩ := List.mem_map.mp (mem_of_mem_eraseDups member)
  rw [spanBlock_append_of_elsewhere_front fun earlier inRun =>
    (inSpan earlier inRun).trans_ne (later pair inRest).ne]

/-! ## The blocks the inflator keeps -/

/-- The source blocks the inflator keeps, given the index `prev` of the
block it copied last into a destination block it has not returned yet
(`none` when there is none). A block that lies in a later span than
`prev`, when `prev` does not fill the last slot of its span, is fetched
by the gap branch and dropped, and the next block starts a destination
block. -/
def survivors (ratio : Nat) : Option Int → List BlockIndexPair → List BlockIndexPair
  | _, [] => []
  | none, pair :: rest => pair :: survivors ratio (some pair.index) rest
  | some prev, pair :: rest =>
    if prev / (ratio : Int) ≠ pair.index / (ratio : Int) ∧ prev % (ratio : Int) ≠ (ratio : Int) - 1 then
      survivors ratio none rest
    else pair :: survivors ratio (some pair.index) rest

/-- A block that lies in the span of `prev`, or follows a block in the last
slot of its span, is kept. -/
theorem survivors_keep {ratio : Nat} {prev : Int} {pair : BlockIndexPair} {rest : List BlockIndexPair}
    (kept : ¬ (prev / (ratio : Int) ≠ pair.index / (ratio : Int) ∧ prev % (ratio : Int) ≠ (ratio : Int) - 1)) :
    survivors ratio (some prev) (pair :: rest) = pair :: survivors ratio (some pair.index) rest := by
  rw [survivors, if_neg kept]

/-- A block of a later span than `prev`, when `prev` is not in the last
slot of its span, is dropped. -/
theorem survivors_drop {ratio : Nat} {prev : Int} {pair : BlockIndexPair} {rest : List BlockIndexPair}
    (dropped : prev / (ratio : Int) ≠ pair.index / (ratio : Int) ∧ prev % (ratio : Int) ≠ (ratio : Int) - 1) :
    survivors ratio (some prev) (pair :: rest) = survivors ratio none rest := by
  rw [survivors, if_pos dropped]

/-- The inflator keeps blocks of its stream, in order. -/
theorem survivors_sublist (ratio : Nat) :
    ∀ (prev : Option Int) (blocks : List BlockIndexPair), (survivors ratio prev blocks).Sublist blocks
  | none, [] | some _, [] => List.Sublist.slnil
  | none, pair :: rest => (survivors_sublist ratio _ rest).cons₂ pair
  | some prev, pair :: rest => by
    rw [survivors]
    split
    · exact (survivors_sublist ratio none rest).cons pair
    · exact (survivors_sublist ratio _ rest).cons₂ pair

/-- No index gap leaves a span early: every block that a block of a later span
follows fills the last slot of its span. -/
def SpansClosed (ratio : Nat) (blocks : List BlockIndexPair) : Prop :=
  blocks.Chain' fun a b => a.index / (ratio : Int) = b.index / (ratio : Int) ∨ a.index % (ratio : Int) = (ratio : Int) - 1

/-- After a block of a stream whose spans are closed, the inflator keeps every block. -/
theorem survivors_some_of_spansClosed {ratio : Nat} :
    ∀ {pair : BlockIndexPair} {rest : List BlockIndexPair}, SpansClosed ratio (pair :: rest) →
      survivors ratio (some pair.index) rest = rest
  | _, [], _ => rfl
  | _, _ :: _, closed => by
    obtain ⟨closes, closedRest⟩ := List.chain_cons.mp closed
    rw [survivors_keep fun ⟨differ, notLast⟩ => closes.elim differ notLast, survivors_some_of_spansClosed closedRest]

/-- On a stream whose spans are closed, the inflator keeps every block. -/
theorem survivors_of_spansClosed {ratio : Nat} :
    ∀ {blocks : List BlockIndexPair}, SpansClosed ratio blocks → survivors ratio none blocks = blocks
  | [], _ => rfl
  | _ :: _, closed => congrArg _ (survivors_some_of_spansClosed closed)

/-- A stream of consecutive indices has closed spans: a block followed by one
of another span is the last of its span. -/
theorem spansClosed_of_consecutive {ratio : Nat} (wide : 0 < ratio) :
    ∀ {blocks : List BlockIndexPair}, blocks.Chain' (fun a b => b.index = a.index + 1) → SpansClosed ratio blocks
  | [], _ => trivial
  | _ :: _, consecutive => consecutive.imp fun a b next => by
    by_cases last : a.index % (ratio : Int) = (ratio : Int) - 1
    · exact .inr last
    · have below := Int.emod_lt_of_pos a.index (show (0 : Int) < ratio by omega)
      have nonneg := Int.emod_nonneg a.index (show (ratio : Int) ≠ 0 by omega)
      have whole := Int.emod_add_ediv a.index ratio
      exact .inl ((@Int.ediv_emod_unique b.index ratio (a.index % ratio + 1) (a.index / ratio)
        (by omega)).mpr ⟨by rw [next]; omega, by omega, by omega⟩).1.symm

end Backup
end Zerodisk
