import Zerodisk.Backup.BlockFetcher

/-!
# Transient source errors

A source fetcher may answer `FetchBlock` with an error other than `io.EOF` and go
on afterwards. Both adapters return such an error at once and keep their state,
so every call either returns the source's next error and leaves pending the call
the adapter would make without errors, or is that call (`CallStep`). By
induction on the calls, the adapter passes the errors through in order and
otherwise answers as it does on the source without them; every call that does
not panic leaves it less to read, so every error gets through unless a panic
comes first.
-/

namespace Zerodisk
namespace Backup

/-- An error of the source other than `io.EOF`. -/
def FetchResult.isFailure : FetchResult → Bool
  | .error (.failure _) => true
  | _ => false

/-- The errors among `answers`, in order. -/
def failures (answers : List FetchResult) : List FetchResult :=
  answers.filter (·.isFailure)

/-- `answers` without its errors. -/
def withoutFailures (answers : List FetchResult) : List FetchResult :=
  answers.filter (!·.isFailure)

section Answers

variable {answer : FetchResult} {answers : List FetchResult}

theorem failures_cons_of_isFailure (failed : answer.isFailure) :
    failures (answer :: answers) = answer :: failures answers :=
  List.filter_cons_of_pos failed

theorem failures_cons_of_passes (passes : answer.isFailure = false) :
    failures (answer :: answers) = failures answers :=
  List.filter_cons_of_neg (by simp [passes])

theorem withoutFailures_cons_of_isFailure (failed : answer.isFailure) :
    withoutFailures (answer :: answers) = withoutFailures answers :=
  List.filter_cons_of_neg (by simp [failed])

theorem withoutFailures_cons_of_passes (passes : answer.isFailure = false) :
    withoutFailures (answer :: answers) = answer :: withoutFailures answers :=
  List.filter_cons_of_pos (by simp [passes])

end Answers

/-- One call `call` of a fetcher reading `answers`, against the call
`cleanCall` the same fetcher makes on `withoutFailures answers`: either it
returns the source's next error and leaves `cleanCall` pending, or it
consumes no error and is `cleanCall`. -/
def CallStep {F : Type} (inner : F → List FetchResult) (cleaned : F → F)
    (fetchBlock : F → FetchResult × F) (answers : List FetchResult) (cleanCall call : FetchResult × F) :
    Prop :=
  (call.1.isFailure ∧ failures answers = call.1 :: failures (inner call.2) ∧
      fetchBlock (cleaned call.2) = cleanCall) ∨
    (call.1.isFailure = false ∧ failures (inner call.2) = failures answers ∧
      cleanCall = (call.1, cleaned call.2))

/-- A call step carries over to a fetcher that wraps another one. -/
theorem CallStep.map {F G : Type} {innerF : F → List FetchResult} {cleanedF : F → F}
    {fetchBlockF : F → FetchResult × F} {innerG : G → List FetchResult} {cleanedG : G → G}
    {fetchBlockG : G → FetchResult × G} {answers : List FetchResult} {cleanCall call : FetchResult × F}
    (step : CallStep innerF cleanedF fetchBlockF answers cleanCall call) (wrap : F → G)
    (inner : ∀ f, innerG (wrap f) = innerF f) (cleaned : ∀ f, cleanedG (wrap f) = wrap (cleanedF f))
    (fetchBlock : ∀ f, fetchBlockG (wrap f) = ((fetchBlockF f).1, wrap (fetchBlockF f).2)) :
    CallStep innerG cleanedG fetchBlockG answers (cleanCall.1, wrap cleanCall.2) (call.1, wrap call.2) := by
  rcases step with ⟨failed, returned, pending⟩ | ⟨passes, kept, same⟩
  · exact .inl ⟨failed, by rw [inner]; exact returned, by rw [cleaned, fetchBlock, pending]⟩
  · exact .inr ⟨passes, by rw [inner]; exact kept, by rw [same, cleaned]⟩

/-! ## The inflator -/

namespace InflationBlockFetcher

/-- The inflator reading its source without the errors. -/
def cleaned (ibf : InflationBlockFetcher) : InflationBlockFetcher :=
  { ibf with inner := withoutFailures ibf.inner }

variable (ibf : InflationBlockFetcher)

/-- The fill loop reads only the block sizes and the ratio of the fetcher. -/
theorem fill_update (inner : List FetchResult) (cache : InflationCache) (output : Bytes)
    (offset prev : Int) (answers : List FetchResult) :
    { ibf with inner := inner, cache := cache }.fill output offset prev answers =
      ibf.fill output offset prev answers := by
  induction answers generalizing output offset prev with
  | nil => rfl
  | cons answer rest ih =>
    simp only [fill, emit, ih]

/-- One call of the fill loop, against the same loop on the answers without
errors. -/
theorem fill_callStep (output : Bytes) (offset prev : Int) (answers : List FetchResult) :
    CallStep inner cleaned fetchBlock answers (ibf.fill output offset prev (withoutFailures answers))
      (ibf.fill output offset prev answers) := by
  induction answers generalizing output offset prev with
  | nil => exact .inr ⟨rfl, rfl, rfl⟩
  | cons answer rest ih =>
    by_cases room : offset < ibf.dstBS
    · cases answer with
      | error e =>
        cases e with
        | eof =>
          show CallStep _ _ _ _ (ibf.fill output offset prev (.error .eof :: withoutFailures rest)) _
          simp only [fill, if_pos room]
          exact .inr ⟨rfl, rfl, rfl⟩
        | failure code =>
          simp only [fill, if_pos room]
          exact .inl ⟨rfl, rfl, ibf.fill_update _ _ output offset prev _⟩
        | panic =>
          show CallStep _ _ _ _ (ibf.fill output offset prev (.error .panic :: withoutFailures rest)) _
          simp only [fill, if_pos room]
          exact .inr ⟨rfl, rfl, rfl⟩
      | ok pair =>
        show CallStep _ _ _ _ (ibf.fill output offset prev (.ok pair :: withoutFailures rest)) _
        simp only [fill, if_pos room]
        -- the offset moves over the index gap; then the block is returned, or the
        -- fetched block copied in
        split <;> split
        all_goals first
          | exact .inr ⟨rfl, rfl, rfl⟩
          | split
            · exact .inr ⟨rfl, rfl, rfl⟩
            · exact ih _ _ _
    · rw [ibf.fill_of_full room, ibf.fill_of_full room]
      exact .inr ⟨rfl, rfl, rfl⟩

/-- One `FetchBlock` call of the inflator, against the call on its source
without errors. -/
theorem fetchBlock_callStep :
    CallStep inner cleaned fetchBlock ibf.inner ibf.cleaned.fetchBlock ibf.fetchBlock := by
  obtain ⟨inner, srcBS, dstBS, ratio, output, offset, prev⟩ := ibf
  cases output with
  | some output =>
    have step := fill_callStep ⟨inner, srcBS, dstBS, ratio, ⟨some output, offset, prev⟩⟩ output offset prev inner
    rwa [← fill_update _ (withoutFailures inner) ⟨some output, offset, prev⟩] at step
  | none =>
    cases inner with
    | nil => exact .inr ⟨rfl, rfl, rfl⟩
    | cons answer rest =>
      cases answer with
      | error e => cases e <;> first | exact .inl ⟨rfl, rfl, rfl⟩ | exact .inr ⟨rfl, rfl, rfl⟩
      | ok pair =>
        show CallStep _ _ _ _
          (fetchBlock ⟨.ok pair :: withoutFailures rest, srcBS, dstBS, ratio, ⟨none, offset, prev⟩⟩) _
        simp only [fetchBlock, fetchFrom]
        split
        · exact .inr ⟨rfl, rfl, rfl⟩
        · split
          · exact .inr ⟨rfl, rfl, rfl⟩
          · next output _ =>
            have step := fill_callStep ⟨.ok pair :: rest, srcBS, dstBS, ratio, ⟨none, offset, prev⟩⟩ output
              (wrapInt64 (wrapInt64 (pair.index.tmod ratio * srcBS) + srcBS)) pair.index rest
            rwa [← fill_update _ (.ok pair :: withoutFailures rest) ⟨none, offset, prev⟩] at step

/-- What the inflator has left to read: two for every source answer, and one
for a started destination block. -/
def unread (ibf : InflationBlockFetcher) : Nat :=
  2 * ibf.inner.length + (match ibf.cache.output with | some _ => 1 | none => 0)

/-- The fill loop leaves at most two for every answer it was given. -/
theorem fill_unread (output : Bytes) (offset prev : Int) (answers : List FetchResult) :
    (ibf.fill output offset prev answers).2.unread ≤ 2 * answers.length := by
  induction answers generalizing output offset prev with
  | nil => exact Nat.le_refl 0
  | cons answer rest ih =>
    by_cases room : offset < ibf.dstBS
    · have left : 2 * rest.length + 1 ≤ 2 * (answer :: rest).length := by
        rw [List.length_cons]; omega
      cases answer with
      | error e =>
        cases e <;> simp only [fill, if_pos room] <;> first | exact left | exact Nat.le_of_lt left
      | ok pair =>
        simp only [fill, if_pos room]
        split <;> split
        all_goals first
          | exact Nat.le_of_lt left
          | exact left
          | split
            · exact left
            · exact (ih _ _ _).trans (Nat.le_of_lt left)
    · rw [ibf.fill_of_full room]
      exact Nat.le_of_eq (Nat.add_zero _)

/-- A call of an inflator with something left to read leaves less. -/
theorem fetchBlock_unread (unfinished : 0 < ibf.unread) : ibf.fetchBlock.2.unread < ibf.unread := by
  obtain ⟨inner, srcBS, dstBS, ratio, output, offset, prev⟩ := ibf
  cases output with
  | some output => exact Nat.lt_succ_of_le (fill_unread _ output offset prev inner)
  | none =>
    cases inner with
    | nil => exact absurd unfinished (Nat.lt_irrefl 0)
    | cons answer rest =>
      have left : 2 * rest.length + 1 < 2 * (answer :: rest).length + 0 := by
        rw [List.length_cons]; omega
      cases answer with
      | error e => exact Nat.lt_of_le_of_lt (Nat.le_succ _) left
      | ok pair =>
        simp only [fetchBlock, fetchFrom]
        split
        · exact left
        · split
          · exact left
          · exact Nat.lt_of_le_of_lt ((fill_unread _ _ _ _ rest).trans (Nat.le_succ _)) left

end InflationBlockFetcher

/-! ## The deflator -/

namespace DeflationBlockFetcher

/-- The deflator reading its source without the errors. -/
def cleaned (dbf : DeflationBlockFetcher) : DeflationBlockFetcher :=
  { dbf with inner := withoutFailures dbf.inner }

variable (dbf : DeflationBlockFetcher)

/-- The outer loop reads only the block sizes and the ratio of the fetcher. -/
theorem loop_update (inner : List FetchResult) (cb' : Bytes) (cbi' : Int) (cb : Bytes) (cbi : Int)
    (answers : List FetchResult) :
    { dbf with inner := inner, cb := cb', cbi := cbi' }.loop cb cbi answers = dbf.loop cb cbi answers := by
  set base := { dbf with inner := inner, cb := cb', cbi := cbi' }
  rcases cut : cutSlice dbf.dstBS cb.length cb cbi with ⟨block, index, cb'', cbi''⟩ | c | _
  · rw [loop_of_found cut, @loop_of_found base _ _ _ _ _ _ cut]
  · match answers with
    | [] => rw [loop_of_drained_nil cut, @loop_of_drained_nil base _ _ _ cut]
    | .ok pair :: rest =>
      rw [loop_of_drained_ok cut, @loop_of_drained_ok base _ _ _ cut, loop_update inner cb' cbi']
    | .error e :: rest => rw [loop_of_drained_error cut, @loop_of_drained_error base _ _ _ cut]
  · rw [loop_of_panic cut, @loop_of_panic base _ _ cut]

variable {dbf}

/-- Two positions at the end of a block read the source alike. -/
theorem loop_of_drained_congr {cb : Bytes} {cbi c : Int} (cut : cutSlice dbf.dstBS cb.length cb cbi = .drained c)
    (answers : List FetchResult) : dbf.loop cb cbi answers = dbf.loop [] c answers := by
  have empty : cutSlice dbf.dstBS ([] : Bytes).length [] c = .drained c := rfl
  rcases answers with _ | ⟨_ | e, rest⟩
  · rw [loop_of_drained_nil cut, loop_of_drained_nil empty]
  · rw [loop_of_drained_ok cut, loop_of_drained_ok empty]
  · rw [loop_of_drained_error cut, loop_of_drained_error empty]

variable (dbf)

/-- One call of the outer loop, against the same loop on the answers without
errors. -/
theorem loop_callStep (cb : Bytes) (cbi : Int) (answers : List FetchResult) :
    CallStep inner cleaned fetchBlock answers (dbf.loop cb cbi (withoutFailures answers)) (dbf.loop cb cbi answers) := by
  rcases cut : cutSlice dbf.dstBS cb.length cb cbi with ⟨block, index, cb', cbi'⟩ | c | _
  · rw [loop_of_found cut, loop_of_found cut]; exact .inr ⟨rfl, rfl, rfl⟩
  · -- the block is drained: the next answer is read
    match answers with
    | [] => rw [show withoutFailures [] = [] from rfl, loop_of_drained_nil cut]; exact .inr ⟨rfl, rfl, rfl⟩
    | .ok pair :: rest =>
      show CallStep _ _ _ _ (dbf.loop cb cbi (.ok pair :: withoutFailures rest)) _
      rw [loop_of_drained_ok cut, loop_of_drained_ok cut]
      exact loop_callStep _ _ rest
    | .error (.failure code) :: rest =>
      rw [loop_of_drained_error cut]
      exact .inl ⟨rfl, rfl, (loop_update dbf (withoutFailures rest) [] c [] c (withoutFailures rest)).trans
        (loop_of_drained_congr cut _).symm⟩
    | .error .eof :: rest =>
      show CallStep _ _ _ _ (dbf.loop cb cbi (.error .eof :: withoutFailures rest)) _
      rw [loop_of_drained_error cut, loop_of_drained_error cut]; exact .inr ⟨rfl, rfl, rfl⟩
    | .error .panic :: rest =>
      show CallStep _ _ _ _ (dbf.loop cb cbi (.error .panic :: withoutFailures rest)) _
      rw [loop_of_drained_error cut, loop_of_drained_error cut]; exact .inr ⟨rfl, rfl, rfl⟩
  · rw [loop_of_panic cut, loop_of_panic cut]; exact .inr ⟨rfl, rfl, rfl⟩

/-- One `FetchBlock` call of the deflator, against the call on its source
without errors. -/
theorem fetchBlock_callStep :
    CallStep inner cleaned fetchBlock dbf.inner dbf.cleaned.fetchBlock dbf.fetchBlock := by
  have step := dbf.loop_callStep dbf.cb dbf.cbi dbf.inner
  rwa [← loop_update dbf (withoutFailures dbf.inner) dbf.cb dbf.cbi] at step

/-- What a deflator reads of `answers`: one for every answer, and one for
every byte of every block among them. -/
def readCost : List FetchResult → Nat
  | [] => 0
  | .ok pair :: rest => pair.block.length + 1 + readCost rest
  | .error _ :: rest => 1 + readCost rest

/-- What the deflator has left to read: the rest of its current block, and the
answers left. -/
def unread (dbf : DeflationBlockFetcher) : Nat := dbf.cb.length + readCost dbf.inner

/-- A slice found is cut off the block. -/
theorem cutSlice_found_shorter (dstBS : Int) : ∀ {fuel : Nat} {cb block cb' : Bytes} {cbi index cbi' : Int},
    cutSlice dstBS fuel cb cbi = .found block index cb' cbi' → cb'.length < cb.length
  | 0, _, _, _, _, _, _, cut => by cases cut
  | fuel + 1, cb, _, _, cbi, _, _, cut => by
    rw [cutSlice] at cut
    split_ifs at cut with empty short
    · cases cut
      rw [List.length_drop]
      omega
    · exact (cutSlice_found_shorter dstBS cut).trans_le (by rw [List.length_drop]; omega)

/-- A run of the outer loop that does not panic leaves less to read, or
nothing. -/
theorem loop_unread (cb : Bytes) (cbi : Int) (answers : List FetchResult)
    (noPanic : (dbf.loop cb cbi answers).1 ≠ .error .panic) :
    (dbf.loop cb cbi answers).2.unread < cb.length + readCost answers ∨ (dbf.loop cb cbi answers).2.unread = 0 := by
  rcases cut : cutSlice dbf.dstBS cb.length cb cbi with ⟨block, index, cb', cbi'⟩ | c | _
  · rw [loop_of_found cut]
    exact .inl (Nat.add_lt_add_right (cutSlice_found_shorter _ cut) _)
  · match answers with
    | [] => rw [loop_of_drained_nil cut]; exact .inr rfl
    | .ok pair :: rest =>
      rw [loop_of_drained_ok cut] at noPanic ⊢
      refine (loop_unread _ _ rest noPanic).imp_left fun less => ?_
      simp only [readCost]
      omega
    | .error e :: rest =>
      rw [loop_of_drained_error cut]
      exact .inl (by simp only [unread, readCost, List.length_nil]; omega)
  · rw [loop_of_panic cut] at noPanic
    exact absurd rfl noPanic

/-- A call of a deflator whose source has answers left, and that does not
panic, leaves less to read. -/
theorem fetchBlock_unread (answersLeft : dbf.inner ≠ []) (noPanic : dbf.fetchBlock.1 ≠ .error .panic) :
    dbf.fetchBlock.2.unread < dbf.unread := by
  have positive : 0 < readCost dbf.inner := by
    obtain ⟨answer, rest, split⟩ := List.exists_cons_of_ne_nil answersLeft
    rw [split]
    cases answer <;> simp only [readCost] <;> omega
  rcases dbf.loop_unread dbf.cb dbf.cbi dbf.inner noPanic with less | nothing
  · exact less
  · exact nothing ▸ Nat.add_pos_right _ positive

end DeflationBlockFetcher

/-! ## Every adapter, over a whole run -/

namespace SizedBlockFetcher

/-- The answers the source of the fetcher has left. -/
def inner : SizedBlockFetcher → List FetchResult
  | .inflation ibf => ibf.inner
  | .deflation dbf => dbf.inner
  | .unchanged answers => answers

/-- The fetcher reading its source without the errors. -/
def cleaned : SizedBlockFetcher → SizedBlockFetcher
  | .inflation ibf => .inflation ibf.cleaned
  | .deflation dbf => .deflation dbf.cleaned
  | .unchanged answers => .unchanged (withoutFailures answers)

/-- The fetcher after `n` successive `FetchBlock` calls. -/
def after : Nat → SizedBlockFetcher → SizedBlockFetcher
  | 0, f => f
  | n + 1, f => after n f.fetchBlock.2

theorem after_succ (n : Nat) (f : SizedBlockFetcher) : f.after (n + 1) = (f.after n).fetchBlock.2 := by
  induction n generalizing f with
  | zero => rfl
  | succ n ih => exact ih f.fetchBlock.2

theorem results_succ (n : Nat) (f : SizedBlockFetcher) :
    f.results (n + 1) = f.fetchBlock.1 :: f.fetchBlock.2.results n := rfl

theorem length_results (n : Nat) (f : SizedBlockFetcher) : (f.results n).length = n := by
  induction n generalizing f with
  | zero => rfl
  | succ n ih => rw [results_succ, List.length_cons, ih]

/-- Fetchers whose next call agrees give the same answers. -/
theorem results_congr {f g : SizedBlockFetcher} (same : f.fetchBlock = g.fetchBlock) (n : Nat) :
    f.results n = g.results n := by
  cases n with
  | zero => rfl
  | succ n => rw [results_succ, results_succ, same]

/-- One `FetchBlock` call of any adapter, against the call on its source
without errors. -/
theorem fetchBlock_callStep (f : SizedBlockFetcher) :
    CallStep inner cleaned fetchBlock f.inner f.cleaned.fetchBlock f.fetchBlock := by
  cases f with
  | inflation ibf =>
    exact ibf.fetchBlock_callStep.map inflation (fun _ => rfl) (fun _ => rfl) (fun _ => rfl)
  | deflation dbf =>
    exact dbf.fetchBlock_callStep.map deflation (fun _ => rfl) (fun _ => rfl) (fun _ => rfl)
  | unchanged answers =>
    rcases answers with _ | ⟨_ | (_ | _ | _), rest⟩
    all_goals first | exact .inl ⟨rfl, rfl, rfl⟩ | exact .inr ⟨rfl, rfl, rfl⟩

/-- What the fetcher has left to read. -/
def unread : SizedBlockFetcher → Nat
  | .inflation ibf => ibf.unread
  | .deflation dbf => dbf.unread
  | .unchanged answers => answers.length

/-- A call of a fetcher whose source still holds an error, and that does not
panic, leaves less to read. -/
theorem fetchBlock_unread (f : SizedBlockFetcher) (errorsLeft : failures f.inner ≠ [])
    (noPanic : f.fetchBlock.1 ≠ .error .panic) : f.fetchBlock.2.unread < f.unread := by
  have answersLeft : f.inner ≠ [] := fun none => errorsLeft (by rw [none]; rfl)
  cases f with
  | inflation ibf =>
    refine ibf.fetchBlock_unread (Nat.lt_of_lt_of_le ?_ (Nat.le_add_right _ _))
    exact Nat.mul_pos Nat.two_pos (List.length_pos.mpr answersLeft)
  | deflation dbf => exact dbf.fetchBlock_unread answersLeft noPanic
  | unchanged answers =>
    cases answers with
    | nil => exact absurd rfl answersLeft
    | cons answer rest => exact Nat.lt_succ_self _

/-- Every error of the source gets to the caller, unless the fetcher panics
first. -/
theorem failures_delivered (f : SizedBlockFetcher) :
    ∃ n, failures (f.after n).inner = [] ∨ (f.after n).fetchBlock.1 = .error .panic :=
  if delivered : failures f.inner = [] then ⟨0, .inl delivered⟩
  else if panics : f.fetchBlock.1 = .error .panic then ⟨0, .inr panics⟩
  else
    have ⟨n, later⟩ := failures_delivered f.fetchBlock.2
    ⟨n + 1, later⟩
termination_by f.unread
decreasing_by exact f.fetchBlock_unread delivered panics

/-- Over `n` calls, the answers without the errors are the first answers of
the fetcher on its source without errors, and the errors returned, followed by
those the source has left, are the source's errors. -/
theorem results_cleaned (n : Nat) (f : SizedBlockFetcher) :
    withoutFailures (f.results n) = f.cleaned.results (n - (failures (f.results n)).length) ∧
      failures (f.results n) ++ failures (f.after n).inner = failures f.inner := by
  induction n generalizing f with
  | zero => exact ⟨rfl, rfl⟩
  | succ n ih =>
    obtain ⟨passed, errors⟩ := ih f.fetchBlock.2
    rw [results_succ]
    rcases f.fetchBlock_callStep with ⟨failed, returned, pending⟩ | ⟨passes, kept, same⟩
    · -- the call returns the source's next error
      rw [withoutFailures_cons_of_isFailure failed, failures_cons_of_isFailure failed, passed,
        List.length_cons, Nat.add_sub_add_right]
      exact ⟨results_congr pending _, by rw [List.cons_append, after, errors, returned]⟩
    · -- the call is the one on the source without errors
      have few : (failures (f.fetchBlock.2.results n)).length ≤ n :=
        (List.length_filter_le _ _).trans (length_results n _).le
      rw [withoutFailures_cons_of_passes passes, failures_cons_of_passes passes, passed,
        Nat.sub_add_comm few, results_succ, same]
      exact ⟨rfl, errors.trans kept⟩

end SizedBlockFetcher

/-- `sizedBlockFetcher` reads its source only through the fetcher it builds. -/
theorem sizedBlockFetcher_withoutFailures {answers : List FetchResult} {srcBS dstBS : Int}
    {f : SizedBlockFetcher} (built : sizedBlockFetcher answers srcBS dstBS = some f) :
    sizedBlockFetcher (withoutFailures answers) srcBS dstBS = some f.cleaned ∧ f.inner = answers := by
  simp only [sizedBlockFetcher, newInflationBlockFetcher, newDeflationBlockFetcher] at built ⊢
  split_ifs at built ⊢ <;> cases built <;> exact ⟨rfl, rfl⟩

/-- A source that fails once in the middle of a destination block. -/
def interruptedStream : List FetchResult := [.ok ⟨[1], 0⟩, .error (.failure 7), .ok ⟨[2], 1⟩]

/-- The inflator from one-byte to two-byte blocks over `interruptedStream`. -/
def interruptedInflator : SizedBlockFetcher := .inflation ⟨interruptedStream, 1, 2, 2, ⟨none, 0, 0⟩⟩

example : interruptedInflator.results 3 = [.error (.failure 7), .ok ⟨[1, 2], 0⟩, .error .eof] := by decide

end Backup
end Zerodisk
