import Mathlib.Data.List.Basic
import Mathlib.Data.Int.Defs
import Mathlib.Algebra.Group.Nat.Basic
import Mathlib.Algebra.Group.Int

/-!
# Go values shared by the models

A `[]byte` is a list of bytes whose capacity is its length, so that slicing past
the length is Go's runtime panic, and `copy` overwrites a prefix. `int64`
arithmetic is integer arithmetic followed by the two's-complement wrap
`wrapInt64`. Goroutines and watchers are transition systems: a step function
says, for each event, whether it can happen and what it leaves, `Reachable`
collects the states of every run, and `Reachable.invariant` is the induction
every safety property goes through.
-/

namespace Zerodisk

/-- A Go byte slice. -/
abbrev Bytes := List UInt8

/-- Go's `copy(dst, src)`, as the new contents of `dst`: the first
`min (len dst) (len src)` bytes come from `src`, the rest stay. -/
def copyBytes (dst src : Bytes) : Bytes :=
  src.take dst.length ++ dst.drop src.length

@[simp] theorem length_copyBytes (dst src : Bytes) :
    (copyBytes dst src).length = dst.length := by
  simp only [copyBytes, List.length_append, List.length_take, List.length_drop]
  omega

theorem copyBytes_of_length_le {dst src : Bytes} (longEnough : dst.length ≤ src.length) :
    copyBytes dst src = src.take dst.length := by
  simp [copyBytes, longEnough]

/-- An `n`-byte slice of zeros, as `make([]byte, n)` returns it. -/
def zeroBytes (n : Nat) : Bytes := List.replicate n 0

@[simp] theorem length_zeroBytes (n : Nat) : (zeroBytes n).length = n :=
  List.length_replicate n 0

/-- The `int64` value of an integer: its residue modulo `2^64` in `[-2^63, 2^63)`. -/
def wrapInt64 (x : Int) : Int := Int.bmod x (2 ^ 64)

/-- The integers that an `int64` holds. -/
def InInt64Range (x : Int) : Prop := -2 ^ 63 ≤ x ∧ x < 2 ^ 63

instance (x : Int) : Decidable (InInt64Range x) :=
  inferInstanceAs (Decidable (_ ∧ _))

/-- Arithmetic that stays in range does not wrap. -/
@[simp] theorem wrapInt64_of_inRange {x : Int} (inRange : InInt64Range x) :
    wrapInt64 x = x := by
  obtain ⟨lower, upper⟩ := inRange
  rw [wrapInt64, Int.bmod_def]
  split <;> omega

/-- A Go `error` value, by its message. -/
abbrev GoError := String

/-- How a Go call ends: it returns, it panics, or it never returns. -/
inductive Outcome (α : Type) where
  /-- The call returns `value`. -/
  | returns (value : α)
  /-- A runtime panic: an index out of range, a division by zero. -/
  | panics
  /-- The call never returns. -/
  | hangs
  deriving DecidableEq, Repr

namespace Outcome

/-- Go on with the rest of a function after a call: only a call that returns
lets it go on. -/
def bind {α β : Type} : Outcome α → (α → Outcome β) → Outcome β
  | returns value, rest => rest value
  | panics, _ => panics
  | hangs, _ => hangs

instance : Monad Outcome where
  pure := returns
  bind := bind

instance : LawfulMonad Outcome :=
  LawfulMonad.mk' Outcome (fun x => by cases x <;> rfl) (fun _ _ => rfl)
    (fun x _ _ => by cases x <;> rfl)

@[simp] theorem returns_bind {α β : Type} (value : α) (rest : α → Outcome β) :
    (returns value >>= rest) = rest value := rfl

@[simp] theorem panics_bind {α β : Type} (rest : α → Outcome β) :
    ((panics : Outcome α) >>= rest) = panics := rfl

@[simp] theorem hangs_bind {α β : Type} (rest : α → Outcome β) :
    ((hangs : Outcome α) >>= rest) = hangs := rfl

@[simp] theorem pure_eq_returns {α : Type} (value : α) :
    (pure value : Outcome α) = returns value := rfl

end Outcome

/-- `xs[i]` on a Go slice: a panic unless `0 ≤ i < len xs`. -/
def goIndex {α : Type} (xs : List α) (i : Int) : Outcome α :=
  if 0 ≤ i then
    match xs[i.toNat]? with
    | some x => .returns x
    | none => .panics
  else .panics

theorem goIndex_of_lt {α : Type} {xs : List α} {i : Nat} (inBounds : i < xs.length) :
    goIndex xs i = .returns (xs.get ⟨i, inBounds⟩) := by
  simp [goIndex, inBounds, Int.natCast_nonneg]

theorem goIndex_append_length {α : Type} (xs ys : List α) (x : α) :
    goIndex (xs ++ x :: ys) xs.length = .returns x := by
  rw [goIndex_of_lt (by simp), List.get_eq_getElem, List.getElem_append_right (le_refl _)]
  simp

/-- The states reached from a state satisfying `initial` by any sequence of
events that `step` allows. -/
inductive Reachable {σ ε : Type} (initial : σ → Prop) (step : σ → ε → Option σ) : σ → Prop
  /-- A start state. -/
  | start {s : σ} : initial s → Reachable initial step s
  /-- One more event. -/
  | next {s s' : σ} (event : ε) : Reachable initial step s → step s event = some s' →
      Reachable initial step s'

/-- A property that holds initially and that every event preserves holds in
every reachable state. -/
theorem Reachable.invariant {σ ε : Type} {initial : σ → Prop} {step : σ → ε → Option σ}
    {inv : σ → Prop} (holdsInitially : ∀ s, initial s → inv s)
    (preserved : ∀ s event s', inv s → step s event = some s' → inv s')
    {s : σ} (reachable : Reachable initial step s) : inv s := by
  induction reachable with
  | start isInitial => exact holdsInitially _ isInitial
  | next event _ stepped holds => exact preserved _ event _ holds stepped

/-- The state after a sequence of events, when each is allowed in turn. -/
def runEvents {σ ε : Type} (step : σ → ε → Option σ) : σ → List ε → Option σ
  | s, [] => some s
  | s, event :: events => (step s event).bind fun s' => runEvents step s' events

/-- A run from a reachable state ends in a reachable state. -/
theorem Reachable.runEvents {σ ε : Type} {initial : σ → Prop} {step : σ → ε → Option σ}
    {events : List ε} :
    ∀ {s s' : σ}, Reachable initial step s → runEvents step s events = some s' →
      Reachable initial step s' := by
  induction events with
  | nil => intro s s' reachable run; cases run; exact reachable
  | cons event events ih =>
    intro s s' reachable run
    cases stepped : step s event with
    | none => simp [Zerodisk.runEvents, stepped] at run
    | some next =>
      simp only [Zerodisk.runEvents, stepped, Option.some_bind] at run
      exact ih (.next event reachable stepped) run

end Zerodisk
