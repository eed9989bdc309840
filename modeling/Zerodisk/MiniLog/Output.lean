import Zerodisk.MiniLog.Format

/-!
# The mini logger's goroutines

`Output` takes `l.mu`, lets go of it while `runtime.Caller` runs when the flags
ask for the caller's file, then resets the shared buffer `l.buf`, formats the
entry into it and hands it to `l.out.Write`; `SetFlags`, `SetPrefix` and
`SetOutput` each take the lock around one assignment. The model is a transition
system over any number of goroutines, each at one statement of these methods.
Every interleaving writes what an abstract logger that runs each `Output` as one
step writes, so the writes are serialized as the package promises, and letting
go of the lock cannot deadlock the logger.
-/

namespace Zerodisk
namespace MiniLog

/-- One call of `Output`: the time `time.Now()` read on entry and the text `s`
that `Debug`, `Info`, `Fatal` or their `f` forms built. -/
structure OutputCall where
  /-- `now`. -/
  now : Time
  /-- `s`. -/
  s : Bytes
  /-- The readings of `now` are Go `int`s. -/
  now_inRange : now.InRange

/-- The file and line `Output` prints: what `runtime.Caller(calldepth)` answered,
`"???"` and 0 when it failed, or the zero values when the flags ask for neither. -/
structure CallerInfo where
  /-- `file`. -/
  file : Bytes
  /-- `line`. -/
  line : Int
  /-- `line` is a Go `int`. -/
  line_inRange : InInt64Range line

/-- `file` and `line` as `Output` declares them, when no file flag is set. -/
def noCaller : CallerInfo := ⟨[], 0, by decide⟩

/-- `SetFlags`, `SetPrefix` and `SetOutput`, by the value each assigns. -/
inductive Setter
  /-- `SetFlags(flag)`. -/
  | setFlags (flag : BitVec 64)
  /-- `SetPrefix(prefix)`. -/
  | setPrefix (linePrefix : Bytes)
  /-- `SetOutput(w)`. -/
  | setOutput (w : Nat)

/-- The assignment a setter makes while it holds the lock. -/
def Setter.apply : Setter → MiniLogger → MiniLogger
  | .setFlags flag, l => { l with flag := flag }
  | .setPrefix linePrefix, l => { l with linePrefix := linePrefix }
  | .setOutput w, l => { l with out := w }

/-- Where one goroutine is in the logger. -/
inductive Phase
  /-- Outside the logger. -/
  | idle
  /-- In `Output`, blocked on `l.mu.Lock()`. -/
  | locking (call : OutputCall)
  /-- Holding `l.mu`; next is the test of `Lshortfile|Llongfile`. -/
  | checking (call : OutputCall)
  /-- Released `l.mu`; in `runtime.Caller`. -/
  | lookingUp (call : OutputCall)
  /-- Blocked on `l.mu.Lock()` again, with the caller found. -/
  | relocking (call : OutputCall) (caller : CallerInfo)
  /-- Holding `l.mu`; next is `l.buf = l.buf[:0]`. -/
  | resetting (call : OutputCall) (caller : CallerInfo)
  /-- Next is `l.formatHeader(&l.buf, now, file, line)`. -/
  | formatting (call : OutputCall) (caller : CallerInfo)
  /-- Next is appending `s`, and the newline it lacks. -/
  | appending (call : OutputCall) (caller : CallerInfo)
  /-- Next is `l.out.Write(l.buf)`. -/
  | writing (call : OutputCall) (caller : CallerInfo)
  /-- Next is the deferred `l.mu.Unlock()`. -/
  | unlocking
  /-- In a setter, blocked on `l.mu.Lock()`. -/
  | setLocking (op : Setter)
  /-- Holding `l.mu` in a setter; next is the assignment and `Unlock`. -/
  | setting (op : Setter)
  /-- Panicked in `formatHeader`. -/
  | panicked

/-- The phases between a goroutine's `Lock` and its `Unlock`. -/
def Phase.holdsLock : Phase → Bool
  | .checking _ | .resetting _ _ | .formatting _ _ | .appending _ _ | .writing _ _ | .unlocking
  | .setting _ => true
  | _ => false

/-- The logger, its mutex and buffer, the goroutines, and every `Write` so far. -/
structure LoggerState where
  /-- The settings. -/
  logger : MiniLogger
  /-- `l.mu`. -/
  locked : Bool
  /-- `l.buf`. -/
  buf : Bytes
  /-- Goroutine `g`'s phase. -/
  goroutines : Nat → Phase
  /-- Every `l.out.Write(l.buf)`, in order: the writer and the bytes. -/
  writes : List (Nat × Bytes)

/-- The logger `New(out, prefix, flag)` returns, with no goroutine in it. -/
def LoggerState.initial (l : MiniLogger) : LoggerState := ⟨l, false, [], fun _ => .idle, []⟩

/-- Goroutine `g` moves to `p`. -/
def LoggerState.move (st : LoggerState) (g : Nat) (p : Phase) : LoggerState :=
  { st with goroutines := Function.update st.goroutines g p }

/-- The events: a goroutine enters the logger, takes the lock, gets the caller, or
runs its next statement. -/
inductive LoggerEvent
  /-- Goroutine `g` calls `Output`. -/
  | output (g : Nat) (call : OutputCall)
  /-- Goroutine `g` calls a setter. -/
  | set (g : Nat) (op : Setter)
  /-- Goroutine `g`'s `l.mu.Lock()` returns. -/
  | lock (g : Nat)
  /-- Goroutine `g`'s `runtime.Caller` returns. -/
  | caller (g : Nat) (caller : CallerInfo)
  /-- Goroutine `g` runs its next statement. -/
  | next (g : Nat)

/-- The statement goroutine `g` runs at phase `p` while it holds the lock. -/
def LoggerState.run (st : LoggerState) (g : Nat) : Phase → Option LoggerState
  | .checking call =>
    if st.logger.flag &&& (lshortfile ||| llongfile) ≠ 0 then
      some { st.move g (.lookingUp call) with locked := false }
    else some (st.move g (.resetting call noCaller))
  | .resetting call caller => some { st.move g (.formatting call caller) with buf := [] }
  | .formatting call caller =>
    match st.logger.formatHeader st.buf call.now caller.file caller.line with
    | .returns buf => some { st.move g (.appending call caller) with buf := buf }
    | _ => some (st.move g .panicked)
  | .appending call caller =>
    some { st.move g (.writing call caller) with buf := appendMessage st.buf call.s }
  | .writing _ _ =>
    some { st.move g .unlocking with writes := st.writes ++ [(st.logger.out, st.buf)] }
  | .unlocking => some { st.move g .idle with locked := false }
  | .setting op => some { st.move g .idle with logger := op.apply st.logger, locked := false }
  | _ => none

/-- One event, when the goroutine it moves can take it. -/
def loggerStep (st : LoggerState) : LoggerEvent → Option LoggerState
  | .output g call =>
    match st.goroutines g with
    | .idle => some (st.move g (.locking call))
    | _ => none
  | .set g op =>
    match st.goroutines g with
    | .idle => some (st.move g (.setLocking op))
    | _ => none
  | .lock g =>
    if st.locked then none
    else match st.goroutines g with
      | .locking call => some { st.move g (.checking call) with locked := true }
      | .relocking call caller => some { st.move g (.resetting call caller) with locked := true }
      | .setLocking op => some { st.move g (.setting op) with locked := true }
      | _ => none
  | .caller g caller =>
    match st.goroutines g with
    | .lookingUp call => some (st.move g (.relocking call caller))
    | _ => none
  | .next g => st.run g (st.goroutines g)

/-- The states of every interleaving of any number of goroutines on the logger `l`. -/
def LoggerReachable (l : MiniLogger) : LoggerState → Prop :=
  Reachable (· = LoggerState.initial l) loggerStep

/-! ## The abstract logger -/

/-- The logger with `Output` as one step: its settings and its writes. -/
structure AtomicLogger where
  /-- The settings. -/
  logger : MiniLogger
  /-- Every `Write`, in order: the writer and the bytes. -/
  writes : List (Nat × Bytes)

/-- A whole `Output`, or a whole setter. -/
inductive AtomicEvent
  /-- `Output` of `s` at `now` from `caller`. -/
  | output (now : Time) (caller : CallerInfo) (s : Bytes)
  /-- A setter. -/
  | set (op : Setter)

/-- `Output` writes its whole line at once under the settings of that moment. -/
def atomicStep (a : AtomicLogger) : AtomicEvent → Option AtomicLogger
  | .output now caller s =>
    match a.logger.outputLine now caller.file caller.line s with
    | .returns line => some { a with writes := a.writes ++ [(a.logger.out, line)] }
    | _ => none
  | .set op => some { a with logger := op.apply a.logger }

/-- The states of every run of the abstract logger from `l`. -/
def AtomicReachable (l : MiniLogger) : AtomicLogger → Prop :=
  Reachable (· = ⟨l, []⟩) atomicStep

/-- What the abstract logger sees of a state: the settings and the writes. -/
def LoggerState.abstract (st : LoggerState) : AtomicLogger := ⟨st.logger, st.writes⟩

/-! ## The invariant -/

/-- What `l.buf` holds while a goroutine holding the lock is at a phase: the part
of its own line built so far, under the current settings. -/
def Phase.BufferHolds (l : MiniLogger) (buf : Bytes) : Phase → Prop
  | .formatting _ _ => buf = []
  | .appending call caller => l.formatHeader [] call.now caller.file caller.line = .returns buf
  | .writing call caller => l.outputLine call.now caller.file caller.line call.s = .returns buf
  | _ => True

/-- A goroutine that does not hold the lock puts no constraint on the buffer. -/
theorem Phase.bufferHolds_of_not_holdsLock {p : Phase} (free : p.holdsLock = false)
    (l : MiniLogger) (buf : Bytes) : p.BufferHolds l buf := by
  cases p <;> trivial

/-- The lock is held by at most one goroutine, exactly when `l.mu` is locked; the
buffer holds its holder's line so far; and no goroutine has panicked. -/
structure LoggerInvariant (st : LoggerState) : Prop where
  /-- At most one goroutine holds the lock. -/
  exclusive : ∀ g g', (st.goroutines g).holdsLock → (st.goroutines g').holdsLock → g = g'
  /-- `l.mu` is locked exactly when some goroutine holds it. -/
  locked_iff : st.locked = true ↔ ∃ g, (st.goroutines g).holdsLock
  /-- The buffer holds the line of the goroutine at work on it. -/
  buffered : ∀ g, (st.goroutines g).BufferHolds st.logger st.buf
  /-- No goroutine has panicked. -/
  calm : ∀ g, st.goroutines g ≠ .panicked

theorem loggerInvariant_initial (l : MiniLogger) : LoggerInvariant (LoggerState.initial l) where
  exclusive _ _ held := by cases held
  locked_iff := by simp [LoggerState.initial, Phase.holdsLock]
  buffered _ := trivial
  calm _ := nofun

section Step

variable {st st' : LoggerState} {g : Nat} {p : Phase}

/-- How a step may change who holds the lock: nobody's holding changes, `g` takes
the free lock, or `g` lets go of it. -/
def LockChange (st st' : LoggerState) (g : Nat) (p : Phase) : Prop :=
  (p.holdsLock = (st.goroutines g).holdsLock ∧ st'.locked = st.locked) ∨
    (p.holdsLock = true ∧ st.locked = false ∧ st'.locked = true) ∨
    (p.holdsLock = false ∧ (st.goroutines g).holdsLock = true ∧ st'.locked = false)

/-- The frame of every step: goroutine `g` moves to `p`, the lock changes hands
only as `LockChange` allows, and the buffer and settings change only under the
lock. Everything the invariant says about the other goroutines then carries over. -/
theorem LoggerInvariant.update (inv : LoggerInvariant st)
    (moved : st'.goroutines = Function.update st.goroutines g p)
    (lockChange : LockChange st st' g p)
    (framed : (st'.logger = st.logger ∧ st'.buf = st.buf) ∨ (st.goroutines g).holdsLock = true)
    (holds : p.BufferHolds st'.logger st'.buf) (calm : p ≠ .panicked) : LoggerInvariant st' := by
  have others : ∀ g', g' ≠ g → st'.goroutines g' = st.goroutines g' := fun g' other => by
    rw [moved, Function.update_noteq other]
  have here : st'.goroutines g = p := by rw [moved, Function.update_same]
  have holder : ∀ g', (st'.goroutines g').holdsLock = true ↔
      if g' = g then p.holdsLock = true else (st.goroutines g').holdsLock = true := fun g' => by
    split_ifs with is
    exacts [by rw [is, here], by rw [others g' is]]
  /- Another goroutine that held the lock still holds it, so `g` does not take it. -/
  have alone : ∀ g', g' ≠ g → (st.goroutines g').holdsLock = true → p.holdsLock = false := by
    intro g' other held
    rcases lockChange with ⟨same, _⟩ | ⟨_, free, _⟩ | ⟨letGo, _, _⟩
    · exact same.trans (Bool.eq_false_iff.mpr fun gHeld => other (inv.exclusive g' g held gHeld))
    · exact absurd (inv.locked_iff.mpr ⟨g', held⟩) (by rw [free]; decide)
    · exact letGo
  refine ⟨fun g₁ g₂ held₁ held₂ => ?_, ?_, fun g' => ?_, fun g' => ?_⟩
  · rw [holder] at held₁ held₂
    split_ifs at held₁ held₂ with is₁ is₂ is₂
    · rw [is₁, is₂]
    · exact absurd held₁ (by rw [alone g₂ is₂ held₂]; decide)
    · exact absurd held₂ (by rw [alone g₁ is₁ held₁]; decide)
    · exact inv.exclusive g₁ g₂ held₁ held₂
  · rcases lockChange with ⟨same, locked⟩ | ⟨taken, _, locked⟩ | ⟨letGo, held, locked⟩
    · have unchanged : ∀ g', (st'.goroutines g').holdsLock = (st.goroutines g').holdsLock := by
        intro g'
        by_cases is : g' = g
        · rw [is, here, same]
        · rw [others g' is]
      simp only [locked, unchanged, inv.locked_iff]
    · exact ⟨fun _ => ⟨g, by rw [here, taken]⟩, fun _ => locked⟩
    · refine ⟨fun stillLocked => absurd stillLocked (by rw [locked]; decide), fun ⟨g', held'⟩ => ?_⟩
      rw [holder] at held'
      split_ifs at held' with is
      · exact absurd held' (by rw [letGo]; decide)
      · exact absurd (inv.exclusive g' g held' held) is
  · by_cases is : g' = g
    · rw [is, here]
      exact holds
    · rw [others g' is]
      rcases framed with ⟨sameLogger, sameBuf⟩ | held
      · rw [sameLogger, sameBuf]
        exact inv.buffered g'
      · cases heldOther : (st.goroutines g').holdsLock
        · exact Phase.bufferHolds_of_not_holdsLock heldOther _ _
        · exact absurd (inv.exclusive g' g heldOther held) is
  · by_cases is : g' = g
    · rw [is, here]
      exact calm
    · rw [others g' is]
      exact inv.calm g'

/-- A goroutine that does not hold the lock moves to a phase that does not either. -/
theorem LoggerInvariant.wander (inv : LoggerInvariant st) (free : (st.goroutines g).holdsLock = false)
    (freeAfter : p.holdsLock = false) (calm : p ≠ .panicked) :
    LoggerInvariant (st.move g p) :=
  inv.update rfl (.inl ⟨by rw [free, freeAfter], rfl⟩) (.inl ⟨rfl, rfl⟩)
    (Phase.bufferHolds_of_not_holdsLock freeAfter _ _) calm

/-- A goroutine takes the free lock. -/
theorem LoggerInvariant.take (inv : LoggerInvariant st) (free : st.locked = false)
    (takes : p.holdsLock = true) (holds : p.BufferHolds st.logger st.buf) (calm : p ≠ .panicked) :
    LoggerInvariant { st.move g p with locked := true } :=
  inv.update rfl (.inr (.inl ⟨takes, free, rfl⟩)) (.inl ⟨rfl, rfl⟩) holds calm

/-- What the holder's statements keep. -/
theorem LoggerInvariant.run (inv : LoggerInvariant st) (ran : st.run g (st.goroutines g) = some st') :
    LoggerInvariant st' := by
  generalize current : st.goroutines g = phase at ran
  have held : (st.goroutines g).holdsLock = phase.holdsLock := congrArg Phase.holdsLock current
  cases phase with
  | checking call =>
    simp only [LoggerState.run] at ran
    split_ifs at ran <;> cases ran
    · exact inv.update rfl (.inr (.inr ⟨rfl, held, rfl⟩)) (.inl ⟨rfl, rfl⟩) trivial nofun
    · exact inv.update rfl (.inl ⟨held.symm, rfl⟩) (.inl ⟨rfl, rfl⟩) trivial nofun
  | resetting call caller =>
    cases ran
    exact inv.update rfl (.inl ⟨held.symm, rfl⟩) (.inr (held)) rfl nofun
  | formatting call caller =>
    have empty : st.buf = [] := by simpa [current] using inv.buffered g
    obtain ⟨header, formatted⟩ :=
      formatHeader_returns st.logger st.buf caller.file call.now_inRange caller.line_inRange
    simp only [LoggerState.run, formatted] at ran
    cases ran
    refine inv.update rfl (.inl ⟨held.symm, rfl⟩) (.inr (held)) ?_ nofun
    show st.logger.formatHeader [] call.now caller.file caller.line = .returns (st.buf ++ header)
    rw [← empty]
    exact formatted
  | appending call caller =>
    have formatted : st.logger.formatHeader [] call.now caller.file caller.line = .returns st.buf := by
      simpa [current] using inv.buffered g
    cases ran
    refine inv.update rfl (.inl ⟨held.symm, rfl⟩) (.inr (held)) ?_ nofun
    show st.logger.outputLine call.now caller.file caller.line call.s =
      .returns (appendMessage st.buf call.s)
    rw [MiniLogger.outputLine, formatted]
    rfl
  | writing call caller =>
    cases ran
    exact inv.update rfl (.inl ⟨held.symm, rfl⟩) (.inl ⟨rfl, rfl⟩) trivial nofun
  | unlocking =>
    cases ran
    exact inv.update rfl (.inr (.inr ⟨rfl, held, rfl⟩)) (.inl ⟨rfl, rfl⟩) trivial nofun
  | setting op =>
    cases ran
    exact inv.update rfl (.inr (.inr ⟨rfl, held, rfl⟩)) (.inr (held)) trivial nofun
  | idle | locking _ | lookingUp _ | relocking _ _ | setLocking _ | panicked => cases ran

/-- Every event keeps the invariant. -/
theorem LoggerInvariant.step (inv : LoggerInvariant st) {event : LoggerEvent}
    (stepped : loggerStep st event = some st') : LoggerInvariant st' := by
  cases event with
  | output g call | set g call =>
    simp only [loggerStep] at stepped
    split at stepped
    · next idle =>
      cases stepped
      exact inv.wander (by rw [idle]; rfl) rfl nofun
    · cases stepped
  | lock g =>
    simp only [loggerStep] at stepped
    split_ifs at stepped with locked
    split at stepped <;> cases stepped
    all_goals exact inv.take (by simpa using locked) rfl trivial nofun
  | caller g caller =>
    simp only [loggerStep] at stepped
    split at stepped
    · next call lookingUp =>
      cases stepped
      exact inv.wander (by rw [lookingUp]; rfl) rfl nofun
    · cases stepped
  | next g => exact inv.run stepped

end Step

/-- Every reachable state of the logger satisfies the invariant. -/
theorem LoggerReachable.invariant {l : MiniLogger} {st : LoggerState} (reachable : LoggerReachable l st) :
    LoggerInvariant st :=
  Reachable.invariant (fun _ initial => initial ▸ loggerInvariant_initial l)
    (fun _ _ _ inv stepped => inv.step stepped) reachable

/-! ## Refinement -/

/-- Each event is a step of the abstract logger or invisible to it: a `Write` is
the whole `Output` of the goroutine making it, an assignment is the whole setter. -/
theorem LoggerInvariant.simulates {st st' : LoggerState} (inv : LoggerInvariant st)
    {event : LoggerEvent} (stepped : loggerStep st event = some st') :
    st'.abstract = st.abstract ∨ ∃ e, atomicStep st.abstract e = some st'.abstract := by
  cases event with
  | output g _ | set g _ | caller g _ =>
    simp only [loggerStep] at stepped
    split at stepped <;> cases stepped
    exact .inl rfl
  | lock g =>
    simp only [loggerStep] at stepped
    split_ifs at stepped
    split at stepped <;> cases stepped <;> exact .inl rfl
  | next g =>
    simp only [loggerStep] at stepped
    have buffered := inv.buffered g
    generalize st.goroutines g = phase at stepped buffered
    cases phase with
    | checking call =>
      simp only [LoggerState.run] at stepped
      split_ifs at stepped <;> cases stepped <;> exact .inl rfl
    | formatting call caller =>
      simp only [LoggerState.run] at stepped
      split at stepped <;> cases stepped <;> exact .inl rfl
    | writing call caller =>
      cases stepped
      refine .inr ⟨.output call.now caller call.s, ?_⟩
      simp only [atomicStep, LoggerState.abstract]
      rw [show st.logger.outputLine call.now caller.file caller.line call.s = .returns st.buf
        from buffered]
      rfl
    | setting op =>
      cases stepped
      exact .inr ⟨.set op, rfl⟩
    | resetting _ _ | appending _ _ | unlocking =>
      cases stepped
      exact .inl rfl
    | idle | locking _ | lookingUp _ | relocking _ _ | setLocking _ | panicked => cases stepped

/-- Every interleaving writes what a run of the abstract logger writes. -/
theorem logger_refines_atomic {l : MiniLogger} {st : LoggerState} (reachable : LoggerReachable l st) :
    AtomicReachable l st.abstract := by
  induction reachable with
  | start initial => exact .start (by rw [initial]; rfl)
  | next event reached stepped abstractReached =>
    rcases (LoggerReachable.invariant reached).simulates stepped with same | ⟨e, atomic⟩
    · rw [same]
      exact abstractReached
    · exact .next e abstractReached atomic

/-- The logger serializes its writers. On every interleaving of any number of
goroutines: no `Output` panics; the goroutine about to `Write` finds in `l.buf`
exactly its own call's line under the settings in force; and the writes so far
are those of a run in which each `Output` is one atomic step. -/
theorem logger_serializes_writers {l : MiniLogger} {st : LoggerState}
    (reachable : LoggerReachable l st) :
    AtomicReachable l st.abstract ∧ (∀ g, st.goroutines g ≠ .panicked) ∧
      ∀ g call caller, st.goroutines g = .writing call caller →
        st.logger.outputLine call.now caller.file caller.line call.s = .returns st.buf := by
  have inv := LoggerReachable.invariant reachable
  refine ⟨logger_refines_atomic reachable, inv.calm, fun g call caller writing => ?_⟩
  simpa [writing] using inv.buffered g

/-- A logger with `Lshortfile` set, writing to writer 1. -/
def shortFileLogger : MiniLogger := ⟨[], lshortfile, 1⟩

/-- `Output("hi")` at midnight of year 0. -/
def hiCall : OutputCall := ⟨⟨⟨0, 1, 1, 0, 0, 0, 0⟩, ⟨0, 1, 1, 0, 0, 0, 0⟩⟩, [104, 105], by decide⟩

/-- Goroutine 0 lets go of the lock for `runtime.Caller`; goroutine 1 logs from
`a.go:3` and `b.go:7`: goroutine 1 runs a whole `Output` in goroutine 0's window. -/
def callerWindow : List LoggerEvent :=
  [.output 0 hiCall, .lock 0, .next 0, .output 1 hiCall, .lock 1, .next 1,
    .caller 1 ⟨[98, 46, 103, 111], 7, by decide⟩, .lock 1,
    .caller 0 ⟨[97, 46, 103, 111], 3, by decide⟩,
    .next 1, .next 1, .next 1, .next 1, .next 1,
    .lock 0, .next 0, .next 0, .next 0, .next 0, .next 0]

theorem logger_serializes_writers_callerWindow :
    ∃ st, runEvents loggerStep (LoggerState.initial shortFileLogger) callerWindow = some st ∧
      st.writes = [(1, [98, 46, 103, 111, 58, 55, 58, 32, 104, 105, 10]),
        (1, [97, 46, 103, 111, 58, 51, 58, 32, 104, 105, 10])] ∧
      AtomicReachable shortFileLogger st.abstract ∧ (∀ g, st.goroutines g ≠ .panicked) ∧
      ∀ g call caller, st.goroutines g = .writing call caller →
        st.logger.outputLine call.now caller.file caller.line call.s = .returns st.buf :=
  ⟨_, rfl, rfl, logger_serializes_writers (@Reachable.runEvents _ _ _ _ callerWindow _ _ (.start rfl) rfl)⟩

/-! ## Progress -/

/-- A goroutine inside the logger: called in and not returned. -/
def Phase.inside : Phase → Bool
  | .idle | .panicked => false
  | _ => true

/-- The holder of the lock can always run its next statement. -/
theorem LoggerState.run_isSome (st : LoggerState) (g : Nat) {p : Phase} (held : p.holdsLock = true) :
    (st.run g p).isSome := by
  cases p with
  | checking call =>
    simp only [LoggerState.run]
    split_ifs <;> rfl
  | formatting call caller =>
    simp only [LoggerState.run]
    split <;> rfl
  | resetting _ _ | appending _ _ | writing _ _ | unlocking | setting _ => rfl
  | idle | locking _ | lookingUp _ | relocking _ _ | setLocking _ | panicked => cases held

/-- The logger never deadlocks. Whenever a goroutine is inside it, some goroutine
can move: the holder of the lock by its next statement, or, while the lock is
free, a goroutine waiting for it or for `runtime.Caller`. -/
theorem logger_never_deadlocks {l : MiniLogger} {st : LoggerState} (reachable : LoggerReachable l st)
    {g : Nat} (inside : (st.goroutines g).inside = true) :
    ∃ h, (loggerStep st (.lock h)).isSome ∨ (loggerStep st (.caller h noCaller)).isSome ∨
      (loggerStep st (.next h)).isSome := by
  have inv := LoggerReachable.invariant reachable
  by_cases locked : st.locked = true
  · obtain ⟨h, held⟩ := inv.locked_iff.mp locked
    exact ⟨h, .inr (.inr (st.run_isSome h held))⟩
  · have free : st.locked = false := by simpa using locked
    refine ⟨g, ?_⟩
    cases phase : st.goroutines g with
    | locking _ | relocking _ _ | setLocking _ =>
      exact .inl (by simp only [loggerStep, free, phase]; rfl)
    | lookingUp _ => exact .inr (.inl (by simp only [loggerStep, phase]; rfl))
    | checking _ | resetting _ _ | formatting _ _ | appending _ _ | writing _ _ | unlocking
    | setting _ =>
      exact absurd (inv.locked_iff.mpr ⟨g, by rw [phase]; rfl⟩) locked
    | idle | panicked =>
      rw [phase] at inside
      cases inside

theorem logger_never_deadlocks_midWindow :
    ∃ st, runEvents loggerStep (LoggerState.initial shortFileLogger) (callerWindow.take 9) = some st ∧
      (st.goroutines 0).inside = true ∧
      ∃ h, (loggerStep st (.lock h)).isSome ∨ (loggerStep st (.caller h noCaller)).isSome ∨
        (loggerStep st (.next h)).isSome :=
  ⟨_, rfl, rfl, @logger_never_deadlocks shortFileLogger _
    (@Reachable.runEvents _ _ _ _ (callerWindow.take 9) _ _ (.start rfl) rfl) 0 rfl⟩

end MiniLog
end Zerodisk
