import Zerodisk.Basic

/-!
# The mini logger's line format

`formatHeader` writes the logger's prefix, the entry's date and clock in
zero-padded decimal fields, and the caller's file and line; `Output` adds the
message and a newline when the message lacks one. Every number goes through
`itoa`, which assembles its digits backwards in a `[20]byte` array and whose
`wid--` wraps as Go's `int` does. `PaddedDecimal` specifies `itoa`; from it, a
header never overflows the array, and an entry with no newline in its prefix,
file and message is written as exactly one line.
-/

namespace Zerodisk
namespace MiniLog

/-! ## Flags, bytes and times -/

/-- `Ldate`: the date, `2009/01/23`. -/
def ldate : BitVec 64 := 1

/-- `Ltime`: the time, `01:23:23`. -/
def ltime : BitVec 64 := 2

/-- `Lmicroseconds`: microsecond resolution, `01:23:23.123123`. -/
def lmicroseconds : BitVec 64 := 4

/-- `Llongfile`: the full file name and line number, `/a/b/c/d.go:23`. -/
def llongfile : BitVec 64 := 8

/-- `Lshortfile`: the final file name element and line number, `d.go:23`. -/
def lshortfile : BitVec 64 := 16

/-- `LUTC`: the date and time in UTC rather than in the time's own zone. -/
def lUTC : BitVec 64 := 32

/-- `LstdFlags`: the flags of the standard logger `std`. -/
def lstdFlags : BitVec 64 := ldate ||| ltime

/-- The byte `'\n'`. -/
def newline : UInt8 := 10

/-- The byte `'/'`. -/
def slash : UInt8 := 47

/-- The byte `':'`. -/
def colon : UInt8 := 58

/-- The byte `' '`. -/
def space : UInt8 := 32

/-- The byte `'.'`. -/
def period : UInt8 := 46

/-- What `formatHeader` reads of a `time.Time` in one zone: `Date()`, `Clock()`
and `Nanosecond()`. -/
structure Clock where
  /-- The year of `Date()`. -/
  year : Int
  /-- The month of `Date()`, as `int(month)`. -/
  month : Int
  /-- The day of `Date()`. -/
  day : Int
  /-- The hour of `Clock()`. -/
  hour : Int
  /-- The minute of `Clock()`. -/
  min : Int
  /-- The second of `Clock()`. -/
  sec : Int
  /-- `Nanosecond()`. -/
  nanosecond : Int
  deriving DecidableEq, Repr

/-- A `time.Time`, by what it reads in its own zone and after `t.UTC()`. -/
structure Time where
  /-- The readings in the time's own zone. -/
  inZone : Clock
  /-- The readings of `t.UTC()`. -/
  utc : Clock
  deriving DecidableEq, Repr

/-- The numbers `formatHeader` prints from a clock: `t.Nanosecond()/1e3` is Go's
truncating division. -/
def Clock.numbers (c : Clock) : List Int :=
  [c.year, c.month, c.day, c.hour, c.min, c.sec, c.nanosecond.tdiv 1000]

/-- Readings that Go `int`s hold. -/
def Clock.InRange (c : Clock) : Prop := ∀ i ∈ c.numbers, InInt64Range i

instance (c : Clock) : Decidable c.InRange := inferInstanceAs (Decidable (∀ _ ∈ _, _))

/-- A time whose readings in both zones Go `int`s hold. -/
def Time.InRange (t : Time) : Prop := t.inZone.InRange ∧ t.utc.InRange

instance (t : Time) : Decidable t.InRange := inferInstanceAs (Decidable (_ ∧ _))

/-! ## `itoa` -/

/-- Go's `byte(x)` of an `int`: its residue modulo 256. -/
def goByte (x : Int) : UInt8 := (x % 256).toNat.toUInt8

/-- The loop of `itoa` over its array `b [20]byte`, the digit stores included.
`free` is `bp + 1`, the slots of `b` not yet written, and `stored` is
`b[bp+1:]`, the digits stored so far; storing with no slot left is Go's index
out of range panic. `wid--` wraps as Go's `int` does. -/
def itoaDigits : (free : Nat) → (i wid : Int) → (stored : Bytes) → Outcome Bytes
  | 0, _, _, _ => .panics
  | free + 1, i, wid, stored =>
    if 10 ≤ i ∨ 1 < wid then
      let q := i.tdiv 10
      itoaDigits free q (wrapInt64 (wid - 1)) (goByte (48 + i - q * 10) :: stored)
    else .returns (goByte (48 + i) :: stored)

/-- `itoa(buf, i, wid)`: the decimal of `i`, zero-padded to `wid` digits, appended to `buf`. -/
def itoa (buf : Bytes) (i wid : Int) : Outcome Bytes := do
  let digits ← itoaDigits 20 i wid []
  pure (buf ++ digits)

/-- A decimal digit byte, `'0'` to `'9'`. -/
def IsDigit (b : UInt8) : Prop := 48 ≤ b.toNat ∧ b.toNat ≤ 57

instance (b : UInt8) : Decidable (IsDigit b) := inferInstanceAs (Decidable (_ ∧ _))

/-- The number a string of decimal digits spells, the most significant first. -/
def readDecimal (digits : Bytes) : Nat :=
  digits.foldl (fun value b => 10 * value + (b.toNat - 48)) 0

/-- `digits` spells `value` in decimal, zero-padded to `width`: at least `width`
digits and at least one, and more than `width` only as many as `value` needs. -/
structure PaddedDecimal (digits : Bytes) (value : Nat) (width : Int) : Prop where
  /-- Every byte is a digit. -/
  allDigits : ∀ b ∈ digits, IsDigit b
  /-- The digits spell `value`. -/
  spells : readDecimal digits = value
  /-- At least `width` digits. -/
  wide : width ≤ digits.length
  /-- At least one digit. -/
  nonempty : digits ≠ []
  /-- Past `width`, no leading zero. -/
  tight : width < digits.length → digits.length = 1 ∨ 10 ^ (digits.length - 1) ≤ value

@[simp] theorem readDecimal_snoc (digits : Bytes) (b : UInt8) :
    readDecimal (digits ++ [b]) = 10 * readDecimal digits + (b.toNat - 48) := by
  simp only [readDecimal, List.foldl_append, List.foldl_cons, List.foldl_nil]

/-- The byte `itoa` stores for a digit value `r` in `[0, 10)`. -/
theorem goByte_toNat {r : Int} (nonneg : 0 ≤ r) (small : r < 10) :
    (goByte (48 + r)).toNat = 48 + r.toNat := by
  have fits : (48 + r) % 256 = 48 + r := Int.emod_eq_of_lt (by omega) (by omega)
  rw [goByte, fits, Nat.toUInt8, UInt8.toNat_ofNat_of_lt (by unfold UInt8.size; omega)]
  omega

theorem isDigit_goByte {r : Int} (nonneg : 0 ≤ r) (small : r < 10) : IsDigit (goByte (48 + r)) := by
  simp only [IsDigit, goByte_toNat nonneg small]
  omega

/-- Go's division by ten of a non-negative number, and the digit it leaves. -/
theorem tdiv_ten {i : Int} (nonneg : 0 ≤ i) :
    i.tdiv 10 = i / 10 ∧ 0 ≤ i - i.tdiv 10 * 10 ∧ i - i.tdiv 10 * 10 < 10 := by
  rw [Int.tdiv_eq_ediv nonneg (by decide)]
  omega

/-- A loop round, at a width whose `wid--` does not wrap. -/
theorem itoaDigits_going {free : Nat} {i wid : Int} (stored : Bytes) (going : 10 ≤ i ∨ 1 < wid)
    (low : -2 ^ 63 < wid) (high : wid ≤ 2 ^ 63) :
    itoaDigits (free + 1) i wid stored =
      itoaDigits free (i.tdiv 10) (wid - 1) (goByte (48 + i - i.tdiv 10 * 10) :: stored) := by
  rw [itoaDigits, if_pos going, wrapInt64_of_inRange ⟨by omega, by omega⟩]

/-- The loop's last store, once neither the value nor the width asks for another round. -/
theorem itoaDigits_stop {free : Nat} {i wid : Int} (stored : Bytes) (stops : ¬(10 ≤ i ∨ 1 < wid)) :
    itoaDigits (free + 1) i wid stored = .returns (goByte (48 + i) :: stored) := by
  rw [itoaDigits, if_neg stops]

/-- One digit, when the loop stops. -/
theorem paddedDecimal_single {i wid : Int} (nonneg : 0 ≤ i) (small : i < 10) (narrow : wid ≤ 1) :
    PaddedDecimal [goByte (48 + i)] i.toNat wid where
  allDigits := by simpa using isDigit_goByte nonneg small
  spells := by simp [readDecimal, goByte_toNat nonneg small]
  wide := by simpa using narrow
  nonempty := List.cons_ne_nil _ _
  tight := fun _ => .inl rfl

/-- A loop round puts the last digit after the digits of the quotient. -/
theorem paddedDecimal_snoc {i wid : Int} {front : Bytes} (nonneg : 0 ≤ i)
    (going : 10 ≤ i ∨ 1 < wid) (padded : PaddedDecimal front (i.tdiv 10).toNat (wid - 1)) :
    PaddedDecimal (front ++ [goByte (48 + i - i.tdiv 10 * 10)]) i.toNat wid := by
  obtain ⟨quotient, digitNonneg, digitSmall⟩ := tdiv_ten nonneg
  have last := goByte_toNat digitNonneg digitSmall
  rw [← add_sub_assoc] at last
  have long : 1 ≤ front.length := List.length_pos.mpr padded.nonempty
  refine ⟨?_, ?_, ?_, by simp, ?_⟩
  · intro b member
    rcases List.mem_append.mp member with inFront | isLast
    · exact padded.allDigits b inFront
    · rw [List.mem_singleton.mp isLast, add_sub_assoc]
      exact isDigit_goByte digitNonneg digitSmall
  · rw [readDecimal_snoc, padded.spells, last, quotient]
    omega
  · simpa using (by have := padded.wide; omega : wid ≤ front.length + 1)
  · intro past
    simp only [List.length_append, List.length_singleton, Nat.add_sub_cancel] at past ⊢
    refine .inr ?_
    rcases padded.tight (by omega) with one | bound
    · rw [one]
      omega
    · have grown : 10 ^ front.length = 10 * 10 ^ (front.length - 1) := by
        rw [← pow_succ', Nat.sub_add_cancel long]
      rw [quotient] at bound
      omega

/-- What the loop writes for a non-negative value that fits its slots, at a
width its countdown cannot wrap. -/
theorem itoaDigits_paddedDecimal (n : Nat) :
    ∀ {i wid : Int} (stored : Bytes), 0 ≤ i → i < 10 ^ (n + 1) → -2 ^ 63 + (n + 1) ≤ wid →
      wid < 2 ^ 63 → wid ≤ n + 1 → ∃ digits, itoaDigits (n + 1) i wid stored = .returns (digits ++ stored) ∧
        PaddedDecimal digits i.toNat wid := by
  induction n with
  | zero =>
    intro i wid stored nonneg fits _ _ narrow
    refine ⟨[goByte (48 + i)], ?_, paddedDecimal_single nonneg (by simpa using fits) narrow⟩
    exact itoaDigits_stop stored (by simp at fits; omega)
  | succ n ih =>
    intro i wid stored nonneg fits low high narrow
    push_cast at low narrow
    by_cases going : 10 ≤ i ∨ 1 < wid
    · obtain ⟨quotient, _, _⟩ := tdiv_ten nonneg
      have grown : (10 : Int) ^ (n + 1 + 1) = 10 * 10 ^ (n + 1) := pow_succ' _ _
      obtain ⟨front, ran, padded⟩ := @ih (i.tdiv 10) (wid - 1)
        (goByte (48 + i - i.tdiv 10 * 10) :: stored) (by omega) (by omega) (by omega) (by omega)
        (by omega)
      refine ⟨front ++ [_], ?_, paddedDecimal_snoc nonneg going padded⟩
      rw [itoaDigits_going stored going (by omega) (by omega), ran, List.append_assoc]
      rfl
    · exact ⟨_, itoaDigits_stop stored going, paddedDecimal_single nonneg (by omega) (by omega)⟩

/-- For a non-negative value below `10^20` and a width from `-2^63 + 20` to 20,
`itoa` appends the value's decimal, zero-padded to the width. -/
theorem itoa_paddedDecimal (buf : Bytes) {i wid : Int} (nonneg : 0 ≤ i) (fits : i < 10 ^ 20)
    (low : -2 ^ 63 + 20 ≤ wid) (narrow : wid ≤ 20) :
    ∃ digits, itoa buf i wid = .returns (buf ++ digits) ∧ PaddedDecimal digits i.toNat wid := by
  obtain ⟨digits, ran, padded⟩ := itoaDigits_paddedDecimal 19 [] nonneg fits low (by omega) narrow
  refine ⟨digits, ?_, padded⟩
  rw [itoa, ran, List.append_nil]
  rfl

/-- The loop panics exactly when the value or the width needs more slots than it
has, at a width its countdown cannot wrap. -/
theorem itoaDigits_panics_iff (n : Nat) :
    ∀ {i : Int} (wid : Int) (stored : Bytes), 0 ≤ i → -2 ^ 63 + (n + 1) ≤ wid → wid < 2 ^ 63 →
      (itoaDigits (n + 1) i wid stored = .panics ↔ 10 ^ (n + 1) ≤ i ∨ n + 1 < wid) := by
  induction n with
  | zero =>
    intro i wid stored nonneg _ _
    rw [itoaDigits]
    split_ifs with going
    · simpa [itoaDigits] using going
    · simp only [zero_add, pow_one, Nat.cast_one, false_iff]
      omega
  | succ n ih =>
    intro i wid stored nonneg low high
    push_cast at low
    have grown : (10 : Int) ^ (n + 1 + 1) = 10 * 10 ^ (n + 1) := pow_succ' _ _
    have atLeastOne : (0 : Int) < 10 ^ (n + 1) := by
      exact_mod_cast Nat.pos_pow_of_pos (n + 1) (by decide : 0 < 10)
    obtain ⟨quotient, _, _⟩ := tdiv_ten nonneg
    by_cases going : 10 ≤ i ∨ 1 < wid
    · rw [itoaDigits_going stored going (by omega) (by omega),
        ih _ _ (by omega) (by push_cast; omega) (by omega), quotient]
      push_cast
      omega
    · simp only [itoaDigits_stop stored going, reduceCtorEq, false_iff]
      push_cast
      omega

/-- `itoa` on a non-negative value panics exactly when it needs more than the
twenty digits of its array, at a width from `-2^63 + 20` up, which `wid--`
cannot wrap. -/
theorem itoa_panics_iff (buf : Bytes) {i : Int} (wid : Int) (nonneg : 0 ≤ i)
    (low : -2 ^ 63 + 20 ≤ wid) (high : wid < 2 ^ 63) :
    itoa buf i wid = .panics ↔ 10 ^ 20 ≤ i ∨ 20 < wid := by
  have viaLoop : itoa buf i wid = .panics ↔ itoaDigits (19 + 1) i wid [] = .panics := by
    rw [itoa]
    cases itoaDigits 20 i wid [] <;> simp
  rw [viaLoop, itoaDigits_panics_iff 19 wid [] nonneg low high]
  exact Iff.rfl

/-- At the width `-2^63`, a value of two digits or more makes `wid--` wrap to
`2^63 - 1`, and the loop then pads until it overruns its array. -/
theorem itoa_wrapped_width_panics (buf : Bytes) {i : Int} (twoDigits : 10 ≤ i) :
    itoa buf i (-2 ^ 63) = .panics := by
  obtain ⟨_, _, _⟩ := tdiv_ten (by omega : 0 ≤ i)
  have overrun : itoaDigits (18 + 1) (i.tdiv 10) (2 ^ 63 - 1) [goByte (48 + i - i.tdiv 10 * 10)] =
      .panics :=
    (itoaDigits_panics_iff 18 _ _ (by omega) (by omega) (by omega)).mpr (.inr (by omega))
  rw [itoa, itoaDigits, if_pos (.inl twoDigits)]
  dsimp only
  rw [show wrapInt64 (-2 ^ 63 - 1) = 2 ^ 63 - 1 by decide, overrun]
  rfl

/-- Below ten, negative values included, the loop runs only to pad. -/
theorem itoaDigits_of_lt_ten (n : Nat) :
    ∀ {i wid : Int} (stored : Bytes), i < 10 → -2 ^ 63 + (n + 1) ≤ wid → wid < 2 ^ 63 →
      wid ≤ n + 1 → ∃ more, itoaDigits (n + 1) i wid stored = .returns (more ++ stored) := by
  induction n with
  | zero =>
    intro i wid stored small _ _ narrow
    exact ⟨[goByte (48 + i)], itoaDigits_stop stored (by omega)⟩
  | succ n ih =>
    intro i wid stored small low high narrow
    push_cast at low narrow
    by_cases going : 10 ≤ i ∨ 1 < wid
    · have quotientSmall : i.tdiv 10 < 10 := by
        by_cases nonneg : 0 ≤ i
        · have := (tdiv_ten nonneg).1
          omega
        · have := Int.tdiv_nonneg (by omega : 0 ≤ -i) (by decide : (0 : Int) ≤ 10)
          rw [Int.neg_tdiv] at this
          omega
      obtain ⟨more, ran⟩ := @ih (i.tdiv 10) (wid - 1) (goByte (48 + i - i.tdiv 10 * 10) :: stored)
        quotientSmall (by omega) (by omega) (by omega)
      refine ⟨more ++ [goByte (48 + i - i.tdiv 10 * 10)], ?_⟩
      rw [itoaDigits_going stored going (by omega) (by omega), ran, List.append_assoc]
      rfl
    · exact ⟨[goByte (48 + i)], itoaDigits_stop stored going⟩

/-- `itoa` returns for every `int` and every width from `-2^63 + 20` to 20. -/
theorem itoa_returns (buf : Bytes) {i wid : Int} (inRange : InInt64Range i)
    (low : -2 ^ 63 + 20 ≤ wid) (narrow : wid ≤ 20) :
    ∃ more, itoa buf i wid = .returns (buf ++ more) := by
  by_cases small : i < 10
  · obtain ⟨more, ran⟩ := itoaDigits_of_lt_ten 19 [] small low (by omega) narrow
    exact ⟨more, by rw [itoa, ran, List.append_nil]; rfl⟩
  · obtain ⟨digits, ran, _⟩ :=
      @itoa_paddedDecimal buf i wid (by omega) (Int.lt_trans inRange.2 (by decide)) low narrow
    exact ⟨digits, ran⟩

/-- `itoa` writes a zero-padded digit string of up to twenty digits back exactly:
a field `formatHeader` wrote can be read back and written again unchanged. -/
theorem itoa_readDecimal (buf digits : Bytes) (allDigits : ∀ b ∈ digits, IsDigit b)
    (nonempty : digits ≠ []) (short : digits.length ≤ 20) :
    itoa buf (readDecimal digits) digits.length = .returns (buf ++ digits) := by
  suffices loop : ∀ (n : Nat) (stored : Bytes), digits.length ≤ n + 1 →
      itoaDigits (n + 1) (readDecimal digits) digits.length stored = .returns (digits ++ stored) by
    rw [itoa, loop 19 [] short, List.append_nil]
    rfl
  induction digits using List.reverseRecOn with
  | nil => exact absurd rfl nonempty
  | append_singleton front last ih =>
    intro n stored room
    have lastDigit := allDigits last (by simp)
    unfold IsDigit at lastDigit
    have lastByte : goByte (48 + ((last.toNat - 48 : Nat) : Int)) = last :=
      UInt8.toNat.inj (by rw [goByte_toNat (by omega) (by omega)]; omega)
    rw [readDecimal_snoc]
    rcases eq_or_ne front [] with rfl | frontNonempty
    · simp only [List.nil_append, List.length_singleton, List.singleton_append, readDecimal,
        List.foldl_nil, Nat.mul_zero, Nat.zero_add, Nat.cast_one]
      rw [itoaDigits, if_neg (by omega), lastByte]
    · have frontLong : 1 ≤ front.length := List.length_pos.mpr frontNonempty
      obtain ⟨m, rfl⟩ : ∃ m, n = m + 1 := ⟨n - 1, by simp at room; omega⟩
      have quotient : (((10 * readDecimal front + (last.toNat - 48) : Nat) : Int)).tdiv 10 =
          readDecimal front := by
        rw [Int.tdiv_eq_ediv (by omega) (by decide)]
        omega
      have digit : ((10 * readDecimal front + (last.toNat - 48) : Nat) : Int) -
          ((10 * readDecimal front + (last.toNat - 48) : Nat) : Int).tdiv 10 * 10 =
          ((last.toNat - 48 : Nat) : Int) := by
        rw [quotient]
        push_cast
        omega
      have lengthBack : ((front ++ [last]).length : Int) - 1 = front.length := by simp
      rw [itoaDigits_going stored (by simp; omega) (by omega) (by omega), lengthBack, add_sub_assoc, digit, lastByte, quotient,
        ih (fun b member => allDigits b (by simp [member])) frontNonempty
          (by simp at short; omega) m (last :: stored) (by simp at room; omega)]
      simp

/-! ## `formatHeader` and the line `Output` writes -/

/-- The `Lshortfile` loop of `formatHeader` from index `i` down to 1: the part of
`file` after the first `'/'` it meets, or all of `file`. -/
def shortFileFrom (file : Bytes) : (i : Nat) → Bytes
  | 0 => file
  | i + 1 => if file.getD (i + 1) 0 = slash then file.drop (i + 2) else shortFileFrom file i

/-- The final file name element `Lshortfile` prints; the loop starts at `len(file) - 1`. -/
def shortFile (file : Bytes) : Bytes := shortFileFrom file (file.length - 1)

/-- The settings of a `miniLogger`, the fields that `SetPrefix`, `SetFlags` and
`SetOutput` write; its mutex and buffer are the concurrent model's. -/
structure MiniLogger where
  /-- `prefix`: written at the beginning of each line. -/
  linePrefix : Bytes
  /-- `flag`: the properties, a Go `int`. -/
  flag : BitVec 64
  /-- `out`: the destination, by the writer's identity. -/
  out : Nat
  deriving DecidableEq, Repr

/-- The `Ldate` block of `formatHeader`: `2009/01/23 `. -/
def appendDate (buf : Bytes) (c : Clock) : Outcome Bytes := do
  let buf ← itoa buf c.year 4
  let buf ← itoa (buf ++ [slash]) c.month 2
  let buf ← itoa (buf ++ [slash]) c.day 2
  pure (buf ++ [space])

/-- The `Ltime|Lmicroseconds` block of `formatHeader`: `01:23:23 `, or
`01:23:23.123123 ` under `Lmicroseconds`. -/
def MiniLogger.appendClock (l : MiniLogger) (buf : Bytes) (c : Clock) : Outcome Bytes := do
  let buf ← itoa buf c.hour 2
  let buf ← itoa (buf ++ [colon]) c.min 2
  let buf ← itoa (buf ++ [colon]) c.sec 2
  let buf ← (if l.flag &&& lmicroseconds ≠ 0 then itoa (buf ++ [period]) (c.nanosecond.tdiv 1000) 6
    else pure buf)
  pure (buf ++ [space])

/-- The `Ldate|Ltime|Lmicroseconds` block of `formatHeader`. -/
def MiniLogger.appendStamp (l : MiniLogger) (buf : Bytes) (c : Clock) : Outcome Bytes :=
  if l.flag &&& (ldate ||| ltime ||| lmicroseconds) ≠ 0 then do
    let buf ← (if l.flag &&& ldate ≠ 0 then appendDate buf c else pure buf)
    if l.flag &&& (ltime ||| lmicroseconds) ≠ 0 then l.appendClock buf c else pure buf
  else pure buf

/-- The `Lshortfile|Llongfile` block of `formatHeader`: `d.go:23: `. -/
def MiniLogger.appendCaller (l : MiniLogger) (buf file : Bytes) (line : Int) : Outcome Bytes :=
  if l.flag &&& (lshortfile ||| llongfile) ≠ 0 then do
    let file := if l.flag &&& lshortfile ≠ 0 then shortFile file else file
    let buf ← itoa (buf ++ file ++ [colon]) line (-1)
    pure (buf ++ [colon, space])
  else pure buf

/-- `l.formatHeader(&buf, t, file, line)`: the prefix, then the date and clock of
`t` (in UTC under `LUTC`), then `file:line: `, as the flags ask. -/
def MiniLogger.formatHeader (l : MiniLogger) (buf : Bytes) (t : Time) (file : Bytes) (line : Int) :
    Outcome Bytes := do
  let buf := buf ++ l.linePrefix
  let c := if l.flag &&& lUTC ≠ 0 then t.utc else t.inZone
  let buf ← l.appendStamp buf c
  l.appendCaller buf file line

/-- `l.buf = append(l.buf, s...)`, then the newline `Output` adds when
`len(s) == 0 || s[len(s)-1] != '\n'`. -/
def appendMessage (buf s : Bytes) : Bytes :=
  if s.getLast? ≠ some newline then buf ++ s ++ [newline] else buf ++ s

/-- What `Output` hands to `l.out.Write` for the message `s`, logged at `now` from
`file:line`: the header on the reset buffer, the message, and the newline. -/
def MiniLogger.outputLine (l : MiniLogger) (now : Time) (file : Bytes) (line : Int) (s : Bytes) :
    Outcome Bytes := do
  let buf ← l.formatHeader [] now file line
  pure (appendMessage buf s)

/-! ## What a header is made of -/

/-- `f` appends to every buffer, and only bytes that `allowed` admits. -/
def AppendsOnly (allowed : UInt8 → Prop) (f : Bytes → Outcome Bytes) : Prop :=
  ∀ buf, ∃ more, f buf = .returns (buf ++ more) ∧ ∀ b ∈ more, allowed b

/-- `itoa` of `i` appends only bytes that `allowed` admits, at every width from
`-2^63 + 20` to 20. -/
def Printable (allowed : UInt8 → Prop) (i : Int) : Prop :=
  ∀ wid, -2 ^ 63 + 20 ≤ wid → wid ≤ 20 → AppendsOnly allowed (fun buf => itoa buf i wid)

namespace AppendsOnly

variable {allowed : UInt8 → Prop} {f g : Bytes → Outcome Bytes}

theorem stay : AppendsOnly allowed pure := fun buf => ⟨[], by simp, by simp⟩

theorem bytes {bytes : Bytes} (fixed : ∀ b ∈ bytes, allowed b) :
    AppendsOnly allowed (fun buf => pure (buf ++ bytes)) := fun _ => ⟨bytes, rfl, fixed⟩

theorem after {bytes : Bytes} (fixed : ∀ b ∈ bytes, allowed b) (appends : AppendsOnly allowed f) :
    AppendsOnly allowed (fun buf => f (buf ++ bytes)) := by
  intro buf
  obtain ⟨more, ran, admitted⟩ := appends (buf ++ bytes)
  refine ⟨bytes ++ more, by dsimp only; rw [ran, List.append_assoc], ?_⟩
  simp only [List.mem_append]
  rintro b (inBytes | inMore)
  exacts [fixed b inBytes, admitted b inMore]

theorem bind (first : AppendsOnly allowed f) (next : AppendsOnly allowed g) :
    AppendsOnly allowed (fun buf => f buf >>= g) := by
  intro buf
  obtain ⟨more, ran, admitted⟩ := first buf
  obtain ⟨more', ran', admitted'⟩ := next (buf ++ more)
  refine ⟨more ++ more', by dsimp only; rw [ran, Outcome.returns_bind, ran', List.append_assoc], ?_⟩
  simp only [List.mem_append]
  rintro b (inMore | inMore')
  exacts [admitted b inMore, admitted' b inMore']

theorem choose {c : Prop} [Decidable c] (yes : AppendsOnly allowed f) (no : AppendsOnly allowed g) :
    AppendsOnly allowed (fun buf => if c then f buf else g buf) := by
  by_cases holds : c
  · simpa only [if_pos holds] using yes
  · simpa only [if_neg holds] using no

theorem mono {allowed' : UInt8 → Prop} (weaker : ∀ b, allowed b → allowed' b)
    (appends : AppendsOnly allowed f) : AppendsOnly allowed' f := by
  intro buf
  obtain ⟨more, ran, admitted⟩ := appends buf
  exact ⟨more, ran, fun b member => weaker b (admitted b member)⟩

end AppendsOnly

/-- Every `int` prints, with no constraint on the bytes. -/
theorem printable_of_inRange {i : Int} (inRange : InInt64Range i) : Printable (fun _ => True) i :=
  fun _ low narrow buf => (itoa_returns buf inRange low narrow).imp fun _ ran => ⟨ran, fun _ _ => trivial⟩

/-- A non-negative number below `10^20` prints as digits. -/
theorem printable_digits {i : Int} (nonneg : 0 ≤ i) (fits : i < 10 ^ 20) : Printable IsDigit i :=
  fun _ low narrow buf => (itoa_paddedDecimal buf nonneg fits low narrow).imp
    fun _ ⟨ran, padded⟩ => ⟨ran, padded.allDigits⟩

section Header

variable {allowed : UInt8 → Prop} (l : MiniLogger)

theorem appendDate_appendsOnly {c : Clock} (numbers : ∀ i ∈ c.numbers, Printable allowed i)
    (marks : allowed slash ∧ allowed space) :
    AppendsOnly allowed (fun buf => appendDate buf c) := by
  have slashOk : ∀ b ∈ [slash], allowed b := by simpa using marks.1
  exact (numbers _ (by simp [Clock.numbers]) 4 (by decide) (by decide)).bind <|
    ((numbers _ (by simp [Clock.numbers]) 2 (by decide) (by decide)).after slashOk).bind <|
      ((numbers _ (by simp [Clock.numbers]) 2 (by decide) (by decide)).after slashOk).bind <|
        AppendsOnly.bytes (by simpa using marks.2)

theorem appendClock_appendsOnly {c : Clock} (numbers : ∀ i ∈ c.numbers, Printable allowed i)
    (marks : allowed colon ∧ allowed period ∧ allowed space) :
    AppendsOnly allowed (fun buf => l.appendClock buf c) := by
  have colonOk : ∀ b ∈ [colon], allowed b := by simpa using marks.1
  exact (numbers _ (by simp [Clock.numbers]) 2 (by decide) (by decide)).bind <|
    ((numbers _ (by simp [Clock.numbers]) 2 (by decide) (by decide)).after colonOk).bind <|
      ((numbers _ (by simp [Clock.numbers]) 2 (by decide) (by decide)).after colonOk).bind <|
        (AppendsOnly.choose ((numbers _ (by simp [Clock.numbers]) 6 (by decide) (by decide)).after
          (by simpa using marks.2.1)) AppendsOnly.stay).bind <|
          AppendsOnly.bytes (by simpa using marks.2.2)

theorem appendStamp_appendsOnly {c : Clock} (numbers : ∀ i ∈ c.numbers, Printable allowed i)
    (marks : allowed slash ∧ allowed colon ∧ allowed period ∧ allowed space) :
    AppendsOnly allowed (fun buf => l.appendStamp buf c) :=
  AppendsOnly.choose
    ((AppendsOnly.choose (appendDate_appendsOnly numbers ⟨marks.1, marks.2.2.2⟩) AppendsOnly.stay).bind
      (AppendsOnly.choose (appendClock_appendsOnly l numbers marks.2) AppendsOnly.stay))
    AppendsOnly.stay

/-- The file `Lshortfile` prints is a suffix of the caller's file. -/
theorem shortFile_suffix (file : Bytes) : shortFile file <:+ file := by
  suffices loop : ∀ i, shortFileFrom file i <:+ file from loop _
  intro i
  induction i with
  | zero => exact List.suffix_refl file
  | succ i ih =>
    rw [shortFileFrom]
    split_ifs
    exacts [List.drop_suffix _ _, ih]

theorem appendCaller_appendsOnly {file : Bytes} {line : Int} (fileOk : ∀ b ∈ file, allowed b)
    (lineOk : Printable allowed line) (marks : allowed colon ∧ allowed space) :
    AppendsOnly allowed (fun buf => l.appendCaller buf file line) := by
  have shownOk : ∀ b ∈ (if l.flag &&& lshortfile ≠ 0 then shortFile file else file), allowed b := by
    split_ifs
    exacts [fun b member => fileOk b ((shortFile_suffix file).subset member), fileOk]
  exact AppendsOnly.choose (((lineOk (-1) (by decide) (by decide)).after (by simpa using marks.1)).after shownOk
    |>.bind (AppendsOnly.bytes (by simpa using marks))) AppendsOnly.stay

/-- A header holds the prefix, the file, the printed numbers and the marks between them. -/
theorem formatHeader_appendsOnly {t : Time} {file : Bytes} {line : Int}
    (prefixOk : ∀ b ∈ l.linePrefix, allowed b) (fileOk : ∀ b ∈ file, allowed b)
    (numbers : ∀ i ∈ t.inZone.numbers ++ t.utc.numbers, Printable allowed i)
    (lineOk : Printable allowed line)
    (marks : allowed slash ∧ allowed colon ∧ allowed period ∧ allowed space) :
    AppendsOnly allowed (fun buf => l.formatHeader buf t file line) := by
  have clockOk : ∀ i ∈ (if l.flag &&& lUTC ≠ 0 then t.utc else t.inZone).numbers,
      Printable allowed i := by
    split_ifs
    exacts [fun i member => numbers i (by simp [member]), fun i member => numbers i (by simp [member])]
  exact ((appendStamp_appendsOnly l clockOk marks).after prefixOk).bind
    (appendCaller_appendsOnly l fileOk lineOk ⟨marks.2.1, marks.2.2.2⟩)

end Header

/-- `formatHeader` returns for every time and every line that Go `int`s hold:
`itoa`'s array never overflows on a header. -/
theorem formatHeader_returns (l : MiniLogger) (buf : Bytes) {t : Time} (file : Bytes) {line : Int}
    (inRange : t.InRange) (lineInRange : InInt64Range line) :
    ∃ header, l.formatHeader buf t file line = .returns (buf ++ header) := by
  have numbers : ∀ i ∈ t.inZone.numbers ++ t.utc.numbers, Printable (fun _ => True) i := by
    intro i member
    rcases List.mem_append.mp member with inZone | inUtc
    exacts [printable_of_inRange (inRange.1 i inZone), printable_of_inRange (inRange.2 i inUtc)]
  obtain ⟨header, ran, _⟩ := formatHeader_appendsOnly l (fun _ _ => trivial) (fun _ _ => trivial)
    numbers (printable_of_inRange lineInRange) ⟨trivial, trivial, trivial, trivial⟩ buf
  exact ⟨header, ran⟩

/-- The message part of the line ends in exactly one newline, which is the last byte. -/
theorem appendMessage_one_line (buf s : Bytes) (plainMessage : newline ∉ s.dropLast) :
    ∃ text, appendMessage buf s = buf ++ text ++ [newline] ∧ newline ∉ text := by
  rcases List.eq_nil_or_concat s with rfl | ⟨init, last, rfl⟩
  · exact ⟨[], by simp [appendMessage], by simp⟩
  · simp only [List.concat_eq_append, List.dropLast_concat] at plainMessage ⊢
    by_cases ended : last = newline
    · refine ⟨init, ?_, plainMessage⟩
      simp [appendMessage, ended]
    · refine ⟨init ++ [last], ?_, ?_⟩
      · simp [appendMessage, ended]
      · simpa [Ne.symm ended] using plainMessage

/-- An entry is written as exactly one line: when the prefix, the file and the
message before its last byte hold no newline, and the time's readings and the
line are non-negative `int`s, `Output` writes bytes whose only newline is the
last byte. -/
theorem outputLine_one_line (l : MiniLogger) (now : Time) (file : Bytes) (line : Int) (s : Bytes)
    (plainPrefix : newline ∉ l.linePrefix) (plainFile : newline ∉ file)
    (plainMessage : newline ∉ s.dropLast)
    (readings : ∀ i ∈ line :: (now.inZone.numbers ++ now.utc.numbers), 0 ≤ i ∧ i < 2 ^ 63) :
    ∃ text, l.outputLine now file line s = .returns (text ++ [newline]) ∧ newline ∉ text := by
  have printable : ∀ i ∈ line :: (now.inZone.numbers ++ now.utc.numbers),
      Printable (· ≠ newline) i := by
    intro i member
    obtain ⟨nonneg, fits⟩ := readings i member
    have digits := printable_digits nonneg (Int.lt_trans fits (by decide))
    exact fun wid low narrow => (digits wid low narrow).mono fun b isDigit => by
      rintro rfl
      exact absurd isDigit (by decide)
  obtain ⟨header, ran, plainHeader⟩ := @formatHeader_appendsOnly (· ≠ newline) l now file line
    (fun b member same => plainPrefix (same ▸ member)) (fun b member same => plainFile (same ▸ member))
    (fun i member => printable i (List.mem_cons_of_mem _ member)) (printable line (List.mem_cons_self _ _))
    (by decide) []
  obtain ⟨text, appended, plainText⟩ := appendMessage_one_line header s plainMessage
  refine ⟨header ++ text, ?_, ?_⟩
  · dsimp only at ran
    rw [MiniLogger.outputLine, ran, Outcome.returns_bind, List.nil_append, appended]
    rfl
  · simp only [List.mem_append, not_or]
    exact ⟨fun inHeader => plainHeader newline inHeader rfl, plainText⟩

/-- `itoa` is a zero-padded decimal printer with a round trip, at the widths
whose `wid--` cannot wrap. A non-negative `int` below `10^20` at a width from
`-2^63 + 20` to 20 is printed as its decimal, zero-padded to the width; a
zero-padded digit string of up to twenty digits is printed back exactly from the
number it spells at its own width; on a non-negative value, at a width from
`-2^63 + 20` up, `itoa` panics exactly when its twenty-byte array is too small;
and at the width `-2^63`, every value of two digits or more wraps the countdown
and panics. -/
theorem itoa_decimal_round_trip (buf : Bytes) :
    (∀ i wid : Int, 0 ≤ i → i < 10 ^ 20 → -2 ^ 63 + 20 ≤ wid → wid ≤ 20 →
      ∃ digits, itoa buf i wid = .returns (buf ++ digits) ∧ PaddedDecimal digits i.toNat wid) ∧
    (∀ digits : Bytes, (∀ b ∈ digits, IsDigit b) → digits ≠ [] → digits.length ≤ 20 →
      itoa buf (readDecimal digits) digits.length = .returns (buf ++ digits)) ∧
    (∀ i wid : Int, 0 ≤ i → -2 ^ 63 + 20 ≤ wid → wid < 2 ^ 63 →
      (itoa buf i wid = .panics ↔ 10 ^ 20 ≤ i ∨ 20 < wid)) ∧
    (∀ i : Int, 10 ≤ i → itoa buf i (-2 ^ 63) = .panics) :=
  ⟨fun _ _ nonneg fits low narrow => itoa_paddedDecimal buf nonneg fits low narrow,
    fun digits allDigits nonempty short => itoa_readDecimal buf digits allDigits nonempty short,
    fun _ wid nonneg low high => itoa_panics_iff buf wid nonneg low high,
    fun _ twoDigits => itoa_wrapped_width_panics buf twoDigits⟩

/-- What `Output` writes for one entry. For every time and line that Go `int`s
hold, the line is the header `formatHeader` writes, then the message, then a
newline exactly when the message does not end in one; and when the prefix, the
file and the message before its last byte hold no newline and the readings are
non-negative, the line holds exactly one newline, as its last byte. -/
theorem output_writes_one_line (l : MiniLogger) (now : Time) (file : Bytes) (line : Int) (s : Bytes) :
    (now.InRange → InInt64Range line → ∃ header, l.formatHeader [] now file line = .returns header ∧
      l.outputLine now file line s =
        .returns (header ++ s ++ if s.getLast? = some newline then [] else [newline])) ∧
    (newline ∉ l.linePrefix → newline ∉ file → newline ∉ s.dropLast →
      (∀ i ∈ line :: (now.inZone.numbers ++ now.utc.numbers), 0 ≤ i ∧ i < 2 ^ 63) →
      ∃ text, l.outputLine now file line s = .returns (text ++ [newline]) ∧ newline ∉ text) := by
  refine ⟨fun inRange lineInRange => ?_, outputLine_one_line l now file line s⟩
  obtain ⟨header, formatted⟩ := formatHeader_returns l [] file inRange lineInRange
  rw [List.nil_append] at formatted
  refine ⟨header, formatted, ?_⟩
  rw [MiniLogger.outputLine, formatted, Outcome.returns_bind, appendMessage]
  by_cases ended : s.getLast? = some newline <;> simp [ended]

/-- The logger `New(w, "p:", Ldate|Ltime|Lmicroseconds|Lshortfile)`. -/
def stampedLogger : MiniLogger := ⟨[112, 58], ldate ||| ltime ||| lmicroseconds ||| lshortfile, 0⟩

/-- `2009/01/23 01:23:23.123123`, in the local zone and in UTC. -/
def stampTime : Time := ⟨⟨2009, 1, 23, 1, 23, 23, 123123000⟩, ⟨2009, 1, 23, 1, 23, 23, 123123000⟩⟩

/-- `Output` of `hi` from `a/b.go:42` on `stampedLogger`: the header, `hi` and one
added newline, which is the line's only one. -/
theorem output_writes_one_line_stamped :
    (∃ header, stampedLogger.formatHeader [] stampTime [97, 47, 98, 46, 103, 111] 42 = .returns header ∧
      stampedLogger.outputLine stampTime [97, 47, 98, 46, 103, 111] 42 [104, 105] =
        .returns (header ++ [104, 105] ++ [newline])) ∧
    ∃ text, stampedLogger.outputLine stampTime [97, 47, 98, 46, 103, 111] 42 [104, 105] =
      .returns (text ++ [newline]) ∧ newline ∉ text :=
  ⟨(output_writes_one_line stampedLogger stampTime [97, 47, 98, 46, 103, 111] 42 [104, 105]).1
      (by decide) (by decide),
    (output_writes_one_line stampedLogger stampTime [97, 47, 98, 46, 103, 111] 42 [104, 105]).2
      (by decide) (by decide) (by decide) (by decide)⟩

end MiniLog
end Zerodisk
