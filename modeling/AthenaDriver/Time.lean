/-
# AthenaDriver.Time — `time.Time` and the two layouts the driver formats with

A `time.Time` is the instant it denotes, `Time.ns` nanoseconds after the zero
`Time` (January 1, year 1, 00:00:00 UTC). The driver only reads a time through
`t.In(time.UTC)`, so the location is not kept and `In(time.UTC)` is the identity.
The calendar fields are those of the proleptic Gregorian calendar (`civil`, on
days counted from March 1 of year 0, so that the leap day ends a year).

`Time.format` is `time.Format` for the layout chunks the driver's two layouts
split into: `timestampFormatDriverMicro` (`"2006-01-02 15:04:05.000000"`) and
`time.DateTime` (`"2006-01-02 15:04:05"`). Each chunk appends through time's own
`appendInt`, whose two- and four-digit fast paths are kept.

The Go `int64` range of a `Time` is not kept: no result here depends on it.
-/
import AthenaDriver.Go

namespace AthenaDriver

set_option autoImplicit false

/-- A `time.Time`: nanoseconds after January 1, year 1, 00:00:00 UTC. -/
structure Time where
  ns : Int
  deriving DecidableEq, Repr

/-- A `time.Duration`, in nanoseconds. -/
abbrev Duration := Int

/-- A proleptic Gregorian date. -/
structure Date where
  year : Int
  month : Nat
  day : Nat
  deriving DecidableEq, Repr

/-- The date `days` days after January 1, year 1. -/
def civil (days : Int) : Date :=
  let z := days + 306
  let era := z / 146097
  let doe := (z % 146097).toNat
  let yoe := (doe - doe / 1460 + doe / 36524 - doe / 146096) / 365
  let doy := doe - (365 * yoe + yoe / 4 - yoe / 100)
  let mp := (5 * doy + 2) / 153
  let month := if mp < 10 then mp + 3 else mp - 9
  { year := yoe + era * 400 + (if month ≤ 2 then 1 else 0)
    month
    day := doy - (153 * mp + 2) / 5 + 1 }

namespace Time

/-- `t.IsZero()`. -/
def isZero (t : Time) : Bool := t.ns == 0

/-- `t.Add(d)`. -/
def add (t : Time) (d : Duration) : Time := ⟨t.ns + d⟩

/-- `t.Nanosecond()`. -/
def nanosecond (t : Time) : Nat := (t.ns % 1000000000).toNat

/-- The seconds elapsed in `t`'s day. -/
def daySeconds (t : Time) : Nat := (t.ns / 1000000000 % 86400).toNat

/-- `t.Year()`, `t.Month()`, `t.Day()` together. -/
def date (t : Time) : Date := civil (t.ns / 86400000000000)

def year (t : Time) : Int := t.date.year
def month (t : Time) : Nat := t.date.month
def day (t : Time) : Nat := t.date.day
def hour (t : Time) : Nat := t.daySeconds / 3600
def minute (t : Time) : Nat := t.daySeconds % 3600 / 60
def second (t : Time) : Nat := t.daySeconds % 60

end Time

/-! ## `time.Format` -/

/-- The chunks Go's `nextStdChunk` splits a layout into, for those the driver's
layouts contain. -/
inductive Chunk
  | text (s : GoString)
  | stdLongYear
  | stdZeroMonth
  | stdZeroDay
  | stdHour
  | stdZeroMinute
  | stdZeroSecond
  | stdFracSecond0 (digits : Nat)
  deriving DecidableEq, Repr

/-- `time.DateTime`, `"2006-01-02 15:04:05"`. -/
def dateTime : List Chunk :=
  [.stdLongYear, .text (ascii "-"), .stdZeroMonth, .text (ascii "-"), .stdZeroDay,
    .text (ascii " "), .stdHour, .text (ascii ":"), .stdZeroMinute, .text (ascii ":"),
    .stdZeroSecond]

/-- `timestampFormatDriverMicro`, `"2006-01-02 15:04:05.000000"`. -/
def timestampFormatDriverMicro : List Chunk := dateTime ++ [.stdFracSecond0 6]

/-- The digit byte of `u < 10`. -/
def utod (u : Nat) : UInt8 := (48 + u).toUInt8

/-- `appendInt` of package time: `x` in decimal, zero-padded to `width` digits. -/
def appendInt (b : GoString) (x : Int) (width : Nat) : GoString :=
  let sign := if x < 0 then ascii "-" else []
  let u := x.natAbs
  if width = 2 ∧ u < 100 then b ++ sign ++ [utod (u / 10), utod (u % 10)]
  else if width = 4 ∧ u < 10000 then
    b ++ sign ++ [utod (u / 1000), utod (u / 100 % 10), utod (u / 10 % 10), utod (u % 10)]
  else b ++ sign ++ List.replicate (width - (decimal u).length) (utod 0) ++ decimal u

/-- `appendNano` for `stdFracSecond0` with `n` digits: a dot, the nanoseconds
padded to nine digits, cut back to `n`. -/
def appendNano (b : GoString) (nanosec n : Nat) : GoString :=
  let b := appendInt (b ++ ascii ".") nanosec 9
  if n < 9 then b.take (b.length - 9 + n) else b

/-- One chunk of `t.Format(layout)`. -/
def appendChunk (t : Time) (b : GoString) : Chunk → GoString
  | .text s => b ++ s
  | .stdLongYear => appendInt b t.year 4
  | .stdZeroMonth => appendInt b t.month 2
  | .stdZeroDay => appendInt b t.day 2
  | .stdHour => appendInt b t.hour 2
  | .stdZeroMinute => appendInt b t.minute 2
  | .stdZeroSecond => appendInt b t.second 2
  | .stdFracSecond0 n => appendNano b t.nanosecond n

/-- `t.Format(layout)`. -/
def Time.format (t : Time) (layout : List Chunk) : GoString := layout.foldl (appendChunk t) []

end AthenaDriver
