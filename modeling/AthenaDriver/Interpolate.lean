/-
# AthenaDriver.Interpolate — `interpolateParams` and `buildExecutionParams`

`interpolateParams` checks `strings.Count(query, "?") = len(args)` and then runs
its loop. The loop is kept as the source writes it: a `Cursor` holds `i`,
`argPos` and `queryBuffer`, and `pass` is one pass of the body from the loop test
`i < len(query)`: find the next `'?'` with `strings.IndexByte`, copy the segment
before it, step `i += q`, read `args[argPos]` with Go's bounds check, append
`NULL` and `continue` for `nil`, otherwise append what the type switch writes
(`interpolateValue`) and check the buffer against `10*MAXQueryStringLength`; the
`i++` of the `for` statement is the `+ 1` of the next cursor. `loop` runs passes
until one leaves the loop; each pass that goes round again moves `i` forward
(`pass_next_advances`).

The `time.Time` case renders through the `digits10`/`digits01` tables
(`timeLiteral`); each `digits10[n], digits01[n]` pair is `twoDigits n`, which
panics when `n` is outside `0..99`. `buildExecutionParams` renders a time
through `time.Format` (`timeParam`).
-/
import AthenaDriver.Config

namespace AthenaDriver

set_option autoImplicit false

variable (X : Helpers)

/-- Modelled from the spec: `digits10` is defined outside connection.go and wg.go;
it is the table of the tens digits of `0..99` that the time rendering indexes. -/
def digits10 : GoString := (List.range 100).map fun n => utod (n / 10)

/-- Modelled from the spec: `digits01` is defined outside connection.go and wg.go;
it is the table of the units digits of `0..99`. -/
def digits01 : GoString := (List.range 100).map fun n => utod (n % 10)

/-- `digits10[n], digits01[n]`. -/
def twoDigits (n : Int) : Go GoString := do
  let tens ← index digits10 n
  let units ← index digits01 n
  pure [tens, units]

/-- What the `time.Time` case of `interpolateParams` appends (lines 160-204). -/
def timeLiteral (v : Time) : Go GoString :=
  if v.isZero then pure (ascii "'0000-00-00'")
  else do
    let v := v.add 500
    let year := v.year
    let micro := v.nanosecond / 1000
    let year100 ← twoDigits (year.tdiv 100)
    let year1 ← twoDigits (year.tmod 100)
    let month ← twoDigits v.month
    let day ← twoDigits v.day
    let hour ← twoDigits v.hour
    let minute ← twoDigits v.minute
    let second ← twoDigits v.second
    let fraction ←
      if micro ≠ 0 then do
        let micro10000 ← twoDigits (micro / 10000)
        let micro100 ← twoDigits (micro / 100 % 100)
        let micro1 ← twoDigits (micro % 100)
        pure (ascii "." ++ micro10000 ++ micro100 ++ micro1)
      else pure []
    pure (ascii "'" ++ year100 ++ year1 ++ ascii "-" ++ month ++ ascii "-" ++ day ++
      ascii " " ++ hour ++ ascii ":" ++ minute ++ ascii ":" ++ second ++ fraction ++ ascii "'")

/-- What the type switch of `interpolateParams` appends for an argument
(lines 147-215); `nil` is handled before the switch. -/
def interpolateValue : Value → Go GoString
  | .null => pure (ascii "NULL")
  | .int64 v => pure (formatInt v.toInt)
  | .uint64 v => pure (decimal v.toNat)
  | .float64 v => pure (X.formatFloat v)
  | .bool v => pure (if v then ascii "1" else ascii "0")
  | .time v => timeLiteral v
  | .bytes v => pure (ascii "_binary'" ++ X.escapeBytesBackslash v ++ ascii "'")
  | .string v => pure (ascii "'" ++ X.escapeStringBackslash v ++ ascii "'")
  | .other _ => fail .errQueryUnknownType

/-! ## The loop of `interpolateParams` -/

/-- The variables of the loop of `interpolateParams`. -/
structure Cursor where
  i : Nat
  argPos : Nat
  queryBuffer : GoString
  deriving DecidableEq, Repr

/-- The end of one pass of the loop body: round again from a cursor, or out of
the loop with the function's result. -/
inductive Pass
  | next (c : Cursor)
  | exit (result : Go GoString)

/-- One pass of the loop of `interpolateParams` (lines 130-220), from its test. -/
def pass (query : GoString) (args : List Value) (c : Cursor) : Pass :=
  if c.i < query.length then
    match indexByte (query.drop c.i) questionMark with
    | none => .exit (pure (c.queryBuffer ++ query.drop c.i))
    | some q =>
        let queryBuffer := c.queryBuffer ++ (query.drop c.i).take q
        let i := c.i + q
        match index args c.argPos with
        | .error e => .exit (.error e)
        | .ok .null => .next ⟨i + 1, c.argPos + 1, queryBuffer ++ ascii "NULL"⟩
        | .ok arg =>
            match interpolateValue X arg with
            | .error e => .exit (.error e)
            | .ok text =>
                let queryBuffer := queryBuffer ++ text
                if queryBuffer.length + 4 > 10 * X.maxQueryStringLength then
                  .exit (fail .errQueryBufferOF)
                else .next ⟨i + 1, c.argPos + 1, queryBuffer⟩
  else .exit (pure c.queryBuffer)

/-- A pass that goes round again moves `i` forward, from inside the query. -/
theorem pass_next_advances {query : GoString} {args : List Value} {c c' : Cursor}
    (next : pass X query args c = .next c') : c.i < query.length ∧ c.i < c'.i := by
  unfold pass at next
  split at next
  · refine ⟨by assumption, ?_⟩
    split at next
    · cases next
    · dsimp only at next
      split at next
      · cases next
      · cases next; simp only; omega
      · split at next
        · cases next
        · split at next
          · cases next
          · cases next; simp only; omega
  · cases next

/-- The loop of `interpolateParams`. -/
def loop (query : GoString) (args : List Value) (c : Cursor) : Go GoString :=
  match next : pass X query args c with
  | .next c' => loop query args c'
  | .exit result => result
termination_by query.length - c.i
decreasing_by
  have := pass_next_advances X next
  omega

theorem loop_next {query : GoString} {args : List Value} {c c' : Cursor}
    (next : pass X query args c = .next c') : loop X query args c = loop X query args c' := by
  rw [loop, next]

theorem loop_exit {query : GoString} {args : List Value} {c : Cursor} {result : Go GoString}
    (exit : pass X query args c = .exit result) : loop X query args c = result := by
  rw [loop, exit]

/-- `interpolateParams` (lines 119-222). -/
def interpolateParams (query : GoString) (args : List Value) : Go GoString :=
  if count query questionMark ≠ args.length then fail .errInvalidQuery
  else loop X query args ⟨0, 0, []⟩

/-! ## `buildExecutionParams` -/

/-- What the `time.Time` case of `buildExecutionParams` writes (lines 81-98). -/
def timeParam (v : Time) : GoString :=
  if v.isZero then ascii "'0000-00-00'"
  else
    let v := v.add 500
    let dateFormat := if v.nanosecond / 1000 = 0 then dateTime else timestampFormatDriverMicro
    ascii "'" ++ v.format dateFormat ++ ascii "'"

/-- The execution parameter `buildExecutionParams` writes for an argument
(lines 62-114). -/
def executionParam : Value → Go GoString
  | .null => pure (ascii "NULL")
  | .int64 v => pure (formatInt v.toInt)
  | .uint64 v => pure (decimal v.toNat)
  | .float64 v => pure (X.formatFloat v)
  | .bool v => pure (if v then ascii "1" else ascii "0")
  | .time v => pure (timeParam v)
  | .bytes v => pure v
  | .string v => pure v
  | .other _ => fail .errQueryUnknownType

/-- `buildExecutionParams` (lines 55-117); Go's `nil` list is `[]`. -/
def buildExecutionParams (args : List Value) : Go (List GoString) :=
  if args.length = 0 then pure [] else args.mapM (executionParam X)

end AthenaDriver
