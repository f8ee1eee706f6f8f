/-
# AthenaDriver.Reference — a concrete `Helpers`, for runs on fixed inputs

Every theorem of the development holds for every `Helpers`. The runs on fixed
inputs, which show a property at work or a divergence from the intended
behaviour, need one concrete value of each helper of constants.go and utils.go.
`reference` gives each the behaviour the spec states for it: an execution id
has a fixed UUID shape (`isQIDShape`), a read-only statement is recognised by
its first keyword, case-insensitively
(`isReadOnlyKeyword`), a query is valid when it is not blank, the timeout is
keyed by statement type with the service-limit override taking precedence, and
the escapers backslash-escape `\`, `'`, `"`, NUL, newline, carriage return and
Ctrl-Z. `referenceConfig`, `readOnlyConfig`, `analyticsConfig` and
`unnamedConfig` are configurations for those runs.
`strconv.FormatFloat` has no spec here, and `fmt`'s treatment of a `%`
in a format given no operands is left out: no fixed run formats a float or puts a
`%` in a query.
-/
import AthenaDriver.Config

namespace AthenaDriver

set_option autoImplicit false

/-- A lowercase hexadecimal digit. -/
def isHexLower (b : UInt8) : Bool := (48 ≤ b && b ≤ 57) || (97 ≤ b && b ≤ 102)

/-- Modelled from the spec: `IsQID` is defined outside connection.go and wg.go; an
execution identifier matches the fixed format `xxxxxxxx-xxxx-xxxx-xxxx-xxxxxxxxxxxx`
of lowercase hexadecimal digits. -/
def isQIDShape (s : GoString) : Bool :=
  s.length == 36 && (List.range 36).all fun k =>
    if k ∈ [8, 13, 18, 23] then s.get? k == some 45 else (s.get? k).any isHexLower

/-- The upper-case of an ASCII letter. -/
def toUpperByte (b : UInt8) : UInt8 := if 97 ≤ b && b ≤ 122 then b - 32 else b

/-- Modelled from the spec: `isReadOnlyStatement` is defined outside connection.go
and wg.go; a statement is read-only when its first keyword, in any case, opens a
query that reads. -/
def isReadOnlyKeyword (s : GoString) : Bool :=
  let keyword := ((s.dropWhile (· == space)).takeWhile (· != space)).map toUpperByte
  [ascii "SELECT", ascii "SHOW", ascii "DESCRIBE", ascii "DESC", ascii "EXPLAIN", ascii "WITH"].contains
    keyword

/-- Modelled from the spec: `isQueryTimeOut` is defined outside connection.go and
wg.go; a query times out once the time since its submission passes the limit for its
statement type, 600 minutes for DDL and 30 minutes otherwise, unless the
service-limit override sets the limit. -/
def queryTimedOut (start : Time) (statementType : GoString)
    (override : Option ServiceLimitOverride) (now : Time) : Bool :=
  let seconds :=
    if statementType = ascii "DDL" then (override.map (·.ddlQueryTimeout)).getD (600 * 60)
    else (override.map (·.dmlQueryTimeout)).getD (30 * 60)
  now.ns - start.ns > seconds * 1000000000

/-- Modelled from the spec: the escapers are defined outside connection.go and
wg.go; they backslash-escape `\`, `'`, `"`, NUL, newline, carriage return and
Ctrl-Z. -/
def escapeBackslash (v : GoString) : GoString :=
  v.flatMap fun b =>
    if b = 0 then ascii "\\0" else if b = 10 then ascii "\\n" else if b = 13 then ascii "\\r"
    else if b = 26 then ascii "\\Z" else if b = 39 then ascii "\\'"
    else if b = 34 then ascii "\\\"" else if b = 92 then ascii "\\\\" else [b]

/-- `strconv.Quote` on printable ASCII: the text in double quotes, with `"` and
`\` escaped. -/
def quoteASCII (s : GoString) : GoString :=
  ascii "\"" ++ s.flatMap (fun b => if b = 34 ∨ b = 92 then [92, b] else [b]) ++ ascii "\""

/-- The reference helpers. -/
def reference : Helpers where
  maxQueryStringLength := 262144
  defaultWGName := ascii "primary"
  driverVersion := ascii "1.0.0"
  isReadOnlyStatement := isReadOnlyKeyword
  isQueryValid := fun s => !(trim s space).isEmpty
  isQID := isQIDShape
  isQueryTimeOut := queryTimedOut
  escapeBytesBackslash := escapeBackslash
  escapeStringBackslash := escapeBackslash
  formatFloat := fun bits => decimal bits.toNat
  quote := quoteASCII
  sprintf := id

/-- A configuration for fixed runs: writes allowed, the default workgroup, no
remote creation, not money-wise, a poll every second, no service-limit
override. -/
def referenceConfig : Config where
  isReadOnly := false
  workgroup := ⟨ascii "primary", []⟩
  isWGRemoteCreationAllowed := false
  isMoneyWise := false
  db := ascii "default"
  outputBucket := ascii "s3://results/"
  resultPollInterval := 1000000000
  serviceLimitOverride := none

/-- The same configuration, in read-only mode. -/
def readOnlyConfig : Config := { referenceConfig with isReadOnly := true }

/-- The same configuration, with a workgroup of its own, `analytics`. -/
def analyticsConfig : Config := { referenceConfig with workgroup := ⟨ascii "analytics", []⟩ }

/-- The same configuration, with no workgroup named. -/
def unnamedConfig : Config := { referenceConfig with workgroup := ⟨[], []⟩ }

end AthenaDriver
