/-
# AthenaDriver.Config — arguments, configuration, and the helpers of constants.go and utils.go

`Value` is a `driver.Value` as the two type switches of connection.go see it.
`Config` is the driver configuration through the getters connection.go calls, and
`Workgroup` the wrapper of wg.go.

connection.go calls helpers that constants.go and utils.go define, files this
development does not model: the constants `MAXQueryStringLength`, `DefaultWGName` and
`DriverVersion`, the predicates `isReadOnlyStatement`, `isQueryValid`, `IsQID` and
`isQueryTimeOut`, and the escapers `escapeBytesBackslash`,
`escapeStringBackslash`. `Helpers` takes each as a parameter, with
`strconv.FormatFloat(v, 'g', -1, 64)` and `strconv.Quote`, so that every theorem
holds whatever they compute. `sprintf` is what `fmt.Errorf` writes for a format
string given no operands.
-/
import AthenaDriver.Time

namespace AthenaDriver

set_option autoImplicit false

/-- A `driver.Value`: `nil`, one of the seven types the type switches handle, or
a value of any other type. A Go `int64`, `uint64` or `float64` is its 64 bits. -/
inductive Value
  | null
  | int64 (v : BitVec 64)
  | uint64 (v : BitVec 64)
  | float64 (bits : BitVec 64)
  | bool (v : Bool)
  | time (t : Time)
  | bytes (v : GoString)
  | string (v : GoString)
  | other (typeName : GoString)
  deriving DecidableEq, Repr

/-- A value of none of the types the type switches handle. -/
def Value.unsupported : Value → Bool
  | .other _ => true
  | _ => false

/-- A `driver.NamedValue`; its name and ordinal are never read by connection.go. -/
structure NamedValue where
  value : Value
  deriving DecidableEq, Repr

/-- Modelled from the spec: `namedValueToValue` is defined outside connection.go and
wg.go; it is the ordered list of argument values, one per argument. -/
def namedValueToValue (named : List NamedValue) : List Value := named.map (·.value)

@[simp] theorem namedValueToValue_length (named : List NamedValue) :
    (namedValueToValue named).length = named.length := List.length_map _ _

/-- Modelled from the spec: the per-statement-type timeout overrides of the
service limit, in seconds. -/
structure ServiceLimitOverride where
  ddlQueryTimeout : Nat
  dmlQueryTimeout : Nat
  deriving DecidableEq, Repr

/-- `Workgroup` of wg.go: the name, and the tags `CreateWGRemotely` sends. The
configuration blob it passes through unread is not kept. -/
structure Workgroup where
  name : GoString
  tags : List (GoString × GoString)
  deriving DecidableEq, Repr

/-- The driver configuration, through the getters connection.go calls. -/
structure Config where
  isReadOnly : Bool
  workgroup : Workgroup
  isWGRemoteCreationAllowed : Bool
  isMoneyWise : Bool
  db : GoString
  outputBucket : GoString
  resultPollInterval : Duration
  serviceLimitOverride : Option ServiceLimitOverride
  deriving DecidableEq, Repr

/-- The helpers connection.go calls from constants.go and utils.go, and the
`strconv` and `fmt` functions whose output the model leaves open. The escapers give the
bytes they append; `isQueryTimeOut` reads the clock as its last argument. -/
structure Helpers where
  maxQueryStringLength : Nat
  defaultWGName : GoString
  driverVersion : GoString
  isReadOnlyStatement : GoString → Bool
  isQueryValid : GoString → Bool
  isQID : GoString → Bool
  isQueryTimeOut : Time → GoString → Option ServiceLimitOverride → Time → Bool
  escapeBytesBackslash : GoString → GoString
  escapeStringBackslash : GoString → GoString
  formatFloat : BitVec 64 → GoString
  quote : GoString → GoString
  sprintf : GoString → GoString

end AthenaDriver
