/-
# AthenaDriver.Go — the pieces of Go that connection.go leans on

A Go `string` (and a `[]byte`) is its bytes, `GoString`. The `strings` functions
`QueryContext` and `interpolateParams` call are written over those bytes:
`hasPrefix`, `trim` (with the one-byte cutset `" "`), `count` (with the one-byte
separator `"?"`) and `indexByte`, whose `-1` is `none`.

A Go call that returns `(T, error)` or panics is a `Go T` computation: `.ok v`,
an error return `.error (.error e)`, or a runtime panic `.error (.panic p)`.
The panics the driver can raise are a nil dereference and an index out of range
(`index`, `deref`). `GoError` holds the error values the driver creates, compares
with `errors.Is` (`GoError.is`) or unwraps with `errors.As` (`GoError.asResponseError`).
-/
import Mathlib.Data.List.Basic

namespace AthenaDriver

set_option autoImplicit false

/-- A Go `string` or `[]byte`: its bytes. -/
abbrev GoString := List UInt8

/-- The bytes of an ASCII literal of the source. -/
def ascii (s : String) : GoString := s.toList.map fun c => c.toNat.toUInt8

/-- The byte `' '`. -/
def space : UInt8 := 32

/-- The byte `'?'`, the placeholder of a parameterised query. -/
def questionMark : UInt8 := 63

/-! ## `strings` -/

/-- `strings.HasPrefix`. -/
def hasPrefix (s pre : GoString) : Bool := pre.isPrefixOf s

/-- `strings.Trim(s, cutset)` for a one-byte cutset: drop the byte at both ends. -/
def trim (s : GoString) (c : UInt8) : GoString :=
  ((s.dropWhile (· == c)).reverse.dropWhile (· == c)).reverse

/-- `strings.Count(s, sep)` for a one-byte `sep`. -/
def count (s : GoString) (c : UInt8) : Nat := s.count c

/-- `strings.IndexByte`; `none` is Go's `-1`. -/
def indexByte : GoString → UInt8 → Option Nat
  | [], _ => none
  | b :: s, c => if b = c then some 0 else (indexByte s c).map (· + 1)

theorem indexByte_eq_none {s : GoString} {c : UInt8} (absent : c ∉ s) : indexByte s c = none := by
  induction s with
  | nil => rfl
  | cons b s ih =>
      simp only [List.mem_cons, not_or] at absent
      simp [indexByte, Ne.symm absent.1, ih absent.2]

theorem not_mem_of_indexByte_eq_none {s : GoString} {b : UInt8} (absent : indexByte s b = none) :
    b ∉ s := by
  induction s with
  | nil => simp
  | cons x s ih =>
      simp only [indexByte] at absent
      split at absent
      · cases absent
      · rename_i differs
        have rest : indexByte s b = none := Option.map_eq_none'.1 absent
        exact fun mem => (List.mem_cons.1 mem).elim (fun h => differs h.symm) (ih rest)

theorem indexByte_append_cons {s t : GoString} {c : UInt8} (absent : c ∉ s) :
    indexByte (s ++ c :: t) c = some s.length := by
  induction s with
  | nil => simp [indexByte]
  | cons b s ih =>
      simp only [List.mem_cons, not_or] at absent
      simp [indexByte, Ne.symm absent.1, ih absent.2]

theorem hasPrefix_append (s t : GoString) : hasPrefix (s ++ t) s = true := by
  simp [hasPrefix, List.isPrefixOf_iff_prefix]

theorem hasPrefix_iff {s pre : GoString} : hasPrefix s pre = true ↔ pre <+: s :=
  List.isPrefixOf_iff_prefix

/-- `s ++ t` does not start with `pre` when `s` and `pre` differ within their
common length. -/
theorem hasPrefix_append_eq_false {s t pre : GoString} (short : ¬pre <+: s) (long : ¬s <+: pre) :
    hasPrefix (s ++ t) pre = false := by
  rw [Bool.eq_false_iff, ne_eq, hasPrefix_iff]
  exact fun starts => (List.prefix_or_prefix_of_prefix starts (List.prefix_append s t)).elim short long

section Trim

/-! `trim s c` is the one text with no `c` at either end that `s` holds between
two runs of `c` (`trim_split`, `trim_edges`, `trim_replicate_append`). -/

variable {c : UInt8}

theorem dropWhile_beq_of_head {s : GoString} (head : s.head? ≠ some c) : s.dropWhile (· == c) = s := by
  cases s with
  | nil => rfl
  | cons b s => simp_all [List.dropWhile_cons]

theorem dropWhile_replicate_append (a : Nat) {s : GoString} (head : s.head? ≠ some c) :
    (List.replicate a c ++ s).dropWhile (· == c) = s := by
  induction a with
  | zero => exact dropWhile_beq_of_head head
  | succ a ih => simpa [List.replicate_succ, List.dropWhile_cons] using ih

theorem head?_dropWhile_beq (s : GoString) : (s.dropWhile (· == c)).head? ≠ some c := by
  intro starts
  have stopped := List.head?_dropWhile_not (· == c) s
  simp [starts] at stopped

theorem takeWhile_beq_eq_replicate (s : GoString) : ∃ n, s.takeWhile (· == c) = List.replicate n c :=
  ⟨_, List.eq_replicate_iff.2 ⟨rfl, fun _ mem => by simpa using List.mem_takeWhile_imp mem⟩⟩

/-- After the leading `c`s, what is left is the trimmed text and the trailing `c`s. -/
theorem dropWhile_eq_trim_append (s : GoString) :
    ∃ d, s.dropWhile (· == c) = trim s c ++ List.replicate d c := by
  obtain ⟨d, trailing⟩ := takeWhile_beq_eq_replicate (c := c) (s.dropWhile (· == c)).reverse
  refine ⟨d, ?_⟩
  conv_lhs => rw [← List.reverse_reverse (s.dropWhile _),
    ← List.takeWhile_append_dropWhile (· == c) (s.dropWhile _).reverse]
  rw [List.reverse_append, trailing, List.reverse_replicate, trim]

theorem trim_split (s : GoString) : ∃ a d, s = List.replicate a c ++ trim s c ++ List.replicate d c := by
  obtain ⟨a, leading⟩ := takeWhile_beq_eq_replicate (c := c) s
  obtain ⟨d, trailing⟩ := dropWhile_eq_trim_append (c := c) s
  exact ⟨a, d, by rw [List.append_assoc, ← trailing, ← leading, List.takeWhile_append_dropWhile]⟩

theorem trim_edges (s : GoString) : (trim s c).head? ≠ some c ∧ (trim s c).getLast? ≠ some c := by
  refine ⟨fun starts => ?_, by rw [trim, List.getLast?_reverse]; exact head?_dropWhile_beq _⟩
  obtain ⟨d, trailing⟩ := dropWhile_eq_trim_append (c := c) s
  exact head?_dropWhile_beq s (by rw [trailing, List.head?_append, starts]; rfl)

theorem trim_replicate_append (a d : Nat) {s : GoString} (head : s.head? ≠ some c)
    (last : s.getLast? ≠ some c) : trim (List.replicate a c ++ s ++ List.replicate d c) c = s := by
  cases s with
  | nil => simp [trim, ← List.replicate_add, List.dropWhile_replicate]
  | cons b s =>
      rw [trim, List.append_assoc, dropWhile_replicate_append a (by simpa using head), List.reverse_append,
        List.reverse_replicate, dropWhile_replicate_append d (by rwa [List.head?_reverse]),
        List.reverse_reverse]

/-- A text with no `c` at either end, after leading `c`s, starts what `trim` keeps. -/
theorem prefix_trim_replicate_append (a : Nat) {w t : GoString} (nonempty : w ≠ [])
    (head : w.head? ≠ some c) (last : w.getLast? ≠ some c) :
    w <+: trim (List.replicate a c ++ w ++ t) c := by
  have starts : (w ++ t).head? ≠ some c := by
    cases w with
    | nil => contradiction
    | cons b w => simpa using head
  rw [trim, List.append_assoc, dropWhile_replicate_append a starts, List.reverse_append, List.dropWhile_append]
  split
  · rw [dropWhile_beq_of_head (by rwa [List.head?_reverse])]
    simp only [List.reverse_reverse, List.prefix_refl]
  · rw [List.reverse_append, List.reverse_reverse]
    exact List.prefix_append _ _

theorem exists_of_prefix_trim {w s : GoString} (starts : w <+: trim s c) :
    ∃ a t, s = List.replicate a c ++ w ++ t := by
  obtain ⟨t, kept⟩ := starts
  obtain ⟨a, d, split⟩ := trim_split (c := c) s
  exact ⟨a, t ++ List.replicate d c, by rw [split, ← kept]; simp⟩

end Trim

/-! ## `strconv` -/

/-- The decimal digits of `n`, as `strconv` writes them. -/
def decimal (n : Nat) : GoString := (Nat.toDigits 10 n).map fun c => c.toNat.toUInt8

/-- `strconv.FormatInt(v, 10)` (and what `strconv.AppendInt` appends). -/
def formatInt (v : Int) : GoString :=
  if v < 0 then ascii "-" ++ decimal v.natAbs else decimal v.natAbs

/-! ## Errors and panics -/

/-- A Go `error` value, as far as the driver creates, compares or unwraps it. The
sentinels are the package variables of the same names; `new` is a fresh
`errors.New` or `fmt.Errorf` without `%w`, `wrap` an error that unwraps to
`inner`, and `responseError` an `*awshttp.ResponseError`. -/
inductive GoError
  | errBadConn
  | errInvalidQuery
  | errQueryUnknownType
  | errQueryBufferOF
  | errQueryTimeout
  | errAthenaTransactionUnsupported
  | canceled
  | deadlineExceeded
  | new (text : GoString)
  | wrap (text : GoString) (inner : GoError)
  | responseError (requestID : GoString) (inner : GoError)
  deriving DecidableEq, Repr

namespace GoError

/-- `errors.Is(e, target)`: `e` or an error it unwraps to is `target`. -/
def is (e target : GoError) : Bool :=
  e == target ||
    match e with
    | wrap _ inner => inner.is target
    | responseError _ inner => inner.is target
    | _ => false

/-- `errors.As(e, &re)` for `re *awshttp.ResponseError`: the request id of the
first response error on the chain. -/
def asResponseError : GoError → Option GoString
  | responseError requestID _ => some requestID
  | wrap _ inner => inner.asResponseError
  | _ => none

end GoError

/-- A runtime panic. -/
inductive GoPanic
  | nilDereference
  | indexOutOfRange (index : Int) (length : Nat)
  deriving DecidableEq, Repr

/-- How a Go call leaves early: an error return or a panic. -/
inductive Exit
  | error (e : GoError)
  | panic (p : GoPanic)
  deriving DecidableEq, Repr

/-- A Go computation: a value, an error return, or a panic. -/
abbrev Go := Except Exit

/-- `return ..., e`. -/
def fail {α : Type} (e : GoError) : Go α := throw (.error e)

/-- `xs[i]`, with Go's bounds check. -/
def index {α : Type} (xs : List α) (i : Int) : Go α :=
  match (if 0 ≤ i then xs.get? i.toNat else none) with
  | some x => pure x
  | none => throw (.panic (.indexOutOfRange i xs.length))

/-- `*p`, with Go's nil check. -/
def deref {α : Type} : Option α → Go α
  | some x => pure x
  | none => throw (.panic .nilDereference)

theorem index_of_lt {α : Type} (xs : List α) (n : Nat) (h : n < xs.length) :
    index xs n = .ok (xs.get ⟨n, h⟩) := by
  simp [index, List.getElem?_eq_getElem h]
  rfl

end AthenaDriver
