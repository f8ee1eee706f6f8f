/-
# AthenaDriver.Parameters — the query text and its execution parameters

Arguments reach Athena in one of two ways. QueryContext, called with arguments,
submits the query as the caller wrote it, with the execution parameters
`buildExecutionParams` writes, one for each placeholder. ExecContext first
interpolates the arguments into the text (`interpolateParams`) and has
QueryContext submit that, with none.

For every argument type but `string` and `[]byte`, whose cases the source marks
"Different from interpolateParams() behavior", the two agree: when
`interpolateParams` succeeds, its text is the query with each placeholder
replaced by the execution parameter of its argument. Success is all the time
case needs, since the digit tables fail on a year outside 0 to 9999
(`timeLiteral_ok`).

Main result:
* `executionParams_fill_placeholders`.
-/
import AthenaDriver.TimeLiteral

namespace AthenaDriver

set_option autoImplicit false

/-- A `string` or `[]byte` argument, which the two renderings quote differently. -/
def Value.isText : Value → Bool
  | .bytes _ | .string _ => true
  | _ => false

theorem Go.bind_eq_ok {α β : Type} {x : Go α} {f : α → Go β} {b : β} (h : x >>= f = .ok b) :
    ∃ a, x = .ok a ∧ f a = .ok b := by
  cases x with
  | error e => cases h
  | ok a => exact ⟨a, rfl, h⟩

theorem index_ok_bounds {α : Type} {xs : List α} {i : Int} {a : α} (h : index xs i = .ok a) :
    0 ≤ i ∧ i < xs.length := by
  unfold index at h
  split at h
  · rename_i found
    split at found
    · rename_i nonneg
      exact ⟨nonneg, by have := (List.get?_eq_some.1 found).1; omega⟩
    · cases found
  · cases h

theorem twoDigits_ok_bounds {n : Int} {l : GoString} (h : twoDigits n = .ok l) : 0 ≤ n ∧ n < 100 := by
  obtain ⟨tens, found, -⟩ := Go.bind_eq_ok h
  simpa [digits10] using index_ok_bounds found

/-- A time the digit tables render is one `time.Format` renders the same. -/
theorem timeLiteral_ok {v : Time} {l : GoString} (h : timeLiteral v = .ok l) : l = timeParam v := by
  by_cases zero : v.isZero
  · simp only [timeLiteral, timeParam, zero, if_true] at h ⊢
    cases h
    rfl
  · have rendered := h
    simp only [timeLiteral, zero, Bool.false_eq_true, if_false] at h
    obtain ⟨year100, century, h⟩ := Go.bind_eq_ok h
    obtain ⟨year1, rest, -⟩ := Go.bind_eq_ok h
    have c := twoDigits_ok_bounds century
    have r := twoDigits_ok_bounds rest
    have split := Int.tmod_add_tdiv (v.add 500).year 100
    rw [timeLiteral_eq_timeParam v (by omega) (by omega)] at rendered
    cases rendered
    rfl

/-- An argument of no text type renders as its execution parameter. -/
theorem interpolateValue_ok (X : Helpers) {a : Value} (notText : a.isText = false) {l : GoString}
    (h : interpolateValue X a = .ok l) : executionParam X a = .ok l := by
  cases a with
  | time v => rw [executionParam, timeLiteral_ok h]; rfl
  | bytes v => cases notText
  | string v => cases notText
  | other t => cases h
  | _ => exact h

/-- What `interpolateParams("?", [a])` returns is `NULL` for `nil` and the
literal of the type switch otherwise. -/
theorem interpolateParams_single_ok (X : Helpers) {a : Value} {l : GoString}
    (ok : interpolateParams X [questionMark] [a] = .ok l) :
    (a = .null ∧ l = ascii "NULL") ∨ (a ≠ .null ∧ interpolateValue X a = .ok l) := by
  rw [interpolateParams, if_neg (by simp [count])] at ok
  cases first : pass X [questionMark] [a] ⟨0, 0, []⟩ with
  | exit r =>
      rw [loop_exit X first] at ok
      subst ok
      rcases pass_eq_exit first with ⟨short, -⟩ | ⟨absent, -⟩ |
        ⟨p, -, ⟨x, -, ⟨⟩⟩ | ⟨b, x, -, -, ⟨⟩⟩ | ⟨b, -, -, ⟨⟩⟩⟩
      · simp at short
      · simp [indexByte] at absent
  | next c' =>
      obtain ⟨p, b, text, -, found, arg, appended, rfl⟩ := pass_eq_next first
      obtain rfl : p = 0 := by simpa [indexByte] using found.symm
      obtain rfl : b = a := by simpa [index, pure, Except.pure] using arg.symm
      have last : pass X [questionMark] [b] ⟨1, 1, text⟩ = .exit (pure text) := rfl
      rw [loop_next X first] at ok
      simp only [Nat.add_zero, Nat.zero_add, List.drop_zero, List.take_zero, List.nil_append] at ok
      rw [loop_exit X last] at ok
      cases ok
      rcases appended with ⟨rfl, rfl⟩ | ⟨notNull, literal, -⟩
      · exact .inl ⟨rfl, rfl⟩
      · exact .inr ⟨notNull, literal⟩

/-- Argument by argument, the literals of `interpolateParams` are the
execution parameters. -/
theorem executionParams_of_singles (X : Helpers) :
    ∀ {args : List Value} {lits : List GoString}, (∀ a ∈ args, a.isText = false) →
      List.Forall₂ (fun a l => interpolateParams X [questionMark] [a] = .ok l) args lits →
      List.Forall₂ (fun a l => executionParam X a = .ok l) args lits
  | _, _, _, .nil => .nil
  | a :: _, _, notText, .cons single rest =>
      .cons (by
          rcases interpolateParams_single_ok X single with ⟨rfl, rfl⟩ | ⟨-, literal⟩
          · rfl
          · exact interpolateValue_ok X (notText a (List.mem_cons_self _ _)) literal)
        (executionParams_of_singles X (fun b mem => notText b (List.mem_cons_of_mem a mem)) rest)

theorem buildExecutionParams_of_forall₂ (X : Helpers) {args : List Value} {params : List GoString}
    (each : List.Forall₂ (fun a l => executionParam X a = .ok l) args params) :
    buildExecutionParams X args = .ok params := by
  have mapped : args.mapM (executionParam X) = .ok params := by
    induction each with
    | nil => rfl
    | cons head _ ih => rw [List.mapM_cons, head, ih]; rfl
  unfold buildExecutionParams
  split
  · rename_i empty
    cases List.length_eq_zero.1 empty
    cases each
    rfl
  · exact mapped

/-- ExecContext's text and QueryContext's execution parameters say the same
thing: for every query and every arguments of no text type, when
`interpolateParams` succeeds, `buildExecutionParams` succeeds too, and putting
its parameters in place of the placeholders gives the interpolated text. -/
theorem executionParams_fill_placeholders (X : Helpers) {segs : List GoString} {args : List Value}
    {out : GoString} (noMark : ∀ s ∈ segs, questionMark ∉ s)
    (ok : interpolateParams X (List.intercalate [questionMark] segs) args = .ok out)
    (notText : ∀ a ∈ args, a.isText = false) :
    ∃ params, buildExecutionParams X args = .ok params ∧ out = interleave segs params := by
  have counted : count (List.intercalate [questionMark] segs) questionMark = args.length := by
    by_contra mismatch
    rw [interpolateParams, if_pos mismatch] at ok
    cases ok
  obtain ⟨lits, each, rfl⟩ := interpolateParams_segments X noMark counted ok
  exact ⟨lits, buildExecutionParams_of_forall₂ X (executionParams_of_singles X notText each), rfl⟩

/-- `t=?` with the leap-day time: interpolated, and as an execution parameter. -/
theorem executionParams_fill_placeholders_on_leap_day :
    ∃ params, buildExecutionParams reference [.time leapDayNoon] = .ok params ∧
      ascii "t='2024-02-29 12:34:56.789012'" = interleave [ascii "t=", []] params :=
  executionParams_fill_placeholders reference (by decide)
    (by
      show interpolateParams reference (ascii "t=?") [.time leapDayNoon] = _
      rw [interpolateParams, if_neg (by decide),
        @loop_next reference (ascii "t=?") [.time leapDayNoon] ⟨0, 0, []⟩
          ⟨3, 1, ascii "t='2024-02-29 12:34:56.789012'"⟩ rfl,
        @loop_exit reference (ascii "t=?") [.time leapDayNoon]
          ⟨3, 1, ascii "t='2024-02-29 12:34:56.789012'"⟩ _ rfl]
      rfl)
    (by decide)

end AthenaDriver
