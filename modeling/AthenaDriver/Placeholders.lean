/-
# AthenaDriver.Placeholders — what `interpolateParams` does with each `?`

Write the query as its segments between placeholders, `q = s₀ ? s₁ ? … ? sₙ`
(`List.intercalate [questionMark] segs`, no `'?'` in any segment). When the
count check passes, the loop of `interpolateParams`

* reads `args[argPos]` only in bounds: `argPos + count (query.drop i) '?'` is the
  number of arguments at every cursor the loop reaches (`Reaches`,
  `reaches_counted`), so a cursor that still finds a `'?'` has an argument left
  (`reaches_argPos_lt`);
* on success returns `s₀ ++ lit a₁ ++ s₁ ++ … ++ lit aₙ ++ sₙ`, where `lit a` is
  what `interpolateParams "?" [a]` returns (`interpolateParams_segments`);
* fails only with `ErrQueryUnknownType`, for an argument of an unsupported type,
  or with `ErrQueryBufferOF` (`interpolateParams_error`);
* checks the buffer against `10 * MAXQueryStringLength` only after an argument
  that is not `nil`: with every argument `nil` it returns the query with `NULL`
  for each placeholder, however long (`interpolateParams_exceeds_buffer_bound`).

These facts rest on two inversion lemmas for one pass of the loop,
`pass_eq_next` and `pass_eq_exit`, and on `loop_rec`, the loop's own induction.
-/
import AthenaDriver.Interpolate
import AthenaDriver.Reference

namespace AthenaDriver

set_option autoImplicit false

variable (X : Helpers)

/-! ## One pass, inverted -/

section Pass

variable {X} {q : GoString} {args : List Value} {c c' : Cursor} {r : Go GoString}

/-- What the loop appends for argument `a` in a pass that goes round again. -/
def Appended (X : Helpers) (prefixBuffer : GoString) (a : Value) (text : GoString) : Prop :=
  (a = .null ∧ text = ascii "NULL") ∨
    (a ≠ .null ∧ interpolateValue X a = .ok text ∧
      (prefixBuffer ++ text).length + 4 ≤ 10 * X.maxQueryStringLength)

theorem pass_eq_next (next : pass X q args c = .next c') :
    ∃ p a text, c.i < q.length ∧ indexByte (q.drop c.i) questionMark = some p ∧
      index args c.argPos = .ok a ∧
      Appended X (c.queryBuffer ++ (q.drop c.i).take p) a text ∧
      c' = ⟨c.i + p + 1, c.argPos + 1, c.queryBuffer ++ (q.drop c.i).take p ++ text⟩ := by
  unfold pass at next
  split at next
  · split at next
    · cases next
    · rename_i p found
      dsimp only at next
      split at next
      · cases next
      · rename_i arg
        cases next
        exact ⟨p, .null, _, by assumption, found, arg, .inl ⟨rfl, rfl⟩, rfl⟩
      · rename_i a notNull arg
        split at next
        · cases next
        · rename_i text literal
          split at next
          · cases next
          · cases next
            exact ⟨p, a, text, by assumption, found, arg,
              .inr ⟨fun h => notNull h, literal, by simp only [List.append_assoc] at *; omega⟩, by
                simp only [List.append_assoc]⟩
  · cases next

theorem pass_eq_exit (exit : pass X q args c = .exit r) :
    (q.length ≤ c.i ∧ r = .ok c.queryBuffer) ∨
    (indexByte (q.drop c.i) questionMark = none ∧ r = .ok (c.queryBuffer ++ q.drop c.i)) ∨
    ∃ p, indexByte (q.drop c.i) questionMark = some p ∧
      ((∃ x, index args c.argPos = .error x ∧ r = .error x) ∨
       (∃ a x, index args c.argPos = .ok a ∧ interpolateValue X a = .error x ∧ r = .error x) ∨
       (∃ a, index args c.argPos = .ok a ∧ a ≠ .null ∧ r = fail .errQueryBufferOF)) := by
  unfold pass at exit
  split at exit
  · split at exit
    · cases exit
      exact .inr (.inl ⟨by assumption, rfl⟩)
    · rename_i p found
      dsimp only at exit
      split at exit
      · cases exit
        exact .inr (.inr ⟨p, found, .inl ⟨_, by assumption, rfl⟩⟩)
      · cases exit
      · split at exit
        · cases exit
          exact .inr (.inr ⟨p, found, .inr (.inl ⟨_, _, by assumption, by assumption, rfl⟩)⟩)
        · split at exit
          · cases exit
            exact .inr (.inr ⟨p, found, .inr (.inr ⟨_, by assumption, by assumption, rfl⟩)⟩)
          · cases exit
  · cases exit
    exact .inl ⟨by omega, rfl⟩

end Pass

/-- The loop's own induction: a property of `loop`'s result holds from every
cursor when each exit has it and each pass round again keeps it. -/
theorem loop_rec {q : GoString} {args : List Value} (motive : Cursor → Go GoString → Prop)
    (exit : ∀ c r, pass X q args c = .exit r → motive c r)
    (next : ∀ c c', pass X q args c = .next c' → motive c' (loop X q args c') →
      motive c (loop X q args c')) :
    ∀ c, motive c (loop X q args c) := by
  intro c
  generalize remaining : q.length - c.i = n
  induction n using Nat.strong_induction_on generalizing c with
  | _ n ih =>
      cases step : pass X q args c with
      | exit r => rw [loop_exit X step]; exact exit c r step
      | next c' =>
          have advance := pass_next_advances X step
          rw [loop_next X step]
          exact next c c' step (ih _ (by omega) c' rfl)

/-! ## Bounds -/

/-- The cursors the loop of `interpolateParams query args` reaches. -/
inductive Reaches (q : GoString) (args : List Value) : Cursor → Prop
  | start : Reaches q args ⟨0, 0, []⟩
  | next {c c' : Cursor} : Reaches q args c → pass X q args c = .next c' → Reaches q args c'

theorem indexByte_eq_some {s : GoString} {b : UInt8} {p : Nat} (found : indexByte s b = some p) :
    ∃ pre post, s = pre ++ b :: post ∧ b ∉ pre ∧ pre.length = p := by
  induction s generalizing p with
  | nil => cases found
  | cons x s ih =>
      simp only [indexByte] at found
      split at found
      · cases found
        exact ⟨[], s, by simp_all, by simp, rfl⟩
      · obtain ⟨p', found', rfl⟩ := Option.map_eq_some'.mp found
        obtain ⟨pre, post, rfl, absent, rfl⟩ := ih found'
        exact ⟨x :: pre, post, rfl, by simp_all [eq_comm], rfl⟩

/-- Every cursor the loop reaches has as many arguments left as placeholders. -/
theorem reaches_counted {q : GoString} {args : List Value}
    (counted : count q questionMark = args.length) {c : Cursor} (reached : Reaches X q args c) :
    c.argPos + count (q.drop c.i) questionMark = args.length ∧ c.i ≤ q.length := by
  induction reached with
  | start => simpa using counted
  | @next c _ _ step ih =>
      obtain ⟨p, a, text, -, found, -, -, rfl⟩ := pass_eq_next step
      obtain ⟨pre, post, split, absent, rfl⟩ := indexByte_eq_some found
      have rest : q.drop (c.i + pre.length + 1) = post := by
        rw [Nat.add_assoc, ← List.drop_drop, split]; simp
      have short : pre.length + 1 ≤ (q.drop c.i).length := by rw [split]; simp
      simp only [count] at ih ⊢
      rw [split, List.count_append, List.count_cons_self, List.count_eq_zero_of_not_mem absent] at ih
      rw [rest]
      simp only [List.length_drop] at short
      omega

/-- A cursor that still finds a `'?'` reads `args[argPos]` in bounds. -/
theorem reaches_argPos_lt {q : GoString} {args : List Value}
    (counted : count q questionMark = args.length) {c : Cursor} (reached : Reaches X q args c)
    (found : indexByte (q.drop c.i) questionMark ≠ none) : c.argPos < args.length := by
  obtain ⟨p, found⟩ := Option.ne_none_iff_exists'.mp found
  obtain ⟨pre, post, split, -, -⟩ := indexByte_eq_some found
  have := (reaches_counted X counted reached).1
  simp only [count, split, List.count_append, List.count_cons_self] at this
  omega

/-! ## Errors -/

theorem index_error {α : Type} {xs : List α} {i : Int} {x : Exit} (h : index xs i = .error x) :
    ∃ p, x = .panic p := by
  unfold index at h
  split at h <;> cases h
  exact ⟨_, rfl⟩

theorem index_mem {α : Type} {xs : List α} {i : Int} {a : α} (h : index xs i = .ok a) : a ∈ xs := by
  unfold index at h
  split at h
  · cases h
    rename_i found
    split at found
    · exact List.get?_mem found
    · cases found
  · cases h

/-- A computation that can leave early only by a panic, never by an error return. -/
def PanicsOnly {α : Type} (m : Go α) : Prop := ∀ e, m ≠ .error (.error e)

theorem PanicsOnly.pure {α : Type} (a : α) : PanicsOnly (Pure.pure a : Go α) := fun _ h => by cases h

theorem PanicsOnly.bind {α β : Type} {m : Go α} {f : α → Go β} (hm : PanicsOnly m)
    (hf : ∀ a, PanicsOnly (f a)) : PanicsOnly (m >>= f) := by
  intro e h
  cases hx : m with
  | error x => rw [hx] at h; cases h; exact hm e hx
  | ok a => rw [hx] at h; exact hf a e h

theorem index_panicsOnly {α : Type} (xs : List α) (i : Int) : PanicsOnly (index xs i) := by
  intro e h
  obtain ⟨p, hp⟩ := index_error h
  cases hp

theorem twoDigits_panicsOnly (n : Int) : PanicsOnly (twoDigits n) :=
  .bind (index_panicsOnly _ _) fun _ => .bind (index_panicsOnly _ _) fun _ => .pure _

theorem timeLiteral_panicsOnly (v : Time) : PanicsOnly (timeLiteral v) := by
  unfold timeLiteral
  split
  · exact .pure _
  · refine .bind (twoDigits_panicsOnly _) fun _ => .bind (twoDigits_panicsOnly _) fun _ =>
      .bind (twoDigits_panicsOnly _) fun _ => .bind (twoDigits_panicsOnly _) fun _ =>
      .bind (twoDigits_panicsOnly _) fun _ => .bind (twoDigits_panicsOnly _) fun _ =>
      .bind (twoDigits_panicsOnly _) fun _ => ?_
    dsimp only
    split
    · exact .bind (twoDigits_panicsOnly _) fun _ => .bind (twoDigits_panicsOnly _) fun _ =>
        .bind (twoDigits_panicsOnly _) fun _ => .bind (.pure _) fun _ => .pure _
    · exact .bind (.pure _) fun _ => .pure _

/-- The type switch errors only on an unsupported type. -/
theorem interpolateValue_error {a : Value} {e : GoError}
    (h : interpolateValue X a = .error (.error e)) : e = .errQueryUnknownType ∧ a.unsupported := by
  cases a with
  | time v => exact absurd h (timeLiteral_panicsOnly v e)
  | other => cases h; exact ⟨rfl, rfl⟩
  | _ => cases h

/-- Under the count check, `interpolateParams` errors only with
`ErrQueryUnknownType` for an unsupported argument, or with `ErrQueryBufferOF`. -/
theorem interpolateParams_error {q : GoString} {args : List Value}
    (counted : count q questionMark = args.length) {e : GoError}
    (failed : interpolateParams X q args = .error (.error e)) :
    (e = .errQueryUnknownType ∧ ∃ a ∈ args, a.unsupported) ∨ e = .errQueryBufferOF := by
  simp only [interpolateParams, counted, ne_eq, not_true_eq_false, if_false] at failed
  refine loop_rec X (fun c r => Reaches X q args c → r = .error (.error e) →
      (e = .errQueryUnknownType ∧ ∃ a ∈ args, a.unsupported) ∨ e = .errQueryBufferOF)
    (fun c r step _ result => ?_) (fun c c' step ih reached => ih (reached.next step))
    _ .start failed
  subst result
  rcases pass_eq_exit step with ⟨-, ⟨⟩⟩ | ⟨-, ⟨⟩⟩ | ⟨p, -, ⟨x, arg, hx⟩ | ⟨a, x, arg, lit, hx⟩ | ⟨a, -, -, hx⟩⟩
  · cases hx
    obtain ⟨p, ⟨⟩⟩ := index_error arg
  · cases hx
    exact .inl ⟨(interpolateValue_error X lit).1, a, index_mem arg, (interpolateValue_error X lit).2⟩
  · cases hx; exact .inr rfl


/-! ## The segments between placeholders -/

/-- `s₀ ++ l₁ ++ s₁ ++ … ++ lₙ ++ sₙ`: the segments with the literals between them. -/
def interleave : List GoString → List GoString → GoString
  | s :: segs, l :: lits => s ++ l ++ interleave segs lits
  | [s], [] => s
  | _, _ => []

theorem intercalate_cons_cons (s s' : GoString) (more : List GoString) :
    List.intercalate [questionMark] (s :: s' :: more) =
      s ++ questionMark :: List.intercalate [questionMark] (s' :: more) := by
  simp [List.intercalate, List.intersperse]

theorem count_intercalate :
    ∀ segs : List GoString, segs ≠ [] → (∀ s ∈ segs, questionMark ∉ s) →
      count (List.intercalate [questionMark] segs) questionMark + 1 = segs.length
  | [], nonempty, _ => absurd rfl nonempty
  | [s], _, noMark => by
      simp [List.intercalate, count, List.count_eq_zero_of_not_mem (noMark s (by simp))]
  | s :: s' :: more, _, noMark => by
      have ih := count_intercalate (s' :: more) (by simp) fun t mem => noMark t (by simp_all)
      simp only [count] at ih ⊢
      rw [intercalate_cons_cons, List.count_append, List.count_cons_self,
        List.count_eq_zero_of_not_mem (noMark s (by simp))]
      simp only [List.length_cons] at ih ⊢
      omega

theorem index_of_drop {α : Type} {xs rest : List α} {n : Nat} {a : α} (h : xs.drop n = a :: rest) :
    index xs n = .ok a := by
  have lt : n < xs.length := by have := congrArg List.length h; simp at this; omega
  rw [List.drop_eq_getElem_cons lt] at h
  rw [index_of_lt xs n lt]
  cases h
  rfl

/-- What one argument's pass appends is `interpolateParams "?" [a]`. -/
theorem interpolateParams_single {pre : GoString} {a : Value} {text : GoString}
    (appended : Appended X pre a text) : interpolateParams X [questionMark] [a] = .ok text := by
  have first : pass X [questionMark] [a] ⟨0, 0, []⟩ = .next ⟨1, 1, text⟩ := by
    rcases appended with ⟨rfl, rfl⟩ | ⟨notNull, literal, fits⟩
    · rfl
    · have fits' : text.length + 4 ≤ 10 * X.maxQueryStringLength := by simp at fits; omega
      cases a <;> simp_all [pass, indexByte, index, questionMark, pure, Except.pure]
  have last : pass X [questionMark] [a] ⟨1, 1, text⟩ = .exit (.ok text) := rfl
  rw [interpolateParams, if_neg (by simp [count]), loop_next X first, loop_exit X last]

theorem loop_segments {q : GoString} {args : List Value} :
    ∀ (rest : List GoString) (c : Cursor) (out : GoString),
      rest ≠ [] → (∀ s ∈ rest, questionMark ∉ s) →
      q.drop c.i = List.intercalate [questionMark] rest →
      rest.length = (args.drop c.argPos).length + 1 →
      loop X q args c = .ok out →
      ∃ lits, List.Forall₂ (fun a l => interpolateParams X [questionMark] [a] = .ok l)
          (args.drop c.argPos) lits ∧ out = c.queryBuffer ++ interleave rest lits
  | [], _, _, nonempty, _, _, _, _ => absurd rfl nonempty
  | [s], c, out, _, noMark, remaining, lengths, ran => by
      have absent : questionMark ∉ s := noMark s (by simp)
      have noArgs : args.drop c.argPos = [] := List.eq_nil_of_length_eq_zero (by simpa using lengths)
      rw [List.intercalate, List.intersperse, List.flatten, List.flatten, List.append_nil]
        at remaining
      cases step : pass X q args c with
      | next c' =>
          obtain ⟨p, -, -, -, found, -⟩ := pass_eq_next step
          rw [remaining, indexByte_eq_none absent] at found
          cases found
      | exit r =>
          rw [loop_exit X step] at ran
          subst ran
          rw [noArgs]
          rcases pass_eq_exit step with ⟨beyond, ok⟩ | ⟨-, ok⟩ | ⟨p, found, -⟩
          · have : s = [] := by rw [← remaining]; exact List.drop_eq_nil_of_le beyond
            cases ok; subst this; exact ⟨[], .nil, by simp [interleave]⟩
          · cases ok; exact ⟨[], .nil, by rw [remaining]; rfl⟩
          · rw [remaining, indexByte_eq_none absent] at found
            cases found
  | s :: s' :: more, c, out, _, noMark, remaining, lengths, ran => by
      have absent : questionMark ∉ s := noMark s (by simp)
      rw [intercalate_cons_cons] at remaining
      obtain ⟨a, as, args_drop⟩ : ∃ a as, args.drop c.argPos = a :: as := by
        cases h : args.drop c.argPos with
        | nil => rw [h] at lengths; simp at lengths
        | cons a as => exact ⟨a, as, rfl⟩
      cases step : pass X q args c with
      | exit r =>
          rw [loop_exit X step] at ran
          subst ran
          rcases pass_eq_exit step with ⟨beyond, -⟩ | ⟨found, -⟩ | ⟨p, -, ⟨x, -, ⟨⟩⟩ | ⟨_, x, -, -, ⟨⟩⟩ | ⟨_, -, -, ⟨⟩⟩⟩
          · rw [List.drop_eq_nil_of_le beyond] at remaining; simp at remaining
          · rw [remaining, indexByte_append_cons absent] at found; cases found
      | next c' =>
          obtain ⟨p, a', text, -, found, arg, appended, rfl⟩ := pass_eq_next step
          rw [remaining, indexByte_append_cons absent] at found
          cases found
          rw [index_of_drop args_drop] at arg
          cases arg
          rw [loop_next X step] at ran
          have remaining' : q.drop (c.i + s.length + 1) =
              List.intercalate [questionMark] (s' :: more) := by
            rw [Nat.add_assoc, ← List.drop_drop, remaining]; simp
          have args_drop' : args.drop (c.argPos + 1) = as := by
            rw [← List.drop_drop, args_drop]; rfl
          obtain ⟨lits, each, rfl⟩ := loop_segments (s' :: more) _ out (by simp)
            (fun t mem => noMark t (by simp_all)) remaining'
            (by rw [args_drop']; simp [args_drop] at lengths; simpa using lengths) ran
          rw [remaining, List.take_left] at appended ⊢
          rw [args_drop'] at each
          refine ⟨text :: lits, ?_, by simp [interleave]⟩
          rw [args_drop]
          exact .cons (interpolateParams_single X appended) each

/-- On success, `interpolateParams` returns the query's segments with each
placeholder replaced by the literal `interpolateParams "?" [a]` of its argument. -/
theorem interpolateParams_segments {segs : List GoString} {args : List Value} {out : GoString}
    (noMark : ∀ s ∈ segs, questionMark ∉ s)
    (counted : count (List.intercalate [questionMark] segs) questionMark = args.length)
    (ok : interpolateParams X (List.intercalate [questionMark] segs) args = .ok out) :
    ∃ lits, List.Forall₂ (fun a l => interpolateParams X [questionMark] [a] = .ok l) args lits ∧
      out = interleave segs lits := by
  simp only [interpolateParams, counted, ne_eq, not_true_eq_false, if_false] at ok
  cases segs with
  | nil =>
      have noArgs : args = [] := List.length_eq_zero.mp (by rw [← counted]; rfl)
      subst noArgs
      have : pass X [] [] ⟨0, 0, []⟩ = .exit (.ok []) := rfl
      rw [show List.intercalate [questionMark] [] = [] from rfl, loop_exit X this] at ok
      cases ok
      exact ⟨[], .nil, rfl⟩
  | cons s more =>
      have lengths := count_intercalate (s :: more) (by simp) noMark
      simpa using loop_segments X (s :: more) ⟨0, 0, []⟩ out (by simp) noMark rfl
        (by simp only [List.drop_zero]; omega) ok

/-- `interpolateParams` fails the count check exactly on a count mismatch; under
it, every placeholder is replaced by its argument's literal, every read of
`args[argPos]` is in bounds, and the only errors are `ErrQueryUnknownType`, for
an unsupported argument, and `ErrQueryBufferOF`. -/
theorem interpolateParams_replaces_placeholders (q : GoString) (args : List Value) :
    (count q questionMark ≠ args.length → interpolateParams X q args = fail .errInvalidQuery) ∧
    (count q questionMark = args.length →
      (∀ segs out, q = List.intercalate [questionMark] segs → (∀ s ∈ segs, questionMark ∉ s) →
        interpolateParams X q args = .ok out →
        ∃ lits, List.Forall₂ (fun a l => interpolateParams X [questionMark] [a] = .ok l) args lits ∧
          out = interleave segs lits) ∧
      (∀ c, Reaches X q args c → indexByte (q.drop c.i) questionMark ≠ none →
        c.argPos < args.length) ∧
      (∀ e, interpolateParams X q args = .error (.error e) →
        (e = .errQueryUnknownType ∧ ∃ a ∈ args, a.unsupported) ∨ e = .errQueryBufferOF)) :=
  ⟨fun mismatch => if_pos mismatch,
   fun counted => ⟨fun _ _ split noMark ok => by
      subst split; exact interpolateParams_segments X noMark counted ok,
    fun _ reached found => reaches_argPos_lt X counted reached found,
    fun _ failed => interpolateParams_error X counted failed⟩⟩

theorem interpolateParams_replaces_placeholders_at_one :
    count (ascii "a=?") questionMark = [Value.bool true].length ∧
      interpolateParams reference (ascii "a=?") [Value.bool true] = .ok (ascii "a=1") ∧
      ∃ lits, List.Forall₂ (fun a l => interpolateParams reference [questionMark] [a] = .ok l)
        [Value.bool true] lits ∧ ascii "a=1" = interleave [ascii "a=", []] lits :=
  have counted : count (ascii "a=?") questionMark = [Value.bool true].length := by decide
  have ok : interpolateParams reference (ascii "a=?") [Value.bool true] = .ok (ascii "a=1") := by
    rw [interpolateParams, if_neg (by decide),
      @loop_next reference (ascii "a=?") [Value.bool true] ⟨0, 0, []⟩ ⟨3, 1, ascii "a=1"⟩ rfl,
      @loop_exit reference (ascii "a=?") [Value.bool true] ⟨3, 1, ascii "a=1"⟩ _ rfl]
    rfl
  ⟨counted, ok, ((interpolateParams_replaces_placeholders reference _ _).2 counted).1
    [ascii "a=", []] _ rfl (by decide) ok⟩

/-! ## The buffer bound -/

/-- `q` with `NULL` in place of each placeholder. -/
def withNulls : GoString → GoString
  | [] => []
  | b :: q => (if b = questionMark then ascii "NULL" else [b]) ++ withNulls q

@[simp] theorem withNulls_append (s t : GoString) : withNulls (s ++ t) = withNulls s ++ withNulls t := by
  induction s with
  | nil => rfl
  | cons b s ih => simp [withNulls, ih]

theorem withNulls_of_not_mem {s : GoString} (absent : questionMark ∉ s) : withNulls s = s := by
  induction s with
  | nil => rfl
  | cons b s ih =>
      simp only [List.mem_cons, not_or] at absent
      simp [withNulls, Ne.symm absent.1, ih absent.2]

theorem length_withNulls (q : GoString) : (withNulls q).length = q.length + 3 * count q questionMark := by
  induction q with
  | nil => rfl
  | cons b q ih =>
      simp only [withNulls, count, List.count_cons, List.length_append, List.length_cons] at ih ⊢
      by_cases mark : b = questionMark <;> simp [mark, ascii] <;> omega

/-- With every argument `nil`, the loop copies each segment and writes `NULL`
for each placeholder, and never checks the buffer. -/
theorem loop_nulls {q : GoString} {args : List Value} (counted : count q questionMark = args.length)
    (nulls : ∀ a ∈ args, a = .null) :
    ∀ c, Reaches X q args c → loop X q args c = .ok (c.queryBuffer ++ withNulls (q.drop c.i)) := by
  refine loop_rec X (fun c r => Reaches X q args c → r = .ok (c.queryBuffer ++ withNulls (q.drop c.i)))
    (fun c r step reached => ?_) (fun c c' step ih reached => ?_)
  · rcases pass_eq_exit step with ⟨past, rfl⟩ | ⟨absent, rfl⟩ |
        ⟨p, found, ⟨x, arg, -⟩ | ⟨a, x, arg, literal, -⟩ | ⟨a, arg, notNull, -⟩⟩
    · simp [List.drop_eq_nil_of_le past, withNulls]
    · rw [withNulls_of_not_mem (not_mem_of_indexByte_eq_none absent)]
    · have inBounds := reaches_argPos_lt X counted reached (by simp [found])
      rw [index_of_lt _ _ inBounds] at arg
      cases arg
    · rw [nulls a (index_mem arg)] at literal
      cases literal
    · exact absurd (nulls a (index_mem arg)) notNull
  · obtain ⟨p, a, text, -, found, arg, appended, rfl⟩ := pass_eq_next step
    obtain ⟨pre, post, split, absent, rfl⟩ := indexByte_eq_some found
    rcases appended with ⟨-, rfl⟩ | ⟨notNull, -⟩
    · have rest : q.drop (c.i + pre.length + 1) = post := by
        rw [Nat.add_assoc, ← List.drop_drop, split]; simp
      rw [ih (reached.next step), rest, split, List.take_left, withNulls_append, withNulls_of_not_mem absent]
      simp [withNulls]
    · exact absurd (nulls a (index_mem arg)) notNull

theorem interpolateParams_nulls (q : GoString) :
    interpolateParams X q (List.replicate (count q questionMark) .null) = .ok (withNulls q) := by
  rw [interpolateParams, if_neg (by simp),
    loop_nulls X (by simp) (fun _ mem => List.eq_of_mem_replicate mem) _ .start]
  rfl

/-- `ErrQueryBufferOF` is checked only after an argument that is not `nil`. With
every argument `nil`, `interpolateParams` returns the query with `NULL` for each
placeholder, however long: some query and arguments give a result longer than
`10 * MAXQueryStringLength`. -/
theorem interpolateParams_exceeds_buffer_bound :
    (∀ q, interpolateParams X q (List.replicate (count q questionMark) .null) = .ok (withNulls q) ∧
      (withNulls q).length = q.length + 3 * count q questionMark) ∧
    ∃ q out, interpolateParams X q (List.replicate (count q questionMark) .null) = .ok out ∧
      10 * X.maxQueryStringLength < out.length := by
  refine ⟨fun q => ⟨interpolateParams_nulls X q, length_withNulls q⟩,
    List.replicate (10 * X.maxQueryStringLength + 1) questionMark, _, interpolateParams_nulls X _, ?_⟩
  rw [length_withNulls]
  simp only [List.length_replicate, count, List.count_replicate_self]
  omega

end AthenaDriver
