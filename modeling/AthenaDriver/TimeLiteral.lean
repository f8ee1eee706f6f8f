/-
# AthenaDriver.TimeLiteral — the digit-table renderer and `time.Format`

`buildExecutionParams` renders a `time.Time` through `time.Format` and says it
"Matches interpolateParams() behavior"; `interpolateParams` renders it through
the `digits10`/`digits01` tables, indexing them with `year/100` and `year%100`
and with each two-digit field. Both round to the microsecond first.

Each field `time.Format` writes through `appendInt` is `padded`, the last digits
of a number, zero-padded: so is each pair the tables give for a field below 100.
The calendar keeps month, day, hour, minute and second below 100, so the two
renderers agree exactly when the year is below 10000 and not negative:

* `interpolateValue_time_matches_executionParam`: for every time whose rounded
  year is 0 to 9999, the two type switches write the same literal.
* `interpolateParams_time_year_10000`: at 10000-01-01 00:00:00 UTC,
  `interpolateParams("?", [t])` panics with index 100 out of range of the
  100-byte table, while `buildExecutionParams([t])` returns
  `'10000-01-01 00:00:00'`.
-/
import Mathlib.Data.Nat.Digits
import AthenaDriver.Placeholders

namespace AthenaDriver

set_option autoImplicit false

/-! ## Zero-padded decimals -/

/-- `n` in decimal, its last `width` digits, zero-padded. -/
def padded : Nat → Nat → GoString
  | 0, _ => []
  | width + 1, n => padded width (n / 10) ++ [utod (n % 10)]

@[simp] theorem length_padded (width n : Nat) : (padded width n).length = width := by
  induction width generalizing n <;> simp [padded, *]

theorem padded_zero (width : Nat) : padded width 0 = List.replicate width (utod 0) := by
  induction width with
  | zero => rfl
  | succ width ih => simp [padded, ih, List.replicate_succ']

theorem take_padded (k j n : Nat) : (padded (k + j) n).take k = padded k (n / 10 ^ j) := by
  induction j generalizing n with
  | zero => simp
  | succ j ih =>
      rw [← Nat.add_assoc, padded, List.take_append_of_le_length (by simp), ih, Nat.div_div_eq_div_mul,
        Nat.pow_succ', Nat.mul_comm]

theorem digitChar_toUInt8 {d : Nat} (h : d < 10) : (Nat.digitChar d).toNat.toUInt8 = utod d := by
  have digits : ∀ d < 10, (Nat.digitChar d).toNat.toUInt8 = utod d := by decide
  exact digits d h

theorem toDigitsCore_append (fuel n : Nat) (ds : List Char) :
    Nat.toDigitsCore 10 fuel n ds = Nat.toDigitsCore 10 fuel n [] ++ ds := by
  induction fuel generalizing n ds with
  | zero => rfl
  | succ fuel ih =>
      simp only [Nat.toDigitsCore]
      split
      · rfl
      · rw [ih _ (_ :: ds), ih _ [_]]; simp

theorem toDigitsCore_fuel (fuel fuel' n : Nat) (ds : List Char) (enough : n < fuel)
    (enough' : n < fuel') : Nat.toDigitsCore 10 fuel n ds = Nat.toDigitsCore 10 fuel' n ds := by
  induction fuel generalizing fuel' n ds with
  | zero => omega
  | succ fuel ih =>
      cases fuel' with
      | zero => omega
      | succ fuel' =>
          simp only [Nat.toDigitsCore]
          split
          · rfl
          · exact ih fuel' _ _ (by omega) (by omega)

/-- `strconv`'s decimal digits, one digit at a time from the right. -/
theorem decimal_of_lt {n : Nat} (h : n < 10) : decimal n = [utod n] := by
  simp [decimal, Nat.toDigits, Nat.toDigitsCore, Nat.div_eq_of_lt h, Nat.mod_eq_of_lt h,
    digitChar_toUInt8 h]

theorem decimal_of_le {n : Nat} (h : 10 ≤ n) : decimal n = decimal (n / 10) ++ [utod (n % 10)] := by
  have : n / 10 ≠ 0 := by omega
  rw [decimal, Nat.toDigits, Nat.toDigitsCore]
  simp only [this, ↓reduceIte]
  rw [toDigitsCore_append, toDigitsCore_fuel n (n / 10 + 1) (n / 10) [] (by omega) (by omega)]
  simp [decimal, Nat.toDigits, digitChar_toUInt8 (Nat.mod_lt n (by decide))]

/-- `appendInt`'s padding of `decimal n` to `width + 1` digits. -/
theorem replicate_decimal (width n : Nat) (h : n < 10 ^ (width + 1)) :
    List.replicate (width + 1 - (decimal n).length) (utod 0) ++ decimal n = padded (width + 1) n := by
  induction width generalizing n with
  | zero => simp [decimal_of_lt (by simpa using h), padded, Nat.mod_eq_of_lt (by simpa using h)]
  | succ width ih =>
      by_cases small : n < 10
      · simp [decimal_of_lt small, padded, Nat.div_eq_of_lt small, Nat.mod_eq_of_lt small,
          padded_zero, List.replicate_succ']
      · have below : n / 10 < 10 ^ (width + 1) := by rw [Nat.pow_succ] at h; omega
        rw [decimal_of_le (by omega), padded, ← ih _ below]
        simp only [List.length_append, List.length_singleton, ← List.append_assoc]
        congr 3
        omega

/-! ## The calendar fields -/

/-- The day of the year that `civil` counts from March 1 is below 466 (it is below
366; the looser bound is all the month needs). -/
theorem doy_lt (doe : Nat) (h : doe < 146097) :
    doe - (365 * ((doe - doe / 1460 + doe / 36524 - doe / 146096) / 365) +
      (doe - doe / 1460 + doe / 36524 - doe / 146096) / 365 / 4 -
      (doe - doe / 1460 + doe / 36524 - doe / 146096) / 365 / 100) < 466 := by
  have near : doe ≤ doe - doe / 1460 + doe / 36524 - doe / 146096 + 100 := by omega
  generalize doe - doe / 1460 + doe / 36524 - doe / 146096 = n at near ⊢
  omega

theorem civil_month_le (days : Int) : (civil days).month ≤ 12 := by
  have := doy_lt ((days + 306) % 146097).toNat (by omega)
  simp only [civil]
  generalize ((days + 306) % 146097).toNat - _ = doy at this ⊢
  split <;> omega

theorem civil_day_le (days : Int) : (civil days).day ≤ 31 := by
  simp only [civil]
  generalize ((days + 306) % 146097).toNat - _ = doy
  omega

theorem daySeconds_lt (t : Time) : t.daySeconds < 86400 := by
  simp only [Time.daySeconds]
  omega

/-- The fields the tables index, each below 100. -/
theorem Time.fields_lt_hundred (w : Time) :
    w.month < 100 ∧ w.day < 100 ∧ w.hour < 100 ∧ w.minute < 100 ∧ w.second < 100 := by
  have month := civil_month_le (w.ns / 86400000000000)
  have day := civil_day_le (w.ns / 86400000000000)
  have seconds := daySeconds_lt w
  simp only [Time.month, Time.day, Time.date, Time.hour, Time.minute, Time.second]
  omega

/-! ## The two renderers digit by digit -/

/-- The tables give a field below 100 its two digits. -/
theorem twoDigits_of_lt {n : Nat} (h : n < 100) : twoDigits n = pure (padded 2 n) := by
  have tens : n / 10 % 10 = n / 10 := Nat.mod_eq_of_lt (by omega)
  simp [twoDigits, index, digits10, digits01, List.getElem?_range h, padded, tens, Int.ofNat_nonneg]

theorem appendInt_two {n : Nat} (h : n < 100) (b : GoString) : appendInt b n 2 = b ++ padded 2 n := by
  have tens : n / 10 % 10 = n / 10 := Nat.mod_eq_of_lt (by omega)
  have unsigned : ¬ (n : Int) < 0 := by omega
  simp [appendInt, h, padded, tens, unsigned]

theorem appendInt_four {n : Nat} (h : n < 10000) (b : GoString) :
    appendInt b n 4 = b ++ padded 4 n := by
  have unsigned : ¬ (n : Int) < 0 := by omega
  have thousands : n / 1000 % 10 = n / 1000 := Nat.mod_eq_of_lt (by omega)
  simp [appendInt, h, padded, unsigned, Nat.div_div_eq_div_mul, thousands]

/-- `stdFracSecond0` with six digits writes the microseconds, zero-padded. -/
theorem appendNano_six {ns : Nat} (h : ns < 10 ^ 9) (b : GoString) :
    appendNano b ns 6 = b ++ ascii "." ++ padded 6 (ns / 1000) := by
  have unsigned : ¬ (ns : Int) < 0 := by omega
  have padding : List.replicate (9 - (decimal ns).length) (utod 0) ++ decimal ns = padded 9 ns :=
    replicate_decimal 8 ns h
  simp only [appendNano, appendInt, Int.natAbs_ofNat, unsigned, ↓reduceIte,
    show ¬ (9 = 2 ∧ ns < 100) by omega, show ¬ (9 = 4 ∧ ns < 10000) by omega,
    List.append_nil, List.append_assoc, padding]
  rw [if_pos (by decide), ← List.append_assoc, List.length_append, length_padded, Nat.add_sub_cancel,
    List.take_append, show 9 = 6 + 3 from rfl, take_padded, List.append_assoc,
    show (10 : Nat) ^ 3 = 1000 by decide]

theorem digits_mod_hundred (x : Nat) : x % 100 / 10 % 10 = x / 10 % 10 ∧ x % 100 % 10 = x % 10 :=
  ⟨by rw [show 100 = 10 * 10 from rfl, Nat.mod_mul_right_div_self, Nat.mod_mod],
    Nat.mod_mod_of_dvd x (by decide)⟩

theorem padded_four (n : Nat) : padded 2 (n / 100) ++ padded 2 (n % 100) = padded 4 n := by
  simp [padded, Nat.div_div_eq_div_mul, (digits_mod_hundred _).1, (digits_mod_hundred _).2]

theorem padded_six (n : Nat) :
    padded 2 (n / 10000) ++ padded 2 (n / 100 % 100) ++ padded 2 (n % 100) = padded 6 n := by
  simp [padded, Nat.div_div_eq_div_mul, (digits_mod_hundred _).1, (digits_mod_hundred _).2]

/-- For a time whose year, rounded to the microsecond, is 0 to 9999, the digit
tables of `interpolateParams` write what `time.Format` writes. -/
theorem timeLiteral_eq_timeParam (v : Time) (h0 : 0 ≤ (v.add 500).year)
    (h1 : (v.add 500).year < 10000) : timeLiteral v = pure (timeParam v) := by
  unfold timeLiteral timeParam
  split
  · rfl
  dsimp only
  generalize v.add 500 = w at h0 h1 ⊢
  obtain ⟨y, hy⟩ : ∃ y : Nat, w.year = y := ⟨w.year.toNat, by omega⟩
  rw [hy] at h0 h1 ⊢
  have century : Int.tdiv (y : Int) 100 = ((y / 100 : Nat) : Int) := by
    rw [Int.tdiv_eq_ediv h0 (by decide)]; omega
  have rest : Int.tmod (y : Int) 100 = ((y % 100 : Nat) : Int) := by
    rw [Int.tmod_eq_emod h0 (by decide)]; omega
  obtain ⟨hMonth, hDay, hHour, hMinute, hSecond⟩ := w.fields_lt_hundred
  have nano : w.nanosecond < 10 ^ 9 := by simp only [Time.nanosecond]; omega
  have micro : w.nanosecond / 1000 < 1000000 := by omega
  have micro10000 : ((w.nanosecond / 1000 : Nat) : Int) / 10000 =
      ((w.nanosecond / 1000 / 10000 : Nat) : Int) := by omega
  have micro100 : ((w.nanosecond / 1000 : Nat) : Int) / 100 % 100 =
      ((w.nanosecond / 1000 / 100 % 100 : Nat) : Int) := by omega
  have micro1 : ((w.nanosecond / 1000 : Nat) : Int) % 100 = ((w.nanosecond / 1000 % 100 : Nat) : Int) := by
    omega
  simp only [century, rest, micro10000, micro100, micro1, twoDigits_of_lt (show y / 100 < 100 by omega),
    twoDigits_of_lt (show y % 100 < 100 by omega), twoDigits_of_lt hMonth, twoDigits_of_lt hDay,
    twoDigits_of_lt hHour, twoDigits_of_lt hMinute, twoDigits_of_lt hSecond,
    twoDigits_of_lt (show w.nanosecond / 1000 / 10000 < 100 by omega),
    twoDigits_of_lt (show w.nanosecond / 1000 / 100 % 100 < 100 by omega),
    twoDigits_of_lt (show w.nanosecond / 1000 % 100 < 100 by omega), pure_bind]
  by_cases zero : w.nanosecond / 1000 = 0 <;>
  simp only [zero, ne_eq, not_true_eq_false, not_false_eq_true, ↓reduceIte,
    Time.format, dateTime, timestampFormatDriverMicro, List.foldl, List.cons_append,
    List.nil_append, appendChunk, hy, appendInt_four (show y < 10000 by omega), appendInt_two hMonth,
    appendInt_two hDay, appendInt_two hHour, appendInt_two hMinute, appendInt_two hSecond,
    appendNano_six nano, ← padded_four y, ← padded_six (w.nanosecond / 1000), List.append_assoc]

/-- The `time.Time` case of `interpolateParams`' type switch writes what that of
`buildExecutionParams` writes, for every time whose year, rounded to the
microsecond, is 0 to 9999. -/
theorem interpolateValue_time_matches_executionParam (X : Helpers) (v : Time)
    (h0 : 0 ≤ (v.add 500).year) (h1 : (v.add 500).year < 10000) :
    interpolateValue X (.time v) = executionParam X (.time v) :=
  timeLiteral_eq_timeParam v h0 h1

/-- 2024-02-29 12:34:56.789012345 UTC. -/
def leapDayNoon : Time := ⟨63844806896789012345⟩

example : timeParam leapDayNoon = ascii "'2024-02-29 12:34:56.789012'" := by decide

theorem interpolateValue_time_matches_executionParam_on_leap_day :
    (0 ≤ (leapDayNoon.add 500).year ∧ (leapDayNoon.add 500).year < 10000) ∧
      interpolateValue reference (.time leapDayNoon) = executionParam reference (.time leapDayNoon) :=
  ⟨⟨by decide, by decide⟩,
    interpolateValue_time_matches_executionParam reference leapDayNoon (by decide) (by decide)⟩

/-- The instant 10000-01-01 00:00:00 UTC. -/
def yearTenThousand : Time := ⟨3652059 * 86400000000000⟩

theorem interpolateParams_time_year_10000 (X : Helpers) :
    interpolateParams X [questionMark] [.time yearTenThousand] =
        .error (.panic (.indexOutOfRange 100 100)) ∧
      buildExecutionParams X [.time yearTenThousand] = .ok [ascii "'10000-01-01 00:00:00'"] := by
  refine ⟨?_, rfl⟩
  rw [interpolateParams, if_neg (by decide),
    @loop_exit X [questionMark] [.time yearTenThousand] ⟨0, 0, []⟩ _ rfl]
  rfl

end AthenaDriver
