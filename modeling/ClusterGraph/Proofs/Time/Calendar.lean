import ClusterGraph.Time.Instant
import Mathlib.Order.Monotone.Basic
import Mathlib.Tactic.IntervalCases

/-!
# Days and dates

The date of a number of days is a date of the calendar, and its number of days is the number that it
was made of (`Date.toDays_ofDays`, `Date.isValid_ofDays`).

Years are counted from 1 March here, in cycles of 400 years. The year of a day of a cycle is found
by leaving out the leap days before it. That count never decreases, so it is enough to know it at
the first and at the last day of each year (`Date.bounds_of_year`).
-/
namespace ClusterGraph.Time.Date

def daysBefore (year : Nat) : Nat := 365 * year + year / 4 - year / 100

/-- The last day of a year of a cycle, counted from its first. That is a leap day if the civil year
in which it lies has one. -/
def lastDay (year : Nat) : Nat := if isLeapYear (year + 1) then 365 else 364

/-- The days of a cycle up to one of them, without the leap days. -/
def plainDays (day : Nat) : Nat := day - day / 1460 + day / 36524 - day / 146096

theorem plainDays_mono : Monotone plainDays := by
  refine monotone_nat_of_le_succ fun day => ?_
  unfold plainDays
  omega

/-- Each year of a cycle is the year of its first and of its last day, and the next year begins on
the day after. -/
theorem bounds_of_year : ∀ year < 400, plainDays (daysBefore year) / 365 = year ∧
    plainDays (daysBefore year + lastDay year) / 365 = year ∧
    (year < 399 → daysBefore (year + 1) = daysBefore year + lastDay year + 1) := by
  decide +kernel

/-- Every day of a cycle lies in the year that is computed for it. -/
theorem year_of_day {day : Nat} (cycle : day < 146097) :
    ∃ year dayOfYear, plainDays day / 365 = year ∧ year < 400 ∧ dayOfYear ≤ lastDay year ∧
      day = daysBefore year + dayOfYear := by
  have order {a b : Nat} (le : a ≤ b) : plainDays a / 365 ≤ plainDays b / 365 :=
    Nat.div_le_div_right (plainDays_mono le)
  have last : plainDays 146096 / 365 = 399 := by decide
  generalize found : plainDays day / 365 = year
  have small : year < 400 := by
    have le := order (show day ≤ 146096 by omega)
    omega
  have begun : daysBefore year ≤ day := by
    by_contra before
    cases year with
    | zero => exact before (Nat.zero_le day)
    | succ previous =>
      obtain ⟨-, ends, next⟩ := bounds_of_year previous (by omega)
      have le := order (show day ≤ daysBefore previous + lastDay previous by
        have begins := next (by omega)
        omega)
      omega
  have ended : day ≤ daysBefore year + lastDay year := by
    by_contra after
    by_cases final : year = 399
    · subst final
      have whole : daysBefore 399 + lastDay 399 = 146096 := by decide
      omega
    · have begins := (bounds_of_year year small).2.2 (by omega)
      obtain ⟨starts, -, -⟩ := bounds_of_year (year + 1) (by omega)
      have le := order (show daysBefore (year + 1) ≤ day by omega)
      omega
  exact ⟨year, day - daysBefore year, rfl, small, by omega, by omega⟩

theorem lastDay_le (year : Nat) : lastDay year ≤ 365 := by
  unfold lastDay
  split <;> omega

/-- The date of a number of days: the cycle, the year and the day of the year are told from the
number, and month and day from the day of the year. -/
theorem ofDays_cases (days : Int) :
    ∃ (cycle : Int) (year dayOfYear month : Nat), year < 400 ∧ dayOfYear ≤ lastDay year ∧
      days = cycle * 146097 + daysBefore year + dayOfYear - 719468 ∧
      month = (5 * dayOfYear + 2) / 153 ∧
      ofDays days = ⟨year + cycle * 400 + (if month < 10 then 0 else 1),
        if month < 10 then month + 3 else month - 9, dayOfYear - (153 * month + 2) / 5 + 1⟩ := by
  have nonneg : 0 ≤ (days + 719468) % 146097 := Int.emod_nonneg _ (by decide)
  have below : (days + 719468) % 146097 < 146097 := Int.emod_lt_of_pos _ (by decide)
  obtain ⟨day, same⟩ := Int.eq_ofNat_of_zero_le nonneg
  have inside : day < 146097 := by omega
  obtain ⟨year, dayOfYear, found, small, short, sum⟩ := year_of_day inside
  refine ⟨(days + 719468) / 146097, year, dayOfYear, _, small, short, by omega, rfl, ?_⟩
  have year_eq : ((day : Int) - day / 1460 + day / 36524 - day / 146096) / 365 = year := by
    unfold plainDays at found
    omega
  have day_eq : (day : Int) - (365 * year + (year : Int) / 4 - (year : Int) / 100) = dayOfYear := by
    unfold daysBefore at sum
    omega
  have month_eq : (5 * (dayOfYear : Int) + 2) / 153 = ((5 * dayOfYear + 2) / 153 : Nat) := by
    omega
  have early := lastDay_le year
  unfold ofDays
  simp only [same, year_eq, day_eq, month_eq, Date.mk.injEq]
  generalize month : (5 * dayOfYear + 2) / 153 = m
  by_cases march : m < 10
  · have march' : (m : Int) < 10 := by omega
    simp only [march, march', if_true]
    refine ⟨?_, by omega, by omega⟩
    rw [if_neg (by omega)]
  · have march' : ¬ (m : Int) < 10 := by omega
    simp only [march, march', if_false]
    refine ⟨?_, by omega, by omega⟩
    rw [if_pos (by omega)]

theorem toDays_ofDays (days : Int) : (ofDays days).toDays = days := by
  obtain ⟨cycle, year, dayOfYear, month, small, short, sum, month_eq, date⟩ := ofDays_cases days
  have early := lastDay_le year
  have cycle_eq : ((year : Int) + cycle * 400) / 400 = cycle := by omega
  have year_eq : ((year : Int) + cycle * 400) % 400 = year := by omega
  have month_back :
      ((if month < 10 then month + 3 else month - 9 : Nat) + 9 : Int) % 12 = month := by
    split <;> omega
  have civil : (if (if month < 10 then month + 3 else month - 9) ≤ 2 then
      (year : Int) + cycle * 400 + (if month < 10 then 0 else 1) - 1
      else (year : Int) + cycle * 400 + (if month < 10 then 0 else 1)) = year + cycle * 400 := by
    split <;> split <;> omega
  rw [date]
  unfold toDays
  simp only [civil, cycle_eq, year_eq, month_back]
  unfold daysBefore at sum
  omega

theorem isLeapYear_add_cycles (year cycle : Int) :
    isLeapYear (year + cycle * 400) = isLeapYear year := by
  unfold isLeapYear
  have four : (year + cycle * 400) % 4 = year % 4 := by omega
  have hundred : (year + cycle * 400) % 100 = year % 100 := by omega
  have whole : (year + cycle * 400) % 400 = year % 400 := by omega
  rw [four, hundred, whole]

theorem isValid_ofDays {days : Int} (first : firstYear ≤ (ofDays days).year)
    (last : (ofDays days).year ≤ lastYear) : (ofDays days).isValid = true := by
  obtain ⟨cycle, year, dayOfYear, month, small, short, sum, month_eq, date⟩ := ofDays_cases days
  have early := lastDay_le year
  have months : month ≤ 11 := by omega
  rw [date] at first last ⊢
  unfold isValid
  simp only [first, last, decide_true, Bool.true_and, Bool.and_eq_true, decide_eq_true_eq]
  refine ⟨⟨⟨by split <;> omega, by split <;> omega⟩, by omega⟩, ?_⟩
  unfold daysInMonth
  by_cases february : month = 11
  · -- The last day of the year, counted from March, is the leap day.
    subst february
    have leap := isLeapYear_add_cycles (year + 1) cycle
    rw [show (year : Int) + 1 + cycle * 400 = year + cycle * 400 + 1 by omega] at leap
    unfold lastDay at short
    simp only [Nat.reduceLT, if_false, Nat.reduceSub, if_true, leap]
    cases has_leap : isLeapYear (year + 1) with
    | true =>
      simp only [has_leap, if_true] at short ⊢
      omega
    | false =>
      simp only [has_leap, Bool.false_eq_true, if_false] at short ⊢
      omega
  · -- Of any other month, only the number of its days matters.
    clear sum date first last
    interval_cases month <;> simp <;> omega

end ClusterGraph.Time.Date
