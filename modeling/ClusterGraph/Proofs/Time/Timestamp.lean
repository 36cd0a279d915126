import ClusterGraph.Proofs.Time.Calendar
import ClusterGraph.Time.Rfc3339
import Mathlib.Data.List.TakeWhile
import Mathlib.Data.Nat.Digits.Defs
import Mathlib.Data.String.Basic

/-!
# Timestamps that read back

A moment in whole seconds, written with a year of four digits, is read back as that moment
(`Instant.parse?_secondsText`). Every field is filled up to its fixed number of digits, so each is
read on its own (`Timestamp.number_padded`), and the date gives the day back that it was made of.
-/
namespace ClusterGraph.Time

namespace Timestamp

theorem length_le_utf8Len (cs : List Char) : cs.length ≤ String.utf8Len cs := by
  induction cs with
  | nil => exact Nat.le_refl 0
  | cons c cs ih =>
    have wide := c.utf8Size_pos
    simp only [List.length_cons, String.utf8Len_cons]
    omega

theorem digitsValue_eq (ds : List Char) : digitsValue ds = Nat.ofDigitChars 10 ds 0 := by
  unfold digitsValue
  simp only [Nat.ofDigitChars_eq_foldl, Nat.mul_comm]

/-- The digits of a number that is filled up to a width. -/
def paddedDigits (width n : Nat) : List Char :=
  List.replicate (width - (Nat.toDigits 10 n).length) '0' ++ Nat.toDigits 10 n

theorem toList_padded (width n : Nat) : (Instant.padded width n).toList = paddedDigits width n := by
  simp [Instant.padded, paddedDigits]

theorem isDigit_paddedDigits (width n : Nat) : ∀ c ∈ paddedDigits width n, isDigit c = true := by
  intro c member
  rcases List.mem_append.mp member with zero | digit
  · cases List.eq_of_mem_replicate zero
    rfl
  · exact Nat.isDigit_of_mem_toDigits (by decide) (by decide) digit

theorem length_paddedDigits {width n : Nat} (present : 0 < width) (fits : n < 10 ^ width) :
    (paddedDigits width n).length = width := by
  have short := (Nat.length_toDigits_le_iff (b := 10) (by decide) present).mpr fits
  simp only [paddedDigits, List.length_append, List.length_replicate]
  omega

theorem digitsValue_paddedDigits (width n : Nat) : digitsValue (paddedDigits width n) = n := by
  rw [digitsValue_eq, paddedDigits, Nat.ofDigitChars_append, Nat.ofDigitChars_replicate_zero]
  exact Nat.ofDigitChars_toDigits (by decide) (by decide)

/-- A field that is filled up to its width is read as the number that it was written for. -/
theorem number_padded {width n : Nat} (present : 0 < width) (fits : n < 10 ^ width)
    (small : n < Nat.pow 2 63) (rest : List Char) :
    number width width ((Instant.padded width n).toList ++ rest) = .ok (n, rest) := by
  have length := length_paddedDigits present fits
  have taken : ((paddedDigits width n ++ rest).take width).takeWhile isDigit =
      paddedDigits width n := by
    rw [List.take_left' length]
    exact List.takeWhile_eq_self_iff.mpr (isDigit_paddedDigits width n)
  have long : ¬ (String.ofList (paddedDigits width n ++ rest)).utf8ByteSize < width := by
    have le := length_le_utf8Len (paddedDigits width n ++ rest)
    rw [List.length_append, length] at le
    rw [String.utf8ByteSize_ofList]
    omega
  unfold number
  rw [toList_padded, if_neg long]
  simp only [taken, length, Nat.lt_irrefl, if_false, digitsValue_paddedDigits]
  rw [if_neg (by omega), List.drop_left' length]

end Timestamp

namespace Instant

/-- The written form in whole seconds, character by character. -/
theorem toList_secondsText (seconds : Int) (start : 0 ≤ (Date.ofDays (seconds / daySeconds)).year)
    (ends : (Date.ofDays (seconds / daySeconds)).year ≤ 9999) :
    (secondsText ⟨seconds, 0⟩).toList =
      let date := Date.ofDays (seconds / daySeconds)
      let second := (seconds % daySeconds).toNat
      (padded 4 date.year.toNat).toList ++ '-' :: ((padded 2 date.month).toList ++
        '-' :: ((padded 2 date.day).toList ++ 'T' :: ((padded 2 (second / 3600)).toList ++
          ':' :: ((padded 2 (second / 60 % 60)).toList ++
            ':' :: ((padded 2 (second % 60)).toList ++ ['Z']))))) := by
  unfold secondsText localText yearText
  simp [start, ends, secondNanos, String.toList_append]

/-- The fields that the written form of a moment in whole seconds shows. -/
def fieldsOf (seconds : Int) : Fields :=
  let date := Date.ofDays (seconds / daySeconds)
  let second := (seconds % daySeconds).toNat
  ⟨date.year.toNat, date.month, date.day, second / 3600, second / 60 % 60, second % 60, 0, 0⟩

/-- Month and day of a date have two digits at most. -/
theorem month_day_ofDays_lt (days : Int) :
    (Date.ofDays days).month < 100 ∧ (Date.ofDays days).day < 100 := by
  obtain ⟨cycle, year, dayOfYear, month, -, short, -, rfl, date⟩ := Date.ofDays_cases days
  have early := Date.lastDay_le year
  rw [date]
  constructor
  · dsimp only
    split <;> omega
  · dsimp only
    omega

/-- Every field of the written form is read on its own. -/
theorem strict_secondsText (seconds : Int)
    (start : 0 ≤ (Date.ofDays (seconds / daySeconds)).year)
    (ends : (Date.ofDays (seconds / daySeconds)).year ≤ 9999) :
    Timestamp.strict (secondsText ⟨seconds, 0⟩).toList = (fieldsOf seconds).instant := by
  have below : seconds % 86400 < 86400 := Int.emod_lt_of_pos _ (by decide)
  have two {n : Nat} (fits : n < 100) (rest : List Char) :
      Timestamp.number 2 2 ((padded 2 n).toList ++ rest) = .ok (n, rest) :=
    Timestamp.number_padded (by decide) fits (Nat.lt_trans fits (by decide)) rest
  have four {n : Nat} (fits : n < 10000) (rest : List Char) :
      Timestamp.number 4 4 ((padded 4 n).toList ++ rest) = .ok (n, rest) :=
    Timestamp.number_padded (by decide) fits (Nat.lt_trans fits (by decide)) rest
  have year : (Date.ofDays (seconds / daySeconds)).year.toNat < 10000 := by omega
  obtain ⟨month, day⟩ := month_day_ofDays_lt (seconds / daySeconds)
  have hour : (seconds % daySeconds).toNat / 3600 < 100 := by
    unfold daySeconds
    omega
  have minute : (seconds % daySeconds).toNat / 60 % 60 < 100 := by omega
  have second : (seconds % daySeconds).toNat % 60 < 100 := by omega
  rw [toList_secondsText seconds start ends]
  unfold Timestamp.strict
  simp only [bind, Except.bind, four year, two month, two day, two hour, two minute, two second,
    Timestamp.char, Timestamp.separator, if_true, decide_true, Bool.true_or, fieldsOf]
  rfl

/-- A year of four digits lies well within the years of instants. -/
theorem days_of_year {days : Int} (start : 0 ≤ (Date.ofDays days).year)
    (ends : (Date.ofDays days).year ≤ 9999) : -1000000 ≤ days ∧ days ≤ 4000000 := by
  obtain ⟨cycle, year, dayOfYear, month, small, short, sum, -, date⟩ := Date.ofDays_cases days
  have early := Date.lastDay_le year
  rw [date] at start ends
  dsimp only at start ends
  unfold Date.daysBefore at sum
  split at start <;> omega

/-- Fields of a date that exists and of a time of day without a leap second. -/
theorem instant_of_fields {f : Fields} (date : (⟨f.year, f.month, f.day⟩ : Date).isValid = true)
    (hour : f.hour < 24) (minute : f.minute < 60) (second : f.second < 60) (east : f.offset = 0)
    {seconds : Int} (sum : (⟨f.year, f.month, f.day⟩ : Date).toDays * daySeconds +
      (f.hour * 3600 + f.minute * 60 + f.second : Nat) = seconds)
    (early : firstSecond ≤ seconds) (late : seconds ≤ lastSecond) :
    f.instant = .ok ⟨seconds, f.nanos⟩ := by
  have inDay : (24 ≤ f.hour || 60 ≤ f.minute || 61 ≤ f.second) = false := by
    simp only [Bool.or_eq_false_iff, decide_eq_false_iff_not]
    omega
  have inTime : (seconds < firstSecond || lastSecond < seconds) = false := by
    simp only [Bool.or_eq_false_iff, decide_eq_false_iff_not]
    omega
  unfold Fields.instant
  simp only [date, Bool.not_true, inDay, east, Int.natAbs_zero, Nat.ne_of_lt second, if_false, sum,
    Int.sub_zero, inTime, Bool.false_eq_true]
  rfl

/-- The fields that a moment shows are the fields of that moment. -/
theorem instant_fieldsOf (seconds : Int) (start : 0 ≤ (Date.ofDays (seconds / daySeconds)).year)
    (ends : (Date.ofDays (seconds / daySeconds)).year ≤ 9999) :
    (fieldsOf seconds).instant = .ok ⟨seconds, 0⟩ := by
  have date : (⟨(fieldsOf seconds).year, (fieldsOf seconds).month, (fieldsOf seconds).day⟩ : Date) =
      Date.ofDays (seconds / daySeconds) := by
    simp only [fieldsOf, Int.toNat_of_nonneg start]
  obtain ⟨after, before⟩ := days_of_year start ends
  have first : firstSecond ≤ -100000000000 := by decide +kernel
  have last : 400000000000 ≤ lastSecond := by decide +kernel
  unfold daySeconds at after before
  refine instant_of_fields ?_ ?_ ?_ ?_ rfl ?_ (by omega) (by omega)
  · rw [date]
    exact Date.isValid_ofDays (Int.le_trans (by decide) start) (Int.le_trans ends (by decide))
  · simp only [fieldsOf, daySeconds]
    omega
  · simp only [fieldsOf]
    omega
  · simp only [fieldsOf]
    omega
  · rw [date, Date.toDays_ofDays]
    simp only [fieldsOf, daySeconds]
    omega

/-- A moment in whole seconds is read back if its year has four digits. -/
theorem parse?_secondsText (seconds : Int)
    (start : 0 ≤ (Date.ofDays (seconds / daySeconds)).year)
    (ends : (Date.ofDays (seconds / daySeconds)).year ≤ 9999) :
    parse? (secondsText ⟨seconds, 0⟩) = some ⟨seconds, 0⟩ := by
  unfold parse?
  rw [strict_secondsText seconds start ends, instant_fieldsOf seconds start ends]
  rfl

end Instant
end ClusterGraph.Time
