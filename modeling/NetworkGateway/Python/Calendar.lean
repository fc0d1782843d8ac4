import Mathlib.Tactic.IntervalCases
import NetworkGateway.Library.Lexical
import NetworkGateway.Python.Clock

/-! The proleptic Gregorian calendar of `datetime`, and the order of the texts
`strftime` prints. -/

namespace NetworkGateway.Calendar

open Library.Lexical

def isLeap (year : Nat) : Bool := year % 4 == 0 && (year % 100 != 0 || year % 400 == 0)

def daysInMonth (year month : Nat) : Nat :=
  match month with
  | 2 => if isLeap year then 29 else 28
  | 4 | 6 | 9 | 11 => 30
  | _ => 31

/-- `_DAYS_BEFORE_MONTH` in a year without a leap day. -/
def commonDaysBefore : Nat → Nat
  | 1 => 0
  | 2 => 31
  | 3 => 59
  | 4 => 90
  | 5 => 120
  | 6 => 151
  | 7 => 181
  | 8 => 212
  | 9 => 243
  | 10 => 273
  | 11 => 304
  | _ => 334

def leapDay (leap : Bool) (month : Nat) : Nat := if leap && 2 < month then 1 else 0

def daysBeforeMonth (year month : Nat) : Nat := commonDaysBefore month + leapDay (isLeap year) month

def daysBeforeYear (year : Nat) : Nat :=
  let y := year - 1
  y * 365 + y / 4 - y / 100 + y / 400

/-- `_ymd2ord`: January 1st of year 1 is day 1. -/
def ymd2ord (year month day : Nat) : Nat := daysBeforeYear year + daysBeforeMonth year month + day

/-- The month and the day in it of day `n` of a year, counted from 0. -/
def monthDay (leap : Bool) (n : Nat) : Nat × Nat :=
  let month := (n + 50) / 32
  let preceding := commonDaysBefore month + leapDay leap month
  if n < preceding then (month - 1, n - (commonDaysBefore (month - 1) + leapDay leap (month - 1)) + 1)
  else (month, n - preceding + 1)

def ord2ymd (ordinal : Nat) : Nat × Nat × Nat :=
  let n := ordinal - 1
  let n400 := n / 146097
  let n := n % 146097
  let n100 := n / 36524
  let n := n % 36524
  let n4 := n / 1461
  let n := n % 1461
  let n1 := n / 365
  let n := n % 365
  let year := n400 * 400 + 1 + n100 * 100 + n4 * 4 + n1
  if n1 = 4 ∨ n100 = 4 then (year - 1, 12, 31)
  else (year, monthDay (n1 == 3 && (n4 != 24 || n100 == 3)) n)

/-- `date.max.toordinal()`. -/
def maxOrdinal : Nat := 3652059

example : ymd2ord 9999 12 31 = maxOrdinal := by decide
example : ord2ymd maxOrdinal = (9999, 12, 31) := by decide
example : ord2ymd (ymd2ord 2024 2 29) = (2024, 2, 29) := by decide

/-- The dates `datetime` admits. -/
def ValidDate (year month day : Nat) : Prop :=
  1 ≤ year ∧ year ≤ 9999 ∧ 1 ≤ month ∧ month ≤ 12 ∧ 1 ≤ day ∧ day ≤ daysInMonth year month

instance (year month day : Nat) : Decidable (ValidDate year month day) :=
  inferInstanceAs (Decidable (_ ∧ _))

theorem daysInMonth_le (year month : Nat) : daysInMonth year month ≤ 31 := by
  unfold daysInMonth
  split
  · split <;> decide
  all_goals decide

theorem daysBeforeMonth_succ (year : Nat) {month : Nat} (first : 1 ≤ month) (last : month < 12) :
    daysBeforeMonth year (month + 1) = daysBeforeMonth year month + daysInMonth year month := by
  unfold daysBeforeMonth daysInMonth leapDay
  cases isLeap year <;> interval_cases month <;> rfl

def daysInYear (year : Nat) : Nat := if isLeap year then 366 else 365

theorem daysBeforeMonth_last (year : Nat) : daysBeforeMonth year 12 + 31 = daysInYear year := by
  unfold daysBeforeMonth daysInYear leapDay
  cases isLeap year <;> rfl

theorem isLeap_iff (year : Nat) : isLeap year = true ↔ year % 4 = 0 ∧ (year % 100 ≠ 0 ∨ year % 400 = 0) := by
  simp [isLeap]

theorem daysBeforeYear_succ {year : Nat} (first : 1 ≤ year) :
    daysBeforeYear (year + 1) = daysBeforeYear year + daysInYear year := by
  have fours : year / 4 = (year - 1) / 4 + (if year % 4 = 0 then 1 else 0) := by split <;> omega
  have centuries : year / 100 = (year - 1) / 100 + (if year % 100 = 0 then 1 else 0) := by split <;> omega
  have cycles : year / 400 = (year - 1) / 400 + (if year % 400 = 0 then 1 else 0) := by split <;> omega
  have century : (year - 1) / 100 ≤ (year - 1) / 4 := Nat.div_le_div_left (by decide) (by decide)
  have hundredth : year % 100 = 0 → year % 4 = 0 := by omega
  have cycle : year % 400 = 0 → year % 100 = 0 := by omega
  unfold daysBeforeYear daysInYear
  dsimp only
  rw [Nat.add_sub_cancel, fours, centuries, cycles]
  simp only [isLeap_iff]
  generalize (year - 1) / 4 = e at *
  generalize (year - 1) / 100 = f at *
  generalize (year - 1) / 400 = g at *
  by_cases four : year % 4 = 0
  · by_cases hundred : year % 100 = 0
    · by_cases whole : year % 400 = 0
      · simp only [four, hundred, whole, if_true, ne_eq, not_true_eq_false, or_true, and_self]
        omega
      · simp only [four, hundred, whole, if_true, if_false, ne_eq, not_true_eq_false, or_self, and_false]
        omega
    · have common := mt cycle hundred
      simp only [four, hundred, common, if_true, if_false, ne_eq, not_false_eq_true, true_or, and_self]
      omega
  · have plain := mt hundredth four
    have common := mt cycle plain
    simp only [four, plain, common, if_false, false_and]
    omega

theorem daysBeforeYear_mono {year later : Nat} (first : 1 ≤ year) (ordered : year ≤ later) :
    daysBeforeYear year ≤ daysBeforeYear later := by
  induction later, ordered using Nat.le_induction with
  | base => exact Nat.le_refl _
  | succ later reached ih =>
      rw [daysBeforeYear_succ (Nat.le_trans first reached)]
      exact Nat.le_trans ih (Nat.le_add_right _ _)

theorem daysBeforeMonth_mono (year : Nat) {month later : Nat} (first : 1 ≤ month) (ordered : month < later)
    (last : later ≤ 12) : daysBeforeMonth year month + daysInMonth year month ≤ daysBeforeMonth year later := by
  induction later with
  | zero => omega
  | succ later ih =>
      rcases Nat.lt_succ_iff_lt_or_eq.mp ordered with before | same
      · have step := daysBeforeMonth_succ year (by omega : 1 ≤ later) (by omega)
        have held := ih before (by omega)
        omega
      · rw [← same, daysBeforeMonth_succ year first (by omega)]

theorem ymd2ord_bounds {year month day : Nat} (valid : ValidDate year month day) :
    daysBeforeYear year < ymd2ord year month day ∧ ymd2ord year month day ≤ daysBeforeYear (year + 1) := by
  rcases valid with ⟨firstYear, -, firstMonth, lastMonth, firstDay, lastDay⟩
  have length := daysBeforeYear_succ firstYear
  have december := daysBeforeMonth_last year
  have within : daysBeforeMonth year month + daysInMonth year month ≤ daysInYear year := by
    rcases Nat.lt_or_eq_of_le lastMonth with before | last
    · have ends := daysBeforeMonth_mono year firstMonth before (Nat.le_refl 12)
      omega
    · rw [last]
      exact Nat.le_of_eq december
  unfold ymd2ord
  omega

theorem ymd2ord_lt {year month day laterYear laterMonth laterDay : Nat} (valid : ValidDate year month day)
    (later : ValidDate laterYear laterMonth laterDay) :
    ymd2ord year month day < ymd2ord laterYear laterMonth laterDay ↔
      year < laterYear ∨ year = laterYear ∧ (month < laterMonth ∨ month = laterMonth ∧ day < laterDay) := by
  have forward : ∀ {y m d y' m' d' : Nat}, ValidDate y m d → ValidDate y' m' d' →
      (y < y' ∨ y = y' ∧ (m < m' ∨ m = m' ∧ d < d')) → ymd2ord y m d < ymd2ord y' m' d' := by
    intro y m d y' m' d' valid later first
    rcases first with years | ⟨rfl, months | ⟨rfl, days⟩⟩
    · have before := (ymd2ord_bounds valid).2
      have after := (ymd2ord_bounds later).1
      have ordered := daysBeforeYear_mono (Nat.succ_pos y) (Nat.succ_le_of_lt years)
      exact Nat.lt_of_le_of_lt (Nat.le_trans before ordered) after
    · rcases valid with ⟨-, -, firstMonth, -, -, lastDay⟩
      rcases later with ⟨-, -, -, lastMonth, firstDay, -⟩
      have ordered := daysBeforeMonth_mono y firstMonth months lastMonth
      unfold ymd2ord
      omega
    · exact Nat.add_lt_add_left days _
  constructor
  · intro less
    by_contra notFirst
    have same : ymd2ord laterYear laterMonth laterDay ≤ ymd2ord year month day := by
      by_cases back : laterYear < year ∨ laterYear = year ∧
          (laterMonth < month ∨ laterMonth = month ∧ laterDay < day)
      · exact Nat.le_of_lt (forward later valid back)
      · have years : year = laterYear := by omega
        have months : month = laterMonth := by omega
        have days : day = laterDay := by omega
        rw [years, months, days]
    omega
  · exact forward valid later

theorem monthDay_spec (year : Nat) {n : Nat} (within : n < 365) :
    let found := monthDay (isLeap year) n
    1 ≤ found.1 ∧ found.1 ≤ 12 ∧ 1 ≤ found.2 ∧ found.2 ≤ daysInMonth year found.1 ∧
      daysBeforeMonth year found.1 + found.2 = n + 1 := by
  have least : 1 ≤ (n + 50) / 32 := by omega
  have most : (n + 50) / 32 ≤ 12 := by omega
  unfold monthDay
  generalize found : (n + 50) / 32 = month at *
  dsimp only
  by_cases early : n < commonDaysBefore month + leapDay (isLeap year) month
  · rw [if_pos early]
    unfold daysInMonth daysBeforeMonth
    unfold leapDay at *
    generalize isLeap year = leap at *
    interval_cases month <;> cases leap <;> simp [commonDaysBefore] at * <;> omega
  · rw [if_neg early]
    unfold daysInMonth daysBeforeMonth
    unfold leapDay at *
    generalize isLeap year = leap at *
    interval_cases month <;> cases leap <;> simp [commonDaysBefore] at * <;> omega

/-- The years of one cycle of 400, by their centuries, groups of four and the rest. -/
theorem daysBeforeYear_split {n400 n100 n4 n1 : Nat} (centuries : n100 < 4) (fours : n4 < 25) (years : n1 < 4) :
    daysBeforeYear (n400 * 400 + 1 + n100 * 100 + n4 * 4 + n1) =
      n400 * 146097 + n100 * 36524 + n4 * 1461 + n1 * 365 := by
  unfold daysBeforeYear
  dsimp only
  omega

theorem isLeap_split {n400 n100 n4 n1 : Nat} (centuries : n100 < 4) (fours : n4 < 25) (years : n1 < 4) :
    isLeap (n400 * 400 + 1 + n100 * 100 + n4 * 4 + n1) = (n1 == 3 && (n4 != 24 || n100 == 3)) := by
  rw [Bool.eq_iff_iff, isLeap_iff]
  simp only [Bool.and_eq_true, Bool.or_eq_true, beq_iff_eq, bne_iff_ne]
  omega

theorem ord2ymd_spec {ordinal : Nat} (first : 1 ≤ ordinal) (last : ordinal ≤ maxOrdinal) :
    let date := ord2ymd ordinal
    ValidDate date.1 date.2.1 date.2.2 ∧ ymd2ord date.1 date.2.1 date.2.2 = ordinal := by
  unfold maxOrdinal at last
  unfold ord2ymd
  dsimp only
  have whole : (ordinal - 1) / 146097 * 146097 + (ordinal - 1) % 146097 = ordinal - 1 := Nat.div_add_mod' _ _
  have cycle : (ordinal - 1) % 146097 < 146097 := Nat.mod_lt _ (Nat.succ_pos _)
  generalize (ordinal - 1) / 146097 = n400 at *
  generalize (ordinal - 1) % 146097 = inCycle at *
  have century : inCycle / 36524 * 36524 + inCycle % 36524 = inCycle := Nat.div_add_mod' _ _
  have inCentury : inCycle % 36524 < 36524 := Nat.mod_lt _ (Nat.succ_pos _)
  generalize inCycle / 36524 = n100 at *
  generalize inCycle % 36524 = n at *
  have group : n / 1461 * 1461 + n % 1461 = n := Nat.div_add_mod' _ _
  have inGroup : n % 1461 < 1461 := Nat.mod_lt _ (Nat.succ_pos _)
  generalize n / 1461 = n4 at *
  generalize n % 1461 = m at *
  have year : m / 365 * 365 + m % 365 = m := Nat.div_add_mod' _ _
  have inYear : m % 365 < 365 := Nat.mod_lt _ (Nat.succ_pos _)
  generalize m / 365 = n1 at *
  generalize m % 365 = day at *
  split
  · -- the last day of a leap year, one day past four (or of 400 years, past four centuries)
    rename_i ends
    have lastDay : ∀ {c g : Nat}, c < 4 → g < 25 → (g ≠ 24 ∨ c = 3) →
        n400 * 400 + 1 + n100 * 100 + n4 * 4 + n1 - 1 = n400 * 400 + 1 + c * 100 + g * 4 + 3 →
        ordinal = n400 * 146097 + c * 36524 + (g + 1) * 1461 →
        ValidDate (n400 * 400 + 1 + n100 * 100 + n4 * 4 + n1 - 1) 12 31 ∧
          ymd2ord (n400 * 400 + 1 + n100 * 100 + n4 * 4 + n1 - 1) 12 31 = ordinal := by
      intro c g centuries fours leap same counted
      rw [same]
      have before := @daysBeforeYear_split n400 _ _ _ centuries fours (by decide : 3 < 4)
      have december := daysBeforeMonth_last (n400 * 400 + 1 + c * 100 + g * 4 + 3)
      unfold daysInYear at december
      rw [isLeap_split centuries fours (by decide)] at december
      simp only [beq_self_eq_true, Bool.true_and, Bool.or_eq_true, bne_iff_ne, beq_iff_eq, leap, if_true]
        at december
      refine ⟨⟨by omega, by omega, by decide, by decide, by decide, Nat.le_refl 31⟩, ?_⟩
      unfold ymd2ord
      omega
    by_cases cycleEnds : n100 = 4
    · exact lastDay (c := 3) (g := 24) (by decide) (by decide) (.inr rfl) (by omega) (by omega)
    · exact lastDay (c := n100) (g := n4) (by omega) (by omega) (.inl (by omega)) (by omega) (by omega)
  · rename_i inside
    have centuries : n100 < 4 := by omega
    have fours : n4 < 25 := by omega
    have years : n1 < 4 := by omega
    have found := monthDay_spec (n400 * 400 + 1 + n100 * 100 + n4 * 4 + n1) inYear
    rw [isLeap_split centuries fours years] at found
    rcases found with ⟨firstMonth, lastMonth, firstDay, lastDay, counted⟩
    have before := @daysBeforeYear_split n400 _ _ _ centuries fours years
    refine ⟨⟨by omega, by omega, firstMonth, lastMonth, firstDay, lastDay⟩, ?_⟩
    unfold ymd2ord
    dsimp only
    omega

end NetworkGateway.Calendar
