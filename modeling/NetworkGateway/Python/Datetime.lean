import Mathlib.Data.String.Basic
import Mathlib.Tactic.IntervalCases
import NetworkGateway.Python.Bytes
import NetworkGateway.Python.Calendar
import NetworkGateway.Python.Text

/-! `datetime` values: their instants, `astimezone`, and the ISO 8601 texts
`fromisoformat` reads. -/

namespace NetworkGateway

open Library.Lexical

namespace UtcTime

/-- The fields of a `datetime`. -/
def Valid (t : UtcTime) : Prop :=
  Calendar.ValidDate t.year t.month t.day ∧
    t.hour < 24 ∧ t.minute < 60 ∧ t.second < 60 ∧ t.microsecond < 1000000

instance (t : UtcTime) : Decidable t.Valid := inferInstanceAs (Decidable (_ ∧ _))

def microsecondsPerDay : Nat := 86400000000

def dayMicroseconds (t : UtcTime) : Nat :=
  ((t.hour * 60 + t.minute) * 60 + t.second) * 1000000 + t.microsecond

/-- Microseconds since the start of day 0. -/
def instant (t : UtcTime) : Nat :=
  Calendar.ymd2ord t.year t.month t.day * microsecondsPerDay + t.dayMicroseconds

def ofInstant (instant : Nat) : UtcTime :=
  let date := Calendar.ord2ymd (instant / microsecondsPerDay)
  let rest := instant % microsecondsPerDay
  ⟨date.1, date.2.1, date.2.2, rest / 3600000000, rest / 60000000 % 60, rest / 1000000 % 60, rest % 1000000⟩

/-- The instants a `datetime` has fields for. -/
def Covered (instant : Int) : Prop :=
  (microsecondsPerDay : Int) ≤ instant ∧ instant < (Calendar.maxOrdinal + 1) * microsecondsPerDay

instance (instant : Int) : Decidable (Covered instant) := inferInstanceAs (Decidable (_ ∧ _))

theorem dayMicroseconds_lt {t : UtcTime} (valid : t.Valid) : t.dayMicroseconds < microsecondsPerDay := by
  rcases valid with ⟨-, hour, minute, second, microsecond⟩
  unfold dayMicroseconds microsecondsPerDay
  omega

theorem ofInstant_spec {n : Nat} (covered : Covered n) : (ofInstant n).Valid ∧ (ofInstant n).instant = n := by
  rcases covered with ⟨first, last⟩
  have whole := Nat.div_add_mod' n microsecondsPerDay
  have rest : n % microsecondsPerDay < microsecondsPerDay := Nat.mod_lt _ (Nat.succ_pos _)
  have date : 1 ≤ n / microsecondsPerDay ∧ n / microsecondsPerDay ≤ Calendar.maxOrdinal := by
    unfold microsecondsPerDay Calendar.maxOrdinal at *
    omega
  have days := Calendar.ord2ymd_spec date.1 date.2
  have time : (ofInstant n).dayMicroseconds = n % microsecondsPerDay := by
    unfold dayMicroseconds ofInstant
    dsimp only
    generalize n % microsecondsPerDay = m
    omega
  refine ⟨⟨days.1, ?_⟩, ?_⟩
  · unfold ofInstant
    dsimp only
    unfold microsecondsPerDay at *
    omega
  · unfold instant
    rw [time]
    exact (congrArg (fun ordinal => ordinal * microsecondsPerDay + n % microsecondsPerDay) days.2).trans whole

/-! Instants and printed texts have one order: that of the fields. -/

/-- `t` comes before `u` by year, then month, and so on. -/
def Before (t u : UtcTime) : Prop :=
  t.year < u.year ∨ t.year = u.year ∧ (t.month < u.month ∨ t.month = u.month ∧
    (t.day < u.day ∨ t.day = u.day ∧ (t.hour < u.hour ∨ t.hour = u.hour ∧
      (t.minute < u.minute ∨ t.minute = u.minute ∧ (t.second < u.second ∨ t.second = u.second ∧
        t.microsecond < u.microsecond)))))

theorem dayMicroseconds_lt_iff {t u : UtcTime} (valid : t.Valid) (other : u.Valid) :
    t.dayMicroseconds < u.dayMicroseconds ↔ t.hour < u.hour ∨ t.hour = u.hour ∧
      (t.minute < u.minute ∨ t.minute = u.minute ∧ (t.second < u.second ∨ t.second = u.second ∧
        t.microsecond < u.microsecond)) := by
  rcases valid with ⟨-, -, minute, second, microsecond⟩
  rcases other with ⟨-, -, minute', second', microsecond'⟩
  unfold dayMicroseconds
  rw [radix_lt microsecond microsecond', radix_lt second second', radix_lt minute minute',
    radix_eq second second', radix_eq minute minute']
  omega

theorem instant_lt_iff {t u : UtcTime} (valid : t.Valid) (other : u.Valid) :
    t.instant < u.instant ↔ t.Before u := by
  have days := Calendar.ymd2ord_lt valid.1 other.1
  have back := Calendar.ymd2ord_lt other.1 valid.1
  unfold instant Before
  rw [radix_lt (dayMicroseconds_lt valid) (dayMicroseconds_lt other), dayMicroseconds_lt_iff valid other, days]
  have same : Calendar.ymd2ord t.year t.month t.day = Calendar.ymd2ord u.year u.month u.day ↔
      t.year = u.year ∧ t.month = u.month ∧ t.day = u.day := by
    constructor
    · intro equal
      have notLess := mt days.mpr (Nat.not_lt_of_le (Nat.le_of_eq equal.symm))
      have notMore := mt back.mpr (Nat.not_lt_of_le (Nat.le_of_eq equal))
      omega
    · intro fields
      rw [fields.1, fields.2.1, fields.2.2]
  rw [same]
  omega

theorem digits_length (width n : Nat) : (digits width n).length = width := by
  induction width generalizing n with
  | zero => rfl
  | succ width ih => rw [digits, List.length_append, ih, List.length_singleton]

theorem digit_lt {a b : Nat} (small : a < 10) (little : b < 10) :
    Char.ofNat (48 + a) < Char.ofNat (48 + b) ↔ a < b := by
  interval_cases a <;> interval_cases b <;> decide

theorem digits_lt {width a b : Nat} (fits : a < 10 ^ width) (bounded : b < 10 ^ width) :
    digits width a < digits width b ↔ a < b := by
  induction width generalizing a b with
  | zero =>
      rw [pow_zero] at fits bounded
      simp only [digits, List.not_lt_nil, false_iff]
      omega
  | succ width ih =>
      have split : 10 ^ (width + 1) = 10 ^ width * 10 := pow_succ 10 width
      have high := ih (a := a / 10) (b := b / 10) (by omega) (by omega)
      have back := ih (a := b / 10) (b := a / 10) (by omega) (by omega)
      have last := digit_lt (Nat.mod_lt a (by decide : 0 < 10)) (Nat.mod_lt b (by decide : 0 < 10))
      have same : digits width (a / 10) = digits width (b / 10) ↔ a / 10 = b / 10 := by
        constructor
        · intro equal
          rw [equal] at high back
          have notLess := mt high.mpr (lt_irrefl _)
          have notMore := mt back.mpr (lt_irrefl _)
          omega
        · exact congrArg (digits width)
      rw [digits, digits, append_lt_append (by rw [digits_length, digits_length]), high, same,
        List.cons_lt_cons_iff, last]
      simp only [List.not_lt_nil, and_false, or_false]
      omega

theorem digits_append_lt {width a b : Nat} (fits : a < 10 ^ width) (bounded : b < 10 ^ width)
    (rest more : List Char) :
    digits width a ++ rest < digits width b ++ more ↔ a < b ∨ a = b ∧ rest < more := by
  have same : digits width a = digits width b ↔ a = b := by
    constructor
    · intro equal
      have less := digits_lt fits bounded
      have more := digits_lt bounded fits
      rw [equal] at less more
      have notLess := mt less.mpr (lt_irrefl _)
      have notMore := mt more.mpr (lt_irrefl _)
      omega
    · exact congrArg (digits width)
  rw [append_lt_append (by rw [digits_length, digits_length]), digits_lt fits bounded, same]

theorem format_lt_iff {t u : UtcTime} (valid : t.Valid) (other : u.Valid) :
    t.format < u.format ↔ t.Before u := by
  have bounds : ∀ {v : UtcTime}, v.Valid → v.year < 10 ^ 4 ∧ v.month < 10 ^ 2 ∧ v.day < 10 ^ 2 ∧
      v.hour < 10 ^ 2 ∧ v.minute < 10 ^ 2 ∧ v.second < 10 ^ 2 ∧ v.microsecond < 10 ^ 6 := by
    intro v valid
    rcases valid with ⟨⟨-, year, -, month, -, day⟩, hour, minute, second, microsecond⟩
    have length : Calendar.daysInMonth v.year v.month ≤ 31 := Calendar.daysInMonth_le v.year v.month
    omega
  rcases bounds valid with ⟨year, month, day, hour, minute, second, microsecond⟩
  rcases bounds other with ⟨year', month', day', hour', minute', second', microsecond'⟩
  unfold format Before
  rw [String.lt_iff_toList_lt, String.toList_ofList, String.toList_ofList]
  simp only [List.append_assoc, List.cons_append, cons_append_lt, digits_append_lt year year',
    digits_append_lt month month', digits_append_lt day day', digits_append_lt hour hour',
    digits_append_lt minute minute', digits_append_lt second second',
    digits_append_lt microsecond microsecond', lt_irrefl, and_false, or_false]

/-- `_format_utc` embeds the order of instants in the order of texts. -/
theorem format_lt_format {t u : UtcTime} (valid : t.Valid) (other : u.Valid) :
    t.format < u.format ↔ t.instant < u.instant := by
  rw [format_lt_iff valid other, instant_lt_iff valid other]

theorem format_le_format {t u : UtcTime} (valid : t.Valid) (other : u.Valid) :
    t.format ≤ u.format ↔ t.instant ≤ u.instant := by
  rw [← not_lt, format_lt_format other valid, not_lt]

end UtcTime

/-- A `datetime`; `utcOffset` is its `utcoffset()` in microseconds when it is aware. -/
structure DateTime where
  fields : UtcTime
  utcOffset : Option Int
  valid : fields.Valid
  bounded : ∀ offset ∈ utcOffset, -UtcTime.microsecondsPerDay < offset ∧ offset < UtcTime.microsecondsPerDay

namespace DateTime

/-- The moment itself; a naive one is taken as UTC. -/
def instant (moment : DateTime) : Int := moment.fields.instant - moment.utcOffset.getD 0

/-- `moment.astimezone(timezone.utc)`, which raises `OverflowError` off the calendar's ends. -/
def astimezone (moment : DateTime) : Option UtcTime :=
  if UtcTime.Covered moment.instant then some (UtcTime.ofInstant moment.instant.toNat) else none

theorem astimezone_spec {moment : DateTime} {t : UtcTime} (moved : moment.astimezone = some t) :
    t.Valid ∧ (t.instant : Int) = moment.instant := by
  unfold astimezone at moved
  split at moved
  · rename_i covered
    have nonnegative : (moment.instant.toNat : Int) = moment.instant := by
      have first := covered.1
      omega
    rw [← nonnegative] at covered
    have spec := UtcTime.ofInstant_spec covered
    rw [← Option.some.inj moved, spec.2]
    exact ⟨spec.1, nonnegative⟩
  · cases moved

theorem astimezone_none {moment : DateTime} :
    moment.astimezone = none ↔ ¬UtcTime.Covered moment.instant := by
  unfold astimezone
  split <;> simp_all

/-! `fromisoformat`, as `_datetimemodule.c` reads it: over the bytes of the text, which end in a zero. -/

/-- `parse_digits`: a field of `width` digits, and what follows it. -/
def parseDigits : Nat → Nat → Bytes → Option (Nat × Bytes)
  | 0, value, rest => some (value, rest)
  | _ + 1, _, [] => none
  | width + 1, value, b :: rest =>
      if Bytes.isDigit b then parseDigits width (value * 10 + (b.toNat - 48)) rest else none

def isoWeek1Monday (year : Nat) : Nat :=
  let firstDay := Calendar.ymd2ord year 1 1
  let firstWeekday := (firstDay + 6) % 7
  firstDay - firstWeekday + (if 3 < firstWeekday then 7 else 0)

/-- `iso_to_ymd`; no day of the year 0 is a date. -/
def isoToYmd (year week day : Nat) : Option (Nat × Nat × Nat) :=
  let firstWeekday := Calendar.ymd2ord year 1 1 % 7
  let weeks := if firstWeekday = 4 ∨ firstWeekday = 3 ∧ Calendar.isLeap year = true then 53 else 52
  if 1 ≤ year ∧ 1 ≤ week ∧ week ≤ weeks ∧ 1 ≤ day ∧ day ≤ 7 then
    some (Calendar.ord2ymd (isoWeek1Monday year + (week - 1) * 7 + (day - 1)))
  else none

/-- The separator before a later part of a date: there if and only if the date has one. -/
def dash (separated : Bool) (text : Bytes) : Option Bytes :=
  if separated then
    match text with
    | 45 :: rest => some rest
    | _ => none
  else some text

/-- `parse_isoformat_date`, whose date runs up to `location`; only the day of a week may be left out. -/
def parseDate (text : Bytes) (location : Nat) : Option (Nat × Nat × Nat) := do
  let (year, rest) ← parseDigits 4 0 text
  let separated := rest.head? == some 45
  let rest ← dash separated rest
  if rest.head? = some 87 then do
    let (week, rest) ← parseDigits 2 0 rest.tail
    if text.length - rest.length < location then do
      let rest ← dash separated rest
      let (day, _) ← parseDigits 1 0 rest
      isoToYmd year week day
    else isoToYmd year week 1
  else do
    let (month, rest) ← parseDigits 2 0 rest
    let rest ← dash separated rest
    let (day, _) ← parseDigits 2 0 rest
    return (year, month, day)

/-- `_find_isoformat_datetime_separator`. It is -1 for a week date that ends in a dash, which is then no date. -/
def separatorLocation (text : Bytes) : Option Nat :=
  let byte := fun i => text.getD i 0
  if text.length = 7 then some 7
  else if byte 4 = 45 then
    if byte 5 = 87 then
      if byte 8 = 45 then
        if text.length = 9 then none
        else if Bytes.isDigit (byte 10) then some 8
        else some 10
      else some 8
    else some 10
  else if byte 4 = 87 then
    let index := 7 + ((text.drop 7).takeWhile Bytes.isDigit).length
    if index < 9 then some index else if index % 2 = 0 then some 7 else some 8
  else some 8

/-- The fraction of `parse_hh_mm_ss_ff`: microseconds from six digits at most, and whether anything but
further digits is left; `next` is the byte after the text. -/
def parseFraction (next : UInt8) (text : Bytes) : Option (Nat × Bool) := do
  let (digits, rest) ← parseDigits (min 6 text.length) 0 text
  let rest := rest.dropWhile Bytes.isDigit
  return (digits * 10 ^ (6 - min 6 text.length), rest.headD next != 0)

/-- The loop of `parse_hh_mm_ss_ff` with so many fields to come: their values, the microseconds, and whether
anything is left. The byte after a field is not looked at where it is the last one, and what follows
three fields is a fraction even without a point. -/
def parseFields (next : UInt8) : Nat → Option Bool → Bytes → Option (List Nat × Nat × Bool)
  | 0, _, text => do
      let (microsecond, left) ← parseFraction next text
      return ([], microsecond, left)
  | fields + 1, separated, text => do
      let (value, rest) ← parseDigits 2 0 text
      let byte := rest.headD next
      let separated := separated.getD (byte == 58)
      if rest.length ≤ 1 then return ([value], 0, byte != 0)
      else if separated && byte == 58 then do
        let (values, microsecond, left) ← parseFields next fields (some separated) rest.tail
        return (value :: values, microsecond, left)
      else if byte == 46 || byte == 44 then do
        let (microsecond, left) ← parseFraction next rest.tail
        return ([value], microsecond, left)
      else if !separated then do
        let (values, microsecond, left) ← parseFields next fields (some separated) rest
        return (value :: values, microsecond, left)
      else none

structure Clock where
  hour : Nat
  minute : Nat
  second : Nat
  microsecond : Nat
  left : Bool

/-- `parse_hh_mm_ss_ff`: the fields, and whether anything is left behind them. -/
def parseClock (next : UInt8) (text : Bytes) : Option Clock := do
  let (values, microsecond, left) ← parseFields next 3 none text
  return ⟨values.getD 0 0, values.getD 1 0, values.getD 2 0, microsecond, left⟩

def Clock.seconds (clock : Clock) : Nat := (clock.hour * 60 + clock.minute) * 60 + clock.second

/-- The zone from its sign on; an offset of no whole second is UTC, whatever its microseconds are. -/
def parseZone (text : Bytes) : Option Int :=
  if text.head? = some 90 then if text.tail.headD 0 = 0 then some 0 else none
  else do
    let clock ← parseClock 0 text.tail
    let offset : Int := if clock.seconds = 0 then 0 else clock.seconds * 1000000 + clock.microsecond
    if clock.left then none else return if text.head? = some 45 then -offset else offset

/-- `parse_isoformat_time`; what is left of the clock is an error only where no zone follows. -/
def parseTime (text : Bytes) : Option (Clock × Option Int) := do
  let sign := fun b => b == 43 || b == 45 || b == 90
  let zone := text.dropWhile (fun b => !sign b)
  let clock ← parseClock (zone.headD 0) (text.takeWhile (fun b => !sign b))
  if zone = [] then if clock.left then none else return (clock, none)
  else do
    let offset ← parseZone zone
    return (clock, some offset)

def characterWidth (first : UInt8) : Nat :=
  if first < 128 then 1 else if first &&& 240 = 224 then 3 else if first &&& 240 = 240 then 4 else 2

/-- `datetime(...)` on checked arguments: `timezone` refuses an offset of a day or more. -/
def ofFields (fields : UtcTime) (utcOffset : Option Int) : Option DateTime :=
  if valid : fields.Valid then
    if bounded : ∀ offset ∈ utcOffset,
        -UtcTime.microsecondsPerDay < offset ∧ offset < UtcTime.microsecondsPerDay then
      some ⟨fields, utcOffset, valid, bounded⟩
    else none
  else none

def fromisoformat (text : List Char) : Option DateTime :=
  if text.length < 7 then none else do
  let bytes := Bytes.utf8 (String.ofList text)
  let location ← separatorLocation bytes
  let (year, month, day) ← parseDate bytes location
  match bytes.drop location with
  | [] => ofFields ⟨year, month, day, 0, 0, 0, 0⟩ none
  | separator :: rest => do
      let (clock, zone) ← parseTime (rest.drop (characterWidth separator - 1))
      ofFields ⟨year, month, day, clock.hour, clock.minute, clock.second, clock.microsecond⟩ zone

end DateTime

end NetworkGateway
