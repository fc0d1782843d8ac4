import Mathlib.Data.List.Basic

/-! UTC timestamps as `_format_utc` prints them. -/

namespace NetworkGateway

/-- The fields of an aware `datetime` in UTC. -/
structure UtcTime where
  year : Nat
  month : Nat
  day : Nat
  hour : Nat
  minute : Nat
  second : Nat
  microsecond : Nat
  deriving DecidableEq, Repr

namespace UtcTime

/-- `'%0{width}d' % n` for `n < 10 ^ width`. -/
def digits : Nat → Nat → List Char
  | 0, _ => []
  | width + 1, n => digits width (n / 10) ++ [Char.ofNat (48 + n % 10)]

/-- `strftime("%Y-%m-%dT%H:%M:%S.%fZ")`. -/
def format (t : UtcTime) : String :=
  String.ofList (digits 4 t.year ++ '-' :: digits 2 t.month ++ '-' :: digits 2 t.day ++
    'T' :: digits 2 t.hour ++ ':' :: digits 2 t.minute ++ ':' :: digits 2 t.second ++
    '.' :: digits 6 t.microsecond ++ ['Z'])

example : format ⟨2026, 1, 9, 7, 5, 0, 42⟩ = "2026-01-09T07:05:00.000042Z" := by decide

end UtcTime

end NetworkGateway
