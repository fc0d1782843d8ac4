import Mathlib.Data.Rat.Defs
import NetworkGateway.Library.Dict

/-! The Python objects that cross the gateway's boundaries: what `json.loads`
builds and what request payloads, stored JSON columns and vault plaintexts hold. -/

namespace NetworkGateway

open Library.Dict

/-- A `float`: finite doubles are kept as the rationals they denote. -/
inductive PyFloat where
  | finite (value : Rat)
  | infinite (negative : Bool)
  | nan
  deriving DecidableEq, Repr

namespace PyFloat

/-- `value <= now` for a clock reading. -/
def atMost (value : PyFloat) (now : Rat) : Bool :=
  match value with
  | finite q => q ≤ now
  | infinite negative => negative
  | nan => false

/-- `now < value`. -/
def after (value : PyFloat) (now : Rat) : Bool :=
  match value with
  | finite q => now < q
  | infinite negative => !negative
  | nan => false

theorem not_atMost_of_after {value : PyFloat} {now : Rat} (later : value.after now = true) :
    value.atMost now = false := by
  cases value with
  | finite q =>
      have before : now < q := by simpa [after] using later
      have notAtMost : ¬q ≤ now := Rat.not_le.mpr before
      simpa [atMost] using notAtMost
  | infinite negative => simpa [after, atMost] using later
  | nan => cases later

end PyFloat

inductive Value where
  | none
  | bool (b : Bool)
  | int (n : Int)
  | float (x : PyFloat)
  | str (s : String)
  | list (items : List Value)
  | dict (entries : List (String × Value))
  deriving Repr

abbrev Dict := List (String × Value)

namespace Value

mutual
def decEq : (a b : Value) → Decidable (a = b)
  | .none, b => match b with
    | .none => isTrue rfl
    | .bool _ | .int _ | .float _ | .str _ | .list _ | .dict _ => isFalse nofun
  | .bool x, b => match b with
    | .bool y => decidable_of_iff (x = y) (by simp)
    | .none | .int _ | .float _ | .str _ | .list _ | .dict _ => isFalse nofun
  | .int x, b => match b with
    | .int y => decidable_of_iff (x = y) (by simp)
    | .none | .bool _ | .float _ | .str _ | .list _ | .dict _ => isFalse nofun
  | .float x, b => match b with
    | .float y => decidable_of_iff (x = y) (by simp)
    | .none | .bool _ | .int _ | .str _ | .list _ | .dict _ => isFalse nofun
  | .str x, b => match b with
    | .str y => decidable_of_iff (x = y) (by simp)
    | .none | .bool _ | .int _ | .float _ | .list _ | .dict _ => isFalse nofun
  | .list xs, b => match b with
    | .list ys => match decEqItems xs ys with
      | isTrue same => isTrue (by rw [same])
      | isFalse differ => isFalse (by simpa using differ)
    | .none | .bool _ | .int _ | .float _ | .str _ | .dict _ => isFalse nofun
  | .dict xs, b => match b with
    | .dict ys => match decEqEntries xs ys with
      | isTrue same => isTrue (by rw [same])
      | isFalse differ => isFalse (by simpa using differ)
    | .none | .bool _ | .int _ | .float _ | .str _ | .list _ => isFalse nofun
def decEqItems : (a b : List Value) → Decidable (a = b)
  | [], [] => isTrue rfl
  | [], _ :: _ => isFalse nofun
  | _ :: _, [] => isFalse nofun
  | x :: xs, y :: ys =>
    match decEq x y, decEqItems xs ys with
    | isTrue head, isTrue tail => isTrue (by rw [head, tail])
    | isFalse head, _ => isFalse (by simp [head])
    | _, isFalse tail => isFalse (by simp [tail])
def decEqEntries : (a b : List (String × Value)) → Decidable (a = b)
  | [], [] => isTrue rfl
  | [], _ :: _ => isFalse nofun
  | _ :: _, [] => isFalse nofun
  | (k, x) :: xs, (l, y) :: ys =>
    match decEq x y, decEqEntries xs ys with
    | isTrue head, isTrue tail => decidable_of_iff (k = l) (by simp [head, tail])
    | isFalse head, _ => isFalse (by simp [head])
    | _, isFalse tail => isFalse (by simp [tail])
end

instance : DecidableEq Value := decEq

/-- `bool(value)`. -/
def truthy : Value → Bool
  | .none => false
  | .bool b => b
  | .int n => n != 0
  | .float x => x != .finite 0
  | .str s => s != ""
  | .list items => !items.isEmpty
  | .dict entries => !entries.isEmpty

@[simp] theorem truthy_none : truthy .none = false := rfl
@[simp] theorem truthy_str (s : String) : truthy (.str s) = (s != "") := rfl
@[simp] theorem truthy_dict (entries : Dict) : truthy (.dict entries) = !entries.isEmpty := rfl

/-- `isinstance(value, str)`. -/
def isStr : Value → Bool
  | .str _ => true
  | _ => false

def isDict : Value → Bool
  | .dict _ => true
  | _ => false

/-- `value in (texts...)`: only a string compares equal to a string. -/
def isOneOf (value : Value) (texts : List String) : Bool :=
  match value with
  | .str s => texts.contains s
  | _ => false

def strings : List Value → Option (List String)
  | [] => some []
  | .str s :: rest => (strings rest).map (s :: ·)
  | _ :: _ => Option.none

theorem strings_eq_some (items : List Value) (texts : List String) :
    strings items = some texts ↔ items = texts.map .str := by
  induction items generalizing texts with
  | nil => cases texts <;> simp [strings]
  | cons head tail ih =>
      cases head with
      | str s =>
          cases texts with
          | nil => simp [strings]
          | cons text rest => simp [strings, ih, and_comm]
      | none | bool | int | float | list | dict => cases texts <;> simp [strings]

def ofOption : Option String → Value
  | Option.none => .none
  | some s => .str s

@[simp] theorem truthy_ofOption (s : Option String) :
    truthy (ofOption s) = (s.getD "" != "") := by
  cases s <;> rfl

end Value

namespace Dict

/-- `entries.get(key)`. -/
def get (entries : Dict) (key : String) : Value := (entries.lookup key).getD .none

/-- `entries.get(key, default)`. -/
def getOr (entries : Dict) (key : String) (default : Value) : Value :=
  (entries.lookup key).getD default

/-- `key in entries`. -/
def has (entries : Dict) (key : String) : Bool := (entries.lookup key).isSome

@[simp] theorem get_eq (entries : Dict) (key : String) :
    get entries key = (entries.lookup key).getD .none := rfl

theorem has_eq (entries : Dict) (key : String) :
    has entries key = (entries.lookup key).isSome := rfl

end Dict

end NetworkGateway
