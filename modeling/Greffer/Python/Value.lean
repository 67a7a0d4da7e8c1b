import Mathlib.Data.Rat.Init

/-! # Python values and exceptions

The values a migration or a tool hands back to the greffer, as far as its code
looks at them: truth value, `int(·)`, iteration, and whether `json.dump` accepts
them.  A float is a rational, an infinity or a NaN — `int` treats the three
differently.
-/
namespace Greffer

/-- The exceptions the greffer's code tells apart, each with its text. -/
inductive Exn where
  | osError (text : String)
  | calledProcessError (text : String)
  | timeoutExpired (text : String)
  | typeError (text : String)
  | valueError (text : String)
  | overflowError (text : String)
  | attributeError (text : String)
  | requestException (text : String)
  /-- Any other subclass of `Exception`. -/
  | exception (text : String)
  deriving DecidableEq

/-- `str(e)`. -/
def Exn.text : Exn → String
  | .osError t | .calledProcessError t | .timeoutExpired t | .typeError t | .valueError t
  | .overflowError t | .attributeError t | .requestException t | .exception t => t

/-- A Python value. -/
inductive PyValue where
  | none
  | bool (b : Bool)
  | int (n : Int)
  | float (q : Rat)
  | inf
  | nan
  | str (s : String)
  | list (items : List PyValue)
  | dict (entries : List (String × PyValue))
  /-- Any other object: its truth value, and what iterating it gives if it can
  be iterated. -/
  | other (truthy : Bool) (items : Option (List PyValue))

/-- A dict with text keys, in insertion order. -/
abbrev PyDict := List (String × PyValue)

namespace PyDict

/-- `d.get(key)`. -/
def get? (d : PyDict) (key : String) : Option PyValue :=
  (d.find? fun e => e.1 == key).map Prod.snd

/-- `d.pop(key, default)` leaves this behind. -/
def without (d : PyDict) (key : String) : PyDict := d.filter fun e => e.1 != key

/-- `{**d, key: value}`. -/
def set (d : PyDict) (key : String) (value : PyValue) : PyDict :=
  d.without key ++ [(key, value)]

end PyDict

namespace PyValue

/-- `bool(v)`. -/
def truthy : PyValue → Bool
  | none => false
  | bool b => b
  | int n => n != 0
  | float q => q != 0
  | inf | nan => true
  | str s => s != ""
  | list items => !items.isEmpty
  | dict entries => !entries.isEmpty
  | other t _ => t

/-- The digits of a decimal literal, underscores allowed between two of them. -/
def decimalDigits : List Char → Option (List Char)
  | [] => Option.none
  | [c] => if c.isDigit then some [c] else Option.none
  | c :: '_' :: rest => if c.isDigit then (decimalDigits rest).map (c :: ·) else Option.none
  | c :: rest => if c.isDigit then (decimalDigits rest).map (c :: ·) else Option.none

/-- The text without the blanks at its two ends. -/
def strip (cs : List Char) : List Char :=
  ((cs.dropWhile Char.isWhitespace).reverse.dropWhile Char.isWhitespace).reverse

/-- `int(s)` for an ASCII text: blanks at the ends, one sign, decimal digits. -/
def intOfStr (s : String) : Option Int :=
  let value (cs : List Char) : Option Nat :=
    (decimalDigits cs).map fun ds => ds.foldl (fun n c => 10 * n + (c.toNat - '0'.toNat)) 0
  match strip s.toList with
  | '-' :: cs => (value cs).map fun n => -(n : Int)
  | '+' :: cs => (value cs).map Int.ofNat
  | cs => (value cs).map Int.ofNat

/-- `int(v)`. -/
def toInt : PyValue → Except Exn Int
  | bool b => .ok (if b then 1 else 0)
  | int n => .ok n
  | float q => .ok (q.num.tdiv q.den)
  | inf => .error (.overflowError "cannot convert float infinity to integer")
  | nan => .error (.valueError "cannot convert float NaN to integer")
  | str s => match intOfStr s with
    | some n => .ok n
    | Option.none => .error (.valueError "invalid literal for int() with base 10")
  | _ => .error (.typeError "int() argument must be a string or a real number")

/-- `list(v)`. -/
def toList : PyValue → Except Exn (List PyValue)
  | str s => .ok (s.toList.map fun c => str (String.singleton c))
  | list items => .ok items
  | dict entries => .ok (entries.map fun e => str e.1)
  | other _ (some items) => .ok items
  | _ => .error (.typeError "object is not iterable")

mutual
/-- Whether `json.dump` accepts the value. -/
def serialisable : PyValue → Bool
  | none | bool _ | int _ | float _ | inf | nan | str _ => true
  | list items => serialisableList items
  | dict entries => serialisableDict entries
  | other _ _ => false

/-- `serialisable`, of every element. -/
def serialisableList : List PyValue → Bool
  | [] => true
  | v :: vs => v.serialisable && serialisableList vs

/-- `serialisable`, of every value of a dict. -/
def serialisableDict : List (String × PyValue) → Bool
  | [] => true
  | (_, v) :: es => v.serialisable && serialisableDict es
end

end PyValue

end Greffer
