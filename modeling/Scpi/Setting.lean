import Scpi.Text.Numeral
import Scpi.Text.Quoted

set_option autoImplicit false

namespace Scpi

inductive Setting where
  | absent
  | flag (on : Bool)
  | whole (value : Int)
  -- A number that is written with a fraction, be the fraction zero or not.
  | fraction (value : Rat)
  -- A number beyond every finite one, of either sign.
  | infinite
  | undefined
  | text (value : String)
  | list (size : Nat)
  | record (size : Nat)
deriving DecidableEq, Repr

namespace Setting

inductive Kind where
  | absent
  | list
  | record
deriving DecidableEq, Repr

def Kind.name : Kind → String
  | .absent => "NoneType"
  | .list => "list"
  | .record => "dict"

inductive Fault where
  | kind (given : Kind)
  | malformed (numeral : String)
  | tooLong (digits : Nat)
  | infinite
  | undefined
deriving DecidableEq, Repr

def Fault.ofNumeral (numeral : String) : Text.Numeral.Fault → Fault
  | .malformed => .malformed numeral
  | .tooLong digits => .tooLong digits

-- A message shows no more of a numeral than this many characters of its quoted form.
def shownLength : Nat := 200

def shown (numeral : String) : String :=
  String.ofList ((Text.quoted numeral).toList.take shownLength)

def Fault.message : Fault → String
  | .kind given =>
      "int() argument must be a string, a bytes-like object or a real number, not " ++
        Text.quoted given.name
  | .malformed numeral => "invalid literal for int() with base 10: " ++ shown numeral
  | .tooLong digits =>
      "Exceeds the limit (" ++ toString Text.Numeral.maxDigits ++
        " digits) for integer string conversion: value has " ++ toString digits ++
        " digits; use sys.set_int_max_str_digits() to increase the limit"
  | .infinite => "cannot convert float infinity to integer"
  | .undefined => "cannot convert float NaN to integer"

-- A fraction loses its digits after the point, and a switch counts as 1 or 0.
def toInt : Setting → Except Fault Int
  | .absent => .error (.kind .absent)
  | .flag on => .ok (if on then 1 else 0)
  | .whole value => .ok value
  | .fraction value => .ok (value.num.tdiv value.den)
  | .infinite => .error .infinite
  | .undefined => .error .undefined
  | .text value => (Text.Numeral.read value).mapError (Fault.ofNumeral value)
  | .list _ => .error (.kind .list)
  | .record _ => .error (.kind .record)

def toLimit (setting : Setting) : Except Fault Nat := setting.toInt.map Int.toNat

def toSwitch : Setting → Bool
  | .absent => false
  | .flag on => on
  | .whole value => value ≠ 0
  | .fraction value => value ≠ 0
  | .infinite => true
  | .undefined => true
  | .text value => value ≠ ""
  | .list size => size ≠ 0
  | .record size => size ≠ 0

end Setting

end Scpi
