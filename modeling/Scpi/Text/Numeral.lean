import Scpi.Text.Blank
import Scpi.Text.DecimalDigit

set_option autoImplicit false

namespace Scpi.Text.Numeral

inductive Fault where
  | malformed
  | tooLong (digits : Nat)
deriving DecidableEq, Repr

def maxDigits : Nat := 4300

-- The separators U+001C to U+001F are blank elsewhere but not beside a numeral.
def isMargin (c : Char) : Bool := isBlank c && !(0x1C ≤ c.toNat && c.toNat ≤ 0x1F)

def isNumeralChar (c : Char) : Bool := c == '_' || (digit? c).isSome

-- The digits of a run in which each underscore has a digit on either side. The character before the run
-- is a digit if `afterDigit`.
def digitsFrom? (afterDigit : Bool) : List Char → Option (List Nat)
  | [] => if afterDigit then some [] else none
  | c :: rest =>
      if c = '_' then (if afterDigit then digitsFrom? false rest else none)
      else
        match digit? c with
        | some value => (digitsFrom? true rest).map (value :: ·)
        | none => none

def value (digits : List Nat) : Nat := digits.foldl (fun total digit => 10 * total + digit) 0

def magnitude (characters : List Char) : Except Fault Nat :=
  match digitsFrom? false (characters.takeWhile isNumeralChar) with
  | none => .error .malformed
  | some digits =>
      if maxDigits < digits.length then .error (.tooLong digits.length)
      else if (characters.dropWhile isNumeralChar).all isMargin then .ok (value digits)
      else .error .malformed

def read (text : String) : Except Fault Int :=
  match text.toList.dropWhile isMargin with
  | '-' :: rest => (magnitude rest).map fun size => -(size : Int)
  | '+' :: rest => (magnitude rest).map fun size => (size : Int)
  | characters => (magnitude characters).map fun size => (size : Int)

end Scpi.Text.Numeral
