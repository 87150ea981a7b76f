import Scpi.Text.Visible

set_option autoImplicit false

namespace Scpi.Text

namespace Quoted

def hex (width number : Nat) : List Char :=
  let digits := Nat.toDigits 16 number
  List.replicate (width - digits.length) '0' ++ digits

def codeEscape (number : Nat) : List Char :=
  if number < 0x100 then '\\' :: 'x' :: hex 2 number
  else if number < 0x10000 then '\\' :: 'u' :: hex 4 number
  else '\\' :: 'U' :: hex 8 number

def escape (mark c : Char) : List Char :=
  if c = mark ∨ c = '\\' then ['\\', c]
  else if c = '\n' then ['\\', 'n']
  else if c = '\r' then ['\\', 'r']
  else if c = '\t' then ['\\', 't']
  else if isVisible c then [c]
  else codeEscape c.toNat

-- Single marks, unless the text has a single mark and no double one.
def markFor (characters : List Char) : Char :=
  if '\'' ∈ characters ∧ '"' ∉ characters then '"' else '\''

def encode (characters : List Char) : List Char :=
  let mark := markFor characters
  mark :: characters.flatMap (escape mark) ++ [mark]

end Quoted

def quoted (text : String) : String := String.ofList (Quoted.encode text.toList)

end Scpi.Text
