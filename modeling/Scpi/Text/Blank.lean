set_option autoImplicit false

namespace Scpi.Text

-- White space of every script, with the separators U+001C to U+001F and the next-line control U+0085.
def isBlank (c : Char) : Bool :=
  let n := c.toNat
  (0x09 ≤ n && n ≤ 0x0D) || (0x1C ≤ n && n ≤ 0x20) || n == 0x85 || n == 0xA0 || n == 0x1680 ||
    (0x2000 ≤ n && n ≤ 0x200A) || n == 0x2028 || n == 0x2029 || n == 0x202F || n == 0x205F || n == 0x3000

def stripped (outer : Char → Bool) (characters : List Char) : List Char :=
  ((characters.dropWhile outer).reverse.dropWhile outer).reverse

def trim (text : String) : String := String.ofList (stripped isBlank text.toList)

end Scpi.Text
