set_option autoImplicit false

namespace Scpi.Keyword

def isShort (c : Char) : Bool := ('A' ≤ c && c ≤ 'Z') || c == '_' || c == '*' || c == '?'

-- The first unbroken run of short-form characters, if there is one.
def shortForm? (keyword : String) : Option String :=
  match (keyword.toList.dropWhile fun c => !isShort c).takeWhile isShort with
  | [] => none
  | first :: rest => some (String.ofList (first :: rest))

end Scpi.Keyword
