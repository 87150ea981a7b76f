set_option autoImplicit false

namespace Scpi.Text

-- Reads lines, where `line` is the current one, latest character first. A line feed and a carriage
-- return each end a line, so the pair of them has an empty line in between.
def linesFrom (line : List Char) : List Char → List String
  | [] => [String.ofList line.reverse]
  | c :: rest =>
      if c = '\n' ∨ c = '\r' then String.ofList line.reverse :: linesFrom [] rest
      else linesFrom (c :: line) rest

def lines (text : String) : List String := linesFrom [] text.toList

end Scpi.Text
