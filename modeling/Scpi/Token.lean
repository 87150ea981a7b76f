set_option autoImplicit false

namespace Scpi

namespace Token

inductive Kind where
  | colon
  | semicolon
  | quotedString
  | command
  | argument
  | whitespace
  | newline
deriving DecidableEq, Repr

def Kind.isWord : Kind → Bool
  | .command | .argument | .quotedString => true
  | _ => false

end Token

structure Token where
  kind : Token.Kind
  text : String
deriving DecidableEq, Repr

namespace Token

def colon : Token := ⟨.colon, ""⟩

def semicolon : Token := ⟨.semicolon, ""⟩

-- Whether a token is of the argument kind. A quoted string that keeps its own kind does not count.
def containsArgument (tokens : List Token) : Bool := tokens.any fun token => token.kind = .argument

end Token

end Scpi
