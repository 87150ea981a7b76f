import Scpi.Token

set_option autoImplicit false

namespace Scpi.Query

inductive Piece where
  | plain (body : List Char)
  | quoted (body : List Char)
deriving DecidableEq, Repr

-- Pairs quotation marks from left to right, where `body` is the piece so far, latest character first.
-- Text after a mark without a partner is plain.
def piecesFrom (inside : Bool) (body : List Char) : List Char → List Piece
  | [] => [.plain body.reverse]
  | c :: rest =>
      if c = '"' then
        (if inside then .quoted body.reverse else .plain body.reverse) :: piecesFrom (!inside) [] rest
      else piecesFrom inside (c :: body) rest

def pieces (characters : List Char) : List Piece := piecesFrom false [] characters

def isLetter (c : Char) : Bool := ('A' ≤ c && c ≤ 'Z') || ('a' ≤ c && c ≤ 'z')

def isCommandChar (c : Char) : Bool := isLetter c || c == '*' || c == '_' || c == '?'

def isArgumentChar (c : Char) : Bool := isLetter c || ('0' ≤ c && c ≤ '9') || c == '.'

-- An unfinished word, latest character first.
inductive Run where
  | command (word : List Char)
  | argument (word : List Char)
deriving DecidableEq, Repr

namespace Run

-- A letter could begin either kind of word, and begins a command.
def start? (c : Char) : Option Run :=
  if isCommandChar c then some (.command [c])
  else if isArgumentChar c then some (.argument [c])
  else none

def extend? (c : Char) : Run → Option Run
  | .command word => if isCommandChar c then some (.command (c :: word)) else none
  | .argument word => if isArgumentChar c then some (.argument (c :: word)) else none

def token : Run → Token
  | .command word => ⟨.command, String.ofList word.reverse⟩
  | .argument word => ⟨.argument, String.ofList word.reverse⟩

end Run

def punctuation (c : Char) : List Token :=
  if c = ':' then [.colon] else if c = ';' then [.semicolon] else []

-- Words and punctuation of a plain text. A word is as long as its alphabet allows, and a character of
-- no alphabet only ends the word before it.
def plainTokens (run : Option Run) : List Char → List Token
  | [] => (run.map Run.token).toList
  | c :: rest =>
      match run.bind (Run.extend? c) with
      | some longer => plainTokens (some longer) rest
      | none => (run.map Run.token).toList ++ punctuation c ++ plainTokens (Run.start? c) rest

def Piece.tokens : Piece → List Token
  | .plain body => plainTokens none body
  | .quoted body => [⟨.quotedString, String.ofList body⟩]

def rawTokens (characters : List Char) : List Token := (pieces characters).flatMap Piece.tokens

def settle (previous : Option Token.Kind) : List Token → List Token
  | [] => if previous = some .semicolon then [] else [.semicolon]
  | token :: rest =>
      if token.kind.isWord then
        let kind := if previous.any Token.Kind.isWord then .argument else token.kind
        ⟨kind, token.text⟩ :: settle (some kind) rest
      else if previous = some token.kind then settle previous rest
      else token :: settle (some token.kind) rest

def tokens (query : String) : List Token := settle none (rawTokens query.toList)

end Scpi.Query
