import Scpi.CommandSet
import Scpi.Token

set_option autoImplicit false

namespace Scpi

structure Call (η : Type) where
  handler : η
  arguments : List String
deriving DecidableEq, Repr

namespace Chain

structure Cursor where
  header : Header
  arguments : List String
  started : Bool
deriving DecidableEq, Repr

def Cursor.initial : Cursor := ⟨.root, [], false⟩

def Cursor.next (cursor : Cursor) : Cursor := ⟨cursor.header.parent, [], false⟩

def Cursor.keyword (word : String) (cursor : Cursor) : Cursor :=
  { cursor with header := cursor.header.extend word, started := true }

def Cursor.argument (text : String) (cursor : Cursor) : Cursor :=
  { cursor with arguments := cursor.arguments ++ [text] }

-- A colon between two keywords only separates them.
def Cursor.colon (cursor : Cursor) : Cursor :=
  if cursor.started then cursor else { cursor with header := .root }

variable {η : Type}

-- Resolves each command to the handler of its header. The error is the first header that has none, and
-- tokens after the last semicolon are no command.
def resolveFrom (commands : CommandSet η) (cursor : Cursor) : List Token → Except Header (List (Call η))
  | [] => .ok []
  | token :: rest =>
      match token.kind with
      | .command => resolveFrom commands (cursor.keyword (commands.longForm token.text)) rest
      | .argument | .quotedString => resolveFrom commands (cursor.argument token.text) rest
      | .colon => resolveFrom commands cursor.colon rest
      | .semicolon =>
          match commands.handler? cursor.header with
          | none => .error cursor.header
          | some handler => (resolveFrom commands cursor.next rest).map (⟨handler, cursor.arguments⟩ :: ·)
      | .whitespace | .newline => resolveFrom commands cursor rest

def resolve (commands : CommandSet η) (tokens : List Token) : Except Header (List (Call η)) :=
  resolveFrom commands .initial tokens

end Chain

end Scpi
