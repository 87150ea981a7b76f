import Scpi.Header
import Scpi.Keyword
import Scpi.Table

set_option autoImplicit false

namespace Scpi

structure CommandSet (η : Type) where
  handlers : Table Header η
  longForms : Table String String
deriving DecidableEq, Repr

namespace CommandSet

variable {η : Type}

def empty : CommandSet η := ⟨Table.empty, Table.empty⟩

instance : Inhabited (CommandSet η) := ⟨empty⟩

def abbreviate (longForms : Table String String) (keyword : String) : Table String String :=
  match Keyword.shortForm? keyword with
  | some short => longForms.insert short keyword
  | none => longForms

def define (header : Header) (handler : η) (commands : CommandSet η) : CommandSet η where
  handlers := commands.handlers.insert header handler
  longForms := header.keywords.foldl abbreviate commands.longForms

def handler? (commands : CommandSet η) (header : Header) : Option η := commands.handlers.find? header

def longForm (commands : CommandSet η) (word : String) : String := (commands.longForms.find? word).getD word

def size (commands : CommandSet η) : Nat := commands.handlers.size

theorem handler_define (header other : Header) (handler : η) (commands : CommandSet η) :
    (commands.define header handler).handler? other =
      if header = other then some handler else commands.handler? other :=
  Table.find_insert commands.handlers header other handler

end CommandSet

end Scpi
