import Scpi.Header
import Scpi.Setting

set_option autoImplicit false

namespace Scpi

inductive Failure where
  | unknownHeader (header : Header)
  | setting (fault : Setting.Fault)
  | reported (message : String)
deriving DecidableEq, Repr

def Failure.message : Failure → String
  | .unknownHeader header => header.text
  | .setting fault => fault.message
  | .reported message => message

abbrev Answer := List (Option String)

inductive Action (η : Type) (n : Nat) where
  | define (i : Fin n) (text : String) (handler : η)
  | setLimit (i : Fin n) (setting : Setting)
  | setPolicyLimit (i : Fin n) (setting : Setting)
  | setWithArguments (i : Fin n) (setting : Setting)

-- A program of a handler. Its steps after a change or a query depend on what came of it.
inductive Procedure (η : Type) (n : Nat) (σ : Type) where
  | reply (result : Option String)
  | fail (failure : Failure)
  | recall (next : σ → Procedure η n σ)
  | store (memory : σ) (next : Procedure η n σ)
  | act (action : Action η n) (next : Except Setting.Fault Unit → Procedure η n σ)
  | accept (i : Fin n) (query : String) (next : Except Failure Answer → Procedure η n σ)

namespace Procedure

variable {η σ τ : Type} {n : Nat}

def ofStep (part : σ → τ) (replace : τ → σ → σ) (step : τ → Option String × τ) : Procedure η n σ :=
  .recall fun memory =>
    let (result, state) := step (part memory)
    .store (replace state memory) (.reply result)

end Procedure

end Scpi
