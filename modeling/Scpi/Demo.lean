import Scpi.Procedure
import Scpi.Text.Numeral

set_option autoImplicit false

namespace Scpi.Demo

inductive Command where
  | identify
  | reset
  | nextError
  | assign
  | read
deriving DecidableEq, Repr

def definitions : List (String × Command) :=
  [("*IDN?", .identify), ("*RST", .reset), ("SYSTem:ERRor?", .nextError), ("VAR:X", .assign),
    ("VAR:X?", .read)]

inductive Error where
  | dataType
deriving DecidableEq, Repr

def Error.text : Error → String
  | .dataType => "-104,\"Data type error\""

def noError : String := "0,\"No error\""

def identity : String := "scpi-parser,Demo Instrument,0,1.0"

structure State where
  x : Int
  errors : List Error
deriving DecidableEq, Repr

def State.initial : State := ⟨0, []⟩

instance : Inhabited State := ⟨State.initial⟩

-- Only the first argument of an assignment counts, and an assignment without one changes nothing.
def perform : Command → List String → State → Option String × State
  | .identify, _, state => (some identity, state)
  | .reset, _, _ => (none, State.initial)
  | .nextError, _, state =>
      match state.errors with
      | [] => (some noError, state)
      | error :: rest => (some error.text, { state with errors := rest })
  | .assign, [], state => (none, state)
  | .assign, text :: _, state =>
      match Text.Numeral.read text with
      | .ok x => (none, { state with x })
      | .error _ => (none, { state with errors := state.errors ++ [.dataType] })
  | .read, _, state => (some (toString state.x), state)

def behaviour {η σ : Type} {n : Nat} (part : σ → State) (replace : State → σ → σ) (command : Command)
    (arguments : List String) : Procedure η n σ :=
  .ofStep part replace (perform command arguments)

end Scpi.Demo
