import Scpi.Bench
import Scpi.Demo
import Scpi.Text.Lines

set_option autoImplicit false

namespace Scpi.Console

variable {η σ : Type} {n m : Nat}

def answerLine? (answer : Answer) : Option String :=
  match answer.filterMap id with
  | [] => none
  | results => some (";".intercalate results ++ "\n")

def errorLine (header : Header) : String := "ERR \"" ++ header.text ++ "\"\n"

def respond (behaviour : Behaviour η n σ) (depth : Nat) (i : Fin n) (line : String)
    (bench : Bench η n m σ) : Option (Except Failure (Option String) × Bench η n m σ) :=
  let query := Text.trim line
  if query = "" then some (.ok none, bench)
  else
    match Bench.acceptWithin behaviour depth i query bench with
    | none => none
    | some (.error (.unknownHeader header), bench) =>
        some (.ok (some (errorLine header)), bench.note [.rejected query header])
    | some (.error failure, bench) => some (.error failure, bench)
    | some (.ok answer, bench) => some (.ok (answerLine? answer), bench)

-- What was written, and the failure of a handler that ended the service before its last line.
structure Served (η : Type) (n m : Nat) (σ : Type) where
  written : List String
  failure : Option Failure
  bench : Bench η n m σ

def serve (behaviour : Behaviour η n σ) (depth : Nat) (i : Fin n) :
    List String → Bench η n m σ → Option (Served η n m σ)
  | [], bench => some ⟨[], none, bench⟩
  | line :: rest, bench =>
      match respond behaviour depth i line bench with
      | none => none
      | some (.error failure, bench) => some ⟨[], some failure, bench⟩
      | some (.ok response, bench) =>
          (serve behaviour depth i rest bench).map fun served =>
            { served with written := response.toList ++ served.written }

abbrev DemoBench := Bench Demo.Command 1 1 Demo.State

def demoBehaviour : Behaviour Demo.Command 1 Demo.State := Demo.behaviour id fun state _ => state

def demoBench : DemoBench :=
  Demo.definitions.foldl (fun bench definition => bench.define 0 definition.1 definition.2)
    (Bench.fresh #v[Policy.standard] #v[0] Demo.State.initial)

-- The handlers of the demo instrument make no queries of their own.
def demoDepth : Nat := 1

def serveDemo (lines : List String) (bench : DemoBench) : Option (Served Demo.Command 1 1 Demo.State) :=
  serve demoBehaviour demoDepth 0 lines bench

end Scpi.Console
