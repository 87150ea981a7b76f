import Scpi.Bench

set_option autoImplicit false

namespace Scpi

structure Uncached (η : Type) (n : Nat) (σ : Type) where
  commands : Vector (CommandSet η) n
  memory : σ
  performed : List (Call η)

abbrev Program (η : Type) (n : Nat) (σ α : Type) := ExceptT Failure (StateT (Uncached η n σ) Option) α

namespace Uncached

variable {η σ : Type} {n : Nat}

abbrev Acceptor (η : Type) (n : Nat) (σ : Type) := Fin n → String → Program η n σ Answer

def fresh (memory : σ) : Uncached η n σ := ⟨Vector.replicate n CommandSet.empty, memory, []⟩

def commandSet (bench : Uncached η n σ) (i : Fin n) : CommandSet η := bench.commands.get i

def define (i : Fin n) (text : String) (handler : η) (bench : Uncached η n σ) : Uncached η n σ :=
  let commands := (bench.commandSet i).define (Header.ofText text) handler
  { bench with commands := bench.commands.set i commands i.isLt }

-- There is nothing that a limit could bound, but a setting that is no limit is still refused.
def act (bench : Uncached η n σ) : Action η n → Except Setting.Fault Unit × Uncached η n σ
  | .define i text handler => (.ok (), bench.define i text handler)
  | .setLimit _ setting | .setPolicyLimit _ setting => (setting.toInt.map fun _ => (), bench)
  | .setWithArguments _ _ => (.ok (), bench)

def run (accept : Acceptor η n σ) : Procedure η n σ → Program η n σ (Option String)
  | .reply result => pure result
  | .fail failure => throw failure
  | .recall next => do run accept (next (← get).memory)
  | .store memory next => do
      modify fun bench => { bench with memory }
      run accept next
  | .act action next => do
      let outcome ← modifyGet fun bench => bench.act action
      run accept (next outcome)
  | .accept i query next => do
      let answer ← ExceptT.lift (accept i query).run
      run accept (next answer)

def perform (accept : Acceptor η n σ) (behaviour : Behaviour η n σ) (call : Call η) :
    Program η n σ (Option String) := do
  modify fun bench => { bench with performed := bench.performed ++ [call] }
  run accept (behaviour call.handler call.arguments)

def accept (behaviour : Behaviour η n σ) : Nat → Acceptor η n σ
  | 0 => fun _ _ => ExceptT.lift (StateT.lift none)
  | depth + 1 => fun i query => do
      let bench ← get
      match Chain.resolve (bench.commandSet i) (Query.tokens query) with
      | .error header => throw (.unknownHeader header)
      | .ok calls => calls.mapM (perform (accept behaviour depth) behaviour)

theorem bind_from {α β : Type} (program : Program η n σ α) (next : α → Program η n σ β)
    (bench : Uncached η n σ) :
    (program >>= next) bench =
      match program bench with
      | none => none
      | some (.error failure, later) => some (.error failure, later)
      | some (.ok value, later) => next value later := by
  change (program bench).bind _ = _
  rcases program bench with _ | ⟨failure | value, later⟩ <;> rfl

theorem lift_bind_from {α β : Type} (program : StateT (Uncached η n σ) Option α)
    (next : α → Program η n σ β) (bench : Uncached η n σ) :
    ((ExceptT.lift program : Program η n σ α) >>= next) bench =
      match program bench with
      | none => none
      | some (value, later) => next value later := by
  have lifted : (ExceptT.lift program : Program η n σ α) bench =
      (program bench).map fun outcome => (.ok outcome.1, outcome.2) := by
    change (program bench).bind _ = _
    rcases program bench with _ | ⟨value, later⟩ <;> rfl
  rw [bind_from, lifted]
  rcases program bench with _ | ⟨value, later⟩ <;> rfl

theorem accept_from (behaviour : Behaviour η n σ) (depth : Nat) (i : Fin n) (query : String)
    (bench : Uncached η n σ) :
    accept behaviour (depth + 1) i query bench =
      match Chain.resolve (bench.commandSet i) (Query.tokens query) with
      | .error header => some (.error (.unknownHeader header), bench)
      | .ok calls => calls.mapM (perform (accept behaviour depth) behaviour) bench := by
  change (match Chain.resolve (bench.commandSet i) (Query.tokens query) with
    | .error header => throw (.unknownHeader header)
    | .ok calls => calls.mapM (perform (accept behaviour depth) behaviour) : Program η n σ Answer) bench = _
  cases Chain.resolve (bench.commandSet i) (Query.tokens query) <;> rfl

end Uncached

inductive Operation (η : Type) (n : Nat) where
  | act (action : Action η n)
  | accept (i : Fin n) (query : String)

inductive Outcome (η : Type) where
  | changed (result : Except Setting.Fault Unit)
  | answered (answer : Except Failure Answer) (calls : List (Call η))

variable {η σ : Type} {n m : Nat}

def Uncached.operate (behaviour : Behaviour η n σ) (depth : Nat) :
    Operation η n → StateT (Uncached η n σ) Option (Outcome η)
  | .act action => modifyGet fun bench => (.changed (bench.act action).1, (bench.act action).2)
  | .accept i query => do
      modify fun bench => { bench with performed := [] }
      let answer ← (Uncached.accept behaviour depth i query).run
      return .answered answer (← get).performed

def Bench.operate (behaviour : Behaviour η n σ) (depth : Nat) :
    Operation η n → StateT (Bench η n m σ) Option (Outcome η)
  | .act action => modifyGet fun bench => (.changed (bench.act action).1, (bench.act action).2)
  | .accept i query => do
      modify withoutRecord
      let answer ← acceptWithin behaviour depth i query
      return .answered answer (← get).performed

end Scpi
