import Scpi.Chain
import Scpi.Journal
import Scpi.Pool
import Scpi.Procedure
import Scpi.Query

set_option autoImplicit false

namespace Scpi

-- `n` instruments whose caches follow `m` policies. Handlers are named by `η` and share a memory `σ`.
-- The calls carried out and the notices given are kept in order.
structure Bench (η : Type) (n m : Nat) (σ : Type) where
  commands : Vector (CommandSet η) n
  pool : Pool (List (Call η)) n m
  memory : σ
  performed : List (Call η)
  journal : List Notice

abbrev Behaviour (η : Type) (n : Nat) (σ : Type) := η → List String → Procedure η n σ

namespace Bench

variable {η σ : Type} {n m : Nat}

def fresh (policies : Vector Policy m) (policyOf : Vector (Fin m) n) (memory : σ) : Bench η n m σ where
  commands := Vector.replicate n CommandSet.empty
  pool := Pool.fresh policies policyOf
  memory := memory
  performed := []
  journal := []

def commandSet (bench : Bench η n m σ) (i : Fin n) : CommandSet η := bench.commands.get i

def setCommandSet (i : Fin n) (commands : CommandSet η) (bench : Bench η n m σ) : Bench η n m σ :=
  { bench with commands := bench.commands.set i commands i.isLt }

def note (notices : List Notice) (bench : Bench η n m σ) : Bench η n m σ :=
  { bench with journal := bench.journal ++ notices }

def withoutRecord (bench : Bench η n m σ) : Bench η n m σ := { bench with performed := [], journal := [] }

-- Defines a command and leaves the cache as it is: queries in it keep the handlers they have.
def defineKeepingCache (i : Fin n) (text : String) (handler : η) (bench : Bench η n m σ) : Bench η n m σ :=
  let header := Header.ofText text
  note [.defined header] (bench.setCommandSet i ((bench.commandSet i).define header handler))

def clearCache (i : Fin n) (bench : Bench η n m σ) : Bench η n m σ :=
  note [.cleared] { bench with pool := bench.pool.clear i }

-- A new command can change what cached queries mean, so the cache is cleared after it.
def define (i : Fin n) (text : String) (handler : η) (bench : Bench η n m σ) : Bench η n m σ :=
  (bench.defineKeepingCache i text handler).clearCache i

def setLimit (i : Fin n) (setting : Setting) (bench : Bench η n m σ) :
    Except Setting.Fault Unit × Bench η n m σ :=
  match bench.pool.setLimit i setting with
  | .error fault => (.error fault, bench)
  | .ok (victims, pool) => (.ok (), note (victims.map .evicted) { bench with pool })

def setPolicyLimit (i : Fin n) (setting : Setting) (bench : Bench η n m σ) :
    Except Setting.Fault Unit × Bench η n m σ :=
  match bench.pool.setPolicyLimit i setting with
  | .error fault => (.error fault, bench)
  | .ok pool => (.ok (), { bench with pool })

def act (bench : Bench η n m σ) : Action η n → Except Setting.Fault Unit × Bench η n m σ
  | .define i text handler => (.ok (), bench.define i text handler)
  | .setLimit i setting => bench.setLimit i setting
  | .setPolicyLimit i setting => bench.setPolicyLimit i setting
  | .setWithArguments i setting => (.ok (), { bench with pool := bench.pool.setWithArguments i setting })

def resolve (i : Fin n) (query : String) (bench : Bench η n m σ) :
    Except Header (List (Call η)) × Bench η n m σ :=
  match bench.pool.lookup i query with
  | (some calls, pool) => (.ok calls, note [.hit query] { bench with pool })
  | (none, pool) =>
      let made := (pool.cache i).generation
      let tokens := Query.tokens query
      match Chain.resolve (bench.commandSet i) tokens with
      | .error header => (.error header, note [.unknown header] { bench with pool })
      | .ok calls =>
          let inserted := pool.insert i query calls (Token.containsArgument tokens) (some made)
          (.ok calls, note (Notice.ofInsertion query inserted.1) { bench with pool := inserted.2 })

-- A way to answer queries. There is no result where an answer would not come to an end.
abbrev Acceptor (η : Type) (n m : Nat) (σ : Type) :=
  Fin n → String → Bench η n m σ → Option (Except Failure Answer × Bench η n m σ)

def run (accept : Acceptor η n m σ) :
    Procedure η n σ → Bench η n m σ → Option (Except Failure (Option String) × Bench η n m σ)
  | .reply result, bench => some (.ok result, bench)
  | .fail failure, bench => some (.error failure, bench)
  | .recall next, bench => run accept (next bench.memory) bench
  | .store memory next, bench => run accept next { bench with memory }
  | .act action next, bench => run accept (next (bench.act action).1) (bench.act action).2
  | .accept i query next, bench =>
      match accept i query bench with
      | none => none
      | some (answer, bench) => run accept (next answer) bench

def perform (accept : Acceptor η n m σ) (behaviour : Behaviour η n σ) (call : Call η)
    (bench : Bench η n m σ) : Option (Except Failure (Option String) × Bench η n m σ) :=
  run accept (behaviour call.handler call.arguments) { bench with performed := bench.performed ++ [call] }

def performAll (accept : Acceptor η n m σ) (behaviour : Behaviour η n σ) :
    List (Call η) → Bench η n m σ → Option (Except Failure Answer × Bench η n m σ)
  | [], bench => some (.ok [], bench)
  | call :: rest, bench =>
      match perform accept behaviour call bench with
      | none => none
      | some (.error failure, bench) => some (.error failure, bench)
      | some (.ok result, bench) =>
          match performAll accept behaviour rest bench with
          | none => none
          | some (answer, bench) => some (answer.map (result :: ·), bench)

def acceptWithin (behaviour : Behaviour η n σ) : Nat → Acceptor η n m σ
  | 0 => fun _ _ _ => none
  | depth + 1 => fun i query bench =>
      match bench.resolve i query with
      | (.error header, bench) => some (.error (.unknownHeader header), bench)
      | (.ok calls, bench) => performAll (acceptWithin behaviour depth) behaviour calls bench

end Bench

end Scpi
