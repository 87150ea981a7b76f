import Scpi.Proofs.Plan
import Scpi.Proofs.Transparency
import Scpi.Proofs.Uses

set_option autoImplicit false

namespace Scpi

theorem Chain.unknown_iff {η : Type} (commands : CommandSet η) (tokens : List Token) :
    (∃ header, resolve commands tokens = .error header) ↔
      ∃ command ∈ plan commands tokens, commands.handler? command.header = none := by
  have known := resolves_iff_known commands tokens
  constructor
  · rintro ⟨header, failed⟩
    apply Classical.byContradiction
    intro absent
    obtain ⟨calls, resolved⟩ := known.mpr fun command member unknown => absent ⟨command, member, unknown⟩
    rw [failed] at resolved
    cases resolved
  · rintro ⟨command, member, unknown⟩
    cases outcome : resolve commands tokens with
    | error header => exact ⟨header, rfl⟩
    | ok calls => exact absurd unknown (known.mp ⟨calls, outcome⟩ command member)

namespace Bench

variable {η σ : Type} {n m : Nat}

theorem act_performed (action : Action η n) (bench : Bench η n m σ) :
    (bench.act action).2.performed = bench.performed := by
  obtain ⟨_, _, _, same⟩ | ⟨_, _, same⟩ := act_frame action bench
  all_goals rw [same]
  all_goals rfl

theorem resolve_performed (i : Fin n) (query : String) (bench : Bench η n m σ) :
    (bench.resolve i query).2.performed = bench.performed := by
  obtain ⟨_, _, same⟩ := resolve_frame i query bench
  rw [same]
  rfl

theorem performed_lasting :
    Lasting (fun _ => True) fun bench later : Bench η n m σ => bench.performed <+: later.performed where
  start := fun _ => List.prefix_rfl
  trans := fun _ _ _ => List.IsPrefix.trans
  change := by
    intro bench change allowed
    cases change with
    | act action =>
        change bench.performed <+: (bench.act action).2.performed
        simp only [act_performed, List.prefix_rfl]
    | resolve i query =>
        change bench.performed <+: (bench.resolve i query).2.performed
        simp only [resolve_performed, List.prefix_rfl]
    | call call => exact List.prefix_append _ _
    | store memory => exact List.prefix_rfl
    | forget => cases allowed

-- A failure among calls is that of one which was carried out.
theorem failed_recorded (behaviour : Behaviour η n σ) (depth : Nat) (calls : List (Call η))
    (bench later : Bench η n m σ) (failure : Failure)
    (failed : performAll (acceptWithin behaviour depth) behaviour calls bench =
      some (.error failure, later)) : ∃ call ∈ calls, bench.performed ++ [call] <+: later.performed := by
  have free := act_freely behaviour
  have onward := accept_onward _ _ (performed_lasting (m := m)) behaviour free depth
  cases calls with
  | nil => cases failed
  | cons call rest =>
      refine ⟨call, List.mem_cons_self, ?_⟩
      rw [performAll] at failed
      split at failed
      · cases failed
      · rename_i failure middle ended
        cases failed
        exact perform_onward _ _ performed_lasting _ onward behaviour free call bench later _ ended
      · rename_i result middle ended
        have first := perform_onward _ _ performed_lasting _ onward behaviour free call bench middle _ ended
        split at failed
        · cases failed
        · rename_i answer last following
          obtain ⟨_, rfl⟩ := Prod.mk.inj (Option.some.inj failed)
          exact first.trans
            (perform_all_onward _ _ performed_lasting _ onward behaviour free rest middle last answer following)

theorem resolve_unknown (i : Fin n) (query : String) (header : Header) (bench : Bench η n m σ)
    (unknown : (bench.resolve i query).1 = .error header) :
    bench.resolve i query = (.error header, bench.note [.unknown header]) := by
  obtain ⟨calls, pool, _, same⟩ | ⟨other, pool, missed, _, same⟩ | ⟨calls, pool, _, _, same⟩ :=
    resolve_cases i query bench
  · rw [same] at unknown
    cases unknown
  · have untouched := Pool.lookup_missed i query bench.pool (congrArg Prod.fst missed)
    rw [missed] at untouched
    rw [same] at unknown ⊢
    cases unknown
    rw [show pool = bench.pool from untouched]
  · rw [same] at unknown
    cases unknown

theorem accept_unknown (behaviour : Behaviour η n σ) (depth : Nat) (i : Fin n) (query : String)
    (header : Header) (bench : Bench η n m σ) (unknown : (bench.resolve i query).1 = .error header) :
    acceptWithin behaviour (depth + 1) i query bench =
      some (.error (.unknownHeader header), bench.note [.unknown header]) := by
  simp only [acceptWithin, resolve_unknown i query header bench unknown]

theorem accept_known (behaviour : Behaviour η n σ) (depth : Nat) (i : Fin n) (query : String)
    (calls : List (Call η)) (bench : Bench η n m σ) (known : (bench.resolve i query).1 = .ok calls) :
    acceptWithin behaviour (depth + 1) i query bench =
      performAll (acceptWithin behaviour depth) behaviour calls (bench.resolve i query).2 := by
  simp only [acceptWithin]
  generalize bench.resolve i query = resolved at known ⊢
  rcases resolved with ⟨_, middle⟩
  cases known
  rfl

-- Only the query itself can fail without a call.
theorem accept_uncalled (behaviour : Behaviour η n σ) (depth : Nat) (i : Fin n) (query : String)
    (header : Header) (bench later : Bench η n m σ)
    (failed : acceptWithin behaviour (depth + 1) i query bench = some (.error (.unknownHeader header), later))
    (uncalled : later.performed = bench.performed) : (bench.resolve i query).1 = .error header := by
  have before := resolve_performed i query bench
  simp only [acceptWithin] at failed
  split at failed
  · rename_i other middle found
    cases failed
    rw [found]
  · rename_i calls middle found
    obtain ⟨call, _, recorded⟩ := failed_recorded behaviour depth calls middle later _ failed
    rw [found] at before
    change middle.performed = bench.performed at before
    have length := recorded.length_le
    rw [uncalled, ← before, List.length_append, List.length_singleton] at length
    omega

theorem unknown_leaves_no_trace (behaviour : Behaviour η n σ) (policies : Vector Policy m)
    (policyOf : Vector (Fin m) n) (memory : σ) (bench : Bench η n m σ)
    (reached : Leads (fresh policies policyOf memory) bench) (depth : Nat) (i : Fin n) (query : String) :
    let commands := bench.commandSet i
    (∀ header, (bench.resolve i query).1 = .error header →
      acceptWithin behaviour (depth + 1) i query bench = some (.error (.unknownHeader header),
        { bench with journal := bench.journal ++ [.unknown header] })) ∧
    (∀ header later, acceptWithin behaviour (depth + 1) i query bench =
        some (.error (.unknownHeader header), later) → later.performed = bench.performed →
      (bench.resolve i query).1 = .error header) ∧
    (∀ header, (bench.resolve i query).1 = .error header ↔
      Chain.resolve commands (Query.tokens query) = .error header) ∧
    ((∃ header, (bench.resolve i query).1 = .error header) ↔
      ∃ command ∈ Chain.plan commands (Query.tokens query), commands.handler? command.header = none) := by
  intro commands
  have faithful := leads_faithful _ bench reached (fresh_faithful policies policyOf memory)
  have own : (bench.resolve i query).1 = Chain.resolve commands (Query.tokens query) :=
    resolve_calls i query bench faithful
  refine ⟨fun header => accept_unknown behaviour depth i query header bench,
    fun header later => accept_uncalled behaviour depth i query header bench later,
    fun header => own ▸ Iff.rfl, ?_⟩
  rw [own]
  exact Chain.unknown_iff commands (Query.tokens query)

-- One command is defined and its query is cached when the cache is switched off.
def switchingOff (i : Fin 1) : List (Change Nat 1 Unit) :=
  [.act (.define i "VOLTage:DC?" 1), .resolve i "VOLT:DC?", .act (.setPolicyLimit i (.whole 0))]

theorem third_command_unknown :
    let start : Bench Nat 1 1 Unit := fresh #v[Policy.standard] #v[0] ()
    let bench := (switchingOff 0).foldl after start
    let query := "VOLT:DC?;DC?;AC?;DC?"
    let header : Header := ⟨["VOLTage", "AC?"]⟩
    let behaviour : Behaviour Nat 1 Unit := fun _ _ => .reply (some "2.23")
    Leads start bench ∧
      (bench.pool.cache 0).uses.rows = [("VOLT:DC?", 1)] ∧ (bench.resolve 0 query).1 = .error header ∧
      acceptWithin behaviour 1 0 query bench = some (.error (.unknownHeader header),
        { bench with journal := bench.journal ++ [.unknown header] }) := by
  intro start bench query header behaviour
  have reached : Leads start bench := leads_all start (switchingOff 0)
  have failed : Chain.resolve (bench.commandSet 0) (Query.tokens query) = .error header := by
    rw [Chain.resolve_plan, Chain.calls_error_iff]
    decide +kernel
  obtain ⟨refused, _, own, _⟩ := unknown_leaves_no_trace behaviour _ _ () bench reached 0 0 query
  have unknown := (own header).mpr failed
  exact ⟨reached, by decide +kernel, unknown, refused header unknown⟩

end Bench

end Scpi
