import Scpi.Proofs.Changes
import Scpi.Proofs.Uncached

set_option autoImplicit false

namespace Scpi

def Operation.ActsOnly {η : Type} {n : Nat} (allowed : Action η n → Prop) : Operation η n → Prop
  | .act action => allowed action
  | .accept _ _ => True

namespace Bench

variable {η σ : Type} {n m : Nat}

theorem acts_freely (operation : Operation η n) : operation.ActsOnly fun _ => True := by
  cases operation <;> trivial

def uncached (bench : Bench η n m σ) : Uncached η n σ where
  commands := bench.commands
  memory := bench.memory
  performed := bench.performed

def erased {α : Type} (result : α × Bench η n m σ) : α × Uncached η n σ := (result.1, result.2.uncached)

-- A way to answer queries on a bench does what the other does without caches.
def Agree (accept : Acceptor η n m σ) (reference : Uncached.Acceptor η n σ) : Prop :=
  ∀ i query bench, Faithful bench → (accept i query bench).map erased = reference i query bench.uncached

theorem act_uncached (action : Action η n) (bench : Bench η n m σ) :
    erased (bench.act action) = bench.uncached.act action := by
  cases action with
  | define i text handler => rfl
  | setLimit i setting =>
      change erased (bench.setLimit i setting) = (setting.toInt.map fun _ => (), bench.uncached)
      unfold setLimit Pool.setLimit Pool.setPolicyLimit Policy.setLimit Setting.toLimit
      cases setting.toInt <;> rfl
  | setPolicyLimit i setting =>
      change erased (bench.setPolicyLimit i setting) = (setting.toInt.map fun _ => (), bench.uncached)
      unfold setPolicyLimit Pool.setPolicyLimit Policy.setLimit Setting.toLimit
      cases setting.toInt <;> rfl
  | setWithArguments i setting => rfl

theorem resolve_uncached (i : Fin n) (query : String) (bench : Bench η n m σ) (faithful : Faithful bench) :
    erased (bench.resolve i query) =
      (Chain.resolve (bench.commandSet i) (Query.tokens query), bench.uncached) := by
  obtain ⟨calls, pool, found, hit⟩ | ⟨header, pool, missed, unknown, refused⟩ |
    ⟨calls, pool, missed, resolved, offered⟩ := resolve_cases i query bench
  · have entry := Pool.lookup_found i query bench.pool calls (congrArg Prod.fst found)
    rw [hit, faithful i (query, calls) entry]
    rfl
  · rw [refused, unknown]
    rfl
  · rw [offered, resolved]
    rfl

theorem resolve_calls (i : Fin n) (query : String) (bench : Bench η n m σ) (faithful : Faithful bench) :
    (bench.resolve i query).1 = Chain.resolve (bench.commandSet i) (Query.tokens query) :=
  congrArg Prod.fst (resolve_uncached i query bench faithful)

theorem run_uncached (accept : Acceptor η n m σ) (reference : Uncached.Acceptor η n σ)
    (stepwise : Stepwise accept) (agree : Agree accept reference) (procedure : Procedure η n σ)
    (bench : Bench η n m σ) (faithful : Faithful bench) :
    (run accept procedure bench).map erased = Uncached.run reference procedure bench.uncached := by
  induction procedure generalizing bench with
  | reply result => rfl
  | fail failure => rfl
  | «recall» next ih => exact ih bench.memory bench faithful
  | store memory next ih => exact ih { bench with memory } faithful
  | act action next ih =>
      have same := act_uncached action bench
      have kept := after_faithful bench (.act action) faithful
      change _ = Uncached.run reference (next (bench.uncached.act action).1) (bench.uncached.act action).2
      rw [← same]
      exact ih (bench.act action).1 (bench.act action).2 kept
  | accept i query next ih =>
      have same : _ = (reference i query).run bench.uncached := agree i query bench faithful
      rw [run, Uncached.run, Uncached.lift_bind_from, ← same]
      cases answered : accept i query bench with
      | none => rfl
      | some pair =>
          have leads := stepwise i query bench pair.1 pair.2 answered
          have kept := leads_faithful bench pair.2 leads faithful
          exact ih pair.1 pair.2 kept

theorem perform_uncached (accept : Acceptor η n m σ) (reference : Uncached.Acceptor η n σ)
    (stepwise : Stepwise accept) (agree : Agree accept reference) (behaviour : Behaviour η n σ)
    (call : Call η) (bench : Bench η n m σ) (faithful : Faithful bench) :
    (perform accept behaviour call bench).map erased =
      Uncached.perform reference behaviour call bench.uncached :=
  run_uncached accept reference stepwise agree _ (bench.record call) faithful

theorem perform_all_ok (accept : Acceptor η n m σ) (behaviour : Behaviour η n σ) (call : Call η)
    (rest : List (Call η)) (bench middle : Bench η n m σ) (result : Option String)
    (performed : perform accept behaviour call bench = some (.ok result, middle)) :
    performAll accept behaviour (call :: rest) bench =
      (performAll accept behaviour rest middle).map fun ended => (ended.1.map (result :: ·), ended.2) := by
  simp only [performAll, performed]
  cases performAll accept behaviour rest middle <;> rfl

theorem perform_all_uncached (accept : Acceptor η n m σ) (reference : Uncached.Acceptor η n σ)
    (stepwise : Stepwise accept) (agree : Agree accept reference) (behaviour : Behaviour η n σ)
    (calls : List (Call η)) (bench : Bench η n m σ) (faithful : Faithful bench) :
    (performAll accept behaviour calls bench).map erased =
      calls.mapM (Uncached.perform reference behaviour) bench.uncached := by
  induction calls generalizing bench with
  | nil => rfl
  | cons call rest ih =>
      have first := perform_uncached accept reference stepwise agree behaviour call bench faithful
      rw [List.mapM_cons, Uncached.bind_from, ← first]
      cases performed : perform accept behaviour call bench with
      | none =>
          rw [performAll, performed]
          rfl
      | some pair =>
          obtain ⟨failure | result, middle⟩ := pair
          · rw [performAll, performed]
            rfl
          · have leads := perform_leads accept stepwise behaviour call bench middle _ performed
            have following := ih middle (leads_faithful bench middle leads faithful)
            rw [perform_all_ok accept behaviour call rest bench middle result performed]
            change _ = (rest.mapM (Uncached.perform reference behaviour) >>=
              fun answers => pure (result :: answers) : Program η n σ Answer) middle.uncached
            rw [Uncached.bind_from, ← following]
            rcases performAll accept behaviour rest middle with _ | ⟨failure | answers, last⟩ <;> rfl

theorem accept_uncached (behaviour : Behaviour η n σ) (depth : Nat) :
    Agree (acceptWithin behaviour depth : Acceptor η n m σ) (Uncached.accept behaviour depth) := by
  induction depth with
  | zero =>
      intro i query bench faithful
      rfl
  | succ depth ih =>
      intro i query bench faithful
      have same := resolve_uncached i query bench faithful
      have kept := after_faithful bench (.resolve i query) faithful
      obtain ⟨result, plain⟩ := Prod.mk.inj same
      change _ = Chain.resolve (bench.uncached.commandSet i) (Query.tokens query) at result
      rw [Uncached.accept_from, ← result, ← plain]
      simp only [acceptWithin]
      change Faithful (bench.resolve i query).2 at kept
      generalize bench.resolve i query = resolved at kept ⊢
      rcases resolved with ⟨header | calls, middle⟩
      · rfl
      · exact perform_all_uncached _ _ (accept_stepwise behaviour depth) ih behaviour calls middle kept

theorem operate_uncached (behaviour : Behaviour η n σ) (depth : Nat) (operation : Operation η n)
    (bench : Bench η n m σ) (faithful : Faithful bench) :
    (operate behaviour depth operation bench).map erased =
      Uncached.operate behaviour depth operation bench.uncached := by
  cases operation with
  | act action =>
      have same := act_uncached action bench
      change _ = some (Outcome.changed (bench.uncached.act action).1, (bench.uncached.act action).2)
      rw [← same]
      rfl
  | accept i query =>
      have same := accept_uncached behaviour depth i query bench.withoutRecord faithful
      change Option.map erased ((acceptWithin behaviour depth i query bench.withoutRecord).bind _) =
        (Uncached.accept behaviour depth i query bench.withoutRecord.uncached).bind _
      rw [← same]
      rcases acceptWithin behaviour depth i query bench.withoutRecord with _ | ⟨answer, later⟩ <;> rfl

theorem operate_onward (allowed : Action η n → Prop) (related : Bench η n m σ → Bench η n m σ → Prop)
    (lasting : Lasting allowed related) (forgets : ∀ bench, related bench bench.withoutRecord)
    (behaviour : Behaviour η n σ) (only : ActOnly allowed behaviour) (depth : Nat)
    (operation : Operation η n) (acts : operation.ActsOnly allowed) (bench later : Bench η n m σ)
    (outcome : Outcome η) (ended : operate behaviour depth operation bench = some (outcome, later)) :
    related bench later := by
  cases operation with
  | act action =>
      cases ended
      exact lasting.change bench (.act action) acts
  | accept i query =>
      change (acceptWithin behaviour depth i query bench.withoutRecord).bind _ = _ at ended
      obtain ⟨⟨answer, last⟩, answered, same⟩ := Option.bind_eq_some_iff.mp ended
      cases same
      exact lasting.trans _ _ _ (forgets bench)
        (accept_onward allowed related lasting behaviour only depth i query _ answer later answered)

theorem run_operations_onward (allowed : Action η n → Prop) (related : Bench η n m σ → Bench η n m σ → Prop)
    (lasting : Lasting allowed related) (forgets : ∀ bench, related bench bench.withoutRecord)
    (behaviour : Behaviour η n σ) (only : ActOnly allowed behaviour) (depth : Nat)
    (operations : List (Operation η n)) (acts : ∀ operation ∈ operations, operation.ActsOnly allowed)
    (bench later : Bench η n m σ) (outcomes : List (Outcome η))
    (ended : operations.mapM (operate behaviour depth) bench = some (outcomes, later)) :
    related bench later := by
  induction operations generalizing bench outcomes with
  | nil =>
      cases ended
      exact lasting.start later
  | cons operation rest ih =>
      rw [List.mapM_cons] at ended
      obtain ⟨⟨outcome, middle⟩, first, ended⟩ := Option.bind_eq_some_iff.mp ended
      obtain ⟨⟨outcomes, last⟩, following, same⟩ := Option.bind_eq_some_iff.mp ended
      cases same
      have own := acts operation List.mem_cons_self
      have others := fun other member => acts other (List.mem_cons_of_mem operation member)
      exact lasting.trans _ _ _
        (operate_onward allowed related lasting forgets behaviour only depth operation own bench middle outcome first)
        (ih others middle outcomes following)

theorem operate_leads (behaviour : Behaviour η n σ) (depth : Nat) (operation : Operation η n)
    (bench later : Bench η n m σ) (outcome : Outcome η)
    (ended : operate behaviour depth operation bench = some (outcome, later)) : Leads bench later :=
  operate_onward _ Leads (leads_lasting _) (fun bench => leads_change bench .forget) behaviour
    (act_freely behaviour) depth operation (acts_freely operation) bench later outcome ended

theorem run_operations_uncached (behaviour : Behaviour η n σ) (depth : Nat)
    (operations : List (Operation η n)) (bench : Bench η n m σ) (faithful : Faithful bench) :
    (operations.mapM (operate behaviour depth) bench).map erased =
      operations.mapM (Uncached.operate behaviour depth) bench.uncached := by
  induction operations generalizing bench with
  | nil => rfl
  | cons operation rest ih =>
      have first := operate_uncached behaviour depth operation bench faithful
      rw [List.mapM_cons, List.mapM_cons]
      change Option.map erased ((operate behaviour depth operation bench).bind _) =
        (Uncached.operate behaviour depth operation bench.uncached).bind _
      rw [← first]
      cases ended : operate behaviour depth operation bench with
      | none => rfl
      | some pair =>
          have leads := operate_leads behaviour depth operation bench pair.2 pair.1 ended
          have kept := leads_faithful bench pair.2 leads faithful
          have following := ih pair.2 kept
          change Option.map erased ((rest.mapM (operate behaviour depth) pair.2).bind _) =
            (rest.mapM (Uncached.operate behaviour depth) pair.2.uncached).bind _
          rw [← following]
          rcases rest.mapM (operate behaviour depth) pair.2 with _ | ⟨outcomes, later⟩ <;> rfl

theorem run_operations_leads (behaviour : Behaviour η n σ) (depth : Nat) (operations : List (Operation η n))
    (bench later : Bench η n m σ) (outcomes : List (Outcome η))
    (ended : operations.mapM (operate behaviour depth) bench = some (outcomes, later)) :
    Leads bench later :=
  run_operations_onward _ Leads (leads_lasting _) (fun bench => leads_change bench .forget) behaviour
    (act_freely behaviour) depth operations (fun operation _ => acts_freely operation) bench later outcomes ended

theorem operations_as_uncached (behaviour : Behaviour η n σ) (policies : Vector Policy m)
    (policyOf : Vector (Fin m) n) (memory : σ) (depth : Nat) (operations : List (Operation η n)) :
    let start : Bench η n m σ := fresh policies policyOf memory
    (operations.mapM (operate behaviour depth) start).map erased =
        operations.mapM (Uncached.operate behaviour depth) (Uncached.fresh memory) ∧
      (∀ outcomes later, operations.mapM (operate behaviour depth) start = some (outcomes, later) →
        Leads start later) ∧
      ∀ bench, Leads start bench → Faithful bench := by
  intro start
  have faithful : Faithful start := fresh_faithful policies policyOf memory
  refine ⟨run_operations_uncached behaviour depth operations start faithful, ?_, ?_⟩
  · intro outcomes later ended
    exact run_operations_leads behaviour depth operations start later outcomes ended
  · intro bench leads
    exact leads_faithful start bench leads faithful

end Bench

end Scpi
