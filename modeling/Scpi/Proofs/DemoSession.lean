import Scpi.Proofs.Framing
import Scpi.Proofs.Turns

set_option autoImplicit false

namespace Scpi.Demo

open Console

theorem perform_all_lawful (calls : List (Call Command)) (past : List Turn) (bench : DemoBench)
    (stands : Stands past bench.memory) :
    ∃ results memory, Bench.performAll (Bench.acceptWithin demoBehaviour 0) demoBehaviour calls bench =
        some (.ok results, { bench with performed := bench.performed ++ calls, memory }) ∧
      results.length = calls.length ∧ AllLawful past (List.zipWith Turn.mk calls results) ∧
      Stands (past ++ List.zipWith Turn.mk calls results) memory := by
  induction calls generalizing past bench with
  | nil =>
      refine ⟨[], bench.memory, ?_, rfl, trivial, ?_⟩
      · rw [List.append_nil]
        rfl
      · rw [List.zipWith_nil_left, List.append_nil]
        exact stands
  | cons call rest ih =>
      let step := perform call.handler call.arguments bench.memory
      let middle : DemoBench := { bench.record call with memory := step.2 }
      have first := Bench.perform_all_ok (Bench.acceptWithin demoBehaviour 0) demoBehaviour call rest bench middle
        step.1 (demo_perform call bench)
      have lawful := perform_lawful past call bench.memory stands
      obtain ⟨results, memory, ended, length, others, last⟩ :=
        ih (past ++ [⟨call, step.1⟩]) middle (perform_stands past call bench.memory stands)
      refine ⟨step.1 :: results, memory, ?_, congrArg Nat.succ length, ⟨lawful, others⟩, ?_⟩
      · rw [first, ended]
        simp only [middle, Bench.record, List.append_assoc]
        rfl
      · rwa [List.append_assoc] at last

def turnsOf : Outcome Command → List Turn
  | .answered (.ok results) calls => List.zipWith Turn.mk calls results
  | .answered (.error _) _ | .changed _ => []

-- A query has the results of its commands, as they resolve anew, or it is refused and none is carried out.
def Answers : Operation Command 1 → Outcome Command → Prop
  | .act _, outcome => ∃ result, outcome = .changed result
  | .accept _ query, outcome =>
      match Chain.resolve (CommandSet.ofDefinitions definitions) (Query.tokens query) with
      | .error header => outcome = .answered (.error (.unknownHeader header)) []
      | .ok calls => ∃ results, results.length = calls.length ∧ outcome = .answered (.ok results) calls

structure Serves (past : List Turn) (bench : DemoBench) : Prop where
  faithful : Bench.Faithful bench
  commands : bench.commandSet 0 = CommandSet.ofDefinitions definitions
  stands : Stands past bench.memory

theorem cached_serves (past : List Turn) (bench later : DemoBench) (serves : Serves past bench)
    (faithful : Bench.Faithful later)
    (frame : ∃ pool notices, later = Bench.note notices { bench with pool }) : Serves past later := by
  obtain ⟨pool, notices, rfl⟩ := frame
  exact ⟨faithful, serves.commands, serves.stands⟩

theorem act_serves (action : Action Command 1) (sets : action.Sets) (past : List Turn) (bench : DemoBench)
    (serves : Serves past bench) : Serves past (bench.act action).2 := by
  have faithful := Bench.after_faithful bench (.act action) serves.faithful
  exact cached_serves past bench _ serves faithful (Bench.act_sets action sets bench)

theorem resolve_serves (query : String) (past : List Turn) (bench : DemoBench) (serves : Serves past bench) :
    Serves past (bench.resolve 0 query).2 := by
  have faithful := Bench.after_faithful bench (.resolve 0 query) serves.faithful
  obtain ⟨caches, notices, same⟩ := Bench.resolve_frame 0 query bench
  exact cached_serves past bench _ serves faithful ⟨_, notices, same⟩

theorem accept_serves (query : String) (past : List Turn) (bench : DemoBench) (serves : Serves past bench)
    (unused : bench.performed = []) :
    ∃ answer later, Bench.acceptWithin demoBehaviour demoDepth 0 query bench = some (answer, later) ∧
      Answers (.accept 0 query) (.answered answer later.performed) ∧
      AllLawful past (turnsOf (.answered answer later.performed)) ∧
      Serves (past ++ turnsOf (.answered answer later.performed)) later := by
  have own := Bench.resolve_calls 0 query bench serves.faithful
  rw [serves.commands] at own
  cases resolved : Chain.resolve (CommandSet.ofDefinitions definitions) (Query.tokens query) with
  | error header =>
      have refused := Bench.accept_unknown demoBehaviour 0 0 query header bench (own.trans resolved)
      refine ⟨_, _, refused, ?_, trivial, ?_⟩
      · simp only [Answers, resolved]
        exact congrArg _ unused
      · rw [turnsOf, List.append_nil]
        exact ⟨serves.faithful, serves.commands, serves.stands⟩
  | ok calls =>
      have middle := resolve_serves query past bench serves
      have performed := Bench.resolve_performed 0 query bench
      obtain ⟨results, memory, ended, length, lawful, stands⟩ := perform_all_lawful calls past _ middle.stands
      have known := Bench.accept_known demoBehaviour 0 0 query calls bench (own.trans resolved)
      rw [performed, unused, List.nil_append] at ended
      refine ⟨_, _, known.trans ended, ?_, lawful, middle.faithful, middle.commands, stands⟩
      simp only [Answers, resolved]
      exact ⟨results, length, rfl⟩

theorem operate_serves (operation : Operation Command 1) (settles : operation.ActsOnly Action.Sets)
    (past : List Turn) (bench : DemoBench) (serves : Serves past bench) :
    ∃ outcome later, Bench.operate demoBehaviour demoDepth operation bench = some (outcome, later) ∧
      Answers operation outcome ∧ AllLawful past (turnsOf outcome) ∧ Serves (past ++ turnsOf outcome) later := by
  cases operation with
  | act action =>
      refine ⟨_, _, rfl, ⟨_, rfl⟩, trivial, ?_⟩
      rw [turnsOf, List.append_nil]
      exact act_serves action settles past bench serves
  | accept i query =>
      obtain rfl : i = 0 := Subsingleton.elim i 0
      have unrecorded : Serves past bench.withoutRecord := ⟨serves.faithful, serves.commands, serves.stands⟩
      obtain ⟨answer, later, answered, answers, lawful, served⟩ := accept_serves query past _ unrecorded rfl
      refine ⟨_, later, ?_, answers, lawful, served⟩
      change (Bench.acceptWithin demoBehaviour demoDepth 0 query bench.withoutRecord).bind _ = _
      rw [answered]
      rfl

theorem run_serves (operations : List (Operation Command 1))
    (settles : ∀ operation ∈ operations, operation.ActsOnly Action.Sets) (past : List Turn) (bench : DemoBench)
    (serves : Serves past bench) :
    ∃ outcomes later, operations.mapM (Bench.operate demoBehaviour demoDepth) bench = some (outcomes, later) ∧
      List.Forall₂ Answers operations outcomes ∧ AllLawful past (outcomes.flatMap turnsOf) ∧
      Serves (past ++ outcomes.flatMap turnsOf) later := by
  induction operations generalizing past bench with
  | nil =>
      refine ⟨[], bench, rfl, .nil, trivial, ?_⟩
      rw [List.flatMap_nil, List.append_nil]
      exact serves
  | cons operation rest ih =>
      obtain ⟨own, others⟩ := List.forall_mem_cons.mp settles
      obtain ⟨outcome, middle, first, answers, lawful, served⟩ := operate_serves operation own past bench serves
      obtain ⟨outcomes, later, following, allAnswers, allLawful, ends⟩ := ih others _ middle served
      refine ⟨outcome :: outcomes, later, ?_, .cons answers allAnswers, ?_, ?_⟩
      · rw [List.mapM_cons]
        change (Bench.operate demoBehaviour demoDepth operation bench).bind _ = _
        rw [first]
        change (rest.mapM (Bench.operate demoBehaviour demoDepth) middle).bind _ = _
        rw [following]
        rfl
      · rw [List.flatMap_cons]
        exact all_lawful_append past _ _ lawful allLawful
      · rwa [List.flatMap_cons, ← List.append_assoc]

theorem demo_faithful : Bench.Faithful demoBench := by
  have reached := Bench.leads_all (Bench.fresh #v[Policy.standard] #v[0] State.initial)
    (definitions.map fun definition => .act (.define 0 definition.1 definition.2))
  rw [List.foldl_map] at reached
  exact Bench.leads_faithful _ demoBench reached (Bench.fresh_faithful _ _ _)

theorem session_replies (operations : List (Operation Command 1))
    (settles : ∀ operation ∈ operations, operation.ActsOnly Action.Sets) :
    ∃ outcomes later, operations.mapM (Bench.operate demoBehaviour demoDepth) demoBench = some (outcomes, later) ∧
      List.Forall₂ Answers operations outcomes ∧ later.memory = standing (outcomes.flatMap turnsOf) ∧
      ∀ before turn after, outcomes.flatMap turnsOf = before ++ turn :: after → Lawful before turn := by
  have serves : Serves [] demoBench := ⟨demo_faithful, demo_commands demoBench .start, rfl, rfl⟩
  obtain ⟨outcomes, later, ended, answers, lawful, served⟩ := run_serves operations settles [] demoBench serves
  rw [List.nil_append] at served
  refine ⟨outcomes, later, ended, answers, stands_standing _ _ served.stands, ?_⟩
  intro before turn after split
  rw [split] at lawful
  exact all_lawful_at [] before after turn lawful

-- One error is reported and one is cleared away. The query that comes twice is answered from the cache.
def mixedSession (i : Fin 1) : List (Operation Command 1) := [
  .act (.setWithArguments i (.flag true)), .accept i "VAR:X five;X 6;X", .accept i "SYST:ERR;:VAR:X?",
  .accept i "VAR:X five;X 6;X", .accept i "VAR:X 7;Y", .act (.setLimit i (.whole 0)),
  .accept i "VAR:X?;:SYST:ERR;ERR;:*RST;:VAR:X \"six\"", .accept i "*RST;SYST:ERR;:VAR:X?"]

def mixedReplies : List (Option String) := [none, none, none, some "-104,\"Data type error\"", some "6", none, none,
  none, some "6", some "-104,\"Data type error\"", some "0,\"No error\"", none, none, none,
  some "0,\"No error\"", some "0"]

theorem mixed_session_replies :
    (∀ operation ∈ mixedSession 0, operation.ActsOnly Action.Sets) ∧
      ∃ outcomes later, (mixedSession 0).mapM (Bench.operate demoBehaviour demoDepth) demoBench =
          some (outcomes, later) ∧
        (outcomes.flatMap turnsOf).map Turn.result = mixedReplies ∧
        List.Forall₂ Answers (mixedSession 0) outcomes ∧ later.memory = standing (outcomes.flatMap turnsOf) ∧
        ∀ before turn after, outcomes.flatMap turnsOf = before ++ turn :: after → Lawful before turn := by
  have settles : ∀ operation ∈ mixedSession 0, operation.ActsOnly Action.Sets := by
    simp [mixedSession, Operation.ActsOnly, Action.Sets]
  obtain ⟨outcomes, later, ended, answers, stands, lawful⟩ := session_replies (mixedSession 0) settles
  have replies : ((mixedSession 0).mapM (Bench.operate demoBehaviour demoDepth) demoBench).map
      (fun ended => (ended.1.flatMap turnsOf).map Turn.result) = some mixedReplies := by decide +kernel
  rw [ended] at replies
  exact ⟨settles, outcomes, later, ended, Option.some.inj replies, answers, stands, lawful⟩

end Scpi.Demo
