import Scpi.Proofs.Operations
import Scpi.Proofs.Shorthand
import Scpi.Proofs.Transparency

set_option autoImplicit false

namespace Scpi

def Action.Forbids {η : Type} {n : Nat} : Action η n → Prop
  | .setWithArguments _ setting => setting.toSwitch = false
  | .define _ _ _ | .setLimit _ _ | .setPolicyLimit _ _ => True

namespace Query

theorem regular_follows (previous : Option Token.Kind) (before after : List Token) (token : Token)
    (regular : Regular previous (before ++ token :: after)) :
    Fits ((before.getLast?.map Token.kind).or previous) token := by
  induction before generalizing previous with
  | nil => exact regular.1
  | cons head rest ih =>
      have later := ih (some head.kind) regular.2
      rw [List.getLast?_cons]
      cases last : rest.getLast? <;> simpa [last] using later

-- A quoted string behind a word is an argument, so one that keeps its kind is behind a mark.
theorem quoted_follows_mark (query : String) (before after : List Token) (token mark : Token)
    (split : tokens query = before ++ token :: after) (quoted : token.kind = .quotedString)
    (last : before.getLast? = some mark) : mark = .colon ∨ mark = .semicolon := by
  have regular := tokens_regular query
  obtain ⟨earlier, rfl⟩ := List.getLast?_eq_some_iff.mp last
  rw [split] at regular
  have follows := regular_follows none _ after token regular
  rw [last] at follows
  have noWord : afterWord (some mark.kind) = false := by
    obtain ⟨_, text, rfl, _⟩ | ⟨noWord, _⟩ | ⟨_, rfl | rfl⟩ := fits_cases _ token follows
    · cases quoted
    · exact noWord
    · cases quoted
    · cases quoted
  rw [List.append_assoc] at regular
  obtain ⟨_, text, rfl, _⟩ | ⟨_, word, _⟩ | ⟨_, marks⟩ :=
    fits_cases _ mark (regular_follows none earlier (token :: after) mark regular)
  · cases noWord
  · exact absurd word (Bool.eq_false_iff.mp noWord)
  · exact marks

end Query

namespace Chain

variable {η : Type}

def quotedTexts (command : List Token) : List String :=
  (command.filter fun token => token.kind = .quotedString).map Token.text

theorem arguments_quoted (command : List Token) (unargued : ∀ token ∈ command, token.kind ≠ .argument) :
    arguments command = quotedTexts command := by
  refine congrArg (List.map Token.text) (List.filter_congr ?_)
  intro token member
  simp [isArgument, unargued token member]

theorem plan_arguments (commands : CommandSet η) (previous : Header) (chain : List (List Token)) :
    (planFrom commands previous chain).map Command.arguments = chain.map arguments := by
  induction chain generalizing previous with
  | nil => rfl
  | cons command rest ih => exact congrArg (arguments command :: ·) (ih _)

theorem calls_quoted (commands : CommandSet η) (tokens : List Token) (calls : List (Call η))
    (resolved : resolve commands tokens = .ok calls) (unargued : ∀ token ∈ tokens, token.kind ≠ .argument) :
    calls.map Call.arguments = (commandsOf tokens).map quotedTexts := by
  rw [resolve_plan, calls_ok_iff] at resolved
  have carried := congrArg (List.map Prod.snd) resolved
  simp only [List.map_map, Function.comp_def] at carried
  change calls.map Call.arguments = (plan commands tokens).map Command.arguments at carried
  rw [carried, plan, plan_arguments]
  refine List.map_congr_left fun command member => arguments_quoted command ?_
  exact fun token inside => unargued token (commands_of_member tokens command member token inside)

theorem quoted_texts_none (tokens : List Token) (unquoted : ∀ token ∈ tokens, token.kind ≠ .quotedString) :
    ∀ texts ∈ (commandsOf tokens).map quotedTexts, texts = [] := by
  intro texts member
  obtain ⟨command, inside, rfl⟩ := List.mem_map.mp member
  have none : command.filter (fun token => token.kind = .quotedString) = [] := by
    apply List.filter_eq_nil_iff.mpr
    intro token own
    simpa using unquoted token (commands_of_member tokens command inside token own)
  rw [quotedTexts, none, List.map_nil]

end Chain

namespace Bench

variable {η σ : Type} {n m : Nat}

def Forbids (i : Fin n) (bench : Bench η n m σ) : Prop := (bench.pool.policy i).withArguments = false

instance (i : Fin n) (bench : Bench η n m σ) : Decidable (Forbids i bench) :=
  inferInstanceAs (Decidable ((bench.pool.policy i).withArguments = false))

-- The second bench is the first one after some changes, and in every state on the way the policy of the
-- instrument forbids arguments.
inductive LeadsForbidding (i : Fin n) (bench : Bench η n m σ) : Bench η n m σ → Prop where
  | start : Forbids i bench → LeadsForbidding i bench bench
  | change (later : Bench η n m σ) (change : Change η n σ) :
      LeadsForbidding i bench later → Forbids i (later.after change) →
        LeadsForbidding i bench (later.after change)

theorem forbidding_leads (i : Fin n) (bench later : Bench η n m σ) (leads : LeadsForbidding i bench later) :
    Leads bench later := by
  induction leads with
  | start => exact .start
  | change later change _ _ ih => exact .change later change ih

theorem forbidding_last (i : Fin n) (bench later : Bench η n m σ) (leads : LeadsForbidding i bench later) :
    Forbids i later := by
  cases leads with
  | start forbids => exact forbids
  | change _ _ _ forbids => exact forbids

theorem forbidding_trans (i : Fin n) (bench middle later : Bench η n m σ)
    (first : LeadsForbidding i bench middle) (second : LeadsForbidding i middle later) :
    LeadsForbidding i bench later := by
  induction second with
  | start => exact first
  | change later change _ forbids ih => exact .change later change ih forbids

theorem limit_switch (i j : Fin n) (limit : Nat) (pool : Pool (List (Call η)) n m) :
    ((pool.setPolicy i { pool.policy i with limit }).policy j).withArguments =
      (pool.policy j).withArguments := by
  rw [Pool.policy_set_policy]
  split
  · rename_i same
    exact congrArg (fun k => (pool.policies.get k).withArguments) same
  · rfl

theorem act_forbids (action : Action η n) (forbidding : action.Forbids) (i : Fin n) (bench : Bench η n m σ)
    (forbids : Forbids i bench) : Forbids i (bench.act action).2 := by
  cases action with
  | define => exact forbids
  | setLimit j setting =>
      change Forbids i (bench.setLimit j setting).2
      unfold setLimit Pool.setLimit Pool.setPolicyLimit Policy.setLimit
      cases setting.toLimit with
      | error fault => exact forbids
      | ok limit => exact (limit_switch j i limit bench.pool).trans forbids
  | setPolicyLimit j setting =>
      change Forbids i (bench.setPolicyLimit j setting).2
      unfold setPolicyLimit Pool.setPolicyLimit Policy.setLimit
      cases setting.toLimit with
      | error fault => exact forbids
      | ok limit => exact (limit_switch j i limit bench.pool).trans forbids
  | setWithArguments j setting =>
      change ((bench.pool.setPolicy j _).policy i).withArguments = false
      rw [Pool.policy_set_policy]
      split
      · exact forbidding
      · exact forbids

theorem after_forbids (i : Fin n) (bench : Bench η n m σ) (change : Change η n σ)
    (allowed : change.Allowed Action.Forbids) (forbids : Forbids i bench) :
    Forbids i (bench.after change) := by
  cases change with
  | act action => exact act_forbids action allowed i bench forbids
  | resolve j query =>
      obtain ⟨caches, notices, same⟩ := resolve_frame j query bench
      change Forbids i (bench.resolve j query).2
      rw [same]
      exact forbids
  | call call => exact forbids
  | store memory => exact forbids
  | forget => cases allowed

theorem forbidding_lasting (i : Fin n) : Lasting Action.Forbids fun bench later : Bench η n m σ =>
    Forbids i bench → LeadsForbidding i bench later where
  start := fun _ => .start
  trans := by
    intro bench middle later first second forbids
    have leads := first forbids
    exact forbidding_trans i bench middle later leads (second (forbidding_last i bench middle leads))
  change := fun bench change allowed forbids =>
    .change bench change (.start forbids) (after_forbids i bench change allowed forbids)

def Unargued (i : Fin n) (bench : Bench η n m σ) : Prop :=
  ∀ row ∈ (bench.pool.cache i).rows, ∀ token ∈ Query.tokens row.1, token.kind ≠ .argument

theorem after_unargued (i : Fin n) (bench : Bench η n m σ) (change : Change η n σ) (forbids : Forbids i bench)
    (unargued : Unargued i bench) : Unargued i (bench.after change) := by
  intro row member
  obtain ⟨_, old | ⟨_, admitted⟩⟩ := after_kept i bench change row member
  · exact unargued row old
  · change (bench.pool.policy i).withArguments = false at forbids
    simp only [Policy.admits, forbids, Bool.or_false, Bool.and_eq_true, Bool.not_eq_true',
      Token.containsArgument, List.any_eq_false, decide_eq_true_eq] at admitted
    exact admitted.2

theorem forbidding_unargued (i : Fin n) (bench later : Bench η n m σ) (leads : LeadsForbidding i bench later)
    (unargued : Unargued i bench) : Unargued i later := by
  induction leads with
  | start => exact unargued
  | change later change before _ ih =>
      exact after_unargued i later change (forbidding_last i bench later before) ih

theorem fresh_unargued (policies : Vector Policy m) (policyOf : Vector (Fin m) n) (memory : σ) (i : Fin n) :
    Unargued i (fresh policies policyOf memory : Bench η n m σ) := by
  intro row member
  rw [fresh_rows] at member
  cases member

-- The second part is about whole runs: if neither they nor the handlers permit arguments, nothing does.
theorem stored_arguments_quoted (policies : Vector Policy m) (policyOf : Vector (Fin m) n) (memory : σ)
    (i : Fin n) :
    let start : Bench η n m σ := fresh policies policyOf memory
    (∀ later, LeadsForbidding i start later → ∀ row ∈ (later.pool.cache i).rows,
      let tokens := Query.tokens row.1
      (∀ token ∈ tokens, token.kind ≠ .argument) ∧
      row.2.map Call.arguments = (Chain.commandsOf tokens).map Chain.quotedTexts ∧
      (∀ before token after mark, tokens = before ++ token :: after → token.kind = .quotedString →
        before.getLast? = some mark → mark = .colon ∨ mark = .semicolon) ∧
      ((∀ token ∈ tokens, token.kind ≠ .quotedString) → ∀ call ∈ row.2, call.arguments = [])) ∧
    (∀ (behaviour : Behaviour η n σ) (depth : Nat) (operations : List (Operation η n)) outcomes later,
      Forbids i start → ActOnly Action.Forbids behaviour →
      (∀ operation ∈ operations, operation.ActsOnly Action.Forbids) →
      operations.mapM (operate behaviour depth) start = some (outcomes, later) →
      LeadsForbidding i start later) := by
  intro start
  constructor
  · intro later leads row member tokens
    have unargued := forbidding_unargued i start later leads (fresh_unargued policies policyOf memory i)
    have faithful := leads_faithful start later (forbidding_leads i start later leads)
      (fresh_faithful policies policyOf memory)
    have quoted := Chain.calls_quoted _ tokens row.2 (faithful i row member) (unargued row member)
    refine ⟨unargued row member, quoted, ?_, ?_⟩
    · exact fun before token after mark => Query.quoted_follows_mark row.1 before after token mark
    · intro unquoted call inside
      have carried : call.arguments ∈ row.2.map Call.arguments := List.mem_map_of_mem inside
      rw [quoted] at carried
      exact Chain.quoted_texts_none tokens unquoted _ carried
  · intro behaviour depth operations outcomes later forbids only acts ended
    have forgets (bench : Bench η n m σ) (before : Forbids i bench) :
        LeadsForbidding i bench bench.withoutRecord := .change bench .forget (.start before) before
    exact run_operations_onward _ _ (forbidding_lasting i) forgets behaviour only depth operations acts start
      later outcomes ended forbids

def joined : Behaviour Nat 1 Unit := fun _ arguments => .reply (some (" ".intercalate arguments))

def quotedUse (i : Fin 1) : List (Operation Nat 1) :=
  [.act (.define i "CONCat" 1), .accept i "CONC:\"x\";:\"y\":CONC;:CONC", .accept i "CONC 5"]

theorem quoted_texts_stored :
    let start : Bench Nat 1 1 Unit := fresh #v[Policy.standard] #v[0] ()
    let query := "CONC:\"x\";:\"y\":CONC;:CONC"
    let calls : List (Call Nat) := [⟨1, ["x"]⟩, ⟨1, ["y"]⟩, ⟨1, []⟩]
    Forbids 0 start ∧ ActOnly Action.Forbids joined ∧
      (∀ operation ∈ quotedUse 0, operation.ActsOnly Action.Forbids) ∧
      ∃ outcomes later, (quotedUse 0).mapM (operate joined 1) start = some (outcomes, later) ∧
        LeadsForbidding 0 start later ∧ (later.pool.cache 0).rows = [(query, calls)] ∧
        calls.map Call.arguments = (Chain.commandsOf (Query.tokens query)).map Chain.quotedTexts := by
  intro start query calls
  have forbids : Forbids 0 start := by decide
  have only : ActOnly Action.Forbids joined := fun _ _ => trivial
  have acts : ∀ operation ∈ quotedUse 0, operation.ActsOnly Action.Forbids := by
    simp [quotedUse, Operation.ActsOnly, Action.Forbids]
  have run : ((quotedUse 0).mapM (operate joined 1) start).map (fun ended => (ended.2.pool.cache 0).rows) =
      some [(query, calls)] := by decide +kernel
  obtain ⟨⟨outcomes, later⟩, ended, rows⟩ := Option.map_eq_some_iff.mp run
  change (later.pool.cache 0).rows = [(query, calls)] at rows
  obtain ⟨stored, runs⟩ := stored_arguments_quoted #v[Policy.standard] #v[0] () (0 : Fin 1) (η := Nat)
  have leads := runs joined 1 (quotedUse 0) outcomes later forbids only acts ended
  obtain ⟨_, quoted, _⟩ := stored later leads (query, calls) (by simp [rows])
  exact ⟨forbids, only, acts, outcomes, later, ended, leads, rows, quoted⟩

-- So a call in the cache may have an argument while its policy forbids them.
theorem quoted_head_is_carried :
    ¬ ∀ (operations : List (Operation Nat 1)) (outcomes : List (Outcome Nat)) (later : Bench Nat 1 1 Unit),
      (∀ operation ∈ operations, operation.ActsOnly Action.Forbids) →
      operations.mapM (operate joined 1) (fresh #v[Policy.standard] #v[0] ()) = some (outcomes, later) →
      ∀ row ∈ (later.pool.cache 0).rows, ∀ call ∈ row.2, call.arguments = [] := by
  intro empty
  let operations : List (Operation Nat 1) := [.act (.define 0 "CONCat" 1), .accept 0 "CONC:\"x\""]
  have acts : ∀ operation ∈ operations, operation.ActsOnly Action.Forbids := by
    simp [operations, Operation.ActsOnly, Action.Forbids]
  have run : (operations.mapM (operate joined 1) (fresh #v[Policy.standard] #v[0] () : Bench Nat 1 1 Unit)).map
      (fun ended => (ended.2.pool.cache 0).rows) = some [("CONC:\"x\"", [⟨1, ["x"]⟩])] := by decide +kernel
  obtain ⟨⟨outcomes, later⟩, ended, rows⟩ := Option.map_eq_some_iff.mp run
  change (later.pool.cache 0).rows = _ at rows
  have none := empty operations outcomes later acts ended ("CONC:\"x\"", [⟨1, ["x"]⟩]) (by simp [rows])
  simp at none

end Bench

end Scpi
