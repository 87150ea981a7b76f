import Scpi.Bench
import Scpi.Proofs.Definitions
import Scpi.Proofs.Entries

set_option autoImplicit false

namespace Scpi

def Procedure.ActsOnly {η σ : Type} {n : Nat} (allowed : Action η n → Prop) : Procedure η n σ → Prop
  | .reply _ | .fail _ => True
  | .recall next => ∀ memory, (next memory).ActsOnly allowed
  | .store _ next => next.ActsOnly allowed
  | .act action next => allowed action ∧ ∀ outcome, (next outcome).ActsOnly allowed
  | .accept _ _ next => ∀ answer, (next answer).ActsOnly allowed

def Action.Sets {η : Type} {n : Nat} : Action η n → Prop
  | .define _ _ _ => False
  | .setLimit _ _ | .setPolicyLimit _ _ | .setWithArguments _ _ => True

namespace Bench

variable {η σ : Type} {n m : Nat}

-- The ways in which a bench changes. To forget is to drop the calls and the notices on record.
inductive Change (η : Type) (n : Nat) (σ : Type) where
  | act (action : Action η n)
  | resolve (i : Fin n) (query : String)
  | call (call : Call η)
  | store (memory : σ)
  | forget

def record (call : Call η) (bench : Bench η n m σ) : Bench η n m σ :=
  { bench with performed := bench.performed ++ [call] }

def after (bench : Bench η n m σ) : Change η n σ → Bench η n m σ
  | .act action => (bench.act action).2
  | .resolve i query => (bench.resolve i query).2
  | .call call => bench.record call
  | .store memory => { bench with memory }
  | .forget => bench.withoutRecord

inductive Leads (bench : Bench η n m σ) : Bench η n m σ → Prop where
  | start : Leads bench bench
  | change (later : Bench η n m σ) (change : Change η n σ) :
      Leads bench later → Leads bench (later.after change)

theorem leads_change (bench : Bench η n m σ) (change : Change η n σ) : Leads bench (bench.after change) :=
  .change bench change .start

theorem leads_trans (bench middle later : Bench η n m σ) (first : Leads bench middle)
    (second : Leads middle later) : Leads bench later := by
  induction second with
  | start => exact first
  | change later change _ ih => exact .change later change ih

theorem leads_all (bench : Bench η n m σ) (changes : List (Change η n σ)) :
    Leads bench (changes.foldl after bench) := by
  induction changes generalizing bench with
  | nil => exact .start
  | cons change rest ih => exact leads_trans bench _ _ (leads_change bench change) (ih (bench.after change))

-- What an answer may consist of where handlers take no other actions. It forgets nothing.
def Change.Allowed (allowed : Action η n → Prop) : Change η n σ → Prop
  | .act action => allowed action
  | .resolve _ _ | .call _ | .store _ => True
  | .forget => False

def ActOnly (allowed : Action η n → Prop) (behaviour : Behaviour η n σ) : Prop :=
  ∀ handler arguments, (behaviour handler arguments).ActsOnly allowed

theorem act_freely (behaviour : Behaviour η n σ) : ActOnly (fun _ => True) behaviour := by
  intro handler arguments
  induction behaviour handler arguments with
  | reply | fail => trivial
  | «recall» next ih => exact ih
  | store memory next ih => exact ih
  | act action next ih => exact ⟨trivial, ih⟩
  | accept i query next ih => exact ih

structure Lasting (allowed : Action η n → Prop) (related : Bench η n m σ → Bench η n m σ → Prop) : Prop where
  start : ∀ bench, related bench bench
  trans : ∀ bench middle later, related bench middle → related middle later → related bench later
  change : ∀ bench (change : Change η n σ), change.Allowed allowed → related bench (bench.after change)

def Onward (related : Bench η n m σ → Bench η n m σ → Prop) (accept : Acceptor η n m σ) : Prop :=
  ∀ i query bench answer later, accept i query bench = some (answer, later) → related bench later

section

variable (allowed : Action η n → Prop) (related : Bench η n m σ → Bench η n m σ → Prop)
  (lasting : Lasting allowed related)

include lasting

theorem run_onward (accept : Acceptor η n m σ) (onward : Onward related accept) (procedure : Procedure η n σ)
    (only : procedure.ActsOnly allowed) (bench later : Bench η n m σ)
    (result : Except Failure (Option String)) (ended : run accept procedure bench = some (result, later)) :
    related bench later := by
  induction procedure generalizing bench with
  | reply value =>
      cases ended
      exact lasting.start later
  | fail failure =>
      cases ended
      exact lasting.start later
  | «recall» next ih => exact ih bench.memory (only bench.memory) bench ended
  | store memory next ih =>
      have stored := lasting.change bench (.store memory) trivial
      exact lasting.trans _ _ _ stored (ih only { bench with memory } ended)
  | act action next ih =>
      have acted := lasting.change bench (.act action) only.1
      exact lasting.trans _ _ _ acted (ih _ (only.2 _) (bench.act action).2 ended)
  | accept i query next ih =>
      rw [run] at ended
      cases answered : accept i query bench with
      | none => simp only [answered, reduceCtorEq] at ended
      | some pair =>
          simp only [answered] at ended
          exact lasting.trans _ _ _ (onward i query bench pair.1 pair.2 answered)
            (ih pair.1 (only pair.1) pair.2 ended)

theorem perform_onward (accept : Acceptor η n m σ) (onward : Onward related accept)
    (behaviour : Behaviour η n σ) (only : ActOnly allowed behaviour) (call : Call η)
    (bench later : Bench η n m σ) (result : Except Failure (Option String))
    (ended : perform accept behaviour call bench = some (result, later)) : related (bench.record call) later :=
  run_onward allowed related lasting accept onward _ (only _ _) (bench.record call) later result ended

theorem perform_all_onward (accept : Acceptor η n m σ) (onward : Onward related accept)
    (behaviour : Behaviour η n σ) (only : ActOnly allowed behaviour) (calls : List (Call η))
    (bench later : Bench η n m σ) (answer : Except Failure Answer)
    (ended : performAll accept behaviour calls bench = some (answer, later)) : related bench later := by
  have performed (call : Call η) (bench middle : Bench η n m σ) (result : Except Failure (Option String))
      (ended : perform accept behaviour call bench = some (result, middle)) : related bench middle :=
    lasting.trans _ _ _ (lasting.change bench (.call call) trivial)
      (perform_onward allowed related lasting accept onward behaviour only call bench middle result ended)
  induction calls generalizing bench answer with
  | nil =>
      cases ended
      exact lasting.start later
  | cons call rest ih =>
      rw [performAll] at ended
      split at ended
      · cases ended
      · rename_i failure middle failed
        cases ended
        exact performed call bench later _ failed
      · rename_i result middle ok
        split at ended
        · cases ended
        · rename_i answers last following
          cases ended
          exact lasting.trans _ _ _ (performed call bench middle _ ok) (ih middle answers following)

theorem accept_onward (behaviour : Behaviour η n σ) (only : ActOnly allowed behaviour) (depth : Nat) :
    Onward related (acceptWithin behaviour depth) := by
  induction depth with
  | zero =>
      intro i query bench answer later ended
      cases ended
  | succ depth ih =>
      intro i query bench answer later ended
      have resolved : related bench (bench.resolve i query).2 :=
        lasting.change bench (.resolve i query) trivial
      simp only [acceptWithin] at ended
      split at ended
      · rename_i header middle failed
        cases ended
        rw [failed] at resolved
        exact resolved
      · rename_i calls middle found
        rw [found] at resolved
        exact lasting.trans _ _ _ resolved
          (perform_all_onward allowed related lasting _ ih behaviour only calls middle later answer ended)

end

def Stepwise (accept : Acceptor η n m σ) : Prop :=
  ∀ i query bench answer later, accept i query bench = some (answer, later) → Leads bench later

theorem leads_lasting (allowed : Action η n → Prop) :
    Lasting allowed (Leads : Bench η n m σ → Bench η n m σ → Prop) where
  start := fun _ => .start
  trans := leads_trans
  change := fun bench change _ => leads_change bench change

theorem perform_leads (accept : Acceptor η n m σ) (stepwise : Stepwise accept) (behaviour : Behaviour η n σ)
    (call : Call η) (bench later : Bench η n m σ) (result : Except Failure (Option String))
    (ended : perform accept behaviour call bench = some (result, later)) : Leads bench later := by
  have recorded : Leads bench (bench.record call) := leads_change bench (.call call)
  exact leads_trans _ _ _ recorded
    (perform_onward _ Leads (leads_lasting _) accept stepwise behaviour (act_freely behaviour) call bench later
      result ended)

theorem accept_stepwise (behaviour : Behaviour η n σ) (depth : Nat) :
    Stepwise (acceptWithin behaviour depth : Acceptor η n m σ) :=
  accept_onward _ Leads (leads_lasting _) behaviour (act_freely behaviour) depth

-- Every entry of a cache holds what its query resolves to with the present commands of the instrument.
def Faithful (bench : Bench η n m σ) : Prop :=
  ∀ i, ∀ row ∈ (bench.pool.cache i).rows,
    Chain.resolve (bench.commandSet i) (Query.tokens row.1) = .ok row.2

theorem fresh_rows (policies : Vector Policy m) (policyOf : Vector (Fin m) n) (memory : σ) (i : Fin n) :
    ((fresh policies policyOf memory : Bench η n m σ).pool.cache i).rows = [] :=
  congrArg Cache.rows (Pool.fresh_cache policies policyOf i)

theorem fresh_faithful (policies : Vector Policy m) (policyOf : Vector (Fin m) n) (memory : σ) :
    Faithful (fresh policies policyOf memory : Bench η n m σ) := by
  intro i row member
  rw [fresh_rows] at member
  cases member

theorem command_set_set (i j : Fin n) (commands : CommandSet η) (bench : Bench η n m σ) :
    (bench.setCommandSet i commands).commandSet j = if i = j then commands else bench.commandSet j :=
  vector_get_set bench.commands i j commands

def Defined (bench : Bench η n m σ) : Prop :=
  ∀ i, ∃ definitions, bench.commandSet i = CommandSet.ofDefinitions definitions

theorem fresh_defined (policies : Vector Policy m) (policyOf : Vector (Fin m) n) (memory : σ) :
    Defined (fresh policies policyOf memory : Bench η n m σ) := by
  intro i
  refine ⟨[], ?_⟩
  change (Vector.replicate n CommandSet.empty)[i.val] = CommandSet.empty
  exact Vector.getElem_replicate _

theorem define_defined (i : Fin n) (text : String) (handler : η) (bench : Bench η n m σ)
    (defined : Defined bench) : Defined (bench.define i text handler) := by
  intro j
  change ∃ definitions, (bench.setCommandSet i _).commandSet j = _
  rw [command_set_set]
  split
  · obtain ⟨definitions, same⟩ := defined i
    exact ⟨definitions ++ [(text, handler)], by rw [same, CommandSet.of_definitions_snoc]⟩
  · exact defined j

-- An entry after a change was there before it or is newly resolved and admitted, with the commands that stay.
def Kept (j : Fin n) (bench later : Bench η n m σ) : Prop :=
  ∀ row ∈ (later.pool.cache j).rows, later.commandSet j = bench.commandSet j ∧
    (row ∈ (bench.pool.cache j).rows ∨
      Chain.resolve (bench.commandSet j) (Query.tokens row.1) = .ok row.2 ∧
        (bench.pool.policy j).admits (Token.containsArgument (Query.tokens row.1)) = true)

theorem define_kept (i j : Fin n) (text : String) (handler : η) (bench : Bench η n m σ) :
    Kept j bench (bench.define i text handler) := by
  intro row member
  obtain ⟨other, kept⟩ := Pool.clear_cache_rows i j bench.pool row member
  refine ⟨?_, .inl kept⟩
  change (bench.setCommandSet i _).commandSet j = bench.commandSet j
  rw [command_set_set, if_neg other]

theorem set_limit_kept (i j : Fin n) (setting : Setting) (bench : Bench η n m σ) :
    Kept j bench (bench.setLimit i setting).2 := by
  intro row member
  unfold setLimit at member ⊢
  split at member
  · exact ⟨rfl, .inl member⟩
  · rename_i victims pool limited
    exact ⟨rfl, .inl (Pool.set_limit_cache_rows i j setting bench.pool pool victims limited row member)⟩

theorem set_policy_limit_kept (i j : Fin n) (setting : Setting) (bench : Bench η n m σ) :
    Kept j bench (bench.setPolicyLimit i setting).2 := by
  intro row member
  unfold setPolicyLimit at member ⊢
  split at member
  · exact ⟨rfl, .inl member⟩
  · rename_i pool limited
    change row ∈ (pool.cache j).rows at member
    rw [Pool.set_policy_limit_cache i j setting bench.pool pool limited] at member
    exact ⟨rfl, .inl member⟩

theorem resolve_cases (i : Fin n) (query : String) (bench : Bench η n m σ) :
    (∃ calls pool, bench.pool.lookup i query = (some calls, pool) ∧
      bench.resolve i query = (.ok calls, note [.hit query] { bench with pool })) ∨
    (∃ header pool, bench.pool.lookup i query = (none, pool) ∧
      Chain.resolve (bench.commandSet i) (Query.tokens query) = .error header ∧
      bench.resolve i query = (.error header, note [.unknown header] { bench with pool })) ∨
    (∃ calls pool, bench.pool.lookup i query = (none, pool) ∧
      Chain.resolve (bench.commandSet i) (Query.tokens query) = .ok calls ∧
      bench.resolve i query =
        let inserted := pool.insert i query calls (Token.containsArgument (Query.tokens query))
          (some (pool.cache i).generation)
        (.ok calls, note (Notice.ofInsertion query inserted.1) { bench with pool := inserted.2 })) := by
  cases looked : bench.pool.lookup i query with
  | mk value pool =>
      cases value with
      | some calls => exact .inl ⟨calls, pool, rfl, by simp only [resolve, looked]⟩
      | none =>
          cases resolved : Chain.resolve (bench.commandSet i) (Query.tokens query) with
          | error header =>
              refine .inr (.inl ⟨header, pool, rfl, rfl, ?_⟩)
              simp only [resolve, looked, resolved]
          | ok calls =>
              refine .inr (.inr ⟨calls, pool, rfl, rfl, ?_⟩)
              simp only [resolve, looked, resolved]

theorem act_sets (action : Action η n) (sets : action.Sets) (bench : Bench η n m σ) :
    ∃ pool notices, (bench.act action).2 = note notices { bench with pool } := by
  have quiet (pool : Pool (List (Call η)) n m) : { bench with pool } = note [] { bench with pool } := by
    simp only [note, List.append_nil]
  cases action with
  | define i text handler => cases sets
  | setLimit i setting =>
      change ∃ pool notices, (bench.setLimit i setting).2 = note notices { bench with pool }
      unfold setLimit
      split
      · exact ⟨bench.pool, [], quiet bench.pool⟩
      · rename_i victims pool _
        exact ⟨pool, victims.map .evicted, rfl⟩
  | setPolicyLimit i setting =>
      change ∃ pool notices, (bench.setPolicyLimit i setting).2 = note notices { bench with pool }
      unfold setPolicyLimit
      split
      · exact ⟨bench.pool, [], quiet bench.pool⟩
      · rename_i pool _
        exact ⟨pool, [], quiet pool⟩
  | setWithArguments i setting => exact ⟨_, [], quiet _⟩

theorem act_frame (action : Action η n) (bench : Bench η n m σ) :
    (∃ i text handler, (bench.act action).2 = bench.define i text handler) ∨
      ∃ pool notices, (bench.act action).2 = note notices { bench with pool } := by
  cases action with
  | define i text handler => exact .inl ⟨i, text, handler, rfl⟩
  | setLimit | setPolicyLimit | setWithArguments =>
      refine .inr (act_sets _ ?_ bench)
      trivial

theorem resolve_frame (i : Fin n) (query : String) (bench : Bench η n m σ) :
    ∃ caches notices, (bench.resolve i query).2 =
      note notices { bench with pool := { bench.pool with caches } } := by
  obtain ⟨_, pool, looked, same⟩ | ⟨_, pool, looked, _, same⟩ | ⟨_, pool, looked, _, same⟩ :=
    resolve_cases i query bench
  all_goals
    obtain rfl : (bench.pool.lookup i query).2 = pool := congrArg Prod.snd looked
    rw [same]
    exact ⟨_, _, rfl⟩

theorem resolve_kept (i j : Fin n) (query : String) (bench : Bench η n m σ) :
    Kept j bench (bench.resolve i query).2 := by
  intro row member
  have rows := Pool.lookup_cache_rows i j query bench.pool
  obtain ⟨calls, pool, found, hit⟩ | ⟨header, pool, missed, _, unknown⟩ |
    ⟨calls, pool, missed, resolved, offered⟩ := resolve_cases i query bench
  · rw [found] at rows
    rw [hit] at member ⊢
    exact ⟨rfl, .inl (rows ▸ member)⟩
  · rw [missed] at rows
    rw [unknown] at member ⊢
    exact ⟨rfl, .inl (rows ▸ member)⟩
  · have policies : pool.policy i = bench.pool.policy i := by
      rw [← show (bench.pool.lookup i query).2 = pool from congrArg Prod.snd missed]
      rfl
    rw [missed] at rows
    rw [offered] at member ⊢
    rcases Pool.insert_cache_rows i j query calls _ _ pool row member with kept | ⟨rfl, rfl, admitted⟩
    · exact ⟨rfl, .inl (rows ▸ kept)⟩
    · exact ⟨rfl, .inr ⟨resolved, policies ▸ admitted⟩⟩

theorem after_kept (j : Fin n) (bench : Bench η n m σ) (change : Change η n σ) :
    Kept j bench (bench.after change) := by
  cases change with
  | act action =>
      cases action with
      | define i text handler => exact define_kept i j text handler bench
      | setLimit i setting => exact set_limit_kept i j setting bench
      | setPolicyLimit i setting => exact set_policy_limit_kept i j setting bench
      | setWithArguments i setting => exact fun row member => ⟨rfl, .inl member⟩
  | resolve i query => exact resolve_kept i j query bench
  | call call => exact fun row member => ⟨rfl, .inl member⟩
  | store memory => exact fun row member => ⟨rfl, .inl member⟩
  | forget => exact fun row member => ⟨rfl, .inl member⟩

theorem after_faithful (bench : Bench η n m σ) (change : Change η n σ) (faithful : Faithful bench) :
    Faithful (bench.after change) := by
  intro j row member
  obtain ⟨commands, old | ⟨resolved, _⟩⟩ := after_kept j bench change row member
  · rw [commands]
    exact faithful j row old
  · rw [commands]
    exact resolved

theorem leads_faithful (bench later : Bench η n m σ) (leads : Leads bench later) (faithful : Faithful bench) :
    Faithful later := by
  induction leads with
  | start => exact faithful
  | change later change _ ih => exact after_faithful later change ih

theorem act_defined (action : Action η n) (bench : Bench η n m σ) (defined : Defined bench) :
    Defined (bench.act action).2 := by
  obtain ⟨i, text, handler, same⟩ | ⟨pool, notices, same⟩ := act_frame action bench
  · rw [same]
    exact define_defined i text handler bench defined
  · rw [same]
    exact defined

theorem leads_defined (bench later : Bench η n m σ) (leads : Leads bench later) (defined : Defined bench) :
    Defined later := by
  induction leads with
  | start => exact defined
  | change later change _ ih =>
      cases change with
      | act action => exact act_defined action later ih
      | resolve i query =>
          obtain ⟨caches, notices, same⟩ := resolve_frame i query later
          change Defined (later.resolve i query).2
          rw [same]
          exact ih
      | call | store | forget => exact ih

end Bench

end Scpi
