import Scpi.Proofs.Operations

set_option autoImplicit false

namespace Scpi

namespace Cache

-- What tables that are out of step would lead to.
inductive Breach where
  | noCounter (query : String)
  | noEntry (query : String)
  | nothingToEvict
deriving DecidableEq, Repr

variable {ν : Type}

def lookupChecked (policy : Policy) (query : String) (cache : Cache ν) :
    Except Breach (Option ν × Cache ν) :=
  if policy.enabled then
    match cache.entries.find? query with
    | some value =>
        if cache.uses.contains query then
          .ok (some value, { cache with uses := cache.uses.modify query (· + 1) })
        else .error (.noCounter query)
    | none => .ok (none, cache)
  else .ok (none, cache)

def evictChecked (cache : Cache ν) : Except Breach (Victim × Cache ν) :=
  match leastUsed? cache.uses.rows with
  | none => .error .nothingToEvict
  | some victim =>
      if cache.entries.contains victim.query then .ok (victim, cache.remove victim.query)
      else .error (.noEntry victim.query)

theorem evict_checked_smaller (cache smaller : Cache ν) (victim : Victim)
    (evicted : cache.evictChecked = .ok (victim, smaller)) : smaller.size < cache.size := by
  unfold evictChecked at evicted
  split at evicted
  · cases evicted
  · split at evicted
    · rename_i least present
      cases evicted
      obtain ⟨row, member, same⟩ := List.mem_map.mp ((Table.contains_iff _ _).mp present)
      exact List.length_filter_lt_length_iff_exists.mpr ⟨row, member, by simp [same]⟩
    · cases evicted

def shrinkChecked (limit : Nat) (cache : Cache ν) : Except Breach (List Victim × Cache ν) :=
  if limit < cache.size then
    match _evicted : cache.evictChecked with
    | .error breach => .error breach
    | .ok (victim, smaller) =>
        (shrinkChecked limit smaller).map fun shrunk => (victim :: shrunk.1, shrunk.2)
  else .ok ([], cache)
termination_by cache.size
decreasing_by exact evict_checked_smaller _ _ _ _evicted

def insertChecked (policy : Policy) (query : String) (value : ν) (argument : Bool) (made : Option Int)
    (cache : Cache ν) : Except Breach (Insertion × Cache ν) :=
  if !policy.admits argument then .ok (.refused, cache)
  else if made.any (· ≠ (cache.generation : Int)) then .ok (.stale, cache)
  else if cache.contains query then
    .ok (.replaced, { cache with entries := cache.entries.insert query value })
  else
    (cache.shrinkChecked (policy.limit - 1)).map fun shrunk => (.added shrunk.1, shrunk.2.add query value)

theorem lookup_checked (policy : Policy) (query : String) (cache : Cache ν) (inStep : cache.InStep) :
    cache.lookupChecked policy query = .ok (cache.lookup policy query) := by
  unfold lookupChecked lookup
  split
  · cases found : cache.entries.find? query with
    | some value =>
        have present : query ∈ cache.entries.keys := by
          rw [← Table.contains_iff, Table.contains, found]
          rfl
        rw [← inStep.keys, ← Table.contains_iff] at present
        exact if_pos present
    | none => rfl
  · rfl

theorem evict_checked (cache smaller : Cache ν) (victim : Victim) (inStep : cache.InStep)
    (evicted : cache.evict? = some (victim, smaller)) : cache.evictChecked = .ok (victim, smaller) := by
  obtain ⟨found, least, same⟩ := Option.map_eq_some_iff.mp evicted
  cases same
  have counted : victim.query ∈ cache.uses.keys :=
    List.mem_map_of_mem (f := Prod.fst) (least_used_member _ _ least)
  rw [inStep.keys, ← Table.contains_iff] at counted
  rw [evictChecked, least]
  exact if_pos counted

theorem shrink_checked (limit : Nat) (cache : Cache ν) (inStep : cache.InStep) :
    cache.shrinkChecked limit = .ok (cache.shrink limit) := by
  fun_induction shrink limit cache with
  | case1 cache above stuck => exact absurd stuck (evict_ne_none cache inStep (Nat.zero_lt_of_lt above))
  | case2 cache above victim smaller evicted shrunk ih =>
      have following := ih (evict_in_step cache smaller victim evicted inStep)
      rw [shrinkChecked, if_pos above]
      split
      · rename_i breach broken
        rw [evict_checked cache smaller victim inStep evicted] at broken
        cases broken
      · rename_i other rest same
        rw [evict_checked cache smaller victim inStep evicted] at same
        cases same
        rw [following]
        rfl
  | case3 cache within =>
      rw [shrinkChecked, if_neg within]

theorem insert_checked (policy : Policy) (query : String) (value : ν) (argument : Bool) (made : Option Int)
    (cache : Cache ν) (inStep : cache.InStep) :
    cache.insertChecked policy query value argument made =
      .ok (cache.insert policy query value argument made) := by
  unfold insertChecked insert
  split
  · rfl
  · split
    · rfl
    · split
      · rfl
      · rw [shrink_checked _ cache inStep]
        rfl

end Cache

namespace Pool

variable {ν : Type} {n m : Nat}

def operateChecked (pool : Pool ν n m) : Operation ν n → Except Cache.Breach (Outcome ν × Pool ν n m)
  | .insert i query value argument made =>
      ((pool.cache i).insertChecked (pool.policy i) query value argument made).map fun result =>
        (.inserted result.1, pool.setCache i result.2)
  | .lookup i query =>
      ((pool.cache i).lookupChecked (pool.policy i) query).map fun result =>
        (.found result.1, pool.setCache i result.2)
  | .setLimit i setting =>
      match pool.setPolicyLimit i setting with
      | .error fault => .ok (.refused fault, pool)
      | .ok limited =>
          ((limited.cache i).shrinkChecked (limited.policy i).limit).map fun result =>
            (.limited result.1, limited.setCache i result.2)
  -- These use no row of a table.
  | .clear i => .ok (pool.operate (.clear i))
  | .setPolicyLimit i setting => .ok (pool.operate (.setPolicyLimit i setting))
  | .setWithArguments i setting => .ok (pool.operate (.setWithArguments i setting))

def runChecked (pool : Pool ν n m) :
    List (Operation ν n) → Except Cache.Breach (List (Outcome ν) × Pool ν n m)
  | [] => .ok ([], pool)
  | operation :: rest => do
      let step ← pool.operateChecked operation
      let following ← step.2.runChecked rest
      return (step.1 :: following.1, following.2)

theorem operate_checked (operation : Operation ν n) (pool : Pool ν n m)
    (inStep : ∀ i, (pool.cache i).InStep) : pool.operateChecked operation = .ok (pool.operate operation) := by
  cases operation with
  | insert i query value argument made =>
      rw [operateChecked, Cache.insert_checked _ _ _ _ _ _ (inStep i)]
      rfl
  | lookup i query =>
      rw [operateChecked, Cache.lookup_checked _ _ _ (inStep i)]
      rfl
  | setLimit i setting =>
      rw [operate_set_limit, operateChecked, setPolicyLimit, Policy.setLimit]
      cases setting.toLimit with
      | error fault => rfl
      | ok limit =>
          change Except.map _ (Cache.shrinkChecked _ (pool.cache i)) = _
          rw [Cache.shrink_checked _ _ (inStep i)]
          rfl
  | clear | setPolicyLimit | setWithArguments => rfl

def Outcome.fault? : Outcome ν → Option Setting.Fault
  | .refused fault => some fault
  | .inserted _ | .found _ | .limited _ | .done => none

def Operation.fault? : Operation ν n → Option Setting.Fault
  | .setLimit _ setting | .setPolicyLimit _ setting =>
      match setting.toInt with
      | .error fault => some fault
      | .ok _ => none
  | .insert .. | .lookup .. | .clear _ | .setWithArguments .. => none

theorem operate_fault (operation : Operation ν n) (pool : Pool ν n m) :
    (pool.operate operation).1.fault? = operation.fault? := by
  cases operation with
  | insert | lookup | clear | setWithArguments => rfl
  | setLimit i setting =>
      rw [operate_set_limit, Setting.toLimit, Operation.fault?]
      cases setting.toInt <;> rfl
  | setPolicyLimit i setting =>
      rw [operate_set_policy_limit, Setting.toLimit, Operation.fault?]
      cases setting.toInt <;> rfl

theorem run_faults (operations : List (Operation ν n)) (pool : Pool ν n m) :
    (pool.run operations).1.map Outcome.fault? = operations.map Operation.fault? := by
  induction operations generalizing pool with
  | nil => rfl
  | cons operation rest ih =>
      have first := operate_fault operation pool
      have following := ih (pool.operate operation).2
      rw [run, List.map_cons, List.map_cons, first, following]

theorem run_in_step (operations : List (Operation ν n)) (pool : Pool ν n m)
    (inStep : ∀ i, (pool.cache i).InStep) :
    pool.runChecked operations = .ok (pool.run operations) ∧
      ∀ i, ((pool.run operations).2.cache i).InStep := by
  induction operations generalizing pool with
  | nil => exact ⟨rfl, inStep⟩
  | cons operation rest ih =>
      have kept : ∀ i, ((pool.operate operation).2.cache i).InStep := fun i =>
        Cache.step_in_step _ (pool.cache i) _ (operate_step operation i pool) (inStep i)
      obtain ⟨checked, later⟩ := ih (pool.operate operation).2 kept
      refine ⟨?_, later⟩
      rw [runChecked, operate_checked operation pool inStep]
      change (runChecked (pool.operate operation).2 rest >>= _) = _
      rw [checked]
      rfl

theorem run_limited (operations : List (Operation ν n)) (i : Fin n) (pool : Pool ν n m)
    (unshared : pool.Unshared i) (otherPolicy : ∀ setting, .setPolicyLimit i setting ∉ operations)
    (inStep : (pool.cache i).InStep) (limited : pool.Limited i) : (pool.run operations).2.Limited i := by
  induction operations generalizing pool with
  | nil => exact limited
  | cons operation rest ih =>
      have kept := Cache.step_in_step _ (pool.cache i) _ (operate_step operation i pool) inStep
      have policyOf := operate_policy_of operation pool
      have following : (pool.operate operation).2.Unshared i := by
        rw [Unshared, policyOf]
        exact unshared
      have other : ∀ setting, operation ≠ .setPolicyLimit i setting := fun setting same =>
        otherPolicy setting (same ▸ List.mem_cons_self)
      have later := operate_limited operation i pool unshared other inStep limited
      have others : ∀ setting, .setPolicyLimit i setting ∉ rest := fun setting member =>
        otherPolicy setting (List.mem_cons_of_mem operation member)
      exact ih _ following others kept later

theorem fresh_in_step (policies : Vector Policy m) (policyOf : Vector (Fin m) n) (i : Fin n) :
    ((fresh policies policyOf : Pool ν n m).cache i).InStep :=
  fresh_cache policies policyOf i ▸ Cache.blank_in_step 0

theorem tables_in_step (policies : Vector Policy m) (policyOf : Vector (Fin m) n)
    (operations : List (Operation ν n)) :
    let start : Pool ν n m := fresh policies policyOf
    let ended := start.run operations
    start.runChecked operations = .ok ended ∧
      ended.1.map Outcome.fault? = operations.map Operation.fault? ∧
      (∀ i, (ended.2.cache i).InStep) ∧
      ∀ i, start.Unshared i → (∀ setting, .setPolicyLimit i setting ∉ operations) → ended.2.Limited i := by
  intro start ended
  have fresh : ∀ i, (start.cache i).InStep := fresh_in_step policies policyOf
  have limited (i : Fin n) : start.Limited i := by
    rw [Limited, fresh_cache]
    exact Nat.zero_le _
  obtain ⟨checked, inStep⟩ := run_in_step operations start fresh
  refine ⟨checked, run_faults operations start, inStep, ?_⟩
  intro i unshared otherPolicy
  exact run_limited operations i start unshared otherPolicy (fresh i) (limited i)

-- The first cache has a policy of its own. The other two share one, and its limit is set directly.
def sharing : Pool Nat 3 2 := fresh #v[⟨2, false⟩, ⟨2, false⟩] #v[0, 1, 1]

def sharedUse : List (Operation Nat 3) := [
  .insert 0 "A" 1 false none, .lookup 0 "A", .insert 0 "B" 2 false none, .insert 0 "C" 3 false none,
  .insert 1 "A" 1 false none, .insert 1 "B" 2 false none, .setPolicyLimit 2 (.whole 1),
  .setLimit 0 (.text "one"), .clear 2, .setLimit 0 (.whole 1)]

theorem shared_use_in_step :
    sharing.Unshared 0 ∧ (∀ setting, .setPolicyLimit 0 setting ∉ sharedUse) ∧
      (sharing.run sharedUse).2.Limited 0 ∧ ¬ (sharing.run sharedUse).2.Limited 1 := by
  have unshared : sharing.Unshared 0 := by decide
  have otherPolicy : ∀ setting, .setPolicyLimit 0 setting ∉ sharedUse := by simp [sharedUse]
  have size : ((sharing.run sharedUse).2.cache 1).size = 2 := by decide +kernel
  have limit : ((sharing.run sharedUse).2.policy 1).limit = 1 := by decide +kernel
  refine ⟨unshared, otherPolicy, (tables_in_step _ _ sharedUse).2.2.2 0 unshared otherPolicy, ?_⟩
  rw [Limited, size, limit]
  decide

end Pool

end Scpi
