import Scpi.Proofs.InStep

set_option autoImplicit false

namespace Scpi

inductive Cache.Step {ν : Type} (policy : Policy) (cache : Cache ν) : Cache ν → Prop where
  | keep : Step policy cache cache
  | lookup (query : String) : Step policy cache (cache.lookup policy query).2
  | insert (query : String) (value : ν) (argument : Bool) (made : Option Int) :
      Step policy cache (cache.insert policy query value argument made).2
  | shrink : Step policy cache (cache.shrink policy.limit).2
  | clear : Step policy cache cache.clear

namespace Cache

variable {ν : Type}

theorem step_in_step (policy : Policy) (cache later : Cache ν) (step : cache.Step policy later)
    (inStep : cache.InStep) : later.InStep := by
  cases step with
  | keep => exact inStep
  | lookup query => exact lookup_in_step policy query cache inStep
  | insert query value argument made => exact insert_in_step policy query value argument made cache inStep
  | shrink => exact shrink_in_step policy.limit cache inStep
  | clear => exact blank_in_step (cache.generation + 1)

theorem step_size (policy : Policy) (cache later : Cache ν) (step : cache.Step policy later)
    (inStep : cache.InStep) (within : cache.size ≤ policy.limit) : later.size ≤ policy.limit := by
  cases step with
  | keep => exact within
  | lookup query =>
      have rows := congrArg List.length (lookup_rows policy query cache)
      exact Nat.le_trans (Nat.le_of_eq rows) within
  | insert query value argument made => exact insert_size policy query value argument made cache inStep within
  | shrink => exact shrink_size policy.limit cache inStep
  | clear => exact Nat.zero_le policy.limit

end Cache

namespace Pool

inductive Operation (ν : Type) (n : Nat) where
  | insert (i : Fin n) (query : String) (value : ν) (argument : Bool) (made : Option Int)
  | lookup (i : Fin n) (query : String)
  | clear (i : Fin n)
  | setLimit (i : Fin n) (setting : Setting)
  | setPolicyLimit (i : Fin n) (setting : Setting)
  | setWithArguments (i : Fin n) (setting : Setting)
deriving DecidableEq

inductive Outcome (ν : Type) where
  | inserted (insertion : Cache.Insertion)
  | found (value : Option ν)
  | limited (victims : List Cache.Victim)
  | refused (fault : Setting.Fault)
  | done
deriving DecidableEq

variable {ν : Type} {n m : Nat}

def operate (pool : Pool ν n m) : Operation ν n → Outcome ν × Pool ν n m
  | .insert i query value argument made =>
      let result := pool.insert i query value argument made
      (.inserted result.1, result.2)
  | .lookup i query =>
      let result := pool.lookup i query
      (.found result.1, result.2)
  | .clear i => (.done, pool.clear i)
  | .setLimit i setting =>
      match pool.setLimit i setting with
      | .error fault => (.refused fault, pool)
      | .ok (victims, later) => (.limited victims, later)
  | .setPolicyLimit i setting =>
      match pool.setPolicyLimit i setting with
      | .error fault => (.refused fault, pool)
      | .ok later => (.done, later)
  | .setWithArguments i setting => (.done, pool.setWithArguments i setting)

def run (pool : Pool ν n m) : List (Operation ν n) → List (Outcome ν) × Pool ν n m
  | [] => ([], pool)
  | operation :: rest =>
      let step := pool.operate operation
      let following := step.2.run rest
      (step.1 :: following.1, following.2)

def Unshared (i : Fin n) (pool : Pool ν n m) : Prop :=
  ∀ j, pool.policyOf.get j = pool.policyOf.get i → j = i

instance (i : Fin n) (pool : Pool ν n m) : Decidable (pool.Unshared i) :=
  inferInstanceAs (Decidable (∀ j, pool.policyOf.get j = pool.policyOf.get i → j = i))

def Limited (i : Fin n) (pool : Pool ν n m) : Prop := (pool.cache i).size ≤ (pool.policy i).limit

theorem set_policy_apart (i j : Fin n) (policy : Policy) (pool : Pool ν n m)
    (apart : pool.policyOf.get i ≠ pool.policyOf.get j) : (pool.setPolicy i policy).policy j = pool.policy j := by
  rw [policy_set_policy, if_neg apart]

theorem operate_set_limit (i : Fin n) (setting : Setting) (pool : Pool ν n m) :
    pool.operate (.setLimit i setting) =
      match setting.toLimit with
      | .error fault => (.refused fault, pool)
      | .ok limit =>
          let shrunk := (pool.setPolicy i { pool.policy i with limit }).shrink i
          (.limited shrunk.1, shrunk.2) := by
  rw [operate, setLimit, setPolicyLimit, Policy.setLimit]
  cases setting.toLimit <;> rfl

theorem operate_set_policy_limit (i : Fin n) (setting : Setting) (pool : Pool ν n m) :
    pool.operate (.setPolicyLimit i setting) =
      match setting.toLimit with
      | .error fault => (.refused fault, pool)
      | .ok limit => (.done, pool.setPolicy i { pool.policy i with limit }) := by
  rw [operate, setPolicyLimit, Policy.setLimit]
  cases setting.toLimit <;> rfl

theorem set_cache_step (i j : Fin n) (cache : Cache ν) (pool : Pool ν n m)
    (step : (pool.cache i).Step (pool.policy i) cache) :
    (pool.cache j).Step (pool.policy j) ((pool.setCache i cache).cache j) := by
  apply set_cache_holds
  · rintro rfl
    exact step
  · exact fun _ => .keep

theorem operate_step (operation : Operation ν n) (j : Fin n) (pool : Pool ν n m) :
    (pool.cache j).Step ((pool.operate operation).2.policy j) ((pool.operate operation).2.cache j) := by
  cases operation with
  | insert i query value argument made =>
      exact set_cache_step i j _ pool (.insert query value argument made)
  | lookup i query => exact set_cache_step i j _ pool (.lookup query)
  | clear i => exact set_cache_step i j _ pool .clear
  | setLimit i setting =>
      rw [operate_set_limit]
      cases setting.toLimit with
      | error fault => exact .keep
      | ok limit => exact set_cache_step i j _ (pool.setPolicy i { pool.policy i with limit }) .shrink
  | setPolicyLimit i setting =>
      rw [operate_set_policy_limit]
      cases setting.toLimit <;> exact .keep
  | setWithArguments i setting => exact .keep

theorem operate_policy_of (operation : Operation ν n) (pool : Pool ν n m) :
    (pool.operate operation).2.policyOf = pool.policyOf := by
  cases operation with
  | insert | lookup | clear | setWithArguments => rfl
  | setLimit i setting =>
      rw [operate_set_limit]
      cases setting.toLimit <;> rfl
  | setPolicyLimit i setting =>
      rw [operate_set_policy_limit]
      cases setting.toLimit <;> rfl

theorem operate_limit (operation : Operation ν n) (j : Fin n) (pool : Pool ν n m)
    (apart : ∀ i setting, operation = .setLimit i setting ∨ operation = .setPolicyLimit i setting →
      pool.policyOf.get i ≠ pool.policyOf.get j) :
    ((pool.operate operation).2.policy j).limit = (pool.policy j).limit := by
  cases operation with
  | insert | lookup | clear => rfl
  | setLimit i setting =>
      rw [operate_set_limit]
      cases setting.toLimit with
      | error fault => rfl
      | ok limit => exact congrArg Policy.limit (set_policy_apart i j _ pool (apart i setting (.inl rfl)))
  | setPolicyLimit i setting =>
      rw [operate_set_policy_limit]
      cases setting.toLimit with
      | error fault => rfl
      | ok limit => exact congrArg Policy.limit (set_policy_apart i j _ pool (apart i setting (.inr rfl)))
  | setWithArguments i setting =>
      change ((pool.setPolicy i _).policy j).limit = _
      rw [policy_set_policy]
      split
      · rename_i same
        exact congrArg (fun k => (pool.policies.get k).limit) same
      · rfl

theorem operate_limited (operation : Operation ν n) (j : Fin n) (pool : Pool ν n m)
    (unshared : pool.Unshared j) (otherPolicy : ∀ setting, operation ≠ .setPolicyLimit j setting)
    (inStep : (pool.cache j).InStep) (limited : pool.Limited j) : (pool.operate operation).2.Limited j := by
  have step := operate_step operation j pool
  by_cases own : ∃ setting, operation = .setLimit j setting
  · obtain ⟨setting, rfl⟩ := own
    rw [operate_set_limit]
    cases setting.toLimit with
    | error fault => exact limited
    | ok limit =>
        let middle := pool.setPolicy j { pool.policy j with limit }
        change ((middle.setCache j _).cache j).size ≤ (middle.policy j).limit
        rw [set_cache_here]
        exact Cache.shrink_size _ (pool.cache j) inStep
  · have apart (i : Fin n) (setting : Setting)
        (sets : operation = .setLimit i setting ∨ operation = .setPolicyLimit i setting) :
        pool.policyOf.get i ≠ pool.policyOf.get j := by
      intro same
      obtain rfl := unshared i same
      rcases sets with rfl | rfl
      · exact own ⟨setting, rfl⟩
      · exact otherPolicy setting rfl
    have limit := operate_limit operation j pool apart
    exact Cache.step_size _ (pool.cache j) _ step inStep (limit ▸ limited)

end Pool

end Scpi
