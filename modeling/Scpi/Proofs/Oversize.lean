import Scpi.Proofs.Checked

set_option autoImplicit false

namespace Scpi

namespace Cache

variable {ν : Type}

-- A replaced value leaves the size as it was, and it is the only one that is stored and makes no room.
theorem stored_size_iff (policy : Policy) (query : String) (value : ν) (argument : Bool) (made : Option Int)
    (cache : Cache ν) (inStep : cache.InStep)
    (stored : (cache.insert policy query value argument made).1.stored = true) :
    (cache.insert policy query value argument made).2.size ≤ policy.limit ↔
      cache.contains query = false ∨ cache.size ≤ policy.limit := by
  obtain ⟨_, same⟩ | ⟨_, _, same⟩ | ⟨_, _, present, same⟩ | ⟨admitted, _, absent, same⟩ :=
    insert_cases policy query value argument made cache
  all_goals rw [same] at stored ⊢
  · cases stored
  · cases stored
  · have size := replace_size query value cache present
    change (cache.entries.insert query value).size ≤ policy.limit ↔ _
    simp only [size, present, Bool.true_eq_false, false_or]
  · have room := shrink_add_size policy query value argument cache inStep admitted
    exact ⟨fun _ => .inl absent, fun _ => room⟩

end Cache

namespace Pool

variable {ν : Type} {n m : Nat}

theorem insert_limited_iff (i : Fin n) (query : String) (value : ν) (argument : Bool) (made : Option Int)
    (pool : Pool ν n m) :
    (pool.insert i query value argument made).2.Limited i ↔
      ((pool.cache i).insert (pool.policy i) query value argument made).2.size ≤ (pool.policy i).limit := by
  change (((pool.setCache i _).cache i).size ≤ (pool.policy i).limit) ↔ _
  rw [set_cache_here]

theorem stored_limited_iff (policies : Vector Policy m) (policyOf : Vector (Fin m) n)
    (operations : List (Operation ν n)) (i : Fin n) (query : String) (value : ν) (argument : Bool)
    (made : Option Int) :
    let before := ((fresh policies policyOf : Pool ν n m).run operations).2
    let inserted := before.insert i query value argument made
    inserted.1.stored = true →
      (inserted.2.Limited i ↔ (before.cache i).contains query = false ∨ before.Limited i) := by
  intro before inserted stored
  have inStep := (run_in_step operations (fresh policies policyOf) (fresh_in_step policies policyOf)).2 i
  rw [insert_limited_iff]
  exact Cache.stored_size_iff (before.policy i) query value argument made (before.cache i) inStep stored

-- Three queries are in the first cache when the limit of the policy that both caches share is lowered to 1.
def lowered (i other : Fin 2) : List (Operation Nat 2) := [
  .insert i "A" 1 false none, .insert i "B" 2 false none, .insert i "C" 3 false none, .lookup i "B",
  .setPolicyLimit other (.whole 1)]

theorem new_query_within_lowered_limit :
    let before := ((fresh #v[⟨3, false⟩] #v[0, 0] : Pool Nat 2 1).run (lowered 0 1)).2
    let inserted := before.insert 0 "D" 4 false none
    inserted.1.stored = true ∧ ¬ before.Limited 0 ∧ inserted.2.Limited 0 := by
  intro before inserted
  have stored : inserted.1.stored = true := by decide +kernel
  have absent : (before.cache 0).contains "D" = false := by decide +kernel
  have above : ¬ before.Limited 0 := by
    rw [Limited]
    decide +kernel
  exact ⟨stored, above, (stored_limited_iff _ _ (lowered 0 1) 0 "D" 4 false none stored).mpr (.inl absent)⟩

theorem replaced_value_above_limit :
    ¬ ∀ (operations : List (Operation Nat 2)) (i : Fin 2) (query : String) (value : Nat) (argument : Bool)
      (made : Option Int),
      let before := ((fresh #v[⟨3, false⟩] #v[0, 0] : Pool Nat 2 1).run operations).2
      let inserted := before.insert i query value argument made
      inserted.1.stored = true → inserted.2.Limited i := by
  intro enforced
  have limited := enforced (lowered 0 1) 0 "B" 5 false none (by decide +kernel)
  rw [Limited] at limited
  revert limited
  decide +kernel

end Pool

end Scpi
