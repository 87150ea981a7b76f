import Scpi.Proofs.Entries

set_option autoImplicit false

namespace Scpi

theorem Policy.admits_limit (policy : Policy) (argument : Bool) (admitted : policy.admits argument = true) :
    0 < policy.limit :=
  of_decide_eq_true (Bool.and_eq_true_iff.mp admitted).1

namespace Cache

variable {ν : Type}

structure InStep (cache : Cache ν) : Prop where
  keys : cache.uses.keys = cache.entries.keys
  distinct : cache.entries.keys.Nodup
  counted : ∀ row ∈ cache.uses.rows, 1 ≤ row.2

theorem blank_in_step (generation : Nat) : (⟨Table.empty, Table.empty, generation⟩ : Cache ν).InStep where
  keys := rfl
  distinct := List.nodup_nil
  counted := by
    intro row none
    cases none

theorem lookup_in_step (policy : Policy) (query : String) (cache : Cache ν) (inStep : cache.InStep) :
    (cache.lookup policy query).2.InStep := by
  unfold lookup
  split
  · split
    · refine ⟨(Table.keys_modify cache.uses query _).trans inStep.keys, inStep.distinct, ?_⟩
      intro row member
      obtain ⟨before, old, rfl⟩ := List.mem_map.mp member
      have counted := inStep.counted before old
      by_cases hit : before.1 = query
      · rw [if_pos hit]
        exact Nat.le_add_left 1 before.2
      · rw [if_neg hit]
        exact counted
    · exact inStep
  · exact inStep

theorem remove_in_step (query : String) (cache : Cache ν) (inStep : cache.InStep) :
    (cache.remove query).InStep where
  keys := by
    change (cache.uses.erase query).keys = (cache.entries.erase query).keys
    rw [Table.keys_erase, Table.keys_erase, inStep.keys]
  distinct := by
    change (cache.entries.erase query).keys.Nodup
    rw [Table.keys_erase]
    exact inStep.distinct.filter _
  counted := fun row member => inStep.counted row (List.mem_filter.mp member).1

theorem evict_in_step (cache smaller : Cache ν) (victim : Victim)
    (evicted : cache.evict? = some (victim, smaller)) (inStep : cache.InStep) : smaller.InStep := by
  obtain ⟨found, _, same⟩ := Option.map_eq_some_iff.mp evicted
  cases same
  exact remove_in_step victim.query cache inStep

theorem shrink_in_step (limit : Nat) (cache : Cache ν) (inStep : cache.InStep) :
    (cache.shrink limit).2.InStep := by
  fun_induction shrink limit cache with
  | case1 cache above none => exact inStep
  | case2 cache above victim smaller evicted shrunk ih =>
      exact ih (evict_in_step cache smaller victim evicted inStep)
  | case3 cache within => exact inStep

theorem add_in_step (query : String) (value : ν) (cache : Cache ν) (inStep : cache.InStep) :
    (cache.add query value).InStep where
  keys := by
    change (cache.uses.insert query 1).keys = (cache.entries.insert query value).keys
    rw [Table.keys_insert, Table.keys_insert, inStep.keys]
  distinct := Table.insert_distinct cache.entries query value inStep.distinct
  counted := by
    intro row member
    rcases Table.put_member query 1 cache.uses.rows row member with old | rfl
    · exact inStep.counted row old
    · exact Nat.le_refl 1

theorem replace_keys (query : String) (value : ν) (cache : Cache ν) (present : cache.contains query = true) :
    (cache.entries.insert query value).keys = cache.entries.keys := by
  rw [Table.keys_insert, if_pos ((Table.contains_iff cache.entries query).mp present)]

theorem insert_in_step (policy : Policy) (query : String) (value : ν) (argument : Bool) (made : Option Int)
    (cache : Cache ν) (inStep : cache.InStep) :
    (cache.insert policy query value argument made).2.InStep := by
  obtain ⟨_, same⟩ | ⟨_, _, same⟩ | ⟨_, _, present, same⟩ | ⟨_, _, _, same⟩ :=
    insert_cases policy query value argument made cache
  all_goals rw [same]
  · exact inStep
  · exact inStep
  · have keys := replace_keys query value cache present
    exact ⟨inStep.keys.trans keys.symm, keys ▸ inStep.distinct, inStep.counted⟩
  · exact add_in_step query value _ (shrink_in_step _ cache inStep)

theorem uses_size (cache : Cache ν) (inStep : cache.InStep) : cache.uses.size = cache.size := by
  rw [size, ← Table.size_keys, ← Table.size_keys, inStep.keys]

-- Where there is an entry there is a counter, so one of them is the least.
theorem evict_ne_none (cache : Cache ν) (inStep : cache.InStep) (entries : 0 < cache.size) :
    cache.evict? ≠ none := by
  rw [ne_eq, evict_none_iff]
  intro empty
  have size := uses_size cache inStep
  rw [Table.size, empty] at size
  rw [← size] at entries
  cases entries

theorem shrink_size (limit : Nat) (cache : Cache ν) (inStep : cache.InStep) :
    (cache.shrink limit).2.size ≤ limit := by
  fun_induction shrink limit cache with
  | case1 cache above stuck => exact absurd stuck (evict_ne_none cache inStep (Nat.zero_lt_of_lt above))
  | case2 cache above victim smaller evicted shrunk ih =>
      exact ih (evict_in_step cache smaller victim evicted inStep)
  | case3 cache within => exact Nat.le_of_not_lt within

theorem add_size (query : String) (value : ν) (cache : Cache ν) :
    (cache.add query value).size ≤ cache.size + 1 := by
  change (cache.entries.insert query value).size ≤ cache.entries.size + 1
  rw [Table.insert_size]
  split
  · exact Nat.le_succ _
  · exact Nat.le_refl _

theorem replace_size (query : String) (value : ν) (cache : Cache ν) (present : cache.contains query = true) :
    (cache.entries.insert query value).size = cache.size := by
  rw [size, ← Table.size_keys, replace_keys query value cache present, Table.size_keys]

theorem shrink_add_size (policy : Policy) (query : String) (value : ν) (argument : Bool) (cache : Cache ν)
    (inStep : cache.InStep) (admitted : policy.admits argument = true) :
    ((cache.shrink (policy.limit - 1)).2.add query value).size ≤ policy.limit := by
  have enabled := Policy.admits_limit policy argument admitted
  have room := shrink_size (policy.limit - 1) cache inStep
  have added := add_size query value (cache.shrink (policy.limit - 1)).2
  omega

theorem insert_size (policy : Policy) (query : String) (value : ν) (argument : Bool) (made : Option Int)
    (cache : Cache ν) (inStep : cache.InStep) (within : cache.size ≤ policy.limit) :
    (cache.insert policy query value argument made).2.size ≤ policy.limit := by
  obtain ⟨_, same⟩ | ⟨_, _, same⟩ | ⟨_, _, present, same⟩ | ⟨admitted, _, _, same⟩ :=
    insert_cases policy query value argument made cache
  all_goals rw [same]
  · exact within
  · exact within
  · exact Nat.le_trans (Nat.le_of_eq (replace_size query value cache present)) within
  · exact shrink_add_size policy query value argument cache inStep admitted

end Cache

end Scpi
