import Scpi.Proofs.Entries

set_option autoImplicit false

namespace Scpi

namespace Cache

variable {ν : Type}

def KeepsEntry (query : String) (cache later : Cache ν) : Prop :=
  ∀ value, later.entries.find? query = some value →
    cache.entries.find? query = some value ∧ later.uses.find? query = cache.uses.find? query

theorem keeps_entry_refl (query : String) (cache : Cache ν) : cache.KeepsEntry query cache :=
  fun _ found => ⟨found, rfl⟩

theorem keeps_entry_trans (query : String) (cache middle later : Cache ν)
    (first : cache.KeepsEntry query middle) (second : middle.KeepsEntry query later) :
    cache.KeepsEntry query later := by
  intro value found
  obtain ⟨between, secondUses⟩ := second value found
  obtain ⟨before, firstUses⟩ := first value between
  exact ⟨before, secondUses.trans firstUses⟩

theorem remove_keeps_entry (query other : String) (cache : Cache ν) :
    cache.KeepsEntry query (cache.remove other) := by
  intro value found
  change (cache.entries.erase other).find? query = some value at found
  change _ ∧ (cache.uses.erase other).find? query = _
  rw [Table.find_erase] at found
  by_cases same : other = query
  · rw [if_pos same] at found
    cases found
  · rw [if_neg same] at found
    rw [Table.find_erase, if_neg same]
    exact ⟨found, rfl⟩

theorem shrink_keeps_entry (query : String) (limit : Nat) (cache : Cache ν) :
    cache.KeepsEntry query (cache.shrink limit).2 := by
  fun_induction shrink limit cache with
  | case1 cache above stuck => exact keeps_entry_refl query cache
  | case2 cache above victim smaller evicted shrunk ih =>
      obtain ⟨found, _, same⟩ := Option.map_eq_some_iff.mp evicted
      cases same
      exact keeps_entry_trans query cache _ _ (remove_keeps_entry query victim.query cache) ih
  | case3 cache within => exact keeps_entry_refl query cache

theorem add_other_keeps_entry (query other : String) (value : ν) (cache : Cache ν) (different : other ≠ query) :
    cache.KeepsEntry query (cache.add other value) := by
  intro kept found
  change (cache.entries.insert other value).find? query = some kept at found
  change _ ∧ (cache.uses.insert other 1).find? query = _
  rw [Table.find_insert, if_neg different] at found
  rw [Table.find_insert, if_neg different]
  exact ⟨found, rfl⟩

-- Only the entry of the query that is inserted may change, and its counter only where it is new.
theorem insert_entry (policy : Policy) (query other : String) (offered value : ν) (argument : Bool)
    (made : Option Int) (cache : Cache ν) :
    let result := cache.insert policy query offered argument made
    result.2.entries.find? other = some value →
      (query = other ∧ (∃ victims, result.1 = .added victims) ∧ value = offered ∧
        result.2.uses.find? other = some 1) ∨
      (query = other ∧ result.1 = .replaced ∧ value = offered ∧ cache.contains other = true ∧
        result.2.uses.find? other = cache.uses.find? other) ∨
      ((query = other → result.1.stored = false) ∧ cache.entries.find? other = some value ∧
        result.2.uses.find? other = cache.uses.find? other) := by
  intro result found
  obtain ⟨_, same⟩ | ⟨_, _, same⟩ | ⟨_, _, present, same⟩ | ⟨_, _, _, same⟩ :=
    insert_cases policy query offered argument made cache
  · rw [show result = _ from same] at found ⊢
    exact .inr (.inr ⟨fun _ => rfl, found, rfl⟩)
  · rw [show result = _ from same] at found ⊢
    exact .inr (.inr ⟨fun _ => rfl, found, rfl⟩)
  · rw [show result = _ from same] at found ⊢
    change (cache.entries.insert query offered).find? other = some value at found
    rw [Table.find_insert] at found
    by_cases own : query = other
    · rw [if_pos own] at found
      exact .inr (.inl ⟨own, rfl, (Option.some.inj found).symm, own ▸ present, rfl⟩)
    · rw [if_neg own] at found
      exact .inr (.inr ⟨fun same => absurd same own, found, rfl⟩)
  · rw [show result = _ from same] at found ⊢
    let room := (cache.shrink (policy.limit - 1)).2
    by_cases own : query = other
    · have entry : (room.add query offered).entries.find? other = some offered := by
        rw [add, Table.find_insert, if_pos own]
      have counter : (room.add query offered).uses.find? other = some 1 := by
        rw [add, Table.find_insert, if_pos own]
      exact .inl ⟨own, ⟨_, rfl⟩, Option.some.inj (found.symm.trans entry), counter⟩
    · have kept := keeps_entry_trans other cache room (room.add query offered)
        (shrink_keeps_entry other _ cache) (add_other_keeps_entry other query offered room own)
      exact .inr (.inr ⟨fun same => absurd same own, kept value found⟩)

theorem lookup_entries (policy : Policy) (query : String) (cache : Cache ν) :
    (cache.lookup policy query).2.entries = cache.entries :=
  congrArg Table.mk (lookup_rows policy query cache)

theorem lookup_uses (policy : Policy) (query other : String) (cache : Cache ν) :
    (cache.lookup policy query).2.uses.find? other =
      if query = other ∧ (cache.lookup policy query).1.isSome then (cache.uses.find? other).map (· + 1)
      else cache.uses.find? other := by
  rw [lookup]
  split
  · cases cache.entries.find? query with
    | none => simp
    | some value => simp [Table.find_modify]
  · simp

theorem lookup_missed (policy : Policy) (query : String) (cache : Cache ν)
    (missed : (cache.lookup policy query).1 = none) : (cache.lookup policy query).2 = cache := by
  rw [lookup] at missed ⊢
  split
  · rename_i enabled
    rw [if_pos enabled] at missed
    cases present : cache.entries.find? query with
    | none => rfl
    | some value =>
        rw [present] at missed
        cases missed
  · rfl

end Cache

theorem Pool.lookup_missed {ν : Type} {n m : Nat} (i : Fin n) (query : String) (pool : Pool ν n m)
    (missed : (pool.lookup i query).1 = none) : (pool.lookup i query).2 = pool := by
  have cache := Cache.lookup_missed (pool.policy i) query (pool.cache i) missed
  rw [lookup, cache, set_cache_self]

end Scpi
