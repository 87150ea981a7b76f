import Scpi.Proofs.Ranking
import Scpi.Proofs.Uses

set_option autoImplicit false

namespace Scpi

namespace Cache

variable {ν : Type}

-- The entries that have been used again are still there with their values and counters, but for one query
-- at most.
def KeepsReused (lost : Option String) (cache later : Cache ν) : Prop :=
  ∀ query value uses, cache.entries.find? query = some value → cache.uses.find? query = some uses → 2 ≤ uses →
    lost ≠ some query → later.entries.find? query = some value ∧ later.uses.find? query = some uses

def HasSpare (limit : Nat) (cache : Cache ν) : Prop :=
  cache.size < limit ∨ ∃ query, cache.uses.find? query = some 1

theorem keeps_reused_refl (lost : Option String) (cache : Cache ν) : cache.KeepsReused lost cache :=
  fun _ _ _ entry counter _ _ => ⟨entry, counter⟩

theorem keeps_reused_all (lost : Option String) (cache later : Cache ν) (keeps : cache.KeepsReused none later) :
    cache.KeepsReused lost later :=
  fun query value uses entry counter reused _ => keeps query value uses entry counter reused (by simp)

theorem keeps_reused_trans (lost : Option String) (cache middle later : Cache ν)
    (first : cache.KeepsReused lost middle) (second : middle.KeepsReused lost later) :
    cache.KeepsReused lost later := by
  intro query value uses entry counter reused other
  obtain ⟨entryLater, counterLater⟩ := first query value uses entry counter reused other
  exact second query value uses entryLater counterLater reused other

theorem remove_keeps_reused (query : String) (cache : Cache ν) :
    cache.KeepsReused (some query) (cache.remove query) := by
  intro other value uses entry counter _ different
  have apart : query ≠ other := fun same => different (congrArg some same)
  change (cache.entries.erase query).find? other = _ ∧ (cache.uses.erase query).find? other = _
  rw [Table.find_erase, if_neg apart, Table.find_erase, if_neg apart]
  exact ⟨entry, counter⟩

theorem remove_unused_keeps_reused (query : String) (uses : Nat) (cache : Cache ν)
    (counter : cache.uses.find? query = some uses) (unused : uses ≤ 1) :
    cache.KeepsReused none (cache.remove query) := by
  intro other value count entry found reused _
  refine remove_keeps_reused query cache other value count entry found reused ?_
  intro same
  rw [← Option.some.inj same, counter] at found
  cases found
  omega

theorem add_keeps_reused (query : String) (value : ν) (cache : Cache ν) (absent : cache.contains query = false) :
    cache.KeepsReused none (cache.add query value) := by
  intro other stored uses entry counter _ _
  have apart : query ≠ other := by
    rintro rfl
    rw [contains, Table.contains, entry] at absent
    cases absent
  change (cache.entries.insert query value).find? other = _ ∧ (cache.uses.insert query 1).find? other = _
  rw [Table.find_insert, if_neg apart, Table.find_insert, if_neg apart]
  exact ⟨entry, counter⟩

theorem add_has_spare (limit : Nat) (query : String) (value : ν) (cache : Cache ν) :
    (cache.add query value).HasSpare limit := by
  refine .inr ⟨query, ?_⟩
  change (cache.uses.insert query 1).find? query = some 1
  rw [Table.find_insert, if_pos rfl]

theorem ranking_front (cache : Cache ν) (inStep : cache.InStep) (victim : Victim) (rest : List Victim)
    (order : cache.ranking = victim :: rest) :
    cache.uses.find? victim.query = some victim.uses ∧
      ∀ query uses, cache.uses.find? query = some uses → victim.uses ≤ uses := by
  have keys : cache.uses.rows.map Prod.fst = cache.entries.keys := inStep.keys
  have distinct : (cache.uses.rows.map Prod.fst).Nodup := keys ▸ inStep.distinct
  have ordered := ranked_precedes cache.uses.rows
  rw [← ranking, order] at ordered
  have ranked (other : Victim) : other ∈ victim :: rest ↔ other ∈ cache.uses.rows.map .ofRow := by
    rw [← order]
    exact (ranked_perm cache.uses.rows).mem_iff
  constructor
  · obtain ⟨row, member, rfl⟩ := List.mem_map.mp ((ranked victim).mp List.mem_cons_self)
    exact Table.lookup_of_member row.1 row.2 _ distinct member
  · intro query uses counter
    have member := List.mem_map_of_mem (f := Victim.ofRow) (Table.lookup_member query _ uses counter)
    rcases List.mem_cons.mp ((ranked _).mpr member) with same | later
    · exact Nat.le_of_eq (congrArg Victim.uses same).symm
    · rcases (List.pairwise_cons.mp ordered).1 _ later with less | tie
      · exact Nat.le_of_lt less
      · exact Nat.le_of_eq tie.1

theorem shrink_one (limit : Nat) (cache : Cache ν) (inStep : cache.InStep) (above : cache.size = limit + 1) :
    ∃ victim : Victim, cache.uses.find? victim.query = some victim.uses ∧
      (∀ query uses, cache.uses.find? query = some uses → victim.uses ≤ uses) ∧
      (cache.shrink limit).2 = cache.remove victim.query := by
  have length := ranking_length cache inStep
  cases order : cache.ranking with
  | nil =>
      rw [order, above] at length
      cases length
  | cons victim rest =>
      obtain ⟨counter, least⟩ := ranking_front cache inStep victim rest order
      refine ⟨victim, counter, least, ?_⟩
      rw [shrink_ranking limit cache inStep, above, Nat.add_sub_cancel_left, order, List.take_succ_cons,
        List.take_zero, ← without_cons, without_none]

theorem shrink_keeps_reused (limit : Nat) (cache : Cache ν) (inStep : cache.InStep)
    (within : cache.size ≤ limit) (enabled : 0 < limit) :
    ∃ lost, cache.KeepsReused lost (cache.shrink (limit - 1)).2 ∧ (cache.HasSpare limit → lost = none) := by
  by_cases room : cache.size ≤ limit - 1
  · rw [shrink, if_neg (Nat.not_lt_of_le room)]
    exact ⟨none, keeps_reused_refl none cache, fun _ => rfl⟩
  · obtain ⟨victim, counter, least, same⟩ := shrink_one (limit - 1) cache inStep (by omega)
    rw [same]
    by_cases unused : victim.uses ≤ 1
    · exact ⟨none, remove_unused_keeps_reused victim.query victim.uses cache counter unused, fun _ => rfl⟩
    · refine ⟨some victim.query, remove_keeps_reused victim.query cache, ?_⟩
      rintro (smaller | ⟨query, once⟩)
      · omega
      · exact absurd (least query 1 once) unused

theorem shrink_absent (limit : Nat) (query : String) (cache : Cache ν) (absent : cache.contains query = false) :
    (cache.shrink limit).2.contains query = false := by
  apply Bool.eq_false_iff.mpr
  intro present
  obtain ⟨value, found⟩ := Option.isSome_iff_exists.mp present
  have entry := (shrink_keeps_entry query limit cache value found).1
  rw [contains, Table.contains, entry] at absent
  cases absent

-- What a step from one state of the cache to the next may cost. An entry that had been used again is lost only
-- for a newcomer that goes before all others of that kind.
structure Costs (limit : Nat) (lost : Option String) (cache later : Cache ν) : Prop where
  keeps : cache.KeepsReused lost later
  spares : cache.HasSpare limit → lost = none ∧ later.HasSpare limit
  fills : lost ≠ none → later.HasSpare limit

theorem costs_nothing (limit : Nat) (cache : Cache ν) : Costs limit none cache cache where
  keeps := keeps_reused_refl none cache
  spares := fun spare => ⟨rfl, spare⟩
  fills := fun lost => absurd rfl lost

theorem insert_costs (policy : Policy) (query : String) (value : ν) (argument : Bool) (made : Option Int)
    (cache : Cache ν) (inStep : cache.InStep) (within : cache.size ≤ policy.limit)
    (absent : cache.contains query = false) :
    ∃ lost, Costs policy.limit lost cache (cache.insert policy query value argument made).2 := by
  obtain ⟨_, same⟩ | ⟨_, _, same⟩ | ⟨_, _, present, _⟩ | ⟨admitted, _, _, same⟩ :=
    insert_cases policy query value argument made cache
  · exact ⟨none, same ▸ costs_nothing policy.limit cache⟩
  · exact ⟨none, same ▸ costs_nothing policy.limit cache⟩
  · rw [absent] at present
    cases present
  · have enabled := Policy.admits_limit policy argument admitted
    obtain ⟨lost, kept, spares⟩ := shrink_keeps_reused policy.limit cache inStep within enabled
    have added := add_keeps_reused query value _ (shrink_absent (policy.limit - 1) query cache absent)
    have filled := add_has_spare policy.limit query value (cache.shrink (policy.limit - 1)).2
    rw [same]
    exact ⟨lost, keeps_reused_trans lost cache _ _ kept (keeps_reused_all lost _ _ added),
      fun spare => ⟨spares spare, filled⟩, fun _ => filled⟩

end Cache

namespace Pool

variable {ν : Type} {n m : Nat}

-- One-time traffic of a cache: what is offered to it is new to it, nothing is found in it, and it is not cleared
-- and keeps its limit. Other caches may do as they like.
def OneTime (i : Fin n) (pool : Pool ν n m) : Operation ν n → Prop
  | .insert j query _ _ _ => j = i → (pool.cache i).contains query = false
  | .lookup j query => j = i → (pool.lookup i query).1.isNone = true
  | .clear j => j ≠ i
  | .setLimit j _ | .setPolicyLimit j _ => pool.policyOf.get j ≠ pool.policyOf.get i
  | .setWithArguments _ _ => True

def OneTimeOnly (i : Fin n) (pool : Pool ν n m) : List (Operation ν n) → Prop
  | [] => True
  | operation :: rest => pool.OneTime i operation ∧ (pool.operate operation).2.OneTimeOnly i rest

instance (i : Fin n) (pool : Pool ν n m) : (operation : Operation ν n) → Decidable (pool.OneTime i operation)
  | .insert j query _ _ _ => inferInstanceAs (Decidable (j = i → (pool.cache i).contains query = false))
  | .lookup j query => inferInstanceAs (Decidable (j = i → (pool.lookup i query).1.isNone = true))
  | .clear j => inferInstanceAs (Decidable (j ≠ i))
  | .setLimit j _ | .setPolicyLimit j _ =>
      inferInstanceAs (Decidable (pool.policyOf.get j ≠ pool.policyOf.get i))
  | .setWithArguments _ _ => .isTrue trivial

instance decideOneTimeOnly (i : Fin n) :
    (pool : Pool ν n m) → (operations : List (Operation ν n)) → Decidable (pool.OneTimeOnly i operations)
  | _, [] => .isTrue trivial
  | pool, operation :: rest =>
      have := decideOneTimeOnly i (pool.operate operation).2 rest
      inferInstanceAs (Decidable (pool.OneTime i operation ∧ (pool.operate operation).2.OneTimeOnly i rest))

theorem one_time_limit (operation : Operation ν n) (i : Fin n) (pool : Pool ν n m)
    (oneTime : pool.OneTime i operation) :
    ((pool.operate operation).2.policy i).limit = (pool.policy i).limit := by
  apply operate_limit
  rintro j setting (rfl | rfl)
  · exact oneTime
  · exact oneTime

theorem set_cache_costs (i j : Fin n) (limit : Nat) (cache : Cache ν) (pool : Pool ν n m)
    (own : j = i → ∃ lost, Cache.Costs limit lost (pool.cache i) cache) :
    ∃ lost, Cache.Costs limit lost (pool.cache i) ((pool.setCache j cache).cache i) := by
  apply set_cache_holds fun later => ∃ lost, Cache.Costs limit lost (pool.cache i) later
  · exact own
  · exact fun _ => ⟨none, Cache.costs_nothing limit (pool.cache i)⟩

theorem one_time_costs (operation : Operation ν n) (i : Fin n) (pool : Pool ν n m)
    (inStep : (pool.cache i).InStep) (limited : pool.Limited i) (oneTime : pool.OneTime i operation) :
    ∃ lost, Cache.Costs (pool.policy i).limit lost (pool.cache i) ((pool.operate operation).2.cache i) := by
  have nothing := Cache.costs_nothing (pool.policy i).limit (pool.cache i)
  cases operation with
  | insert j query value argument made =>
      apply set_cache_costs
      rintro rfl
      exact Cache.insert_costs (pool.policy j) query value argument made _ inStep limited (oneTime rfl)
  | lookup j query =>
      apply set_cache_costs
      rintro rfl
      have missed := Option.isNone_iff_eq_none.mp (oneTime rfl)
      exact ⟨none, (Cache.lookup_missed (pool.policy j) query (pool.cache j) missed).symm ▸ nothing⟩
  | clear j => exact set_cache_costs i j _ _ pool fun own => absurd own oneTime
  | setLimit j setting =>
      have apart : j ≠ i := fun same => oneTime (congrArg pool.policyOf.get same)
      rw [operate_set_limit]
      cases setting.toLimit with
      | error fault => exact ⟨none, nothing⟩
      | ok limit =>
          let middle := pool.setPolicy j { pool.policy j with limit }
          exact set_cache_costs i j _ _ middle fun own => absurd own apart
  | setPolicyLimit j setting =>
      rw [operate_set_policy_limit]
      cases setting.toLimit <;> exact ⟨none, nothing⟩
  | setWithArguments j setting => exact ⟨none, nothing⟩

-- Once a newcomer has cost such an entry it is there to go first, so no other newcomer costs one.
theorem run_keeps_reused (newcomers : List (Operation ν n)) (i : Fin n) (pool : Pool ν n m)
    (inStep : (pool.cache i).InStep) (limited : pool.Limited i) (oneTime : pool.OneTimeOnly i newcomers) :
    ∃ lost, ((pool.cache i).HasSpare (pool.policy i).limit → lost = none) ∧
      ∀ done, done <+: newcomers → (pool.cache i).KeepsReused lost ((pool.run done).2.cache i) := by
  induction newcomers generalizing pool with
  | nil =>
      refine ⟨none, fun _ => rfl, ?_⟩
      intro done already
      rw [List.prefix_nil.mp already]
      exact Cache.keeps_reused_refl none (pool.cache i)
  | cons operation rest ih =>
      obtain ⟨first, others⟩ := oneTime
      have limit := one_time_limit operation i pool first
      have step := operate_step operation i pool
      have stepped := Cache.step_in_step _ _ _ step inStep
      have within := Cache.step_size _ _ _ step inStep (limit ▸ limited)
      obtain ⟨own, costs⟩ := one_time_costs operation i pool inStep limited first
      obtain ⟨later, spares, kept⟩ := ih (pool.operate operation).2 stepped within others
      rw [limit] at spares
      refine ⟨own.or later, ?_, ?_⟩
      · intro spare
        obtain ⟨rfl, filled⟩ := costs.spares spare
        exact spares filled
      · have keeps : (pool.cache i).KeepsReused (own.or later) ((pool.operate operation).2.cache i) ∧
            ∀ done, done <+: rest → Cache.KeepsReused (own.or later) ((pool.operate operation).2.cache i)
              (((pool.operate operation).2.run done).2.cache i) := by
          cases own with
          | none => exact ⟨Cache.keeps_reused_all _ _ _ costs.keeps, kept⟩
          | some query =>
              obtain rfl := spares (costs.fills (by simp))
              exact ⟨costs.keeps, fun done already => Cache.keeps_reused_all _ _ _ (kept done already)⟩
        intro done already
        rcases List.prefix_cons_iff.mp already with rfl | ⟨following, rfl, inside⟩
        · exact Cache.keeps_reused_refl _ (pool.cache i)
        · exact Cache.keeps_reused_trans _ _ _ _ keeps.1 (keeps.2 following inside)

theorem reused_entries_outlast (policies : Vector Policy m) (policyOf : Vector (Fin m) n)
    (operations newcomers : List (Operation ν n)) (i : Fin n) :
    let before := ((fresh policies policyOf : Pool ν n m).run operations).2
    let cache := before.cache i
    before.Limited i → before.OneTimeOnly i newcomers → ∃ lost : Option String,
      (∀ done, done <+: newcomers →
        let later := (before.run done).2.cache i
        ∀ query value uses, cache.entries.find? query = some value → cache.uses.find? query = some uses →
          2 ≤ uses → lost ≠ some query →
            later.entries.find? query = some value ∧ later.uses.find? query = some uses) ∧
      (cache.size < (before.policy i).limit ∨ (∃ query, cache.uses.find? query = some 1) → lost = none) := by
  intro before cache limited oneTime
  have inStep : cache.InStep :=
    (run_in_step operations (fresh policies policyOf) (fresh_in_step policies policyOf)).2 i
  obtain ⟨lost, spares, kept⟩ := run_keeps_reused newcomers i before inStep limited oneTime
  exact ⟨lost, kept, spares⟩

def reusedThrice (i : Fin 2) : List (Operation Nat 2) := [
  .insert i "A" 1 false none, .insert i "B" 2 false none, .insert i "C" 3 false none, .lookup i "C",
  .lookup i "A", .lookup i "B", .lookup i "A"]

-- The query that has been lost comes again, as a newcomer.
def passingBy (i other : Fin 2) : List (Operation Nat 2) := [
  .insert i "D" 4 false none, .lookup i "B", .insert i "E" 5 true none, .setWithArguments other (.flag true),
  .insert i "E" 5 true (some 0), .clear other, .insert i "B" 6 false none, .insert i "F" 7 true none]

theorem two_of_three_outlast :
    let before := ((fresh #v[⟨3, false⟩] #v[0, 0] : Pool Nat 2 1).run (reusedThrice 0)).2
    let later := ((before.run (passingBy 0 1)).2.cache 0)
    before.Limited 0 ∧ before.OneTimeOnly 0 (passingBy 0 1) ∧
      (before.cache 0).uses.rows = [("A", 3), ("B", 2), ("C", 2)] ∧
      later.uses.rows = [("A", 3), ("C", 2), ("F", 1)] ∧
      (later.entries.find? "A" = some 1 ∧ later.uses.find? "A" = some 3) ∧
      (later.entries.find? "C" = some 3 ∧ later.uses.find? "C" = some 2) := by
  intro before later
  have limited : before.Limited 0 := by
    rw [Limited]
    decide +kernel
  have oneTime : before.OneTimeOnly 0 (passingBy 0 1) := by decide +kernel
  have counters : later.uses.rows = [("A", 3), ("C", 2), ("F", 1)] := by decide +kernel
  obtain ⟨lost, kept, _⟩ := reused_entries_outlast _ _ (reusedThrice 0) (passingBy 0 1) 0 limited oneTime
  have ended := kept (passingBy 0 1) (List.prefix_refl _)
  -- The second entry has gone, so it is the one that was lost.
  have cost : lost = some "B" := by
    apply Classical.byContradiction
    intro other
    have stays : later.uses.find? "B" = some 2 :=
      (ended "B" 2 2 (by decide +kernel) (by decide +kernel) (by decide) other).2
    rw [Table.find?, counters] at stays
    revert stays
    decide
  refine ⟨limited, oneTime, by decide +kernel, counters, ?_, ?_⟩
  · exact ended "A" 1 3 (by decide +kernel) (by decide +kernel) (by decide) (by simp [cost])
  · exact ended "C" 3 2 (by decide +kernel) (by decide +kernel) (by decide) (by simp [cost])

end Pool

end Scpi
