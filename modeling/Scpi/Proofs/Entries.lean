import Scpi.Pool

set_option autoImplicit false

namespace Scpi

theorem vector_get_set {α : Type} {n : Nat} (values : Vector α n) (i j : Fin n) (value : α) :
    (values.set i value i.isLt).get j = if i = j then value else values.get j := by
  change (values.set i value i.isLt)[j.val] = _
  rw [Vector.getElem_set]
  by_cases same : i = j
  · rw [if_pos (congrArg Fin.val same), if_pos same]
  · rw [if_neg (fun value => same (Fin.ext value)), if_neg same]
    rfl

namespace Cache

variable {ν : Type}

def rows (cache : Cache ν) : List (String × ν) := cache.entries.rows

theorem lookup_rows (policy : Policy) (query : String) (cache : Cache ν) :
    (cache.lookup policy query).2.rows = cache.rows := by
  unfold lookup
  split
  · split <;> rfl
  · rfl

theorem lookup_value (policy : Policy) (query : String) (cache : Cache ν) (value : ν)
    (found : (cache.lookup policy query).1 = some value) : cache.entries.find? query = some value := by
  rw [lookup] at found
  split at found
  · cases present : cache.entries.find? query with
    | none =>
        rw [present] at found
        cases found
    | some stored =>
        rw [present] at found
        exact found
  · cases found

theorem lookup_found (policy : Policy) (query : String) (cache : Cache ν) (value : ν)
    (found : (cache.lookup policy query).1 = some value) : (query, value) ∈ cache.rows :=
  Table.lookup_member query cache.entries.rows value (lookup_value policy query cache value found)

theorem evict_rows (cache smaller : Cache ν) (victim : Victim)
    (evicted : cache.evict? = some (victim, smaller)) (row : String × ν) (member : row ∈ smaller.rows) :
    row ∈ cache.rows := by
  obtain ⟨found, _, same⟩ := Option.map_eq_some_iff.mp evicted
  cases same
  exact (List.mem_filter.mp member).1

theorem shrink_rows (limit : Nat) (cache : Cache ν) (row : String × ν)
    (member : row ∈ (cache.shrink limit).2.rows) : row ∈ cache.rows := by
  fun_induction shrink limit cache with
  | case1 cache above none => exact member
  | case2 cache above victim smaller evicted shrunk ih => exact evict_rows _ _ _ evicted row (ih member)
  | case3 cache within => exact member

-- An insertion does one of four things, and what is true of the cache and the policy tells which.
theorem insert_cases (policy : Policy) (query : String) (value : ν) (argument : Bool) (made : Option Int)
    (cache : Cache ν) :
    (policy.admits argument = false ∧
      cache.insert policy query value argument made = (.refused, cache)) ∨
    (policy.admits argument = true ∧ made.any (· ≠ (cache.generation : Int)) = true ∧
      cache.insert policy query value argument made = (.stale, cache)) ∨
    (policy.admits argument = true ∧ made.any (· ≠ (cache.generation : Int)) = false ∧
      cache.contains query = true ∧ cache.insert policy query value argument made =
        (.replaced, { cache with entries := cache.entries.insert query value })) ∨
    (policy.admits argument = true ∧ made.any (· ≠ (cache.generation : Int)) = false ∧
      cache.contains query = false ∧ cache.insert policy query value argument made =
        (.added (cache.shrink (policy.limit - 1)).1,
          (cache.shrink (policy.limit - 1)).2.add query value)) := by
  cases admitted : policy.admits argument with
  | false => exact .inl ⟨rfl, by simp only [insert, admitted, Bool.not_false, if_true]⟩
  | true =>
      cases late : made.any (· ≠ (cache.generation : Int)) with
      | true =>
          refine .inr (.inl ⟨rfl, rfl, ?_⟩)
          rw [insert, admitted, late]
          rfl
      | false =>
          cases present : cache.contains query with
          | true =>
              refine .inr (.inr (.inl ⟨rfl, rfl, rfl, ?_⟩))
              rw [insert, admitted, late, present]
              rfl
          | false =>
              refine .inr (.inr (.inr ⟨rfl, rfl, rfl, ?_⟩))
              rw [insert, admitted, late, present]
              rfl

theorem insert_rows (policy : Policy) (query : String) (value : ν) (argument : Bool) (made : Option Int)
    (cache : Cache ν) (row : String × ν)
    (member : row ∈ (cache.insert policy query value argument made).2.rows) :
    row ∈ cache.rows ∨ row = (query, value) ∧ policy.admits argument = true := by
  obtain ⟨_, same⟩ | ⟨_, _, same⟩ | ⟨admitted, _, _, same⟩ | ⟨admitted, _, _, same⟩ :=
    insert_cases policy query value argument made cache
  all_goals rw [same] at member
  · exact .inl member
  · exact .inl member
  · exact (Table.put_member query value _ row member).imp_right fun fresh => ⟨fresh, admitted⟩
  · rcases Table.put_member query value _ row member with kept | fresh
    · exact .inl (shrink_rows _ cache row kept)
    · exact .inr ⟨fresh, admitted⟩

end Cache

namespace Pool

variable {ν : Type} {n m : Nat}

theorem fresh_cache (policies : Vector Policy m) (policyOf : Vector (Fin m) n) (i : Fin n) :
    (fresh policies policyOf : Pool ν n m).cache i = Cache.empty := by
  change (Vector.replicate n Cache.empty)[i.val] = Cache.empty
  exact Vector.getElem_replicate _

theorem policy_set_policy (i j : Fin n) (policy : Policy) (pool : Pool ν n m) :
    (pool.setPolicy i policy).policy j =
      if pool.policyOf.get i = pool.policyOf.get j then policy else pool.policy j :=
  vector_get_set pool.policies (pool.policyOf.get i) (pool.policyOf.get j) policy

theorem cache_set_cache (i j : Fin n) (cache : Cache ν) (pool : Pool ν n m) :
    (pool.setCache i cache).cache j = if i = j then cache else pool.cache j :=
  vector_get_set pool.caches i j cache

theorem set_cache_here (i : Fin n) (cache : Cache ν) (pool : Pool ν n m) :
    (pool.setCache i cache).cache i = cache := by
  rw [cache_set_cache, if_pos rfl]

theorem set_cache_self (i : Fin n) (pool : Pool ν n m) : pool.setCache i (pool.cache i) = pool :=
  congrArg (Pool.mk pool.policies pool.policyOf) (Vector.set_getElem_self i.isLt)

theorem set_cache_holds (holds : Cache ν → Prop) (i j : Fin n) (cache : Cache ν) (pool : Pool ν n m)
    (written : i = j → holds cache) (apart : i ≠ j → holds (pool.cache j)) :
    holds ((pool.setCache i cache).cache j) := by
  rw [cache_set_cache]
  by_cases same : i = j
  · rw [if_pos same]
    exact written same
  · rw [if_neg same]
    exact apart same

theorem set_cache_rows (i j : Fin n) (cache : Cache ν) (pool : Pool ν n m) (row : String × ν) :
    row ∈ ((pool.setCache i cache).cache j).rows →
      i = j ∧ row ∈ cache.rows ∨ i ≠ j ∧ row ∈ (pool.cache j).rows :=
  set_cache_holds (fun later => row ∈ later.rows → i = j ∧ row ∈ cache.rows ∨ i ≠ j ∧ row ∈ (pool.cache j).rows)
    i j cache pool (fun same member => .inl ⟨same, member⟩) fun other member => .inr ⟨other, member⟩

theorem lookup_cache_rows (i j : Fin n) (query : String) (pool : Pool ν n m) :
    ((pool.lookup i query).2.cache j).rows = (pool.cache j).rows := by
  refine set_cache_holds (fun later => later.rows = (pool.cache j).rows) i j _ pool ?_ fun _ => rfl
  rintro rfl
  exact Cache.lookup_rows (pool.policy i) query (pool.cache i)

theorem lookup_found (i : Fin n) (query : String) (pool : Pool ν n m) (value : ν)
    (found : (pool.lookup i query).1 = some value) : (query, value) ∈ (pool.cache i).rows :=
  Cache.lookup_found (pool.policy i) query (pool.cache i) value found

theorem insert_cache_rows (i j : Fin n) (query : String) (value : ν) (argument : Bool) (made : Option Int)
    (pool : Pool ν n m) (row : String × ν)
    (member : row ∈ ((pool.insert i query value argument made).2.cache j).rows) :
    row ∈ (pool.cache j).rows ∨
      i = j ∧ row = (query, value) ∧ (pool.policy i).admits argument = true := by
  rcases set_cache_rows i j _ pool row member with ⟨same, inserted⟩ | ⟨_, kept⟩
  · rcases Cache.insert_rows _ _ _ _ _ _ _ inserted with kept | fresh
    · exact .inl (same ▸ kept)
    · exact .inr ⟨same, fresh⟩
  · exact .inl kept

theorem clear_cache_rows (i j : Fin n) (pool : Pool ν n m) (row : String × ν)
    (member : row ∈ ((pool.clear i).cache j).rows) : i ≠ j ∧ row ∈ (pool.cache j).rows := by
  rcases set_cache_rows i j _ pool row member with ⟨_, cleared⟩ | kept
  · cases cleared
  · exact kept

theorem shrink_cache_rows (i j : Fin n) (pool : Pool ν n m) (row : String × ν)
    (member : row ∈ ((pool.shrink i).2.cache j).rows) : row ∈ (pool.cache j).rows := by
  rcases set_cache_rows i j _ pool row member with ⟨same, shrunk⟩ | ⟨_, kept⟩
  · exact same ▸ Cache.shrink_rows _ _ _ shrunk
  · exact kept

theorem set_policy_limit_cache (i j : Fin n) (setting : Setting) (pool later : Pool ν n m)
    (limited : pool.setPolicyLimit i setting = .ok later) : later.cache j = pool.cache j := by
  unfold setPolicyLimit at limited
  cases outcome : (pool.policy i).setLimit setting with
  | error fault =>
      rw [outcome] at limited
      cases limited
  | ok policy =>
      rw [outcome] at limited
      cases limited
      rfl

theorem set_limit_shrinks (i : Fin n) (setting : Setting) (pool later : Pool ν n m) (victims : List Cache.Victim)
    (limited : pool.setLimit i setting = .ok (victims, later)) :
    ∃ middle, pool.setPolicyLimit i setting = .ok middle ∧ (middle.shrink i).2 = later := by
  unfold setLimit at limited
  cases outcome : pool.setPolicyLimit i setting with
  | error fault =>
      rw [outcome] at limited
      cases limited
  | ok middle =>
      rw [outcome] at limited
      cases limited
      exact ⟨middle, rfl, rfl⟩

theorem set_limit_cache_rows (i j : Fin n) (setting : Setting) (pool later : Pool ν n m)
    (victims : List Cache.Victim) (limited : pool.setLimit i setting = .ok (victims, later))
    (row : String × ν) (member : row ∈ (later.cache j).rows) : row ∈ (pool.cache j).rows := by
  obtain ⟨middle, outcome, rfl⟩ := set_limit_shrinks i setting pool later victims limited
  rw [← set_policy_limit_cache i j setting pool middle outcome]
  exact shrink_cache_rows i j middle row member

end Pool

end Scpi
