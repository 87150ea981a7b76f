import Mathlib.Data.List.Sort
import Scpi.Proofs.Checked

set_option autoImplicit false

namespace Scpi

namespace Cache

variable {ν : Type}

namespace Victim

def ofRow (row : String × Nat) : Victim := ⟨row.1, row.2⟩

def NoMoreUsed (first second : Victim) : Prop := first.uses ≤ second.uses

instance : DecidableRel NoMoreUsed := fun first second =>
  inferInstanceAs (Decidable (first.uses ≤ second.uses))

def Precedes (keys : List String) (first second : Victim) : Prop :=
  first.uses < second.uses ∨ first.uses = second.uses ∧ [first.query, second.query].Sublist keys

theorem precedes_later (key : String) (keys : List String) (first second : Victim)
    (precedes : Precedes keys first second) : Precedes (key :: keys) first second :=
  precedes.imp_right fun tie => ⟨tie.1, tie.2.cons key⟩

end Victim

open Victim

-- The lowest counters come first, and rows with the same counter stay in their order.
def ranked (rows : List (String × Nat)) : List Victim := (rows.map Victim.ofRow).insertionSort NoMoreUsed

def ranking (cache : Cache ν) : List Victim := ranked cache.uses.rows

def without (victims : List Victim) (cache : Cache ν) : Cache ν where
  entries := ⟨cache.entries.rows.filter fun row => row.1 ∉ victims.map Victim.query⟩
  uses := ⟨cache.uses.rows.filter fun row => row.1 ∉ victims.map Victim.query⟩
  generation := cache.generation

def append (query : String) (value : ν) (cache : Cache ν) : Cache ν where
  entries := ⟨cache.entries.rows ++ [(query, value)]⟩
  uses := ⟨cache.uses.rows ++ [(query, 1)]⟩
  generation := cache.generation

def replace (query : String) (value : ν) (cache : Cache ν) : Cache ν where
  entries := ⟨cache.entries.rows.map fun row => if row.1 = query then (query, value) else row⟩
  uses := cache.uses
  generation := cache.generation

theorem ranked_cons (row : String × Nat) (rest : List (String × Nat)) :
    ranked (row :: rest) = (ranked rest).orderedInsert NoMoreUsed (.ofRow row) := rfl

theorem ranked_perm (rows : List (String × Nat)) : (ranked rows).Perm (rows.map .ofRow) :=
  List.perm_insertionSort NoMoreUsed _

-- The row that is given up is the first in rank, and the others keep their ranks without it.
theorem ranked_least (rows : List (String × Nat)) (victim : Victim) (distinct : (rows.map Prod.fst).Nodup)
    (least : leastUsed? rows = some victim) :
    ranked rows = victim :: ranked (rows.filter fun row => row.1 ≠ victim.query) := by
  induction rows generalizing victim with
  | nil => cases least
  | cons row rest ih =>
      rcases row with ⟨query, uses⟩
      obtain ⟨fresh, others⟩ := List.nodup_cons.mp distinct
      have kept : rest.filter (fun row => row.1 ≠ query) = rest := Table.filter_other query rest fresh
      rw [leastUsed?] at least
      cases later : leastUsed? rest with
      | none =>
          rw [later] at least
          cases least
          rw [(least_used_none_iff rest).mp later, List.filter_cons_of_neg (by simp)]
          rfl
      | some best =>
          rw [later] at least
          have following := ih best others later
          by_cases less : best.uses < uses
          · simp only [less, if_true, Option.some.injEq] at least
            subst least
            have member : best.query ∈ rest.map Prod.fst :=
              List.mem_map_of_mem (f := Prod.fst) (least_used_member rest best later)
            have other : query ≠ best.query := fun same => fresh (same ▸ member)
            have above : ¬ NoMoreUsed (.ofRow (query, uses)) best := Nat.not_le_of_lt less
            rw [ranked_cons, following, List.orderedInsert_of_not_le _ _ above,
              List.filter_cons_of_pos (by simpa using other), ranked_cons]
          · simp only [less, if_false, Option.some.injEq] at least
            subst least
            have below : NoMoreUsed (.ofRow (query, uses)) best := Nat.le_of_not_lt less
            rw [ranked_cons, following, List.orderedInsert_cons_of_le _ _ below, ← following,
              List.filter_cons_of_neg (by simp), kept]
            rfl

theorem ranked_query (rows : List (String × Nat)) (victim : Victim) (member : victim ∈ ranked rows) :
    victim.query ∈ rows.map Prod.fst := by
  obtain ⟨row, present, rfl⟩ := List.mem_map.mp ((ranked_perm rows).mem_iff.mp member)
  exact List.mem_map_of_mem present

-- What is placed among ranked entries goes behind those with lower counters and in front of the others, and
-- it is older than all of them.
theorem placed_precedes (victim : Victim) (placed : List Victim) (keys : List String)
    (inside : ∀ other ∈ placed, other.query ∈ keys) (ordered : placed.Pairwise (Precedes keys)) :
    (placed.orderedInsert NoMoreUsed victim).Pairwise (Precedes (victim.query :: keys)) := by
  induction placed with
  | nil => exact List.pairwise_singleton _ victim
  | cons head rest ih =>
      obtain ⟨first, others⟩ := List.pairwise_cons.mp ordered
      by_cases below : NoMoreUsed victim head
      · rw [List.orderedInsert_cons_of_le _ _ below]
        refine List.pairwise_cons.mpr ⟨?_, ordered.imp (precedes_later _ keys _ _)⟩
        intro other member
        have least : victim.uses ≤ other.uses := by
          rcases List.mem_cons.mp member with rfl | later
          · exact below
          · have next : head.uses ≤ other.uses := by
              rcases first other later with less | tie
              · exact Nat.le_of_lt less
              · exact Nat.le_of_eq tie.1
            exact Nat.le_trans below next
        rcases Nat.lt_or_eq_of_le least with less | tie
        · exact .inl less
        · exact .inr ⟨tie, List.cons_sublist_cons.mpr (List.singleton_sublist.mpr (inside other member))⟩
      · rw [List.orderedInsert_of_not_le _ _ below]
        have placedLater := ih (fun other member => inside other (List.mem_cons_of_mem head member)) others
        refine List.pairwise_cons.mpr ⟨?_, placedLater⟩
        intro other member
        rcases List.mem_cons.mp ((List.perm_orderedInsert _ victim rest).mem_iff.mp member) with rfl | later
        · exact .inl (Nat.lt_of_not_le below)
        · exact precedes_later _ keys head other (first other later)

theorem ranked_precedes (rows : List (String × Nat)) :
    (ranked rows).Pairwise (Precedes (rows.map Prod.fst)) := by
  induction rows with
  | nil => exact List.Pairwise.nil
  | cons row rest ih => exact placed_precedes (.ofRow row) (ranked rest) _ (ranked_query rest) ih

theorem victims_precede (cache : Cache ν) (inStep : cache.InStep) (count : Nat) (victim : Victim)
    (row : String × Nat) (taken : victim ∈ cache.ranking.take count)
    (kept : row ∈ (cache.without (cache.ranking.take count)).uses.rows) :
    Precedes cache.entries.keys victim (.ofRow row) := by
  obtain ⟨present, stays⟩ := List.mem_filter.mp kept
  have ordered := ranked_precedes cache.uses.rows
  have keys : cache.uses.rows.map Prod.fst = cache.entries.keys := inStep.keys
  rw [keys, ← ranking, ← List.take_append_drop count cache.ranking] at ordered
  have member : Victim.ofRow row ∈ cache.ranking :=
    (ranked_perm cache.uses.rows).mem_iff.mpr (List.mem_map_of_mem present)
  rw [← List.take_append_drop count cache.ranking] at member
  rcases List.mem_append.mp member with given | left
  · have gone : row.1 ∈ (cache.ranking.take count).map Victim.query :=
      List.mem_map_of_mem (f := Victim.query) given
    exact absurd gone (of_decide_eq_true stays)
  · exact (List.pairwise_append.mp ordered).2.2 victim taken _ left

theorem without_none (cache : Cache ν) : cache.without [] = cache := by
  simp [without]

theorem without_cons (victim : Victim) (victims : List Victim) (cache : Cache ν) :
    (cache.remove victim.query).without victims = cache.without (victim :: victims) := by
  have split {α : Type} (rows : List (String × α)) :
      (rows.filter fun row => row.1 ≠ victim.query).filter (fun row => row.1 ∉ victims.map Victim.query) =
        rows.filter fun row => row.1 ∉ (victim :: victims).map Victim.query := by
    rw [List.filter_filter]
    apply List.filter_congr
    intro row _
    rw [← Bool.decide_and, decide_eq_decide, List.map_cons, List.mem_cons, not_or, and_comm]
  simp only [without, remove, Table.erase, split]

theorem ranking_evict (cache smaller : Cache ν) (victim : Victim) (inStep : cache.InStep)
    (evicted : cache.evict? = some (victim, smaller)) :
    cache.ranking = victim :: smaller.ranking ∧ smaller = cache.remove victim.query := by
  obtain ⟨found, least, same⟩ := Option.map_eq_some_iff.mp evicted
  cases same
  have keys : cache.uses.rows.map Prod.fst = cache.entries.keys := inStep.keys
  exact ⟨ranked_least cache.uses.rows victim (keys ▸ inStep.distinct) least, rfl⟩

theorem ranking_length (cache : Cache ν) (inStep : cache.InStep) : cache.ranking.length = cache.size := by
  rw [ranking, (ranked_perm cache.uses.rows).length_eq, List.length_map]
  exact uses_size cache inStep

theorem shrink_ranking (limit : Nat) (cache : Cache ν) (inStep : cache.InStep) :
    cache.shrink limit =
      (cache.ranking.take (cache.size - limit), cache.without (cache.ranking.take (cache.size - limit))) := by
  fun_induction shrink limit cache with
  | case1 cache above stuck => exact absurd stuck (evict_ne_none cache inStep (Nat.zero_lt_of_lt above))
  | case2 cache above victim smaller evicted shrunk ih =>
      have stepped := evict_in_step cache smaller victim evicted inStep
      obtain ⟨order, rfl⟩ := ranking_evict cache smaller victim inStep evicted
      have size := ranking_length cache inStep
      rw [order, List.length_cons, ranking_length _ stepped] at size
      have count : cache.size - limit = ((cache.remove victim.query).size - limit) + 1 := by omega
      rw [count, order, List.take_succ_cons, ← without_cons]
      have following : shrunk = _ := ih stepped
      rw [following]
  | case3 cache within =>
      have none : cache.size - limit = 0 := Nat.sub_eq_zero_of_le (Nat.le_of_not_lt within)
      rw [none, List.take_zero, without_none]

theorem add_absent (query : String) (value : ν) (cache : Cache ν) (inStep : cache.InStep)
    (absent : query ∉ cache.entries.keys) : cache.add query value = cache.append query value := by
  have uncounted : query ∉ cache.uses.keys := inStep.keys ▸ absent
  rw [add, Table.insert, Table.insert, Table.put_absent _ _ _ absent, Table.put_absent _ _ _ uncounted]
  rfl

theorem without_keys (victims : List Victim) (cache : Cache ν) (query : String)
    (member : query ∈ (cache.without victims).entries.keys) : query ∈ cache.entries.keys := by
  obtain ⟨row, kept, rfl⟩ := List.mem_map.mp member
  exact List.mem_map_of_mem (List.mem_filter.mp kept).1

theorem not_late (made : Option Int) (present : Int) (current : ∀ generation ∈ made, generation = present) :
    made.any (· ≠ present) = false := by
  cases made with
  | none => rfl
  | some generation => exact decide_eq_false fun late => late (current generation rfl)

theorem insert_current (policy : Policy) (query : String) (value : ν) (argument : Bool) (made : Option Int)
    (cache : Cache ν) (admitted : policy.admits argument = true)
    (current : ∀ generation ∈ made, generation = (cache.generation : Int)) :
    cache.insert policy query value argument made =
      if cache.contains query then (.replaced, { cache with entries := cache.entries.insert query value })
      else (.added (cache.shrink (policy.limit - 1)).1, (cache.shrink (policy.limit - 1)).2.add query value) := by
  rw [insert, admitted, not_late made cache.generation current]
  rfl

theorem insert_new (policy : Policy) (query : String) (value : ν) (argument : Bool) (made : Option Int)
    (cache : Cache ν) (inStep : cache.InStep) (admitted : policy.admits argument = true)
    (current : ∀ generation ∈ made, generation = (cache.generation : Int))
    (absent : cache.contains query = false) :
    let victims := cache.ranking.take (cache.size + 1 - policy.limit)
    cache.insert policy query value argument made =
      (.added victims, (cache.without victims).append query value) := by
  intro victims
  have enabled := Policy.admits_limit policy argument admitted
  have count : cache.size + 1 - policy.limit = cache.size - (policy.limit - 1) := by omega
  have room := shrink_ranking (policy.limit - 1) cache inStep
  have kept := shrink_in_step (policy.limit - 1) cache inStep
  rw [← count] at room
  rw [room] at kept
  have fresh : query ∉ (cache.without victims).entries.keys := by
    intro member
    have present := (Table.contains_iff cache.entries query).mpr (without_keys victims cache query member)
    rw [← contains, absent] at present
    cases present
  rw [insert_current policy query value argument made cache admitted current, if_neg (by simp [absent]), room]
  exact congrArg (Prod.mk _) (add_absent query value _ kept fresh)

theorem insert_present (policy : Policy) (query : String) (value : ν) (argument : Bool) (made : Option Int)
    (cache : Cache ν) (inStep : cache.InStep) (admitted : policy.admits argument = true)
    (current : ∀ generation ∈ made, generation = (cache.generation : Int))
    (present : cache.contains query = true) :
    cache.insert policy query value argument made = (.replaced, cache.replace query value) := by
  have member := (Table.contains_iff cache.entries query).mp present
  rw [insert_current policy query value argument made cache admitted current, if_pos present, Table.insert,
    Table.put_present query value _ member inStep.distinct]
  rfl

theorem insert_unstored (policy : Policy) (query : String) (value : ν) (argument : Bool) (made : Option Int)
    (cache : Cache ν) (unstored : (cache.insert policy query value argument made).1.stored = false) :
    (cache.insert policy query value argument made).2 = cache := by
  obtain ⟨_, same⟩ | ⟨_, _, same⟩ | ⟨_, _, _, same⟩ | ⟨_, _, _, same⟩ :=
    insert_cases policy query value argument made cache
  all_goals rw [same] at unstored ⊢
  · cases unstored
  · cases unstored

end Cache

namespace Pool

variable {ν : Type} {n m : Nat}

theorem set_limit_ranking (i : Fin n) (setting : Setting) (value : Int) (pool : Pool ν n m)
    (inStep : (pool.cache i).InStep) (accepted : setting.toInt = .ok value) :
    let victims := (pool.cache i).ranking.take ((pool.cache i).size - value.toNat)
    pool.setLimit i setting = .ok (victims,
      (pool.setPolicy i { pool.policy i with limit := value.toNat }).setCache i
        ((pool.cache i).without victims)) := by
  intro victims
  have limit : setting.toLimit = .ok value.toNat := by
    rw [Setting.toLimit, accepted]
    rfl
  have own : (pool.setPolicy i { pool.policy i with limit := value.toNat }).policy i =
      { pool.policy i with limit := value.toNat } := by
    rw [policy_set_policy, if_pos rfl]
  rw [setLimit, setPolicyLimit, Policy.setLimit, limit]
  change Except.ok (shrink i _) = _
  rw [shrink, own]
  change Except.ok (((pool.cache i).shrink value.toNat).1, setCache i ((pool.cache i).shrink value.toNat).2 _) = _
  rw [Cache.shrink_ranking value.toNat (pool.cache i) inStep]

theorem room_made_by_rank (policies : Vector Policy m) (policyOf : Vector (Fin m) n)
    (operations : List (Operation ν n)) (i : Fin n) :
    let before := ((fresh policies policyOf : Pool ν n m).run operations).2
    let cache := before.cache i
    let policy := before.policy i
    (cache.ranking.Perm (cache.uses.rows.map .ofRow) ∧
      cache.ranking.Pairwise (Cache.Victim.Precedes cache.entries.keys) ∧
      ∀ count, ∀ victim ∈ cache.ranking.take count,
        ∀ row ∈ (cache.without (cache.ranking.take count)).uses.rows,
          Cache.Victim.Precedes cache.entries.keys victim (.ofRow row)) ∧
    (∀ setting value, setting.toInt = .ok value →
      let victims := cache.ranking.take (cache.size - value.toNat)
      before.setLimit i setting = .ok (victims,
        (before.setPolicy i { policy with limit := value.toNat }).setCache i (cache.without victims))) ∧
    (∀ query value argument made, policy.admits argument = true →
      (∀ generation ∈ made, generation = (cache.generation : Int)) → cache.contains query = false →
      let victims := cache.ranking.take (cache.size + 1 - policy.limit)
      before.insert i query value argument made =
        (.added victims, before.setCache i ((cache.without victims).append query value))) ∧
    (∀ query value argument made, policy.admits argument = true →
      (∀ generation ∈ made, generation = (cache.generation : Int)) → cache.contains query = true →
      before.insert i query value argument made =
        (.replaced, before.setCache i (cache.replace query value))) ∧
    (∀ query value argument made, (before.insert i query value argument made).1.stored = false →
      (before.insert i query value argument made).2 = before) := by
  intro before cache policy
  have inStep : cache.InStep :=
    (run_in_step operations (fresh policies policyOf) (fresh_in_step policies policyOf)).2 i
  have keys : cache.uses.rows.map Prod.fst = cache.entries.keys := inStep.keys
  refine ⟨⟨Cache.ranked_perm cache.uses.rows, keys ▸ Cache.ranked_precedes cache.uses.rows, ?_⟩,
    ?_, ?_, ?_, ?_⟩
  · intro count victim taken row kept
    exact Cache.victims_precede cache inStep count victim row taken kept
  · intro setting value accepted
    exact set_limit_ranking i setting value before inStep accepted
  · intro query value argument made admitted current absent
    rw [insert, Cache.insert_new policy query value argument made cache inStep admitted current absent]
  · intro query value argument made admitted current present
    rw [insert, Cache.insert_present policy query value argument made cache inStep admitted current present]
  · intro query value argument made unstored
    change before.setCache i (cache.insert policy query value argument made).2 = before
    rw [Cache.insert_unstored policy query value argument made cache unstored]
    exact set_cache_self i before

-- Four queries with counters 2, 1, 3 and 1, in a cache whose policy is then given the limit 2.
def tied (i other : Fin 2) : List (Operation Nat 2) := [
  .insert i "A" 1 false none, .insert i "B" 2 false none, .insert i "C" 3 false none,
  .insert i "D" 4 false none, .lookup i "C", .lookup i "A", .lookup i "C", .setPolicyLimit other (.whole 2)]

theorem older_of_tied_first :
    let before := ((fresh #v[⟨4, false⟩] #v[0, 0] : Pool Nat 2 1).run (tied 0 1)).2
    let cache := before.cache 0
    cache.ranking = [⟨"B", 1⟩, ⟨"D", 1⟩, ⟨"A", 2⟩, ⟨"C", 3⟩] ∧
      (let victims := cache.ranking.take (cache.size - (3 : Int).toNat)
       victims = [⟨"B", 1⟩] ∧ (Setting.text " 3").toInt = .ok 3 ∧ before.setLimit 0 (.text " 3") =
         .ok (victims, (before.setPolicy 0 { before.policy 0 with limit := (3 : Int).toNat }).setCache 0
           (cache.without victims))) ∧
      (let victims := cache.ranking.take (cache.size + 1 - (before.policy 0).limit)
       victims = [⟨"B", 1⟩, ⟨"D", 1⟩, ⟨"A", 2⟩] ∧ before.insert 0 "E" 5 false none =
         (.added victims, before.setCache 0 ((cache.without victims).append "E" 5))) ∧
      before.insert 0 "A" 6 false (some 0) = (.replaced, before.setCache 0 (cache.replace "A" 6)) ∧
      (before.insert 0 "F" 7 true none).2 = before := by
  intro before cache
  have admitted : (before.policy 0).admits false = true := by decide +kernel
  have generation : cache.generation = 0 := by decide +kernel
  obtain ⟨_, limited, added, replaced, unstored⟩ :=
    room_made_by_rank #v[⟨4, false⟩] #v[0, 0] (tied 0 1) 0
  refine ⟨by decide +kernel, ⟨by decide +kernel, by decide +kernel, ?_⟩, ⟨by decide +kernel, ?_⟩, ?_, ?_⟩
  · exact limited (.text " 3") 3 (by decide +kernel)
  · exact added "E" 5 false none admitted (fun _ none => by cases none) (by decide +kernel)
  · refine replaced "A" 6 false (some 0) admitted ?_ (by decide +kernel)
    intro made same
    rw [← Option.some.inj same]
    exact (congrArg Int.ofNat generation).symm
  · exact unstored "F" 7 true none (by decide +kernel)

end Pool

end Scpi
