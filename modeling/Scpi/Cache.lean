import Scpi.Policy
import Scpi.Table

set_option autoImplicit false

namespace Scpi

structure Cache (ν : Type) where
  entries : Table String ν
  uses : Table String Nat
  generation : Nat
deriving DecidableEq, Repr

namespace Cache

structure Victim where
  query : String
  uses : Nat
deriving DecidableEq, Repr

inductive Insertion where
  -- The policy does not admit the query.
  | refused
  -- The cache was cleared after the value was made.
  | stale
  | replaced
  | added (victims : List Victim)
deriving DecidableEq, Repr

def Insertion.stored : Insertion → Bool
  | .refused | .stale => false
  | .replaced | .added _ => true

variable {ν : Type}

def empty : Cache ν := ⟨Table.empty, Table.empty, 0⟩

instance : Inhabited (Cache ν) := ⟨empty⟩

def size (cache : Cache ν) : Nat := cache.entries.size

def contains (cache : Cache ν) (query : String) : Bool := cache.entries.contains query

def lookup (policy : Policy) (query : String) (cache : Cache ν) : Option ν × Cache ν :=
  if policy.enabled then
    match cache.entries.find? query with
    | some value => (some value, { cache with uses := cache.uses.modify query (· + 1) })
    | none => (none, cache)
  else (none, cache)

-- Of equal counters the earlier row goes first.
def leastUsed? : List (String × Nat) → Option Victim
  | [] => none
  | (query, uses) :: rest =>
      match leastUsed? rest with
      | some victim => if victim.uses < uses then some victim else some ⟨query, uses⟩
      | none => some ⟨query, uses⟩

def remove (query : String) (cache : Cache ν) : Cache ν :=
  { cache with entries := cache.entries.erase query, uses := cache.uses.erase query }

def evict? (cache : Cache ν) : Option (Victim × Cache ν) :=
  (leastUsed? cache.uses.rows).map fun victim => (victim, cache.remove victim.query)

theorem least_used_member (rows : List (String × Nat)) (victim : Victim)
    (least : leastUsed? rows = some victim) : (victim.query, victim.uses) ∈ rows := by
  induction rows generalizing victim with
  | nil => simp [leastUsed?] at least
  | cons row rest ih =>
      rcases row with ⟨query, uses⟩
      simp only [leastUsed?] at least
      cases later : leastUsed? rest with
      | none =>
          simp only [later, Option.some.injEq] at least
          subst least
          exact List.mem_cons_self
      | some best =>
          by_cases less : best.uses < uses
          · simp only [later, less, if_true, Option.some.injEq] at least
            subst least
            exact List.mem_cons_of_mem _ (ih best later)
          · simp only [later, less, if_false, Option.some.injEq] at least
            subst least
            exact List.mem_cons_self

theorem least_used_none_iff (rows : List (String × Nat)) : leastUsed? rows = none ↔ rows = [] := by
  cases rows with
  | nil => simp [leastUsed?]
  | cons row rest =>
      simp only [leastUsed?, reduceCtorEq, iff_false]
      split
      · split <;> simp
      · simp

theorem evict_none_iff (cache : Cache ν) : cache.evict? = none ↔ cache.uses.rows = [] := by
  rw [evict?, Option.map_eq_none_iff, least_used_none_iff]

theorem evict_smaller (cache smaller : Cache ν) (victim : Victim)
    (evicted : cache.evict? = some (victim, smaller)) : smaller.uses.size < cache.uses.size := by
  obtain ⟨found, least, same⟩ := Option.map_eq_some_iff.mp evicted
  cases same
  have member := least_used_member _ _ least
  exact List.length_filter_lt_length_iff_exists.mpr ⟨_, member, by simp⟩

def shrink (limit : Nat) (cache : Cache ν) : List Victim × Cache ν :=
  if limit < cache.size then
    match _evicted : cache.evict? with
    | none => ([], cache)
    | some (victim, smaller) =>
        let shrunk := shrink limit smaller
        (victim :: shrunk.1, shrunk.2)
  else ([], cache)
termination_by cache.uses.size
decreasing_by exact evict_smaller _ _ _ _evicted

def add (query : String) (value : ν) (cache : Cache ν) : Cache ν :=
  { cache with entries := cache.entries.insert query value, uses := cache.uses.insert query 1 }

-- Stores a value that was made in generation `made`, where that is known. A query that is present keeps
-- its counter and its place. For a new one, entries are evicted until there is room for it.
def insert (policy : Policy) (query : String) (value : ν) (argument : Bool) (made : Option Int)
    (cache : Cache ν) : Insertion × Cache ν :=
  if !policy.admits argument then (.refused, cache)
  else if made.any (· ≠ (cache.generation : Int)) then (.stale, cache)
  else if cache.contains query then
    (.replaced, { cache with entries := cache.entries.insert query value })
  else
    let shrunk := cache.shrink (policy.limit - 1)
    (.added shrunk.1, shrunk.2.add query value)

-- What was made before is stale from now on.
def clear (cache : Cache ν) : Cache ν := ⟨Table.empty, Table.empty, cache.generation + 1⟩

end Cache

end Scpi
