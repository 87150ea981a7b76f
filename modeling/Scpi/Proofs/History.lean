import Scpi.Proofs.Operations
import Scpi.Proofs.Uses

set_option autoImplicit false

namespace Scpi.Pool

variable {ν : Type} {n m : Nat}

structure Event (ν : Type) (n : Nat) where
  operation : Operation ν n
  outcome : Outcome ν
deriving DecidableEq

namespace Event

def adds (i : Fin n) (query : String) : Event ν n → Bool
  | ⟨.insert j other _ _ _, .inserted (.added _)⟩ => j = i && other = query
  | _ => false

def stored? (i : Fin n) (query : String) : Event ν n → Option ν
  | ⟨.insert j other value _ _, .inserted insertion⟩ =>
      if j = i ∧ other = query ∧ insertion.stored then some value else none
  | _ => none

def found? (i : Fin n) (query : String) : Event ν n → Option ν
  | ⟨.lookup j other, .found value⟩ => if j = i ∧ other = query then value else none
  | _ => none

end Event

def history (pool : Pool ν n m) (operations : List (Operation ν n)) : List (Event ν n) :=
  List.zipWith Event.mk operations (pool.run operations).1

def latestStored (i : Fin n) (query : String) (events : List (Event ν n)) : Option ν :=
  events.reverse.findSome? (Event.stored? i query)

def hits (i : Fin n) (query : String) (events : List (Event ν n)) : Nat :=
  events.countP fun event => (event.found? i query).isSome

-- The query came into the cache in one of the events, for the last time, and the cache was not cleared since
-- then. The entry is the value stored last from that event on, and the counter counts the hits after it.
def Recorded (i : Fin n) (query : String) (events : List (Event ν n)) (value : ν) (uses : Nat) : Prop :=
  ∃ before arrival after, events = before ++ arrival :: after ∧ arrival.adds i query = true ∧
    (∀ event ∈ after, event.adds i query = false ∧ event.operation ≠ .clear i) ∧
    latestStored i query (arrival :: after) = some value ∧ uses = 1 + hits i query after

theorem latest_stored_append (i : Fin n) (query : String) (first second : List (Event ν n)) :
    latestStored i query (first ++ second) = (latestStored i query second).or (latestStored i query first) := by
  rw [latestStored, List.reverse_append, List.findSome?_append]
  rfl

theorem latest_stored_single (i : Fin n) (query : String) (event : Event ν n) :
    latestStored i query [event] = event.stored? i query := by
  rw [latestStored, List.reverse_singleton, List.findSome?_singleton]

theorem hits_append (i : Fin n) (query : String) (first second : List (Event ν n)) :
    hits i query (first ++ second) = hits i query first + hits i query second := List.countP_append

theorem hits_lookup (i j : Fin n) (query other : String) (found : Option ν) :
    hits i query [⟨.lookup j other, .found found⟩] =
      if j = i ∧ other = query ∧ found.isSome then 1 else 0 := by
  by_cases asked : j = i ∧ other = query
  · simp [hits, Event.found?, asked]
  · simp [hits, Event.found?, asked, ← and_assoc]

theorem recorded_latest (i : Fin n) (query : String) (events : List (Event ν n)) (value : ν) (uses : Nat)
    (recorded : Recorded i query events value uses) : latestStored i query events = some value := by
  obtain ⟨before, arrival, after, rfl, _, _, latest, _⟩ := recorded
  rw [latest_stored_append, latest]
  rfl

theorem recorded_arrival (i : Fin n) (query : String) (past : List (Event ν n)) (event : Event ν n)
    (value : ν) (adds : event.adds i query = true) (stored : event.stored? i query = some value) :
    Recorded i query (past ++ [event]) value 1 := by
  refine ⟨past, event, [], rfl, adds, by simp, ?_, rfl⟩
  rw [latest_stored_single, stored]

theorem recorded_later (i : Fin n) (query : String) (past : List (Event ν n)) (event : Event ν n) (value : ν)
    (uses : Nat) (recorded : Recorded i query past value uses) (stays : event.adds i query = false)
    (kept : event.operation ≠ .clear i) :
    Recorded i query (past ++ [event]) ((event.stored? i query).getD value) (uses + hits i query [event]) := by
  obtain ⟨before, arrival, after, rfl, adds, since, latest, rfl⟩ := recorded
  refine ⟨before, arrival, after ++ [event], by simp, adds, ?_, ?_, ?_⟩
  · intro other member
    rcases List.mem_append.mp member with earlier | last
    · exact since other earlier
    · rw [List.mem_singleton.mp last]
      exact ⟨stays, kept⟩
  · rw [← List.cons_append, latest_stored_append, latest_stored_single, latest]
    cases event.stored? i query <;> rfl
  · rw [hits_append]
    omega

-- An entry after an operation has either just arrived, or it was there and has met with this one event.
def Follows (i : Fin n) (query : String) (cache later : Cache ν) (event : Event ν n) (value : ν) : Prop :=
  (event.adds i query = true ∧ event.stored? i query = some value ∧ later.uses.find? query = some 1) ∨
  (event.adds i query = false ∧ event.operation ≠ .clear i ∧ ∃ old,
    cache.entries.find? query = some old ∧ (event.stored? i query).getD old = value ∧
    later.uses.find? query = (cache.uses.find? query).map (· + hits i query [event]))

theorem adds_of_unstored (i : Fin n) (query : String) (event : Event ν n)
    (unstored : event.stored? i query = none) : event.adds i query = false := by
  rcases event with ⟨operation, outcome⟩
  cases operation with
  | insert j other value argument made =>
      cases outcome with
      | inserted insertion =>
          cases insertion with
          | added victims =>
              rw [Event.stored?, ite_eq_right_iff] at unstored
              apply Bool.eq_false_iff.mpr
              intro adds
              obtain ⟨own, same⟩ := by simpa [Event.adds] using adds
              cases unstored ⟨own, same, rfl⟩
          | refused | stale | replaced => rfl
      | found | limited | refused | done => rfl
  | lookup | clear | setLimit | setPolicyLimit | setWithArguments => rfl

theorem follows_kept (i : Fin n) (query : String) (cache later : Cache ν) (event : Event ν n) (value : ν)
    (unstored : event.stored? i query = none) (unfound : event.found? i query = none)
    (kept : event.operation ≠ .clear i) (keeps : cache.KeepsEntry query later)
    (present : later.entries.find? query = some value) : Follows i query cache later event value := by
  obtain ⟨entry, counter⟩ := keeps value present
  have missed : hits i query [event] = 0 := by simp [hits, unfound]
  refine .inr ⟨adds_of_unstored i query event unstored, kept, value, entry, ?_, ?_⟩
  · rw [unstored]
    rfl
  · rw [counter, missed]
    exact Option.map_id'.symm

theorem set_cache_keeps_entry (i j : Fin n) (query : String) (cache : Cache ν) (pool : Pool ν n m)
    (keeps : j = i → (pool.cache i).KeepsEntry query cache) :
    (pool.cache i).KeepsEntry query ((pool.setCache j cache).cache i) :=
  set_cache_holds _ j i cache pool keeps fun _ => Cache.keeps_entry_refl query (pool.cache i)

theorem insert_follows (i j : Fin n) (query other : String) (offered value : ν) (argument : Bool)
    (made : Option Int) (pool : Pool ν n m)
    (present : ((pool.insert j other offered argument made).2.cache i).entries.find? query = some value) :
    Follows i query (pool.cache i) ((pool.insert j other offered argument made).2.cache i)
      ⟨.insert j other offered argument made, .inserted (pool.insert j other offered argument made).1⟩
      value := by
  by_cases own : j = i
  · subst own
    rw [insert, set_cache_here] at present ⊢
    obtain ⟨rfl, ⟨victims, added⟩, rfl, counter⟩ | ⟨rfl, replaced, rfl, resident, counter⟩ |
        ⟨unstored, entry, counter⟩ :=
      Cache.insert_entry (pool.policy j) other query offered value argument made (pool.cache j) present
    · rw [added]
      exact .inl ⟨by simp [Event.adds], by simp [Event.stored?, Cache.Insertion.stored], counter⟩
    · obtain ⟨old, entry⟩ := Option.isSome_iff_exists.mp resident
      rw [replaced]
      refine .inr ⟨rfl, by simp, old, entry, by simp [Event.stored?, Cache.Insertion.stored], ?_⟩
      rw [counter]
      exact Option.map_id'.symm
    · refine follows_kept j query _ _ _ value ?_ rfl (by simp) ?_ present
      · rw [Event.stored?, if_neg]
        rintro ⟨_, same, stored⟩
        rw [unstored same] at stored
        cases stored
      · intro kept found
        cases Option.some.inj (found.symm.trans present)
        exact ⟨entry, counter⟩
  · refine follows_kept i query _ _ _ value ?_ rfl (by simp) ?_ present
    · rw [Event.stored?, if_neg fun offer => own offer.1]
    · exact set_cache_keeps_entry i j query _ pool fun same => absurd same own

theorem lookup_follows (i j : Fin n) (query other : String) (value : ν) (pool : Pool ν n m)
    (present : ((pool.lookup j other).2.cache i).entries.find? query = some value) :
    Follows i query (pool.cache i) ((pool.lookup j other).2.cache i)
      ⟨.lookup j other, .found (pool.lookup j other).1⟩ value := by
  by_cases own : j = i
  · subst own
    rw [lookup, set_cache_here] at present ⊢
    rw [Cache.lookup_entries] at present
    refine .inr ⟨rfl, by simp, value, present, rfl, ?_⟩
    rw [Cache.lookup_uses, hits_lookup]
    by_cases hit : other = query ∧ ((pool.cache j).lookup (pool.policy j) other).1.isSome = true
    · rw [if_pos hit, if_pos ⟨rfl, hit⟩]
    · rw [if_neg hit, if_neg fun counted => hit counted.2]
      exact Option.map_id'.symm
  · refine follows_kept i query _ _ _ value rfl ?_ (by simp) ?_ present
    · rw [Event.found?, if_neg fun same => own same.1]
    · exact set_cache_keeps_entry i j query _ pool fun same => absurd same own

theorem operate_follows (operation : Operation ν n) (i : Fin n) (query : String) (value : ν)
    (pool : Pool ν n m)
    (present : ((pool.operate operation).2.cache i).entries.find? query = some value) :
    Follows i query (pool.cache i) ((pool.operate operation).2.cache i)
      ⟨operation, (pool.operate operation).1⟩ value := by
  cases operation with
  | insert j other offered argument made =>
      exact insert_follows i j query other offered value argument made pool present
  | lookup j other => exact lookup_follows i j query other value pool present
  | clear j =>
      by_cases own : j = i
      · subst own
        change ((pool.setCache j _).cache j).entries.find? query = some value at present
        rw [set_cache_here] at present
        cases present
      · refine follows_kept i query _ _ _ value rfl rfl (by simpa using own) ?_ present
        exact set_cache_keeps_entry i j query _ pool fun same => absurd same own
  | setLimit j setting =>
      refine follows_kept i query _ _ _ value rfl rfl (by simp) ?_ present
      rw [operate_set_limit]
      cases setting.toLimit with
      | error fault => exact Cache.keeps_entry_refl query (pool.cache i)
      | ok limit =>
          refine set_cache_keeps_entry i j query _ (pool.setPolicy j { pool.policy j with limit }) ?_
          rintro rfl
          exact Cache.shrink_keeps_entry query _ (pool.cache j)
  | setPolicyLimit j setting =>
      refine follows_kept i query _ _ _ value rfl rfl (by simp) ?_ present
      rw [operate_set_policy_limit]
      cases setting.toLimit <;> exact Cache.keeps_entry_refl query (pool.cache i)
  | setWithArguments j setting =>
      have keeps := Cache.keeps_entry_refl query (pool.cache i)
      exact follows_kept i query _ _ _ value rfl rfl (by simp) keeps present

theorem operate_found (operation : Operation ν n) (i : Fin n) (query : String) (value : ν)
    (pool : Pool ν n m)
    (found : Event.found? i query ⟨operation, (pool.operate operation).1⟩ = some value) :
    (pool.cache i).entries.find? query = some value := by
  cases operation with
  | lookup j other =>
      by_cases asked : j = i ∧ other = query
      · obtain ⟨rfl, rfl⟩ := asked
        rw [operate, Event.found?, if_pos ⟨rfl, rfl⟩] at found
        exact Cache.lookup_value (pool.policy j) other (pool.cache j) value found
      · rw [operate, Event.found?, if_neg asked] at found
        cases found
  | insert | clear | setLimit | setPolicyLimit | setWithArguments => cases found

def Accounted (i : Fin n) (past : List (Event ν n)) (pool : Pool ν n m) : Prop :=
  ∀ query value, (pool.cache i).entries.find? query = some value →
    ∃ uses, (pool.cache i).uses.find? query = some uses ∧ Recorded i query past value uses

theorem operate_accounted (operation : Operation ν n) (i : Fin n) (past : List (Event ν n))
    (pool : Pool ν n m) (accounted : Accounted i past pool) :
    Accounted i (past ++ [⟨operation, (pool.operate operation).1⟩]) (pool.operate operation).2 := by
  intro query value present
  obtain ⟨adds, stored, counter⟩ | ⟨stays, kept, old, entry, rfl, counter⟩ :=
    operate_follows operation i query value pool present
  · exact ⟨1, counter, recorded_arrival i query past _ value adds stored⟩
  · obtain ⟨uses, before, recorded⟩ := accounted query old entry
    rw [before] at counter
    exact ⟨_, counter, recorded_later i query past _ old uses recorded stays kept⟩

-- What a step keeps a run keeps, with the past that the pool already has in front of it.
theorem run_accounted (operations : List (Operation ν n)) (i : Fin n) (past : List (Event ν n))
    (pool : Pool ν n m) (accounted : Accounted i past pool) :
    Accounted i (past ++ pool.history operations) (pool.run operations).2 ∧
      ∀ earlier event later query value, pool.history operations = earlier ++ event :: later →
        event.found? i query = some value → latestStored i query (past ++ earlier) = some value := by
  induction operations generalizing past pool with
  | nil =>
      refine ⟨(List.append_nil past).symm ▸ accounted, ?_⟩
      intro earlier event later query value split
      cases earlier <;> cases split
  | cons operation rest ih =>
      obtain ⟨ended, truthful⟩ := ih _ _ (operate_accounted operation i past pool accounted)
      rw [List.append_assoc] at ended
      refine ⟨ended, ?_⟩
      intro earlier event later query value split found
      cases earlier with
      | nil =>
          obtain ⟨rfl, _⟩ := List.cons.inj split
          have entry := operate_found operation i query value pool found
          obtain ⟨uses, _, recorded⟩ := accounted query value entry
          rw [List.append_nil]
          exact recorded_latest i query past value uses recorded
      | cons first others =>
          obtain ⟨rfl, following⟩ := List.cons.inj split
          have latest := truthful others event later query value following found
          rwa [List.append_assoc] at latest

theorem entries_on_record (policies : Vector Policy m) (policyOf : Vector (Fin m) n)
    (operations : List (Operation ν n)) (i : Fin n) (query : String) :
    let start : Pool ν n m := fresh policies policyOf
    let events := start.history operations
    let ended := (start.run operations).2
    ((ended.cache i).contains query = true → ∃ value uses,
      (ended.cache i).entries.find? query = some value ∧ (ended.cache i).uses.find? query = some uses ∧
        Recorded i query events value uses) ∧
    (∀ earlier event later value, events = earlier ++ event :: later →
      event.found? i query = some value → latestStored i query earlier = some value) ∧
    ((ended.lookup i query).1 = none → (ended.lookup i query).2 = ended) := by
  intro start events ended
  have blank : Accounted i [] start := by
    intro query value present
    rw [fresh_cache] at present
    cases present
  obtain ⟨accounted, truthful⟩ := run_accounted operations i [] start blank
  refine ⟨?_, ?_, lookup_missed i query ended⟩
  · intro resident
    obtain ⟨value, entry⟩ := Option.isSome_iff_exists.mp resident
    obtain ⟨uses, counter, recorded⟩ := accounted query value entry
    exact ⟨value, uses, entry, counter, recorded⟩
  · intro earlier event later value
    exact truthful earlier event later query value

-- The query is cleared away, stored too late, evicted, and out of reach while the cache is switched off.
def comings (i other : Fin 2) : List (Operation Nat 2) := [
  .insert i "A" 1 false none, .lookup i "A", .clear i, .insert i "A" 2 false (some 0),
  .insert i "A" 3 false (some 1), .insert i "B" 4 false none, .lookup i "B", .insert i "C" 5 false none,
  .insert i "A" 6 false none, .lookup i "A", .setPolicyLimit other (.whole 0), .lookup i "A",
  .insert i "A" 7 false none, .setPolicyLimit other (.whole 2), .insert i "A" 8 false none, .lookup i "A"]

theorem comings_on_record :
    let start : Pool Nat 2 1 := fresh #v[⟨2, false⟩] #v[0, 0]
    let events := start.history (comings 0 1)
    let ended := (start.run (comings 0 1)).2
    (ended.cache 0).entries.find? "A" = some 8 ∧ (ended.cache 0).uses.find? "A" = some 3 ∧
      (∃ value uses, (ended.cache 0).entries.find? "A" = some value ∧
        (ended.cache 0).uses.find? "A" = some uses ∧ Recorded 0 "A" events value uses) ∧
      latestStored 0 "A" (events.take 9) = some 6 ∧ (ended.lookup 0 "C").2 = ended := by
  intro start events ended
  have resident : (ended.cache 0).contains "A" = true := by decide +kernel
  have split : events = events.take 9 ++ ⟨.lookup 0 "A", .found (some 6)⟩ :: events.drop 10 := by
    decide +kernel
  have missed : (ended.lookup 0 "C").1 = none := by decide +kernel
  exact ⟨by decide +kernel, by decide +kernel, (entries_on_record _ _ (comings 0 1) 0 "A").1 resident,
    (entries_on_record _ _ (comings 0 1) 0 "A").2.1 _ _ _ 6 split rfl,
    (entries_on_record _ _ (comings 0 1) 0 "C").2.2 missed⟩

end Scpi.Pool
