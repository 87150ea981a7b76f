import Scpi.Proofs.Changes

set_option autoImplicit false

namespace Scpi

namespace Cache

variable {ν : Type}

-- The first cache has no entry that the second one lacks, and was cleared as often.
def Within (smaller cache : Cache ν) : Prop :=
  smaller.generation = cache.generation ∧ ∀ row ∈ smaller.rows, row ∈ cache.rows

theorem within_refl (cache : Cache ν) : cache.Within cache := ⟨rfl, fun _ member => member⟩

theorem lookup_within (policy : Policy) (query : String) (cache : Cache ν) :
    (cache.lookup policy query).2.Within cache := by
  refine ⟨?_, fun row member => lookup_rows policy query cache ▸ member⟩
  unfold lookup
  split
  · split <;> rfl
  · rfl

theorem evict_generation (cache smaller : Cache ν) (victim : Victim)
    (evicted : cache.evict? = some (victim, smaller)) : smaller.generation = cache.generation := by
  obtain ⟨found, _, same⟩ := Option.map_eq_some_iff.mp evicted
  cases same
  rfl

theorem shrink_within (limit : Nat) (cache : Cache ν) : (cache.shrink limit).2.Within cache := by
  refine ⟨?_, shrink_rows limit cache⟩
  fun_induction shrink limit cache with
  | case1 cache above none => rfl
  | case2 cache above victim smaller evicted shrunk ih => exact ih.trans (evict_generation _ _ _ evicted)
  | case3 cache within => rfl

theorem insert_generation (policy : Policy) (query : String) (value : ν) (argument : Bool)
    (made : Option Int) (cache : Cache ν) :
    (cache.insert policy query value argument made).2.generation = cache.generation := by
  obtain ⟨_, same⟩ | ⟨_, _, same⟩ | ⟨_, _, _, same⟩ | ⟨_, _, _, same⟩ :=
    insert_cases policy query value argument made cache
  all_goals rw [same]
  exact (shrink_within _ cache).1

theorem insert_made (policy : Policy) (query : String) (value : ν) (argument : Bool) (made : Nat)
    (cache : Cache ν) (row : String × ν)
    (member : row ∈ (cache.insert policy query value argument (some made)).2.rows) :
    row ∈ cache.rows ∨ row = (query, value) ∧ made = cache.generation := by
  by_cases current : made = cache.generation
  · exact (insert_rows _ _ _ _ _ _ _ member).imp_right fun fresh => ⟨fresh.1, current⟩
  · have late : (some (made : Int)).any (· ≠ (cache.generation : Int)) = true :=
      decide_eq_true fun same => current (Int.ofNat.inj same)
    obtain ⟨_, same⟩ | ⟨_, _, same⟩ | ⟨_, fresh, _⟩ | ⟨_, fresh, _⟩ :=
      insert_cases policy query value argument (some (made : Int)) cache
    · rw [same] at member
      exact .inl member
    · rw [same] at member
      exact .inl member
    · rw [late] at fresh
      cases fresh
    · rw [late] at fresh
      cases fresh

end Cache

namespace Pool

variable {ν : Type} {n m : Nat}

def Within (smaller pool : Pool ν n m) : Prop := ∀ i, (smaller.cache i).Within (pool.cache i)

theorem set_cache_within (i : Fin n) (cache : Cache ν) (pool : Pool ν n m)
    (within : cache.Within (pool.cache i)) : (pool.setCache i cache).Within pool := by
  intro j
  apply set_cache_holds fun later => later.Within (pool.cache j)
  · rintro rfl
    exact within
  · exact fun _ => Cache.within_refl (pool.cache j)

theorem lookup_within (i : Fin n) (query : String) (pool : Pool ν n m) :
    (pool.lookup i query).2.Within pool :=
  set_cache_within i _ pool (Cache.lookup_within (pool.policy i) query (pool.cache i))

theorem set_policy_limit_within (i : Fin n) (setting : Setting) (pool later : Pool ν n m)
    (limited : pool.setPolicyLimit i setting = .ok later) : later.Within pool := by
  intro j
  rw [set_policy_limit_cache i j setting pool later limited]
  exact Cache.within_refl _

theorem set_limit_within (i : Fin n) (setting : Setting) (pool later : Pool ν n m)
    (victims : List Cache.Victim) (limited : pool.setLimit i setting = .ok (victims, later)) :
    later.Within pool := by
  obtain ⟨middle, outcome, rfl⟩ := set_limit_shrinks i setting pool later victims limited
  intro j
  have smaller := Cache.shrink_within (middle.policy i).limit (middle.cache i)
  have shrunk := set_cache_within i _ middle smaller j
  rw [set_policy_limit_cache i j setting pool middle outcome] at shrunk
  exact shrunk

theorem insert_cache_generation (i j : Fin n) (query : String) (value : ν) (argument : Bool)
    (made : Option Int) (pool : Pool ν n m) :
    ((pool.insert i query value argument made).2.cache j).generation = (pool.cache j).generation := by
  refine set_cache_holds (fun later => later.generation = (pool.cache j).generation) i j _ pool ?_ fun _ => rfl
  rintro rfl
  exact Cache.insert_generation (pool.policy i) query value argument made (pool.cache i)

theorem insert_cache_made (i j : Fin n) (query : String) (value : ν) (argument : Bool) (made : Nat)
    (pool : Pool ν n m) (row : String × ν)
    (member : row ∈ ((pool.insert i query value argument (some made)).2.cache j).rows) :
    row ∈ (pool.cache j).rows ∨ i = j ∧ row = (query, value) ∧ made = (pool.cache j).generation := by
  rcases set_cache_rows i j _ pool row member with ⟨same, inserted⟩ | ⟨_, kept⟩
  · subst same
    exact (Cache.insert_made _ _ _ _ _ _ _ inserted).imp_right fun fresh => ⟨rfl, fresh⟩
  · exact .inl kept

end Pool

-- A query that is being resolved while other work goes on. It reads the generation of the cache first, then
-- has its calls, and ends by offering them to the cache.
structure Attempt (η : Type) (n : Nat) where
  instrument : Fin n
  query : String
  made : Nat
  calls : Option (List (Call η))

-- A bench in the middle of such work. An instrument is listed once for each definition whose clearing is
-- still to come.
structure Shared (η : Type) (n m : Nat) (σ : Type) where
  bench : Bench η n m σ
  uncleared : List (Fin n)
  attempts : List (Attempt η n)

inductive Move (η : Type) (n : Nat) where
  | define (i : Fin n) (text : String) (handler : η)
  | clear (i : Fin n)
  | begin (i : Fin n) (query : String)
  | resolve (k : Nat)
  | offer (k : Nat)
  | lookup (i : Fin n) (query : String)
  | setLimit (i : Fin n) (setting : Setting)
  | setPolicyLimit (i : Fin n) (setting : Setting)
  | setWithArguments (i : Fin n) (setting : Setting)

namespace Shared

variable {η σ : Type} {n m : Nat}

def fresh (policies : Vector Policy m) (policyOf : Vector (Fin m) n) (memory : σ) : Shared η n m σ :=
  ⟨Bench.fresh policies policyOf memory, [], []⟩

def setPool (pool : Pool (List (Call η)) n m) (state : Shared η n m σ) : Shared η n m σ :=
  { state with bench := { state.bench with pool } }

def attempting (attempt : Attempt η n) (state : Shared η n m σ) : Shared η n m σ :=
  { state with attempts := state.attempts ++ [attempt] }

def resolve? (k : Nat) (state : Shared η n m σ) : Option (Shared η n m σ) :=
  match state.attempts[k]? with
  | some ⟨i, query, made, none⟩ =>
      match Chain.resolve (state.bench.commandSet i) (Query.tokens query) with
      | .error _ => some { state with attempts := state.attempts.eraseIdx k }
      | .ok calls => some { state with attempts := state.attempts.set k ⟨i, query, made, some calls⟩ }
  | _ => none

def offer? (k : Nat) (state : Shared η n m σ) : Option (Shared η n m σ) :=
  match state.attempts[k]? with
  | some ⟨i, query, made, some calls⟩ =>
      let argument := Token.containsArgument (Query.tokens query)
      let inserted := state.bench.pool.insert i query calls argument (some made)
      some { state.setPool inserted.2 with attempts := state.attempts.eraseIdx k }
  | _ => none

-- There is no result where a move is not to be made: a clearing without a definition before it, or a part
-- of a query without the part before it.
def move? (state : Shared η n m σ) : Move η n → Option (Shared η n m σ)
  | .define i text handler => some { state with
      bench := state.bench.defineKeepingCache i text handler, uncleared := i :: state.uncleared }
  | .clear i =>
      if i ∈ state.uncleared then
        some { state with bench := state.bench.clearCache i, uncleared := state.uncleared.erase i }
      else none
  | .begin i query => some (state.attempting ⟨i, query, (state.bench.pool.cache i).generation, none⟩)
  | .resolve k => state.resolve? k
  | .offer k => state.offer? k
  | .lookup i query => some (state.setPool (state.bench.pool.lookup i query).2)
  | .setLimit i setting => some { state with bench := (state.bench.setLimit i setting).2 }
  | .setPolicyLimit i setting => some { state with bench := (state.bench.setPolicyLimit i setting).2 }
  | .setWithArguments i setting => some (state.setPool (state.bench.pool.setWithArguments i setting))

def Means (bench : Bench η n m σ) (i : Fin n) (query : String) (calls : List (Call η)) : Prop :=
  Chain.resolve (bench.commandSet i) (Query.tokens query) = .ok calls

def generation (state : Shared η n m σ) (i : Fin n) : Nat := (state.bench.pool.cache i).generation

def rows (state : Shared η n m σ) (i : Fin n) : List (String × List (Call η)) :=
  (state.bench.pool.cache i).rows

-- Between a definition and its clearing, nothing is said of what is in the cache or on its way there. The
-- clearing ends the generation of all of it.
structure Sound (i : Fin n) (state : Shared η n m σ) : Prop where
  past : ∀ attempt ∈ state.attempts, attempt.instrument = i → attempt.made ≤ state.generation i
  entries : i ∉ state.uncleared → ∀ row ∈ state.rows i, Means state.bench i row.1 row.2
  offers : i ∉ state.uncleared → ∀ attempt ∈ state.attempts, attempt.instrument = i →
    attempt.made = state.generation i → ∀ calls, attempt.calls = some calls →
    Means state.bench i attempt.query calls

theorem fresh_sound (policies : Vector Policy m) (policyOf : Vector (Fin m) n) (memory : σ) (i : Fin n) :
    Sound i (fresh policies policyOf memory : Shared η n m σ) where
  past := by
    intro attempt none
    cases none
  entries := fun _ => Bench.fresh_faithful policies policyOf memory i
  offers := by
    intro _ attempt none
    cases none

structure Quiet (i : Fin n) (state later : Shared η n m σ) : Prop where
  commands : later.bench.commandSet i = state.bench.commandSet i
  generation : later.generation i = state.generation i
  uncleared : i ∈ state.uncleared → i ∈ later.uncleared
  entries : ∀ row ∈ later.rows i, row ∈ state.rows i ∨
    (i ∉ state.uncleared → Means state.bench i row.1 row.2)
  attempts : ∀ attempt ∈ later.attempts, attempt ∈ state.attempts ∨
    (attempt.instrument = i → attempt.made ≤ state.generation i ∧
      ∀ calls, attempt.calls = some calls → Means state.bench i attempt.query calls)

theorem quiet_sound (i : Fin n) (state later : Shared η n m σ) (quiet : Quiet i state later)
    (sound : Sound i state) : Sound i later where
  past := by
    intro attempt member own
    rw [quiet.generation]
    rcases quiet.attempts attempt member with old | new
    · exact sound.past attempt old own
    · exact (new own).1
  entries := by
    intro settled row member
    have before : i ∉ state.uncleared := fun owed => settled (quiet.uncleared owed)
    rw [Means, quiet.commands]
    rcases quiet.entries row member with old | new
    · exact sound.entries before row old
    · exact new before
  offers := by
    intro settled attempt member own current calls resolved
    have before : i ∉ state.uncleared := fun owed => settled (quiet.uncleared owed)
    rw [Means, quiet.commands]
    rw [quiet.generation] at current
    rcases quiet.attempts attempt member with old | new
    · exact sound.offers before attempt old own current calls resolved
    · exact (new own).2 calls resolved

theorem within_quiet (i : Fin n) (state later : Shared η n m σ)
    (commands : later.bench.commands = state.bench.commands)
    (within : later.bench.pool.Within state.bench.pool) (uncleared : later.uncleared = state.uncleared)
    (attempts : later.attempts = state.attempts) : Quiet i state later where
  commands := congrArg (fun sets : Vector _ n => sets.get i) commands
  generation := (within i).1
  uncleared := fun owed => uncleared ▸ owed
  entries := fun row member => .inl ((within i).2 row member)
  attempts := fun _ member => .inl (attempts ▸ member)

theorem set_limit_quiet (i j : Fin n) (setting : Setting) (state : Shared η n m σ) :
    Quiet j state { state with bench := (state.bench.setLimit i setting).2 } := by
  unfold Bench.setLimit
  cases limited : state.bench.pool.setLimit i setting with
  | error fault => exact within_quiet j state _ rfl (fun _ => Cache.within_refl _) rfl rfl
  | ok outcome =>
      have within := Pool.set_limit_within i setting state.bench.pool outcome.2 outcome.1 limited
      exact within_quiet j state _ rfl within rfl rfl

theorem set_policy_limit_quiet (i j : Fin n) (setting : Setting) (state : Shared η n m σ) :
    Quiet j state { state with bench := (state.bench.setPolicyLimit i setting).2 } := by
  unfold Bench.setPolicyLimit
  cases limited : state.bench.pool.setPolicyLimit i setting with
  | error fault => exact within_quiet j state _ rfl (fun _ => Cache.within_refl _) rfl rfl
  | ok pool =>
      have within := Pool.set_policy_limit_within i setting state.bench.pool pool limited
      exact within_quiet j state _ rfl within rfl rfl

theorem define_sound (i j : Fin n) (text : String) (handler : η) (state : Shared η n m σ)
    (sound : Sound j state) :
    Sound j { state with
      bench := state.bench.defineKeepingCache i text handler, uncleared := i :: state.uncleared } := by
  by_cases same : i = j
  · subst same
    have owed : i ∈ i :: state.uncleared := List.mem_cons_self
    exact ⟨sound.past, fun settled => absurd owed settled, fun settled => absurd owed settled⟩
  · apply quiet_sound j state _ _ sound
    refine ⟨?_, rfl, List.mem_cons_of_mem i, fun _ member => .inl member, fun _ member => .inl member⟩
    change (state.bench.setCommandSet i _).commandSet j = state.bench.commandSet j
    rw [Bench.command_set_set, if_neg same]

theorem clear_sound (i j : Fin n) (state : Shared η n m σ) (sound : Sound j state) :
    Sound j { state with bench := state.bench.clearCache i, uncleared := state.uncleared.erase i } := by
  have cleared : (state.bench.clearCache i).pool.cache j =
      if i = j then (state.bench.pool.cache i).clear else state.bench.pool.cache j :=
    Pool.cache_set_cache i j _ state.bench.pool
  by_cases same : i = j
  · subst same
    rw [if_pos rfl] at cleared
    have generation : ((state.bench.clearCache i).pool.cache i).generation = state.generation i + 1 :=
      congrArg Cache.generation cleared
    have empty : ((state.bench.clearCache i).pool.cache i).rows = [] := congrArg Cache.rows cleared
    constructor
    · intro attempt member own
      have before := sound.past attempt member own
      change attempt.made ≤ ((state.bench.clearCache i).pool.cache i).generation
      omega
    · intro _ row member
      change row ∈ ((state.bench.clearCache i).pool.cache i).rows at member
      rw [empty] at member
      cases member
    · intro _ attempt member own current
      have before := sound.past attempt member own
      change attempt.made = ((state.bench.clearCache i).pool.cache i).generation at current
      omega
  · rw [if_neg same] at cleared
    apply quiet_sound j state _ _ sound
    refine ⟨rfl, congrArg Cache.generation cleared, ?_, ?_, fun _ member => .inl member⟩
    · exact (List.mem_erase_of_ne (Ne.symm same)).mpr
    · intro row member
      change row ∈ ((state.bench.clearCache i).pool.cache j).rows at member
      rw [cleared] at member
      exact .inl member

theorem begin_quiet (i j : Fin n) (query : String) (state : Shared η n m σ) :
    Quiet j state (state.attempting ⟨i, query, state.generation i, none⟩) := by
  refine ⟨rfl, rfl, fun owed => owed, fun _ member => .inl member, ?_⟩
  intro attempt member
  rcases List.mem_append.mp member with old | new
  · exact .inl old
  · rw [List.mem_singleton.mp new]
    refine .inr fun own => ⟨?_, fun _ none => by cases none⟩
    exact Nat.le_of_eq (congrArg state.generation own)

theorem resolve_quiet (j : Fin n) (k : Nat) (state later : Shared η n m σ)
    (resolved : state.resolve? k = some later) (sound : Sound j state) : Quiet j state later := by
  unfold resolve? at resolved
  split at resolved
  · rename_i i query made here
    have member := List.mem_of_getElem? here
    split at resolved
    · cases resolved
      exact ⟨rfl, rfl, fun owed => owed, fun _ row => .inl row,
        fun _ left => .inl (List.mem_of_mem_eraseIdx left)⟩
    · rename_i calls means
      cases resolved
      refine ⟨rfl, rfl, fun owed => owed, fun _ row => .inl row, ?_⟩
      intro attempt changed
      rcases List.mem_or_eq_of_mem_set changed with old | rfl
      · exact .inl old
      · refine .inr fun own => ⟨sound.past ⟨i, query, made, none⟩ member own, ?_⟩
        intro others same
        rw [← Option.some.inj same, Means, ← show i = j from own]
        exact means
  · cases resolved

theorem offer_quiet (j : Fin n) (k : Nat) (state later : Shared η n m σ)
    (offered : state.offer? k = some later) (sound : Sound j state) : Quiet j state later := by
  unfold offer? at offered
  split at offered
  · rename_i i query made calls here
    have member := List.mem_of_getElem? here
    cases offered
    constructor
    · rfl
    · exact Pool.insert_cache_generation i j query calls _ _ state.bench.pool
    · exact fun owed => owed
    · intro row stored
      rcases Pool.insert_cache_made i j query calls _ made state.bench.pool row stored with
        old | ⟨same, fresh, current⟩
      · exact .inl old
      · subst same
        rw [fresh]
        exact .inr fun settled => sound.offers settled _ member rfl current calls rfl
    · exact fun _ left => .inl (List.mem_of_mem_eraseIdx left)
  · cases offered

theorem move_sound (j : Fin n) (move : Move η n) (state later : Shared η n m σ)
    (moved : state.move? move = some later) (sound : Sound j state) : Sound j later := by
  cases move with
  | define i text handler =>
      cases moved
      exact define_sound i j text handler state sound
  | clear i =>
      obtain ⟨_, cleared⟩ := Option.ite_none_right_eq_some.mp moved
      cases cleared
      exact clear_sound i j state sound
  | begin i query =>
      cases moved
      exact quiet_sound j state _ (begin_quiet i j query state) sound
  | resolve k => exact quiet_sound j state later (resolve_quiet j k state later moved sound) sound
  | offer k => exact quiet_sound j state later (offer_quiet j k state later moved sound) sound
  | lookup i query =>
      cases moved
      have within := Pool.lookup_within i query state.bench.pool
      exact quiet_sound j state _ (within_quiet j state _ rfl within rfl rfl) sound
  | setLimit i setting =>
      cases moved
      exact quiet_sound j state _ (set_limit_quiet i j setting state) sound
  | setPolicyLimit i setting =>
      cases moved
      exact quiet_sound j state _ (set_policy_limit_quiet i j setting state) sound
  | setWithArguments i setting =>
      cases moved
      have within : (state.bench.pool.setWithArguments i setting).Within state.bench.pool :=
        fun _ => Cache.within_refl _
      exact quiet_sound j state _ (within_quiet j state _ rfl within rfl rfl) sound

theorem moves_sound (j : Fin n) (moves : List (Move η n)) (state later : Shared η n m σ)
    (moved : moves.foldlM move? state = some later) (sound : Sound j state) : Sound j later := by
  induction moves generalizing state with
  | nil =>
      cases moved
      exact sound
  | cons move rest ih =>
      rw [List.foldlM_cons] at moved
      obtain ⟨middle, first, following⟩ := Option.bind_eq_some_iff.mp moved
      exact ih middle following (move_sound j move state middle first sound)

theorem moves_cons (move : Move η n) (rest : List (Move η n)) (state later : Shared η n m σ)
    (moved : state.move? move = some later) :
    (move :: rest).foldlM move? state = rest.foldlM move? later := by
  rw [List.foldlM_cons, moved]
  rfl

-- Moves that nothing interrupts do what the bench does.
theorem define_moves (i : Fin n) (text : String) (handler : η) (state : Shared η n m σ) :
    [.define i text handler, .clear i].foldlM move? state =
      some { state with bench := state.bench.define i text handler } := by
  rw [moves_cons (.define i text handler) _ state _ rfl]
  simp only [List.foldlM_cons, List.foldlM_nil, move?, List.mem_cons_self, if_true, List.erase_cons_head]
  rfl

theorem attempting_newest (attempt : Attempt η n) (state : Shared η n m σ) :
    (state.attempting attempt).attempts[state.attempts.length]? = some attempt :=
  List.getElem?_concat_length

theorem attempting_ended (attempt : Attempt η n) (state : Shared η n m σ) :
    (state.attempting attempt).attempts.eraseIdx state.attempts.length = state.attempts := by
  rw [attempting, List.eraseIdx_append_of_length_le (Nat.le_refl _), Nat.sub_self,
    List.eraseIdx_cons_zero, List.append_nil]

theorem unknown_newest (i : Fin n) (query : String) (made : Nat) (header : Header) (state : Shared η n m σ)
    (unknown : Chain.resolve (state.bench.commandSet i) (Query.tokens query) = .error header) :
    (state.attempting ⟨i, query, made, none⟩).resolve? state.attempts.length = some state := by
  change Chain.resolve ((state.attempting ⟨i, query, made, none⟩).bench.commandSet i) _ = _ at unknown
  simp only [resolve?, attempting_newest, unknown, attempting_ended]
  rfl

theorem resolve_newest (i : Fin n) (query : String) (made : Nat) (calls : List (Call η))
    (state : Shared η n m σ)
    (resolved : Chain.resolve (state.bench.commandSet i) (Query.tokens query) = .ok calls) :
    (state.attempting ⟨i, query, made, none⟩).resolve? state.attempts.length =
      some (state.attempting ⟨i, query, made, some calls⟩) := by
  change Chain.resolve ((state.attempting ⟨i, query, made, none⟩).bench.commandSet i) _ = _ at resolved
  simp only [resolve?, attempting_newest, resolved]
  simp only [attempting, List.set_append_right, Nat.le_refl, Nat.sub_self, List.set_cons_zero]

theorem offer_newest (i : Fin n) (query : String) (made : Nat) (calls : List (Call η))
    (state : Shared η n m σ) :
    (state.attempting ⟨i, query, made, some calls⟩).offer? state.attempts.length =
      let argument := Token.containsArgument (Query.tokens query)
      some (state.setPool (state.bench.pool.insert i query calls argument (some made)).2) := by
  rw [offer?, attempting_newest]
  simp only [attempting_ended]
  rfl

theorem query_moves (i : Fin n) (query : String) (state : Shared η n m σ) :
    ∃ moves : List (Move η n),
      moves.foldlM move? state = some (state.setPool (state.bench.resolve i query).2.pool) := by
  let k := state.attempts.length
  have looked (value : Option (List (Call η))) (pool : Pool (List (Call η)) n m)
      (outcome : state.bench.pool.lookup i query = (value, pool)) :
      state.move? (.lookup i query) = some (state.setPool pool) := by
    rw [move?, outcome]
  have begun (pool : Pool (List (Call η)) n m) : (state.setPool pool).move? (.begin i query) =
      some ((state.setPool pool).attempting ⟨i, query, (pool.cache i).generation, none⟩) := rfl
  obtain ⟨calls, pool, found, hit⟩ | ⟨header, pool, missed, unknown, refused⟩ |
    ⟨calls, pool, missed, resolved, offered⟩ := Bench.resolve_cases i query state.bench
  · refine ⟨[.lookup i query], ?_⟩
    rw [hit, moves_cons _ _ _ _ (looked _ pool found)]
    rfl
  · have failed := unknown_newest i query (pool.cache i).generation header (state.setPool pool) unknown
    refine ⟨[.lookup i query, .begin i query, .resolve k], ?_⟩
    rw [refused, moves_cons _ _ _ _ (looked _ pool missed), moves_cons _ _ _ _ (begun pool),
      moves_cons (.resolve k) _ _ _ failed]
    rfl
  · have succeeded := resolve_newest i query (pool.cache i).generation calls (state.setPool pool) resolved
    have stored := offer_newest i query (pool.cache i).generation calls (state.setPool pool)
    refine ⟨[.lookup i query, .begin i query, .resolve k, .offer k], ?_⟩
    rw [offered, moves_cons _ _ _ _ (looked _ pool missed), moves_cons _ _ _ _ (begun pool),
      moves_cons (.resolve k) _ _ _ succeeded, moves_cons (.offer k) _ _ _ stored]
    rfl

theorem settled_entries_current (policies : Vector Policy m) (policyOf : Vector (Fin m) n) (memory : σ)
    (moves : List (Move η n)) (state : Shared η n m σ)
    (reached : moves.foldlM move? (fresh policies policyOf memory) = some state) (i : Fin n)
    (settled : i ∉ state.uncleared) :
    ∀ row ∈ state.rows i, Chain.resolve (state.bench.commandSet i) (Query.tokens row.1) = .ok row.2 :=
  (moves_sound i moves _ state reached (fresh_sound policies policyOf memory i)).entries settled

-- Two queries are under way when the command is defined anew. One has resolved with the old handler, the
-- other with the new one, and the first to begin after the clearing is the only one to be stored. The other
-- instrument is still to be cleared.
def race (i other : Fin n) : List (Move Nat n) := [
  .define i "VOLT?" 1, .clear i, .begin i "VOLT?", .begin i "VOLT?", .resolve 0, .define i "VOLT?" 2,
  .define other "VOLT?" 3, .resolve 1, .clear i, .offer 1, .offer 0, .begin i "VOLT?", .resolve 0, .offer 0]

theorem race_entries_current :
    ∃ state : Shared Nat 2 1 Unit,
      (race 0 1).foldlM move? (fresh #v[Policy.standard] #v[0, 0] ()) = some state ∧
      0 ∉ state.uncleared ∧ state.rows 0 = [("VOLT?", [⟨2, []⟩])] ∧
      ∀ row ∈ state.rows 0, Chain.resolve (state.bench.commandSet 0) (Query.tokens row.1) = .ok row.2 := by
  have ended : ((race 0 1).foldlM move? (fresh #v[Policy.standard] #v[0, 0] ())).map
      (fun state : Shared Nat 2 1 Unit => (state.uncleared, state.rows 0)) =
      some ([1], [("VOLT?", [⟨2, []⟩])]) := by decide +kernel
  obtain ⟨state, reached, same⟩ := Option.map_eq_some_iff.mp ended
  obtain ⟨uncleared, rows⟩ := Prod.mk.inj same
  have settled : 0 ∉ state.uncleared := by simp [uncleared]
  exact ⟨state, reached, settled, rows, settled_entries_current _ _ _ (race 0 1) state reached 0 settled⟩

end Shared

end Scpi
