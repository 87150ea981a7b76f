import Scpi.Cache

set_option autoImplicit false

namespace Scpi

structure Pool (ν : Type) (n m : Nat) where
  policies : Vector Policy m
  policyOf : Vector (Fin m) n
  caches : Vector (Cache ν) n

namespace Pool

variable {ν : Type} {n m : Nat}

def fresh (policies : Vector Policy m) (policyOf : Vector (Fin m) n) : Pool ν n m :=
  ⟨policies, policyOf, Vector.replicate n Cache.empty⟩

def policy (pool : Pool ν n m) (i : Fin n) : Policy := pool.policies.get (pool.policyOf.get i)

def cache (pool : Pool ν n m) (i : Fin n) : Cache ν := pool.caches.get i

def setCache (i : Fin n) (cache : Cache ν) (pool : Pool ν n m) : Pool ν n m :=
  { pool with caches := pool.caches.set i cache i.isLt }

def setPolicy (i : Fin n) (policy : Policy) (pool : Pool ν n m) : Pool ν n m :=
  let k := pool.policyOf.get i
  { pool with policies := pool.policies.set k policy k.isLt }

def lookup (i : Fin n) (query : String) (pool : Pool ν n m) : Option ν × Pool ν n m :=
  let result := (pool.cache i).lookup (pool.policy i) query
  (result.1, pool.setCache i result.2)

def insert (i : Fin n) (query : String) (value : ν) (argument : Bool) (made : Option Int)
    (pool : Pool ν n m) : Cache.Insertion × Pool ν n m :=
  let result := (pool.cache i).insert (pool.policy i) query value argument made
  (result.1, pool.setCache i result.2)

def clear (i : Fin n) (pool : Pool ν n m) : Pool ν n m := pool.setCache i (pool.cache i).clear

def shrink (i : Fin n) (pool : Pool ν n m) : List Cache.Victim × Pool ν n m :=
  let result := (pool.cache i).shrink (pool.policy i).limit
  (result.1, pool.setCache i result.2)

-- Sets the limit of a cache's policy and nothing else. A cache that is too large for it stays so until
-- its next insertion.
def setPolicyLimit (i : Fin n) (setting : Setting) (pool : Pool ν n m) :
    Except Setting.Fault (Pool ν n m) :=
  ((pool.policy i).setLimit setting).map fun policy => pool.setPolicy i policy

def setLimit (i : Fin n) (setting : Setting) (pool : Pool ν n m) :
    Except Setting.Fault (List Cache.Victim × Pool ν n m) :=
  (pool.setPolicyLimit i setting).map (shrink i)

def setWithArguments (i : Fin n) (setting : Setting) (pool : Pool ν n m) : Pool ν n m :=
  pool.setPolicy i ((pool.policy i).setWithArguments setting)

end Pool

end Scpi
