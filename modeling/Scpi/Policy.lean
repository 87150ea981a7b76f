import Scpi.Setting

set_option autoImplicit false

namespace Scpi

structure Policy where
  limit : Nat
  withArguments : Bool
deriving DecidableEq, Repr

namespace Policy

def standard : Policy := ⟨20, false⟩

instance : Inhabited Policy := ⟨standard⟩

-- A limit of 0 switches the cache off.
def enabled (policy : Policy) : Bool := 0 < policy.limit

def admits (policy : Policy) (argument : Bool) : Bool :=
  policy.enabled && (!argument || policy.withArguments)

def setLimit (setting : Setting) (policy : Policy) : Except Setting.Fault Policy :=
  setting.toLimit.map fun limit => { policy with limit }

def setWithArguments (setting : Setting) (policy : Policy) : Policy :=
  { policy with withArguments := setting.toSwitch }

def ofSettings (limit withArguments : Setting) : Except Setting.Fault Policy :=
  (standard.setWithArguments withArguments).setLimit limit

end Policy

end Scpi
