import HdProvision.Provision.Error
import HdProvision.Store.Record

/-!
# The guard

Nothing is provisioned while a seed is recorded. The guard runs before anything else; each way of
provisioning has its own error for a recorded seed.
-/

set_option autoImplicit false

namespace HdProvision.Provision

/-- Why the guard did not let pass. -/
inductive GuardFault
  | seedExists
  | config (fault : ConfigFault)
  | store (e : Store.StoreError)

namespace GuardFault

def message : GuardFault → String
  | seedExists => seedExistsMessage
  | config fault => fault.message
  | store e => e.message

/-- The fault as an error of a run whose error for a recorded seed is given. -/
def toError (existing : Error) : GuardFault → Error
  | seedExists => existing
  | config fault => .config fault
  | store e => .store e

end GuardFault

namespace Guard

/-- The source of its log events. -/
def source : String := "provisioning-guard"

variable [Json.Nesting]

/-- Fails if a seed is recorded, or if that cannot be told. -/
def check (c : Store.Configuration) : Program GuardFault Unit :=
  c.seedExists.handle fun
    | .error (.storage fault) => throw (.config (.storage .seed fault))
    | .error e => throw (.store e)
    | .ok true => do
      Session.note .warn source
        "Refusing to provision wallets: a mnemonic seed is already persisted"
      throw .seedExists
    | .ok false => Session.note .debug source "No persisted mnemonic seed found"

end Guard
end HdProvision.Provision
