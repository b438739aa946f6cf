import HdProvision.Console.Emitter
import HdProvision.Provision.Outcome
import HdProvision.Store.Record

/-!
# Saving an outcome

The outcome is recorded in four steps: the password, the seed, the consuming path, the earning
address. Then the file is handed over to its owner, and the operator is told.
-/

set_option autoImplicit false

namespace HdProvision.Provision.Save

open Console (Emitter)
open Store (Configuration StoreError)

variable [Json.Nesting]

/-- The steps in which an outcome is recorded. -/
def steps (c : Configuration) (o : Outcome) : List (Program StoreError Unit) :=
  [ c.recordPassword o.dbPassword,
    c.recordSeed o.seed o.dbPassword,
    c.recordConsumingPath (.ofString (o.consuming.derivationPath.getD "")),
    c.recordEarningAddress (.ofString o.earning.address) ]

/-- Records an outcome. -/
def record (c : Configuration) (o : Outcome) : Program StoreError Unit :=
  Program.sequence (steps c o)

/-- Hands the file over, if that is possible. -/
def handOver (c : Configuration) (owner : Owner) : Program StoreError Unit := do
  let s ← get
  match owner.handOver? s.euid with
  | none => return ()
  | some (uid, gid) =>
    set { s with handedOver := s.handedOver ++ [(c.file, uid, gid)] }
    Emitter.note .info ("Handed " ++ c.file.text ++ " over to " ++ owner.text)

/-- What is said at the end. -/
def successMessage (flow : String) (file : Path) : String :=
  "Recorded " ++ flow ++ " wallets in " ++ file.text

/-- Records an outcome, hands the file over and says so. When the report is JSON nothing but the
report is printed. -/
def save (e : Emitter) (c : Configuration) (o : Outcome) (flow : String) (json : Bool) :
    Program StoreError Unit := do
  record c o
  handOver c o.owner
  let success := successMessage flow c.file
  if json then Emitter.note .info success
  else e.message (.plain .green) (some success) 1

end HdProvision.Provision.Save
