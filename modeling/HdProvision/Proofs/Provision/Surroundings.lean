import HdProvision.Proofs.Console.Dialog
import HdProvision.Proofs.Session.Effects
import HdProvision.Provision.Flow
import HdProvision.Provision.Report

/-!
# Provisioning leaves the disk alone

All stages of both flows, and the report of an outcome, leave the surroundings of a session as they
are.
-/

set_option autoImplicit false

namespace HdProvision.Provision

open Console (Emitter)
open Program (Leaves)

theorem Guard.leaves_check [Json.Nesting] (c : Store.Configuration) : Leaves (Guard.check c) := by
  have hasks : Leaves c.seedExists := Program.leaves_get.bind fun s => Program.leaves_ofExcept _
  refine hasks.handle fun r => ?_
  match r with
  | .error (.storage _) => exact Program.leaves_throw _
  | .error (.digits _) => exact Program.leaves_throw _
  | .error (.tooDeep _) => exact Program.leaves_throw _
  | .error .tooDeepToWrite => exact Program.leaves_throw _
  | .error (.sealedValue _) => exact Program.leaves_throw _
  | .error (.stretch _) => exact Program.leaves_throw _
  | .error (.system _) => exact Program.leaves_throw _
  | .ok true => exact (Program.leaves_note _ _ _).bind fun _ => Program.leaves_throw _
  | .ok false => exact Program.leaves_note _ _ _

namespace Collect

theorem leaves_acknowledge : Leaves acknowledge := by
  refine (Program.leaves_converse (Console.rest_visible _)).bind fun r => ?_
  cases r with
  | none => exact Program.leaves_throw _
  | some line => exact Program.leaves_pure _

theorem leaves_passphrase (e : Emitter) (request : PassphraseRequest) (limit : Int) :
    Leaves (passphrase e request limit) := by
  refine (Emitter.leaves_say _ _ _).bind fun _ => Program.leaves_get.bind fun s =>
    (Program.leaves_converse (Console.rest_passphrase _ _ _ _)).bind fun r => ?_
  cases r with
  | noPassphrase => exact Program.leaves_throw _
  | noConfirmation => exact Program.leaves_throw _
  | exhausted attempts => exact Program.leaves_throw _
  | agreed p attempts =>
    refine (Emitter.leaves_note _ _).bind fun _ => ?_
    dsimp only
    split
    · exact (Emitter.leaves_say _ _ _).bind fun _ => leaves_acknowledge.bind fun _ =>
        Program.leaves_pure _
    · exact Program.leaves_pure _

theorem leaves_words (e : Emitter) : Leaves (words e) := by
  refine (Emitter.leaves_say _ _ _).bind fun _ => Program.leaves_get.bind fun s =>
    (Program.leaves_converse (Console.rest_filled _)).bind fun r => ?_
  cases r with
  | none => exact Program.leaves_throw _
  | some phrase => exact Program.leaves_pure _

theorem leaves_passwordVariable (name : Option String) : Leaves (passwordVariable name) := by
  unfold passwordVariable
  split
  · exact Program.leaves_pure _
  · exact Program.leaves_pure _
  · exact Program.leaves_lookup _

theorem leaves_password (question : String) (place : Option String) (confirm : Bool) :
    Leaves (password question place confirm) := by
  refine (leaves_passwordVariable place).bind fun given => ?_
  cases given with
  | some p => exact Program.leaves_pure _
  | none =>
    refine Program.leaves_get.bind fun s => ?_
    split
    · exact Program.leaves_converse (Console.rest_twice _ _)
    · exact Program.leaves_converse (Console.rest_filled _)

/-- Takes an answer to the question for the database password. -/
def takePassword : Option String → Program Error String
  | some p => pure p
  | none => throw (.inputFailed .dbPassword)

theorem leaves_dbPassword (e : Emitter) (confirm : Bool) (place : Option String) :
    Leaves (dbPassword e confirm place) := by
  have hask : Leaves (password dbPasswordQuestion place confirm >>= takePassword) := by
    refine (leaves_password _ _ _).bind fun r => ?_
    cases r with
    | none => exact Program.leaves_throw _
    | some p => exact Program.leaves_pure _
  refine (leaves_passwordVariable place).bind fun given => ?_
  dsimp only
  split
  · exact (Emitter.leaves_say _ _ _).bind fun _ => hask
  · exact hask

end Collect

namespace Flow

theorem leaves_language (name : String) : Leaves (language name) := by
  rw [language]
  cases Mnemonic.Language.find? name with
  | none => exact Program.leaves_throw _
  | some l => exact Program.leaves_pure _

theorem leaves_earningWallet (x : EarningChoice) : Leaves (earningWallet x) := by
  cases x with
  | wallet w => exact Program.leaves_pure _
  | text s =>
    rw [earningWallet]
    cases Wallet.EarningWallet.ofString s with
    | error text => exact Program.leaves_throw _
    | ok w => exact Program.leaves_pure _

theorem leaves_require (interactive : Bool) (p : Parameter) : Leaves (require interactive p) := by
  cases interactive
  · exact Program.leaves_throw _
  · exact Program.leaves_pure _

theorem leaves_newPhrase (origin : PhraseSource) (n : Int) (l : Mnemonic.Language) :
    Leaves (newPhrase origin n l) := by
  cases origin with
  | prepared phrase => exact fun s => ⟨rfl, rfl, rfl, rfl, rfl, rfl, rfl, List.suffix_refl _⟩
  | fresh =>
    rw [newPhrase]
    cases Mnemonic.WordCount.ofInt? n with
    | none => exact Program.leaves_throw _
    | some count => exact (Program.leaves_draw _).bind fun _ => Program.leaves_pure _

theorem leaves_knownWords (r : Request) (words : Option (List String)) :
    Leaves (knownWords r words) := by
  cases words with
  | some words => exact Program.leaves_pure _
  | none => exact (leaves_require _ _).bind fun _ => Collect.leaves_words _

theorem leaves_knownPhrase (l : Mnemonic.Language) (words : List String) :
    Leaves (knownPhrase l words) := by
  rw [knownPhrase]
  cases Mnemonic.validate l words with
  | ok phrase => exact Program.leaves_pure _
  | error rejection => exact (Program.leaves_note _ _ _).bind fun _ => Program.leaves_throw _

theorem leaves_passphrase (r : Request) (request : Collect.PassphraseRequest) :
    Leaves (passphrase r request) := by
  rw [passphrase]
  cases r.passphrase with
  | some p => exact (Program.leaves_note _ _ _).bind fun _ => Program.leaves_pure _
  | none => exact (leaves_require _ _).bind fun _ => Collect.leaves_passphrase _ _ _

theorem leaves_dbPassword (r : Request) : Leaves (dbPassword r) := by
  have htaken : ∀ p : String, Leaves (do
      if isBlankPassword p then throw (.config .blankPassword)
      return p : Program Error String) := by
    intro p
    cases isBlankPassword p
    · exact Program.leaves_pure _
    · exact Program.leaves_throw _
  rw [dbPassword]
  cases r.dbPassword with
  | some p => exact (Program.leaves_pure p).bind htaken
  | none =>
    exact (leaves_require _ _).bind fun _ => (Collect.leaves_dbPassword _ _ _).bind htaken

theorem leaves_derive (seed : Bytes) (path : String) (role : Role) :
    Leaves (derive seed path role) := by
  rw [derive]
  cases Wallet.Identity.derive seed path with
  | error fault => exact Program.leaves_throw _
  | ok w =>
    dsimp only
    split
    · exact (Program.leaves_note _ _ _).bind fun _ => Program.leaves_pure _
    · exact Program.leaves_throw _

theorem leaves_earning (seed : Bytes) (e : Wallet.EarningWallet) : Leaves (earning seed e) := by
  cases e with
  | derived path => exact (leaves_derive _ _ _).bind fun _ => Program.leaves_pure _
  | external e => exact (Program.leaves_note _ _ _).bind fun _ => Program.leaves_pure _

theorem leaves_assemble (r : Request) (p : Parts) (showPhrase : Bool) :
    Leaves (assemble r p showPhrase) :=
  (leaves_derive _ _ _).bind fun _ => (leaves_earning _ _).bind fun _ => Program.leaves_pure _

variable [Json.Nesting]

theorem leaves_generate (c : Store.Configuration) (r : Request) (n : Int) (origin : PhraseSource) :
    Leaves (generate c r n origin) :=
  ((Guard.leaves_check c).mapError _).bind fun _ => (leaves_language _).bind fun _ =>
    (leaves_earningWallet _).bind fun _ => (leaves_newPhrase _ _ _).bind fun _ =>
      (Program.leaves_note _ _ _).bind fun _ => (leaves_passphrase _ _).bind fun _ =>
        (leaves_dbPassword _).bind fun _ => leaves_assemble _ _ _

theorem leaves_recover (c : Store.Configuration) (r : Request) (words : Option (List String)) :
    Leaves (recover c r words) :=
  ((Guard.leaves_check c).mapError _).bind fun _ => (leaves_language _).bind fun _ =>
    (leaves_earningWallet _).bind fun _ => (leaves_knownWords _ _).bind fun _ =>
      (leaves_knownPhrase _ _).bind fun _ => (leaves_passphrase _ _).bind fun _ =>
        (leaves_dbPassword _).bind fun _ => leaves_assemble _ _ _

end Flow
end HdProvision.Provision
