import HdProvision.Proofs.Provision.Report
import HdProvision.Proofs.Provision.Stages
import HdProvision.Proofs.Session.Peers
import HdProvision.Proofs.Store.Record

/-!
# What does not look back

Storing, the stages that ask nothing, the report and the end of a run do the same in peers: they do not
depend on what was read and said before.
-/

set_option autoImplicit false

namespace HdProvision.Store.Configuration

open Program (Blind)
open Session (Alike)

theorem blind_asks {α : Type} (question : Vault.Stretcher → Disk → Except StoreError α) :
    Blind (asks question) := by
  refine Program.blind_get (fun s s' h => ?_) fun s => Program.blind_ofExcept _
  rw [h.stretcher, h.disk]

theorem Alike.storing {before before' : String} {s s' : Session} (h : Alike before before' s s')
    (d : Disk) : Alike before before' (s.storing d) (s'.storing d) :=
  ⟨⟨h.randomAt, h.drawn, h.stretcher, h.euid, h.stamp, h.colors, h.errors, rfl, h.handedOver,
    h.hears⟩, h.said⟩

theorem blind_update [Json.Nesting] (c : Configuration) (name : Json.Units) (v : Json.Value) :
    Blind (c.update name v) := by
  intro before before' s s' h
  rw [start_update, start_update, h.disk]
  exact ⟨rfl, Alike.storing h _⟩

theorem blind_wrapDrawn (passwordSalt wrapperSalt secret : Bytes)
    (r : Except Vault.StretchFault Bytes) :
    Blind (wrapDrawn passwordSalt wrapperSalt secret r) := by
  cases r with
  | error fault => exact Program.blind_throw _
  | ok material => exact (Program.blind_draw _).bind fun _ => Program.blind_pure _

theorem sealSecret_eq (secret : Bytes) (password : String) : sealSecret secret password = (do
    let passwordSalt ← Session.draw Vault.saltSize
    let wrapperSalt ← Session.draw Vault.saltSize
    let s ← get
    wrapDrawn passwordSalt wrapperSalt secret
      (s.stretcher.run (Utf8.encode password) passwordSalt)) := by
  rw [sealSecret]
  refine bind_congr fun passwordSalt => bind_congr fun wrapperSalt => bind_congr fun s => ?_
  cases s.stretcher.run (Utf8.encode password) passwordSalt <;> rfl

theorem blind_sealSecret (secret : Bytes) (password : String) :
    Blind (sealSecret secret password) := by
  rw [sealSecret_eq]
  refine (Program.blind_draw _).bind fun _ => (Program.blind_draw _).bind fun _ =>
    Program.blind_get (fun s s' h => ?_) fun s => blind_wrapDrawn _ _ _ _
  rw [h.stretcher]

theorem blind_keep [Json.Nesting] (c : Configuration) (name : Json.Units) (secret : Bytes)
    (password message : String) : Blind (c.keep name secret password message) :=
  (blind_sealSecret _ _).bind fun _ => (blind_update _ _ _).bind fun _ => Program.blind_note _ _ _

theorem blind_recordPassword [Json.Nesting] (c : Configuration) (password : String) :
    Blind (c.recordPassword password) := by
  intro before before' s s' h
  rw [start_recordPassword, start_recordPassword, h.stretcher, h.disk]
  rcases Config.checkPassword s.stretcher s.disk c.file password with e | - | - | -
  · exact ⟨rfl, h⟩
  · exact blind_keep _ _ _ _ _ before before' s s' h
  · exact ⟨rfl, h⟩
  · exact ⟨rfl, h⟩

theorem blind_recordSeed [Json.Nesting] (c : Configuration) (secret : Bytes) (password : String) :
    Blind (c.recordSeed secret password) := by
  intro before before' s s' h
  rw [start_recordSeed, start_recordSeed, h.stretcher, h.disk]
  rcases Config.seedExists s.disk c.file with e | - | -
  · exact ⟨rfl, h⟩
  · rcases Config.checkPassword s.stretcher s.disk c.file password with e | - | - | -
    · exact ⟨rfl, h⟩
    · exact ⟨rfl, h⟩
    · exact ⟨rfl, h⟩
    · exact blind_keep _ _ _ _ _ before before' s s' h
  · exact ⟨rfl, h⟩

end HdProvision.Store.Configuration

namespace HdProvision.Provision

open Console (Emitter)
open Mnemonic (Language)
open Program (Blind)
open Store (Configuration)

theorem Guard.blind_check [Json.Nesting] (c : Configuration) : Blind (Guard.check c) := by
  refine (Store.Configuration.blind_asks _).handle fun r => ?_
  rcases r with e | there
  · cases e <;> exact Program.blind_throw _
  · cases there
    · exact Program.blind_note _ _ _
    · exact (Program.blind_note _ _ _).bind fun _ => Program.blind_throw _

namespace Flow

theorem blind_language (name : String) : Blind (language name) := by
  rw [language]
  cases Language.find? name with
  | none => exact Program.blind_throw _
  | some l => exact Program.blind_pure _

theorem blind_earningWallet (x : EarningChoice) : Blind (earningWallet x) := by
  cases x with
  | wallet w => exact Program.blind_pure _
  | text text =>
    rw [earningWallet]
    cases Wallet.EarningWallet.ofString text with
    | error text => exact Program.blind_throw _
    | ok w => exact Program.blind_pure _

theorem blind_newPhrase (n : Int) (l : Language) : Blind (newPhrase .fresh n l) := by
  rw [newPhrase]
  cases Mnemonic.WordCount.ofInt? n with
  | none => exact Program.blind_throw _
  | some count => exact (Program.blind_draw _).bind fun _ => Program.blind_pure _

theorem blind_knownPhrase (l : Language) (words : List String) : Blind (knownPhrase l words) := by
  rw [knownPhrase]
  cases Mnemonic.validate l words with
  | ok phrase => exact Program.blind_pure _
  | error rejection => exact (Program.blind_note _ _ _).bind fun _ => Program.blind_throw _

theorem blind_derive (seed : Bytes) (path : String) (role : Role) :
    Blind (derive seed path role) := by
  intro before before' s s' h
  cases hderive : Wallet.Identity.derive seed path with
  | error fault =>
    rw [start_derive_of_error hderive, start_derive_of_error hderive]
    exact ⟨rfl, h⟩
  | ok w =>
    rw [start_derive_of_ok hderive, start_derive_of_ok hderive]
    exact ⟨rfl, h.noted _ _ _⟩

theorem blind_earning (seed : Bytes) (e : Wallet.EarningWallet) : Blind (earning seed e) := by
  cases e with
  | derived path => exact (blind_derive _ _ _).bind fun _ => Program.blind_pure _
  | external e => exact (Program.blind_note _ _ _).bind fun _ => Program.blind_pure _

/-- A password is taken unless it is blank. -/
def takePassword (p : String) : Program Error String := do
  if isBlankPassword p then throw (.config .blankPassword)
  return p

theorem blind_takePassword (p : String) : Blind (takePassword p) := by
  rw [takePassword]
  cases isBlankPassword p
  · exact Program.blind_pure _
  · exact (Program.blind_throw _).bind fun _ => Program.blind_pure _

end Flow

variable {ε : Type}

theorem Report.blind_paint (e : Emitter) (o : Outcome) (json : Bool) :
    Blind (Report.paint e o json : Program ε Unit) := by
  have hwallets : Blind (do
      e.say .white (Report.consumingLine o.consuming)
      e.say .white (Report.earningLine o.earning) : Program ε Unit) :=
    (Emitter.blind_say _ _ _).bind fun _ => Emitter.blind_say _ _ _
  cases json with
  | true => exact Emitter.blind_secret _ _ _
  | false =>
    change Blind (Report.paintText e o)
    rw [Report.paintText]
    cases o.phrase with
    | none => exact hwallets
    | some phrase =>
      exact (Emitter.blind_say _ _ _).bind fun _ => (Emitter.blind_secret _ _ _).bind fun _ =>
        (Emitter.blind_echo _ _ _ _ _).bind fun _ => hwallets

namespace Save

theorem blind_record [Json.Nesting] (c : Configuration) (o : Outcome) : Blind (record c o) := by
  refine Program.blind_sequence ?_
  intro p hp
  simp only [steps, List.mem_cons, List.not_mem_nil, or_false] at hp
  rcases hp with rfl | rfl | rfl | rfl
  · exact Store.Configuration.blind_recordPassword _ _
  · exact Store.Configuration.blind_recordSeed _ _ _
  · exact Store.Configuration.blind_update _ _ _
  · exact Store.Configuration.blind_update _ _ _

theorem blind_handOver (c : Configuration) (owner : Owner) : Blind (handOver c owner) := by
  intro before before' s s' h
  have howner : owner.handOver? s'.euid = owner.handOver? s.euid := congrArg _ h.euid
  rw [start_handOver, start_handOver, handed, handed, howner]
  refine ⟨rfl, ?_⟩
  cases owner.handOver? s.euid with
  | none => exact h
  | some ids =>
    obtain ⟨uid, gid⟩ := ids
    have hgiven : Session.Alike before before'
        { s with handedOver := s.handedOver ++ [(c.file, uid, gid)] }
        { s' with handedOver := s'.handedOver ++ [(c.file, uid, gid)] } :=
      ⟨⟨h.randomAt, h.drawn, h.stretcher, h.euid, h.stamp, h.colors, h.errors, h.disk,
        congrArg (· ++ [(c.file, uid, gid)]) h.handedOver, h.hears⟩, h.said⟩
    exact hgiven.noted _ _ _

theorem blind_save [Json.Nesting] (e : Emitter) (c : Configuration) (o : Outcome) (flow : String)
    (json : Bool) : Blind (save e c o flow json) := by
  refine (blind_record c o).bind fun _ => (blind_handOver _ _).bind fun _ => ?_
  cases json
  · exact Emitter.blind_message _ _ _ _
  · exact Program.blind_note _ _ _

end Save
end HdProvision.Provision
