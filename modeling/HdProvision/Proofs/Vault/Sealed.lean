import HdProvision.Proofs.Cipher.SecretBox
import HdProvision.Proofs.Json.Soundness
import HdProvision.Vault.Sealed

/-!
# Opening a sealed secret

A stored secret opens under the password it was sealed under, whatever salts were drawn. Whether
stretching a password fails depends on the run and its salt, and not on the password.
-/

set_option autoImplicit false

namespace HdProvision.Vault

/-- A stretcher whose runs do not fail. -/
structure Stretcher.Works (s : Stretcher) : Prop where
  enough : (s.states < 2 || !s.states.isPowerOfTwo) = false
  sane : ∀ salt, s.failure salt = none

/-- A stretcher that has the memory for all its runs or for none. -/
def Stretcher.Steady (s : Stretcher) : Prop :=
  (∀ salt, s.failure salt = none) ∨ ∀ salt, s.failure salt ≠ none

namespace Stretcher

variable {s : Stretcher} {password salt material : Bytes}

theorem run_eq_ok_iff : s.run password salt = .ok material ↔
    (s.states < 2 || !s.states.isPowerOfTwo) = false ∧ s.failure salt = none ∧
      Scrypt.derive password salt s.states cost.r = material := by
  unfold run
  split
  · next hstates => exact ⟨nofun, fun h => absurd hstates (Bool.not_eq_true _ ▸ h.1)⟩
  · next hstates =>
    rw [Bool.not_eq_true] at hstates
    cases s.failure salt with
    | none => exact ⟨fun h => ⟨hstates, rfl, Except.ok.inj h⟩, fun h => congrArg _ h.2.2⟩
    | some code => exact ⟨nofun, fun h => nomatch h.2.1⟩

/-- With a salt that one password was stretched with every password is. -/
theorem run_of_run (h : s.run password salt = .ok material) (other : Bytes) :
    ∃ material, s.run other salt = .ok material := by
  rw [run_eq_ok_iff] at h
  exact ⟨_, run_eq_ok_iff.mpr ⟨h.1, h.2.1, rfl⟩⟩

theorem Works.run_ok (h : s.Works) (password salt : Bytes) :
    ∃ material, s.run password salt = .ok material :=
  ⟨_, run_eq_ok_iff.mpr ⟨h.enough, h.sane salt, rfl⟩⟩

/-- One run of a steady stretcher tells of all. -/
theorem Steady.works (hsteady : s.Steady) (h : s.run password salt = .ok material) : s.Works := by
  obtain ⟨henough, hsane, -⟩ := run_eq_ok_iff.mp h
  exact ⟨henough, hsteady.resolve_right fun hfails => hfails salt hsane⟩

end Stretcher

theorem unwrap?_wrap (material salt : Bytes) {nonce : Bytes}
    (h : nonce.length = SecretBox.nonceSize) (secret : Bytes) :
    unwrap? material salt (wrap material salt nonce secret) = some secret :=
  SecretBox.decrypt?_encrypt _ h secret

namespace Sealed

/-- The names of the stored fields. -/
theorem nodup_names (s : Sealed) : (s.toFields.map Prod.fst).Nodup := by
  change ([Json.Units.ofString "ciphertext", Json.Units.ofString "password_salt",
    Json.Units.ofString "wrapper_salt"] : List Json.Units).Nodup
  decide

theorem sound_toFields (s : Sealed) : (Json.Value.object s.toFields).Sound :=
  ⟨⟨trivial, trivial, trivial, trivial⟩, nodup_names s⟩

theorem depth_toFields (s : Sealed) : (Json.Value.object s.toFields).depth = 1 := rfl

theorem octets_of_get? {fields : Json.Fields} {field : String} {bs : Bytes}
    (h : Json.Fields.get? fields (Json.Units.ofString field) =
      some (.text (Json.Units.ofString (Hex.encode bs)))) :
    octets (.object fields) field = .ok bs := by
  have hdecode : Hex.decode (Hex.encode bs) = .ok bs := by
    rw [Hex.decode, Hex.encode, String.toList_ofList, Hex.decodeChars_encodeChars]
  simp only [octets, h, Json.Units.toString_ofString, hdecode]

theorem get?_toFields (s : Sealed) :
    Json.Fields.get? s.toFields (Json.Units.ofString "ciphertext") =
        some (.text (Json.Units.ofString (Hex.encode s.ciphertext))) ∧
      Json.Fields.get? s.toFields (Json.Units.ofString "password_salt") =
        some (.text (Json.Units.ofString (Hex.encode s.passwordSalt))) ∧
      Json.Fields.get? s.toFields (Json.Units.ofString "wrapper_salt") =
        some (.text (Json.Units.ofString (Hex.encode s.wrapperSalt))) := by
  have hpassword : (Json.Units.ofString "password_salt" == Json.Units.ofString "ciphertext") = false := by
    decide
  have hwrapper : (Json.Units.ofString "wrapper_salt" == Json.Units.ofString "ciphertext") = false ∧
      (Json.Units.ofString "wrapper_salt" == Json.Units.ofString "password_salt") = false := by
    decide
  refine ⟨?_, ?_, ?_⟩
  · simp only [toFields, Json.Fields.get?, List.lookup_cons, beq_self_eq_true]
  · simp only [toFields, Json.Fields.get?, List.lookup_cons, beq_self_eq_true, hpassword]
  · simp only [toFields, Json.Fields.get?, List.lookup_cons, beq_self_eq_true, hwrapper]

variable {s : Stretcher} {salts : Salts} {material : Bytes} {password : String}

theorem bind_ok {α β : Type} {x : Except OpenFault α} {f : α → Except OpenFault β} {b : β} :
    (x >>= f) = .ok b ↔ ∃ a, x = .ok a ∧ f a = .ok b := by
  cases x <;> simp [bind, Except.bind]

/-- When a password was stretched and the stored value has its fields, the box decides. -/
theorem unlock_of_octets {stored : Json.Value} {passwordSalt wrapperSalt ciphertext : Bytes}
    (hpassword : octets stored "password_salt" = .ok passwordSalt)
    (hrun : s.run (Utf8.encode password) passwordSalt = .ok material)
    (hwrapper : octets stored "wrapper_salt" = .ok wrapperSalt)
    (hciphertext : octets stored "ciphertext" = .ok ciphertext) :
    unlock s stored password =
      (unwrap? material wrapperSalt ciphertext).elim (.error .wrongKey) .ok := by
  have hmaterial : (s.run (Utf8.encode password) passwordSalt).mapError OpenFault.stretch =
      .ok material := by
    rw [hrun]
    rfl
  simp only [unlock, hpassword, hwrapper, hciphertext, bind, Except.bind, hmaterial]
  cases unwrap? material wrapperSalt ciphertext <;> rfl

theorem unlock_toFields (x : Sealed)
    (hrun : s.run (Utf8.encode password) x.passwordSalt = .ok material) :
    unlock s (.object x.toFields) password =
      (unwrap? material x.wrapperSalt x.ciphertext).elim (.error .wrongKey) .ok := by
  obtain ⟨hciphertext, hpassword, hwrapper⟩ := get?_toFields x
  exact unlock_of_octets (octets_of_get? hpassword) hrun (octets_of_get? hwrapper)
    (octets_of_get? hciphertext)

/-- A secret that was sealed is got back with its password. -/
theorem unlock_ofMaterial (h : s.run (Utf8.encode password) salts.password = .ok material)
    (hnonce : salts.nonce.length = SecretBox.nonceSize) (secret : Bytes) :
    unlock s (.object (ofMaterial salts material secret).toFields) password = .ok secret := by
  rw [unlock_toFields (ofMaterial salts material secret) h, ofMaterial,
    unwrap?_wrap _ _ hnonce, Option.elim_some]

theorem unlock_ok {v : Json.Value} {secret : Bytes} (h : unlock s v password = .ok secret) :
    ∃ passwordSalt material wrapperSalt ciphertext,
      octets v "password_salt" = .ok passwordSalt ∧
        s.run (Utf8.encode password) passwordSalt = .ok material ∧
        octets v "wrapper_salt" = .ok wrapperSalt ∧ octets v "ciphertext" = .ok ciphertext ∧
        unwrap? material wrapperSalt ciphertext = some secret := by
  obtain ⟨passwordSalt, hpassword, h⟩ := bind_ok.mp h
  obtain ⟨material, hmaterial, h⟩ := bind_ok.mp h
  obtain ⟨wrapperSalt, hwrapper, h⟩ := bind_ok.mp h
  obtain ⟨ciphertext, hciphertext, h⟩ := bind_ok.mp h
  have hrun : s.run (Utf8.encode password) passwordSalt = .ok material := by
    cases hrun : s.run (Utf8.encode password) passwordSalt with
    | error fault =>
      rw [hrun] at hmaterial
      cases hmaterial
    | ok m =>
      rw [hrun] at hmaterial
      cases hmaterial
      rfl
  split at h
  · next hunwrap =>
    cases h
    exact ⟨_, _, _, _, hpassword, hrun, hwrapper, hciphertext, hunwrap⟩
  · cases h

theorem lock_eq_ok_iff {secret : Bytes} {x : Sealed} :
    lock s salts secret password = .ok x ↔ ∃ material,
      s.run (Utf8.encode password) salts.password = .ok material ∧
        ofMaterial salts material secret = x := by
  rw [lock]
  cases s.run (Utf8.encode password) salts.password <;> simp [Except.map]

/-- What was locked with a nonce of the right size is unlocked with its password. -/
theorem unlock_lock {secret : Bytes} {x : Sealed} (h : lock s salts secret password = .ok x)
    (hnonce : salts.nonce.length = SecretBox.nonceSize) :
    unlock s (.object x.toFields) password = .ok secret := by
  obtain ⟨material, hrun, rfl⟩ := lock_eq_ok_iff.mp h
  exact unlock_ofMaterial hrun hnonce secret

theorem lock_of_works (h : s.Works) (salts : Salts) (secret : Bytes) (password : String) :
    ∃ x, lock s salts secret password = .ok x := by
  obtain ⟨material, hrun⟩ := h.run_ok (Utf8.encode password) salts.password
  exact ⟨ofMaterial salts material secret, by rw [lock, hrun]; rfl⟩

end Sealed
end HdProvision.Vault
