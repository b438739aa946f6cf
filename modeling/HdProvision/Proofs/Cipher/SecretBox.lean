import HdProvision.Cipher.SecretBox

/-!
# Opening a sealed box

The key stream is as long as it is asked for, masking twice with the same stream gives the message
back, and so does opening a box that was sealed under the same key. A box that opens is the one that
sealing its message makes; no other box opens.
-/

set_option autoImplicit false

namespace HdProvision.Bytes

theorem length_xor (a b : Bytes) : (xor a b).length = min a.length b.length := by
  simp [xor]

theorem xor_cancel (x y : UInt8) : x ^^^ y ^^^ y = x := by
  rw [UInt8.xor_assoc, UInt8.xor_self, UInt8.xor_zero]

theorem xor_xor {a b : Bytes} (h : a.length ≤ b.length) : xor (xor a b) b = a := by
  induction a generalizing b with
  | nil => rfl
  | cons x a ih =>
    cases b with
    | nil => simp at h
    | cons y b =>
      rw [List.length_cons, List.length_cons] at h
      have htail := ih (Nat.le_of_succ_le_succ h)
      simp only [xor, List.zipWith_cons_cons, xor_cancel] at htail ⊢
      rw [htail]

end HdProvision.Bytes

namespace HdProvision.Salsa20

theorem length_streamBlock (key nonce : Bytes) (i : Nat) : (streamBlock key nonce i).length = 64 := rfl

/-- The key stream is as long as it is asked for. -/
theorem length_stream (key nonce : Bytes) (n : Nat) : (stream key nonce n).length = n := by
  have hblocks : ∀ (sub rest : Bytes) (k : Nat),
      ((List.range k).flatMap (streamBlock sub rest)).length = 64 * k := by
    intro sub rest k
    induction k with
    | zero => rfl
    | succ k ih =>
      rw [List.range_succ, List.flatMap_append, List.length_append, ih, List.flatMap_singleton,
        length_streamBlock, Nat.mul_succ]
  rw [stream, List.length_take, hblocks]
  omega

end HdProvision.Salsa20

namespace HdProvision.SecretBox

theorem length_pad (key nonce : Bytes) (n : Nat) : (mask key nonce n).pad.length = n := by
  simp only [mask, List.length_drop, Salsa20.length_stream]
  omega

theorem length_body (key nonce msg : Bytes) :
    (Bytes.xor msg (mask key nonce msg.length).pad).length = msg.length := by
  rw [Bytes.length_xor, length_pad, Nat.min_self]

/-- A box is its nonce, its tag and its body. -/
theorem parts_append {nonce tag : Bytes} (hnonce : nonce.length = nonceSize)
    (htag : tag.length = tagSize) (body : Bytes) :
    (nonce ++ tag ++ body).take nonceSize = nonce ∧
      ((nonce ++ tag ++ body).drop nonceSize).take tagSize = tag ∧
      (nonce ++ tag ++ body).drop (nonceSize + tagSize) = body := by
  rw [List.append_assoc, ← hnonce, ← htag]
  refine ⟨List.take_left, ?_, ?_⟩
  · rw [List.drop_left, List.take_left]
  · rw [← List.drop_drop, List.drop_left, List.drop_left]

/-- A box that was sealed with a nonce of the right size opens under its key. -/
theorem decrypt?_encrypt (key : Bytes) {nonce : Bytes} (h : nonce.length = nonceSize) (msg : Bytes) :
    decrypt? key (encrypt key nonce msg) = some msg := by
  have hlength : ¬ (encrypt key nonce msg).length < nonceSize + tagSize := by
    simp only [encrypt, List.length_append, Poly1305.length_tag, h, tagSize]
    omega
  obtain ⟨hnonce, htag, hbody⟩ := parts_append h
    (Poly1305.length_tag (mask key nonce msg.length).authKey
      (Bytes.xor msg (mask key nonce msg.length).pad))
    (Bytes.xor msg (mask key nonce msg.length).pad)
  have hpad := length_pad key nonce msg.length
  rw [decrypt?, if_neg hlength]
  simp only [encrypt, hnonce, htag, hbody, length_body]
  rw [if_pos trivial, Bytes.xor_xor (Nat.le_of_eq hpad.symm)]

/-- A box that opens is long enough, and it is the sealed box of its message under its own nonce. -/
theorem encrypt_of_decrypt? {key box msg : Bytes} (h : decrypt? key box = some msg) :
    nonceSize + tagSize ≤ box.length ∧ encrypt key (box.take nonceSize) msg = box := by
  rw [decrypt?] at h
  split at h
  · cases h
  · next hlength =>
    dsimp only at h
    split at h
    · next htag =>
      obtain rfl := Option.some.inj h
      have hparts : box.take nonceSize ++ (box.drop nonceSize).take tagSize ++
          box.drop (nonceSize + tagSize) = box := by
        rw [List.append_assoc, ← List.drop_drop, List.take_append_drop, List.take_append_drop]
      have hbody : ∀ body : Bytes, Bytes.xor (Bytes.xor body
          (mask key (box.take nonceSize) body.length).pad)
          (mask key (box.take nonceSize) body.length).pad = body :=
        fun body => Bytes.xor_xor (Nat.le_of_eq (length_pad key _ body.length).symm)
      refine ⟨Nat.le_of_not_lt hlength, ?_⟩
      simp only [encrypt, length_body, hbody, htag]
      exact hparts
    · cases h

/-- A box opens to a message exactly when it is the sealed box of the message. -/
theorem decrypt?_eq_some_iff {key box msg : Bytes} : decrypt? key box = some msg ↔
    nonceSize + tagSize ≤ box.length ∧ encrypt key (box.take nonceSize) msg = box := by
  constructor
  · exact encrypt_of_decrypt?
  · rintro ⟨hlength, hbox⟩
    have hnonce : (box.take nonceSize).length = nonceSize := by
      rw [List.length_take]
      omega
    rw [← hbox]
    exact decrypt?_encrypt key hnonce msg

theorem take_encrypt (key : Bytes) {nonce : Bytes} (h : nonce.length = nonceSize) (msg : Bytes) :
    (encrypt key nonce msg).take nonceSize = nonce := by
  rw [encrypt, ← h, List.append_assoc, List.take_left]

end HdProvision.SecretBox
