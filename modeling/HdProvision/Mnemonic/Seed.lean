import HdProvision.Bytes.Utf8
import HdProvision.Hash.Keyed
import HdProvision.Text.Normal

/-!
# Seeds

The seed is stretched from the decomposed phrase; the passphrase salts it.
-/

set_option autoImplicit false

namespace HdProvision.Mnemonic

/-- The 64 octet seed of a phrase and a passphrase. -/
def seed (phrase passphrase : String) : Bytes :=
  BlockHash.sha512.pbkdf2 (Utf8.encode (Text.nfkd phrase))
    (Utf8.encode ("mnemonic" ++ Text.nfkd passphrase)) 2048 1

/-- Only the decomposed phrase counts. -/
theorem seed_congr {p q : String} (h : Text.nfkd p = Text.nfkd q) (passphrase : String) :
    seed p passphrase = seed q passphrase := by
  simp only [seed, h]

end HdProvision.Mnemonic
