import HdProvision.Bytes.Hex
import HdProvision.Hash.Keccak
import HdProvision.Hash.Scrypt
import HdProvision.Cipher.SecretBox
import HdProvision.Text.Blank
import HdProvision.Text.LetterCase
import HdProvision.Text.Normal
import HdProvision.Text.Tables.Digits
import HdProvision.Text.Tables.Unprintable
import HdProvision.Text.Tables.Identifier
import HdProvision.Text.Identifier
import HdProvision.Text.Integer
import HdProvision.Text.Path
import HdProvision.Text.Quoted
import HdProvision.Text.Template
import HdProvision.Mnemonic.Language
import HdProvision.Mnemonic.Lists.ChineseSimplified
import HdProvision.Mnemonic.Lists.ChineseTraditional
import HdProvision.Mnemonic.Lists.Czech
import HdProvision.Mnemonic.Lists.English
import HdProvision.Mnemonic.Lists.French
import HdProvision.Mnemonic.Lists.Italian
import HdProvision.Mnemonic.Lists.Japanese
import HdProvision.Mnemonic.Lists.Korean
import HdProvision.Mnemonic.Lists.Portuguese
import HdProvision.Mnemonic.Lists.Spanish
import HdProvision.Mnemonic.Phrase
import HdProvision.Mnemonic.Seed
import HdProvision.Curve.Secp256k1
import HdProvision.Wallet.Address
import HdProvision.Wallet.DerivationPath
import HdProvision.Wallet.ExtendedKey
import HdProvision.Wallet.Identity
import HdProvision.Decimal.Binary64
import HdProvision.Decimal.Shortest
import HdProvision.Json.Reader
import HdProvision.Json.Writer
import HdProvision.Provision.Outcome
import HdProvision.Settings.Flag
import HdProvision.Settings.Group
import HdProvision.Vault.KeyMaterial
import HdProvision.Vault.Sealed
import HdProvision.Console.Dialog
import HdProvision.Console.Style
import HdProvision.Log.Event
import HdProvision.Log.Journal
import HdProvision.Json.Literal
import HdProvision.Store.Config
import HdProvision.Console.Emitter
import HdProvision.Store.Record
import HdProvision.Provision.Collect
import HdProvision.Provision.Flow
import HdProvision.Provision.Report
import HdProvision.Provision.Save
import HdProvision.Command.Arguments
import HdProvision.Command.Help
import HdProvision.Command.Invocation
import HdProvision.Command.Order
import HdProvision.Command.Run
import HdProvision.Main
import HdProvision.Proofs.Provision.Recovery
import HdProvision.Proofs.Command.Completion
import HdProvision.Proofs.Provision.AskingScript
import HdProvision.Proofs.Mnemonic.Grammar
import HdProvision.Proofs.Store.Damage
import HdProvision.Proofs.Provision.Staging
import HdProvision.Proofs.Command.Agreement
import HdProvision.Proofs.Command.Confinement
import HdProvision.Proofs.Command.JsonOutput
import HdProvision.Proofs.Provision.Interface
import HdProvision.Proofs.Provision.Resuming
import HdProvision.Proofs.Store.Interleaving
import HdProvision.Proofs.Store.Refusals
import HdProvision.Proofs.Store.Sealing
import HdProvision.Proofs.Provision.Exchange
import HdProvision.Proofs.Log.Delivery
import HdProvision.Proofs.Store.Frame
import HdProvision.Proofs.Store.Passwords
import HdProvision.Proofs.Wallet.Address
import HdProvision.Proofs.Provision.Owner
import HdProvision.Proofs.Provision.PasswordExchange
import HdProvision.Proofs.Log.Pausing
import HdProvision.Proofs.Log.Verbatim
import HdProvision.Proofs.Mnemonic.LanguageNames
