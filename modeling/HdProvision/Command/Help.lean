import HdProvision.Command.Usage
import HdProvision.Console.Style

/-!
# Help

The texts that explain the program and its commands, and the notices that it can give.
-/

set_option autoImplicit false

namespace HdProvision.Command

/-- What the program is called and what it is for. -/
def banner : String :=
  "\n=== walletforge ===\n\nv0.4.0\n\nHD wallet provisioning for network node operators\n"

/-- How a notice looks. -/
def bannerStyle : Console.Style := ⟨none, some true⟩

/-- The style of a path in a notice. -/
def pathStyle : Console.Style := ⟨none, none⟩

/-- The lines that explain the program, below its usage. -/
def programHelp : List String :=
  [ "",
    "  Top level command for provisioning walletforge wallets.",
    "",
    "Options:",
    "  --version       Echo the CLI version",
    "  --config-path   Echo the configuration root directory path",
    "  --logging-path  Echo the logging root directory path",
    "  --help          Show this message and exit.",
    "",
    "Commands:",
    "  generate-wallet  Generate a new set of HD wallets with a mnemonic...",
    "  recover-wallet   Import an existing set of HD wallets from a mnemonic..." ]

/-- The lines that explain what a command does, and where its phrase comes from. -/
def Verb.purpose : Verb → List String
  | generate =>
    [ "",
      "  Generate a new set of HD wallets with a mnemonic recovery phrase drawn from",
      "  the standard BIP39 word lists.",
      "",
      "Options:",
      "  --word-count [12|15|18|21|24]   The number of words in the generated mnemonic",
      "                                  phrase.  [default: 12]" ]
  | recover =>
    [ "",
      "  Import an existing set of HD wallets from a mnemonic recovery phrase drawn",
      "  from the standard BIP39 word lists.",
      "",
      "Options:",
      "  --mnemonic MNEMONIC_WORDS       An HD wallet mnemonic recovery phrase. This is",
      "                                  a secret; supplying it on the command line or",
      "                                  in the environment is insecure and unwise. If",
      "                                  omitted you will be prompted for it. Surround",
      "                                  it with double quotes." ]

/-- The lines that explain the options of both commands. -/
def sharedHelp : List String :=
  [ "  --language MNEMONIC_LANGUAGE    Language of the mnemonic word list, by",
    "                                  identifier or native name  [default: english]",
    "  --mnemonic-passphrase TEXT      Extra passphrase salting the mnemonic seed;",
    "                                  prompted for if omitted",
    "  --consuming-wallet TEXT         Derivation path of the wallet that pays for",
    "                                  network services  [default: m/44'/60'/0'/0/0]",
    "  --earning-wallet TEXT           Either a derivation path (default",
    "                                  m/44'/60'/0'/0/1) for an earning wallet",
    "                                  derived from the mnemonic seed, or the address",
    "                                  of an existing wallet to earn into.",
    "  --db-password TEXT              Password protecting the persisted wallet",
    "                                  configuration",
    "  --real-user REAL_USER           Operator account owning provisioned files, as",
    "                                  <uid>:<gid>:<home directory>",
    "  --config-root PATH              Custom configuration directory",
    "  --json                          Report the provisioned wallets as JSON",
    "  -D, --debug                     Enable debugging mode, raising exceptions",
    "                                  instead of converting them into exit codes.",
    "                                  Also sets log level to \"debug\" and turns on",
    "                                  console and file logging.",
    "  --log-level [critical|error|warn|info|debug]",
    "                                  The log level for this process.  Is overridden",
    "                                  by --debug.",
    "  --json-logs / --no-json-logs    Enable/disable logging to a json file.",
    "                                  Defaults to WALLETFORGE_JSON_LOGS, or to",
    "                                  `--no-json-logs` if it is not set.",
    "  --file-logs / --no-file-logs    Enable/disable logging to text file. Defaults",
    "                                  to WALLETFORGE_FILE_LOGS, or to `--file-logs`",
    "                                  if it is not set.",
    "  --console-logs / --no-console-logs",
    "                                  Enable/disable logging to console. Defaults to",
    "                                  `--no-console-logs`.",
    "  -L, --no-logs                   Disable all logging output",
    "  -Q, --quiet                     Disable console messages",
    "  -v, --verbose                   Verbose console messages",
    "  --help                          Show this message and exit." ]

/-- The lines of the help for the program or a command. -/
def Scope.help (s : Scope) : List String :=
  s.usage ::
    match s with
    | program => programHelp
    | command v => v.purpose ++ sharedHelp

/-- The help as it is printed. -/
def Scope.helpText (s : Scope) : String := String.join (s.help.map (· ++ "\n"))

end HdProvision.Command
