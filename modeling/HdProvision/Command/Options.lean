import HdProvision.Command.Arguments

/-!
# The options of the commands

There are two commands, one for each way of provisioning. Both know nearly the same options; those
that are switches are turned on or off, all others are settings with a value. In front of a command
stand only flags that ask for a notice.
-/

set_option autoImplicit false

namespace HdProvision.Command

/-- What can be commanded. -/
inductive Verb
  | generate
  | recover
  deriving DecidableEq, Repr

namespace Verb

def all : List Verb := [.generate, .recover]

/-- The name of the command. -/
def name : Verb → String
  | generate => "generate-wallet"
  | recover => "recover-wallet"

/-- What wallets are when the command was carried out. -/
def done : Verb → String
  | generate => "generated"
  | recover => "recovered"

def ofName? (s : String) : Option Verb := all.find? fun v => v.name = s

end Verb

/-- Something that is turned on or off. -/
inductive Switch
  | json
  | debug
  | jsonLogs
  | fileLogs
  | consoleLogs
  | noLogs
  | quiet
  | verbose
  deriving DecidableEq, Repr

/-- Something that has a value. -/
inductive Setting
  | wordCount
  | mnemonic
  | language
  | passphrase
  | consumingWallet
  | earningWallet
  | dbPassword
  | realUser
  | configRoot
  | logLevel
  deriving DecidableEq, Repr

/-- The long name of the option for a setting. -/
def Setting.long : Setting → String
  | wordCount => "--word-count"
  | mnemonic => "--mnemonic"
  | language => "--language"
  | passphrase => "--mnemonic-passphrase"
  | consumingWallet => "--consuming-wallet"
  | earningWallet => "--earning-wallet"
  | dbPassword => "--db-password"
  | realUser => "--real-user"
  | configRoot => "--config-root"
  | logLevel => "--log-level"

/-- What a flag of a command asks for. -/
inductive Flag
  | help
  | turn (s : Switch) (on : Bool)
  deriving DecidableEq, Repr

/-- Where the phrase of a command comes from. -/
def Verb.phraseSetting : Verb → Setting
  | generate => .wordCount
  | recover => .mnemonic

/-- The option for a setting. -/
def ofSetting (s : Setting) : Known Flag Setting := .value s.long s

/-- The options of a command. -/
def Verb.options (v : Verb) : List (Known Flag Setting) :=
  [ ofSetting v.phraseSetting, ofSetting .language, ofSetting .passphrase,
    ofSetting .consumingWallet, ofSetting .earningWallet, ofSetting .dbPassword,
    ofSetting .realUser, ofSetting .configRoot,
    .flag "--json" none (.turn .json true),
    .flag "--debug" (some 'D') (.turn .debug true),
    ofSetting .logLevel,
    .flag "--json-logs" none (.turn .jsonLogs true),
    .flag "--no-json-logs" none (.turn .jsonLogs false),
    .flag "--file-logs" none (.turn .fileLogs true),
    .flag "--no-file-logs" none (.turn .fileLogs false),
    .flag "--console-logs" none (.turn .consoleLogs true),
    .flag "--no-console-logs" none (.turn .consoleLogs false),
    .flag "--no-logs" (some 'L') (.turn .noLogs true),
    .flag "--quiet" (some 'Q') (.turn .quiet true),
    .flag "--verbose" (some 'v') (.turn .verbose true),
    .flag "--help" none .help ]

/-- What can be asked for without a command. -/
inductive Notice
  | version
  | configPath
  | loggingPath
  | help
  deriving DecidableEq, Repr

/-- The options in front of a command. -/
def noticeOptions : List (Known Notice Empty) :=
  [ .flag "--version" none .version, .flag "--config-path" none .configPath,
    .flag "--logging-path" none .loggingPath, .flag "--help" none .help ]

/-- The flags among what was given. -/
def flags {φ ν : Type} (given : List (Given φ ν)) : List φ :=
  given.filterMap fun
    | .flag f => some f
    | .value _ _ => none

/-- The values among what was given. -/
def values {φ ν : Type} (given : List (Given φ ν)) : List (ν × String) :=
  given.filterMap fun
    | .flag _ => none
    | .value v text => some (v, text)

/-- Each setting that was given, in the order in which they came up, with its last value. -/
def settings (given : List (Given Flag Setting)) : List (Setting × String) :=
  let vs := values given
  (vs.map (·.1)).eraseDups.filterMap fun s => (vs.reverse.lookup s).map fun text => (s, text)

end HdProvision.Command
