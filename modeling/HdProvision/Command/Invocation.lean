import HdProvision.Command.Options
import HdProvision.Log.Event
import HdProvision.Mnemonic.Phrase
import HdProvision.Provision.Flow
import HdProvision.Settings.Flag
import HdProvision.Text.Quoted

/-!
# What a command is run with

The settings and switches of a run. What is not given on the command line comes from a variable of
the environment, if there is one for it, or has a default. A variable without content counts as
unset; an option without content does not.
-/

set_option autoImplicit false

namespace HdProvision.Command

open Mnemonic (Language WordCount)
open Provision (Owner)
open Settings (Environment)

/-- What is turned on; a kind of log that was not mentioned is neither on nor off. -/
structure Switches where
  json : Bool
  debug : Bool
  jsonLogs : Option Bool
  fileLogs : Option Bool
  consoleLogs : Bool
  noLogs : Bool
  quiet : Bool
  verbose : Bool
  deriving DecidableEq, Repr

namespace Switches

def initial : Switches := ⟨false, false, none, none, false, false, false, false⟩

def turn (w : Switches) (on : Bool) : Switch → Switches
  | .json => { w with json := on }
  | .debug => { w with debug := on }
  | .jsonLogs => { w with jsonLogs := some on }
  | .fileLogs => { w with fileLogs := some on }
  | .consoleLogs => { w with consoleLogs := on }
  | .noLogs => { w with noLogs := on }
  | .quiet => { w with quiet := on }
  | .verbose => { w with verbose := on }

/-- Obeys one flag. -/
def obey (w : Switches) : Flag → Switches
  | .help => w
  | .turn s on => w.turn on s

/-- The switches after all flags that were given. -/
def ofFlags (fs : List Flag) : Switches := fs.foldl obey initial

end Switches

/-- Everything that a command is run with. The word count is for a new phrase, the words are those
of a known one. -/
structure Invocation where
  wordCount : WordCount
  words : Option (List String)
  language : Language
  passphrase : Option String
  consumingPath : String
  earning : String
  dbPassword : Option String
  owner : Owner
  configRoot : Option Path
  logLevel : Log.Level
  switches : Switches

/-- What is said about a value that is none of the choices. -/
def choiceMessage (text : String) (choices : List String) : String :=
  Text.Quoted.quote text ++ " is not one of " ++
    Text.join ", " (choices.map Text.Quoted.quote) ++ "."

/-- A word count as it is chosen. -/
def wordCountText (c : WordCount) : String := toString c.toNat

def wordCountOfText (text : String) : Except String WordCount :=
  match WordCount.all.find? fun c => wordCountText c = text with
  | some c => .ok c
  | none => .error (choiceMessage text (WordCount.all.map wordCountText))

def languageOfText (text : String) : Except String Language :=
  match Language.find? text with
  | some l => .ok l
  | none => .error (Language.unknownMessage text)

def ownerOfText (text : String) : Except String Owner :=
  (Owner.ofString text).mapError (Provision.OwnerFault.message text)

/-- The levels as they are offered, the gravest first. -/
def levelNames : List String := (Log.Level.all.map Log.Level.name).reverse

def levelOfText (text : String) : Except String Log.Level :=
  match Log.Level.ofName? text with
  | some l => .ok l
  | none => .error (choiceMessage text levelNames)

/-- Why a value was not taken. -/
inductive ValueFault
  | invalid (message : String)
  /-- The system cannot be asked about it. -/
  | system (e : Store.SystemError)

/-- The path that a text spells, if the system can be asked about it. -/
def pathOfText (text : String) : Except ValueFault Path :=
  let p := Path.ofString text
  if text.contains '\x00' then .error (.system ⟨.zeroOctet, p⟩) else .ok p

namespace Invocation

def mnemonicVariable : String := "WALLETFORGE_MNEMONIC"

def passphraseVariable : String := "WALLETFORGE_MNEMONIC_PASSPHRASE"

/-- The value of a variable that has content. -/
def filledVariable (env : Environment) (name : String) : Option String :=
  (env.lookup name).filter (· ≠ "")

/-- What a command is run with when nothing is given but the environment. -/
def ofEnvironment (env : Environment) : Invocation :=
  { wordCount := .twelve
    words := (filledVariable env mnemonicVariable).map Text.words
    language := .english
    passphrase := filledVariable env passphraseVariable
    consumingPath := Provision.defaultConsumingPath
    earning := Provision.defaultEarningPath
    dbPassword := filledVariable env Provision.Collect.dbPasswordVariable
    owner := .null
    configRoot := none
    logLevel := .info
    switches := .initial }

/-- Changes a setting to a value that is given as text. -/
def set (i : Invocation) (text : String) : Setting → Except ValueFault Invocation
  | .wordCount =>
    ((wordCountOfText text).map fun c => { i with wordCount := c }).mapError .invalid
  | .mnemonic => .ok { i with words := some (Text.words text) }
  | .language => ((languageOfText text).map fun l => { i with language := l }).mapError .invalid
  | .passphrase => .ok { i with passphrase := some text }
  | .consumingWallet => .ok { i with consumingPath := text }
  | .earningWallet => .ok { i with earning := text }
  | .dbPassword => .ok { i with dbPassword := some text }
  | .realUser => ((ownerOfText text).map fun o => { i with owner := o }).mapError .invalid
  | .configRoot => (pathOfText text).map fun p => { i with configRoot := some p }
  | .logLevel => ((levelOfText text).map fun l => { i with logLevel := l }).mapError .invalid

/-- Changes settings one after another; the error names the first with an unusable value. -/
def setAll (i : Invocation) : List (Setting × String) → Except (Setting × ValueFault) Invocation
  | [] => .ok i
  | (s, text) :: rest =>
    match i.set text s with
    | .ok i => i.setAll rest
    | .error fault => .error (s, fault)

/-- What was given, over what the environment gives. -/
def ofGiven (env : Environment) (given : List (Given Flag Setting)) :
    Except (Setting × ValueFault) Invocation :=
  setAll { ofEnvironment env with switches := .ofFlags (flags given) } (settings given)

end Invocation
end HdProvision.Command
