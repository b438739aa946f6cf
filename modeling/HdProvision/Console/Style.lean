import HdProvision.Text.Integer

/-!
# Styled text

Colors and weights are control sequences around a text. On a console without colors all such
sequences are taken out of what is printed, also those that a text brought along.
-/

set_option autoImplicit false

namespace HdProvision.Console

/-- A color of the foreground. -/
inductive Color
  | black
  | red
  | green
  | yellow
  | blue
  | magenta
  | cyan
  | white
  | reset
  | brightBlack
  | brightRed
  | brightGreen
  | brightYellow
  | brightBlue
  | brightMagenta
  | brightCyan
  | brightWhite
  deriving DecidableEq, Repr

namespace Color

def all : List Color :=
  [.black, .red, .green, .yellow, .blue, .magenta, .cyan, .white, .reset, .brightBlack, .brightRed,
    .brightGreen, .brightYellow, .brightBlue, .brightMagenta, .brightCyan, .brightWhite]

def name : Color → String
  | black => "black"
  | red => "red"
  | green => "green"
  | yellow => "yellow"
  | blue => "blue"
  | magenta => "magenta"
  | cyan => "cyan"
  | white => "white"
  | reset => "reset"
  | brightBlack => "bright_black"
  | brightRed => "bright_red"
  | brightGreen => "bright_green"
  | brightYellow => "bright_yellow"
  | brightBlue => "bright_blue"
  | brightMagenta => "bright_magenta"
  | brightCyan => "bright_cyan"
  | brightWhite => "bright_white"

/-- The number of the control sequence. -/
def code : Color → Nat
  | black => 30
  | red => 31
  | green => 32
  | yellow => 33
  | blue => 34
  | magenta => 35
  | cyan => 36
  | white => 37
  | reset => 39
  | brightBlack => 90
  | brightRed => 91
  | brightGreen => 92
  | brightYellow => 93
  | brightBlue => 94
  | brightMagenta => 95
  | brightCyan => 96
  | brightWhite => 97

def ofName? (s : String) : Option Color := all.find? fun c => c.name = s

end Color

/-- How a text looks. -/
structure Style where
  color : Option Color
  bold : Option Bool
  deriving DecidableEq, Repr

/-- The character that starts a control sequence. -/
def escapeChar : Char := '\x1b'

/-- The control sequence with a number. -/
def sequence (n : Nat) : List Char := escapeChar :: '[' :: Text.Integer.natChars n ++ ['m']

namespace Style

/-- A color with plain weight. -/
def plain (c : Color) : Style := ⟨some c, some false⟩

/-- The styled text; every styled text ends with the sequence that resets all. -/
def apply (s : Style) (text : List Char) : List Char :=
  ((s.color.map fun c => sequence c.code).getD []) ++
    ((s.bold.map fun b => sequence (if b then 1 else 22)).getD []) ++ text ++ sequence 0

end Style

def isParameter (c : Char) : Bool := 0x30 ≤ c.toNat && c.toNat ≤ 0x3F

def isIntermediate (c : Char) : Bool := 0x20 ≤ c.toNat && c.toNat ≤ 0x2F

def isFinal (c : Char) : Bool := 0x40 ≤ c.toNat && c.toNat ≤ 0x7E

/-- What follows a control sequence whose first character has been read. -/
def afterSequence? : List Char → Option (List Char)
  | '[' :: cs =>
    match (cs.dropWhile isParameter).dropWhile isIntermediate with
    | c :: rest => if isFinal c then some rest else none
    | [] => none
  | _ => none

/-- Takes control sequences out, for at most `fuel` characters. -/
def stripFrom : (fuel : Nat) → List Char → List Char
  | 0, cs => cs
  | _ + 1, [] => []
  | fuel + 1, c :: cs =>
    if c = escapeChar then
      match afterSequence? cs with
      | some rest => stripFrom fuel rest
      | none => c :: stripFrom fuel cs
    else c :: stripFrom fuel cs

/-- The characters without control sequences. -/
def strip (cs : List Char) : List Char := stripFrom cs.length cs

/-- A text as a console prints it. -/
def shown (colors : Bool) (cs : List Char) : List Char := if colors then cs else strip cs

end HdProvision.Console
