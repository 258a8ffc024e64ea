import Gamebook.Mood
import Gamebook.Text.Lines
import Gamebook.Text.Numeral

namespace Gamebook
namespace Terminal

/-!
# Styles

What a text means in the game decides how a terminal shows it.  A terminal may
have no colours, sixteen of them, or all; where it has sixteen, the nearest is
taken.
-/

/-- What a terminal can show. -/
inductive Palette
  | plain
  | sixteen
  | full
  deriving DecidableEq, Repr

/-- A colour: one of the sixteen by its number, or a mixture of red, green and
blue. -/
inductive Colour
  | numbered (index : Nat)
  | mixed (red green blue : Nat)
  deriving DecidableEq, Repr

/-- How a text is shown. -/
structure Style where
  bold : Bool := false
  italic : Bool := false
  underlined : Bool := false
  struck : Bool := false
  colour : Option Colour := none
  deriving DecidableEq, Repr

def sixteenColours : List (Nat × Nat × Nat) :=
  [(0, 0, 0), (205, 0, 0), (0, 205, 0), (205, 205, 0), (0, 0, 238), (205, 0, 205), (0, 205, 205),
    (229, 229, 229), (127, 127, 127), (255, 0, 0), (0, 255, 0), (255, 255, 0), (92, 92, 255),
    (255, 0, 255), (0, 255, 255), (255, 255, 255)]

/-- The square of the difference of two numbers. -/
def squaredGap (a b : Nat) : Nat := (max a b - min a b) * (max a b - min a b)

/-- The index of the least value; of equal ones, the first. -/
def indexOfLeast : List Nat → Nat
  | [] => 0
  | values => values.idxOf (values.min?.getD 0)

/-- The number of the colour that is nearest to a mixture. -/
def nearest (red green blue : Nat) : Nat :=
  indexOfLeast (sixteenColours.map fun (r, g, b) =>
    squaredGap r red + squaredGap g green + squaredGap b blue)

/-- The code of one of the sixteen colours. -/
def numberedCode (index : Nat) : String :=
  Text.decimal (if index < 8 then 30 + index else 82 + index : Nat)

def Colour.code (palette : Palette) : Colour → String
  | .numbered index => numberedCode index
  | .mixed red green blue =>
    match palette with
    | .full => ";".intercalate ["38", "2", Text.decimal red, Text.decimal green, Text.decimal blue]
    | _ => numberedCode (nearest red green blue)

/-- The codes of a style, in ascending order, the colour last. -/
def Style.codes (palette : Palette) (style : Style) : List String :=
  (if style.bold then ["1"] else []) ++ (if style.italic then ["3"] else []) ++
    (if style.underlined then ["4"] else []) ++ (if style.struck then ["9"] else []) ++
    (style.colour.map (Colour.code palette)).toList

def reset : List Char := ['\x1b', '[', '0', 'm']

/-- The text in which the style is opened again after every end of a style. -/
def reopen (opening : List Char) : List Char → List Char
  | '\x1b' :: '[' :: '0' :: 'm' :: cs => reset ++ opening ++ reopen opening cs
  | c :: cs => c :: reopen opening cs
  | [] => []

/-- The text in a style.  Without colours, and without a style, it stays as it is. -/
def Style.paint (style : Style) (palette : Palette) (text : String) : String :=
  let codes := style.codes palette
  if palette = .plain || codes.isEmpty then text
  else
    let opening := ['\x1b', '['] ++ (";".intercalate codes).toList ++ ['m']
    String.ofList (opening ++ reopen opening text.toList ++ reset)

namespace Style

/-! ## The styles of the game -/

def storyTitle : Style := { bold := true, underlined := true, colour := some (.mixed 223 77 10) }

def passageTitle : Style := { underlined := true, colour := some (.mixed 223 77 10) }

def link : Style := { italic := true, colour := some (.mixed 220 180 40) }

/-- A counter of the player. -/
def statistic : Style := { bold := true, colour := some (.numbered 12) }

/-- A goal that is not met yet. -/
def openGoal : Style := { colour := some (.mixed 220 40 220) }

def fulfilledGoal : Style := { struck := true, colour := some (.mixed 220 40 220) }

def heading : Style := { underlined := true }

/-- The message of a failure. -/
def error : Style := { colour := some (.mixed 230 30 30) }

/-- The refusal of a request that cannot be met now. -/
def denial : Style := { italic := true, colour := some (.mixed 230 30 30) }

/-- The text that asks for a command. -/
def prompt : Style := { colour := some (.mixed 75 180 255) }

/-- The name of the game at the start. -/
def banner : Style := { underlined := true, colour := some (.numbered 11) }

def content : Mood → Style
  | .none => {}
  | .calm => { colour := some (.mixed 102 208 250) }
  | .happy => { colour := some (.mixed 110 220 110) }
  | .sad => { italic := true, colour := some (.mixed 120 120 200) }
  | .tense => { colour := some (.mixed 230 230 30) }
  | .dark => { italic := true, colour := some (.mixed 150 150 150) }

end Style

end Terminal
end Gamebook
