import Gamebook.Text.Blank
import Gamebook.Text.Numeral

namespace Gamebook
namespace Play

/-!
# Commands of the player

A line is a number, which picks one of the offered links, or a verb, which may
need a name after it.  Any other line is unknown.
-/

/-- What the player asks for. -/
inductive Command
  | choose (number : Nat)
  | look
  | status
  | goals
  | list
  | play (name : String)
  | save (slot : String)
  | saves
  | load (slot : String)
  | help
  | quit
  | unknown (text : String)
  deriving DecidableEq, Repr

namespace Command

/-- The small letter of a character, as far as it can occur in a verb.  The sign
for the unit kelvin has the small letter of `K`. -/
def smallLetter (c : Char) : Char :=
  if c = '\u212a' then 'k' else c.toLower

def ofVerb? (verb : String) : Option Command :=
  if ["look", "l"].contains verb then some .look
  else if ["status", "stats"].contains verb then some .status
  else if verb = "goals" then some .goals
  else if ["list", "ls"].contains verb then some .list
  else if verb = "saves" then some .saves
  else if ["help", "?"].contains verb then some .help
  else if ["quit", "exit", "q"].contains verb then some .quit
  else none

def ofVerbWith? (verb name : String) : Option Command :=
  if verb = "play" then some (.play name)
  else if verb = "save" then some (.save name)
  else if verb = "load" then some (.load name)
  else none

/-- Read a line that is no number, without blanks around it. -/
def ofWords (line : List Char) : Command :=
  let verb := line.takeWhile fun c => !Text.isBlankChar c
  let name := Text.trim (line.dropWhile fun c => !Text.isBlankChar c)
  let word := String.ofList (verb.map smallLetter)
  let command := if name.isEmpty then ofVerb? word else ofVerbWith? word (String.ofList name)
  command.getD (.unknown (String.ofList line))

def ofLine (line : String) : Command :=
  let line := Text.trim line.toList
  match Text.readNumeral .word64 line with
  | .ok number => .choose number.toNat
  | .error _ => ofWords line

end Command

end Play
end Gamebook
