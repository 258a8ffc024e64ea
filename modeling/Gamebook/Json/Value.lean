import Gamebook.Text.Numeral

namespace Gamebook
namespace Json

/-!
# Values that are written

The library writes strings, whole numbers, truth values, lists and objects.  A
value has a compact text, without a blank outside strings, and a laid out text,
with one item or member a line and two spaces for each level of nesting.
-/

/-- A value to be written.  The members of an object stand in the order in
which they are written. -/
inductive Value
  | bool (value : Bool)
  | integer (value : Int)
  | string (value : String)
  | array (items : List Value)
  | object (members : List (String × Value))
  deriving Repr

/-- The two texts of a value. -/
inductive Layout
  | compact
  | indented
  deriving DecidableEq, Repr

namespace Layout

/-- What comes before an item or a closing bracket at a depth. -/
def lineBreak (layout : Layout) (depth : Nat) : List Char :=
  match layout with
  | .compact => []
  | .indented => '\n' :: List.replicate (2 * depth) ' '

/-- What comes between a key and its value. -/
def colon (layout : Layout) : List Char :=
  match layout with
  | .compact => [':']
  | .indented => [':', ' ']

end Layout

/-- A hexadecimal digit in lower case. -/
def hexDigit (n : Nat) : Char :=
  if n < 10 then Char.ofNat ('0'.toNat + n) else Char.ofNat ('a'.toNat + (n - 10))

/-- How a character is written within a string.  Quotation marks, backslashes
and controls are escaped, and nothing else is. -/
def writtenChar (c : Char) : List Char :=
  if c = '"' then ['\\', '"']
  else if c = '\\' then ['\\', '\\']
  else if c = '\n' then ['\\', 'n']
  else if c = '\r' then ['\\', 'r']
  else if c = '\t' then ['\\', 't']
  else if c = '\x08' then ['\\', 'b']
  else if c = '\x0c' then ['\\', 'f']
  else if c.toNat < 0x20 then
    ['\\', 'u', '0', '0', hexDigit (c.toNat / 16), hexDigit (c.toNat % 16)]
  else [c]

/-- A string between its quotation marks. -/
def writtenString (cs : List Char) : List Char :=
  '"' :: cs.flatMap writtenChar ++ ['"']

/-- The comma before every item but the first. -/
def comma (first : Bool) : List Char :=
  if first then [] else [',']

mutual

def Value.write (layout : Layout) (depth : Nat) : Value → List Char
  | .bool true => ['t', 'r', 'u', 'e']
  | .bool false => ['f', 'a', 'l', 's', 'e']
  | .integer value => Text.numeral value
  | .string value => writtenString value.toList
  | .array [] => ['[', ']']
  | .array items =>
    '[' :: writeItems layout (depth + 1) true items ++ layout.lineBreak depth ++ [']']
  | .object [] => ['\x7b', '\x7d']
  | .object members =>
    '\x7b' :: writeMembers layout (depth + 1) true members ++ layout.lineBreak depth ++ ['\x7d']

def writeItems (layout : Layout) (depth : Nat) (first : Bool) : List Value → List Char
  | [] => []
  | item :: items =>
    comma first ++ layout.lineBreak depth ++ item.write layout depth ++
      writeItems layout depth false items

/-- The texts of the members of an object. -/
def writeMembers (layout : Layout) (depth : Nat) (first : Bool) :
    List (String × Value) → List Char
  | [] => []
  | (key, value) :: members =>
    comma first ++ layout.lineBreak depth ++ writtenString key.toList ++ layout.colon ++
      value.write layout depth ++ writeMembers layout depth false members

end

def Value.text (layout : Layout) (value : Value) : String :=
  String.ofList (value.write layout 0)

end Json
end Gamebook
