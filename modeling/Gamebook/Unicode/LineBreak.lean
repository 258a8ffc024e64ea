import Gamebook.Unicode.LineClass

namespace Gamebook
namespace Unicode

/-!
# Where lines may be broken

Whether a line may be broken between two characters depends on their classes,
on the spaces between them, and in a few cases on what came before.  The rules
are tried in order; the first that applies decides.
-/

open LineClass

/-- What is known at a place in a text.  `last` is the class of the last character
that is neither a space nor attached to another, if there is one, and `previous`
the class of the character just before the place. -/
structure BreakContext where
  last : Option LineClass
  previous : Option LineClass
  spaces : Bool
  oddRegionals : Bool
  hebrewHyphen : Bool
  deriving Repr

namespace BreakContext

def start : BreakContext := ⟨none, none, false, false, false⟩

/-- Says whether the character before the place must end its line. -/
def endsLine (context : BreakContext) (c : LineClass) : Bool :=
  match context.previous with
  | some mandatory | some lineFeed | some nextLine => true
  | some carriageReturn => c ≠ lineFeed
  | _ => false

/-- Says whether the character is attached to the one before the place. -/
def attaches (context : BreakContext) (c : LineClass) : Bool :=
  [combining, joiner].contains c &&
    match context.previous with
    | none => false
    | some p => !([mandatory, carriageReturn, lineFeed, nextLine, space, zeroWidthSpace].contains p)

/-- The class that a character is taken to have.  A mark that is attached to
nothing is taken as a letter. -/
def resolve (c : LineClass) : LineClass :=
  if [combining, joiner].contains c then alphabetic else c

end BreakContext

def letters : List LineClass := [alphabetic, hebrew]

def ideographs : List LineClass := [ideographic, emojiBase, emojiModifier]

/-- Classes of the parts and syllables of Hangul. -/
def hangul : List LineClass := [leadingJamo, vowelJamo, trailingJamo, syllable2, syllable3]

/-- Says whether two characters with nothing between them are kept together by
the pair of their classes alone. -/
def keepsPair (a b : LineClass) : Bool :=
  (letters.contains a && b = numeric) ||
  (a = numeric && letters.contains b) ||
  (a = beforeNumber && ideographs.contains b) ||
  (ideographs.contains a && b = afterNumber) ||
  ([beforeNumber, afterNumber].contains a && letters.contains b) ||
  (letters.contains a && [beforeNumber, afterNumber].contains b) ||
  ([closing, closingParenthesis, numeric].contains a && [afterNumber, beforeNumber].contains b) ||
  ([afterNumber, beforeNumber].contains a && [opening, numeric].contains b) ||
  ([hyphen, infixSeparator, numeric, slash].contains a && b = numeric) ||
  (a = leadingJamo && [leadingJamo, vowelJamo, syllable2, syllable3].contains b) ||
  ([vowelJamo, syllable2].contains a && [vowelJamo, trailingJamo].contains b) ||
  ([trailingJamo, syllable3].contains a && b = trailingJamo) ||
  (hangul.contains a && b = afterNumber) ||
  (a = beforeNumber && hangul.contains b) ||
  (letters.contains a && letters.contains b) ||
  (a = infixSeparator && letters.contains b) ||
  ((letters.contains a || a = numeric) && b = opening) ||
  (a = closingParenthesis && (letters.contains b || b = numeric)) ||
  (a = emojiBase && b = emojiModifier)

/-- Says whether the line may be broken before a character that follows `a`, with
or without spaces between them. -/
def breaksAfter (context : BreakContext) (a b : LineClass) : Bool :=
  if a = zeroWidthSpace then true
  else if context.previous = some joiner then false
  else if b = wordJoiner then false
  else if a = wordJoiner && !context.spaces then false
  else if a = glue && !context.spaces then false
  else if b = glue && !context.spaces && !([breakAfter, hyphen].contains a) then false
  else if [closing, closingParenthesis, exclamation, infixSeparator, slash].contains b then false
  else if a = opening then false
  else if a = quotation && b = opening then false
  else if [closing, closingParenthesis].contains a && b = nonstarter then false
  else if a = breakBoth && b = breakBoth then false
  else if context.spaces then true
  else if a = quotation || b = quotation then false
  else if a = contingent || b = contingent then true
  else if [breakAfter, hyphen, nonstarter].contains b then false
  else if a = breakBefore then false
  else if context.hebrewHyphen then false
  else if a = slash && b = hebrew then false
  else if b = inseparable then false
  else if a = regionalIndicator && b = regionalIndicator then !context.oddRegionals
  else !keepsPair a b

namespace BreakContext

/-- Says whether the line may be broken at the place, before a character of the
given class. -/
def allows (context : BreakContext) (c : LineClass) : Bool :=
  if context.endsLine c then true
  else if [mandatory, carriageReturn, lineFeed, nextLine, space, zeroWidthSpace].contains c then
    false
  else if context.attaches c then false
  else
    match context.last with
    | some a => breaksAfter context a (resolve c)
    | none =>
      context.spaces &&
        !([wordJoiner, closing, closingParenthesis, exclamation, infixSeparator, slash].contains c)

/-- What is known after one more character. -/
def next (context : BreakContext) (c : LineClass) : BreakContext :=
  if c = space then { context with previous := some c, spaces := true }
  else if context.attaches c then { context with previous := some c }
  else
    let base := resolve c
    { last := some base
      previous := some c
      spaces := false
      oddRegionals := base = regionalIndicator && (context.spaces || !context.oddRegionals)
      hebrewHyphen := context.last = some hebrew && !context.spaces &&
        [hyphen, breakAfter].contains base }

end BreakContext

/-- For each character of a text that stands at a place, whether the line may be
broken after it.  After the last character it always may. -/
def breaksFrom (context : BreakContext) : List LineClass → List Bool
  | [] => []
  | [_] => [true]
  | c :: d :: more =>
    let context := context.next c
    context.allows d :: breaksFrom context (d :: more)

/-- For each character of a text, whether the line may be broken after it. -/
def lineBreaks (cs : List Char) : List Bool :=
  breaksFrom .start (cs.map lineClass)

end Unicode
end Gamebook
