import Gamebook.Terminal.Escape
import Gamebook.Unicode.Alphanumeric
import Gamebook.Unicode.LineBreak

namespace Gamebook
namespace Terminal

/-!
# Fragments of a text

A text is divided into fragments, between which its lines may be broken: at the
places that Unicode allows, after a hyphen between letters or digits, and within
a word that is wider than a line.  The spaces after a word belong to its last
fragment, and they are left out at the end of a line.
-/

/-- A part of a text that stays on one line, and the spaces after it. -/
structure Fragment where
  text : List Char
  spaces : List Char
  deriving DecidableEq, Repr

/-- The columns of the part without the spaces. -/
def Fragment.width (fragment : Fragment) : Nat := columns fragment.text

def softHyphen : Char := '\u00ad'

/-- The list in which the last true value is made false. -/
def clearLast (flags : List Bool) : List Bool :=
  let (after, upTo) := flags.reverse.span (· = false)
  match upTo with
  | [] => flags
  | _ :: before => (after ++ false :: before).reverse

/-- For each shown character, whether a word ends with it.  A hyphen ends none,
and the last place that is left is not counted: the text itself ends there. -/
def wordEnds (cs : List Char) : List Bool :=
  clearLast <|
    (cs.zip (Unicode.lineBreaks cs)).map fun (c, allowed) =>
      allowed && c ≠ '-' && c ≠ softHyphen

/-- Divide marked characters into words.  `ends` has a value for each shown one. -/
def wordsOf : List (Char × Bool) → List Bool → List (List Char)
  | [], _ => [[]]
  | (c, shown) :: more, ends =>
    let ended := shown && ends.head?.getD false
    let words := wordsOf more (if shown then ends.tail else ends)
    if ended then [c] :: words
    else
      match words with
      | [] => [[c]]
      | word :: rest => (c :: word) :: rest

/-- The words of a text, with the spaces after each. -/
def words (cs : List Char) : List (List Char) :=
  (wordsOf (marked .outside cs) (wordEnds (shown cs))).filter fun word => !word.isEmpty

/-- Divide a word after the hyphens between letters or digits. -/
def hyphenParts (afterKept : Bool) : List Char → List (List Char)
  | [] => [[]]
  | c :: cs =>
    let cut := c = '-' && afterKept && cs.head?.any Unicode.isAlphanumeric
    match hyphenParts (Unicode.isAlphanumeric c) cs with
    | [] => [[c]]
    | part :: parts => if cut then [c] :: part :: parts else (c :: part) :: parts

/-- Divide a text into parts that are no wider than the given number of columns.
A character that is wider stands alone. -/
def narrowParts (most : Nat) (state : Escape) (width : Nat) : List Char → List (List Char)
  | [] => [[]]
  | c :: cs =>
    let (state, shown) := state.step c
    let size := if shown then Unicode.columns c else 0
    if shown && 0 < width && most < width + size then
      match narrowParts most state size cs with
      | [] => [[], [c]]
      | part :: parts => [] :: (c :: part) :: parts
    else
      match narrowParts most state (width + size) cs with
      | [] => [[c]]
      | part :: parts => (c :: part) :: parts

/-- Fragments of the given parts, the last of which has the spaces. -/
def withSpaces (spaces : List Char) : List (List Char) → List Fragment
  | [] => []
  | [text] => [⟨text, spaces⟩]
  | text :: more => ⟨text, []⟩ :: withSpaces spaces more

/-- Divide a fragment that is wider than a line. -/
def Fragment.narrow (most : Nat) (fragment : Fragment) : List Fragment :=
  if most < fragment.width then
    withSpaces fragment.spaces (narrowParts most .outside 0 fragment.text)
  else [fragment]

def wordFragments (word : List Char) : List Fragment :=
  let text := (word.reverse.dropWhile (· = ' ')).reverse
  let spaces := (word.reverse.takeWhile (· = ' ')).reverse
  withSpaces spaces (hyphenParts false text)

/-- The fragments of a text for lines of the given width. -/
def fragments (most : Nat) (cs : List Char) : List Fragment :=
  (words cs).flatMap fun word => (wordFragments word).flatMap (Fragment.narrow most)

end Terminal
end Gamebook
