namespace Gamebook
namespace Toml

/-!
# Tables of a settings file

A table is defined once: by a header, by dotted keys, or as a value.  Which of
these it was decides where more keys may be put into it later.
-/

/-- How a table came to be. -/
inductive Origin
  | header
  | implied
  | dotted
  | inside
  deriving DecidableEq, Repr

/-- What stands under a key.  A moment is a date or a time. -/
inductive Item
  | string (value : String)
  | integer (value : Int)
  | float
  | bool (value : Bool)
  | moment
  | array (items : List Item)
  | table (origin : Origin) (members : List (String × Item))
  | tables (all : List (List (String × Item)))
  deriving Repr

/-- The members of a table, in the order in which they were defined. -/
abbrev Members := List (String × Item)

namespace Members

/-- What stands under a key. -/
def lookup? (members : Members) (key : String) : Option Item :=
  (members.find? fun member => member.1 = key).map (·.2)

/-- The members with another item under a key that they have. -/
def replaceAt (members : Members) (key : String) (item : Item) : Members :=
  members.map fun member => if member.1 = key then (key, item) else member

/-- The members with one more at the end. -/
def push (members : Members) (key : String) (item : Item) : Members :=
  members ++ [(key, item)]

end Members

/-- Change the table that a path leads to from a table with the given origin and
members.  Tables that are missing on the way are made.  Dotted keys lead only
through tables that no header has defined, a header may also lead through those
and through the last of several tables, and nothing leads into a value. -/
def alter (dotted : Bool) (change : Origin → Members → Option Members) :
    List String → Origin → Members → Option Members
  | [], origin, members => change origin members
  | key :: path, _, members =>
    match members.lookup? key with
    | none =>
      let origin := if dotted then .dotted else .implied
      (alter dotted change path origin []).map fun made => members.push key (.table origin made)
    | some (.table .inside _) => none
    | some (.table origin inner) =>
      if dotted && origin = .header then none
      else
        (alter dotted change path origin inner).map fun made =>
          members.replaceAt key (.table origin made)
    | some (.tables all) =>
      match all.getLast? with
      | none => none
      | some last =>
        (alter dotted change path .header last).map fun made =>
          members.replaceAt key (.tables (all.dropLast ++ [made]))
    | some _ => none

/-- Put an item under a new key.  Dotted keys put items only into tables that
dotted keys have made, and a plain key never does. -/
def putAt (path : List String) (key : String) (item : Item) (origin : Origin)
    (members : Members) : Option Members :=
  alter true
    (fun origin members =>
      if decide (origin = .dotted) == path.isEmpty then none
      else if (members.lookup? key).isSome then none
      else some (members.push key item))
    path origin members

/-- Begin the table that a header names.  The table may exist only if other
headers have implied it. -/
def beginTable (key : String) (members : Members) : Option Members :=
  match members.lookup? key with
  | none => some (members.push key (.table .header []))
  | some (.table .implied inner) => some (members.replaceAt key (.table .header inner))
  | some _ => none

/-- Begin one more of the tables that a header names. -/
def beginTables (key : String) (members : Members) : Option Members :=
  match members.lookup? key with
  | none => some (members.push key (.tables [[]]))
  | some (.tables all) => some (members.replaceAt key (.tables (all ++ [[]])))
  | some _ => none

end Toml
end Gamebook
