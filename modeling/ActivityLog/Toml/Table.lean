/-
  ActivityLog.Toml.Table — the values of a TOML document, and how tables grow.

  A document is a table: keys with values, each key once. Its tables come about in
  four ways, and `Origin` keeps apart what may still be added to which:
  - a header `[a.b]` opens the table `b` once, and implies a table `a` on the way;
  - a header `[[a]]` adds a table to the array of tables `a`;
  - a dotted key `a.b = …` makes the table `a`, to which only dotted keys of the same
    table may add;
  - an inline table `{…}` is complete as it stands, like every other value.
-/

import ActivityLog.Text.Basic

namespace ActivityLog.Toml

/-- How a table was made. -/
inductive Origin where
  /-- By a header of its own. -/
  | header
  /-- On the way to the table of a longer header. -/
  | implied
  /-- By a dotted key. -/
  | dotted
  deriving DecidableEq, Repr

inductive Value where
  | text (content : Text)
  | boolean (b : Bool)
  /-- An integer or a float, as it is written. -/
  | number (written : Text)
  /-- A date, a time or both, as they are written. -/
  | moment (written : Text)
  | list (items : List Value)
  | inline (members : List (Text × Value))
  | table (origin : Origin) (members : List (Text × Value))
  /-- An array of tables, the newest last. -/
  | tables (elements : List (List (Text × Value)))

abbrev Members := List (Text × Value)

namespace Members

def get? (key : Text) (members : Members) : Option Value :=
  (members.find? fun member => member.1 = key).map (·.2)

/-- The table with that value of the key, in place of an earlier one. -/
def put (key : Text) (value : Value) (members : Members) : Members :=
  if members.any fun member => member.1 = key then
    members.map fun member => if member.1 = key then (key, value) else member
  else members ++ [(key, value)]

/-! ## Dotted keys -/

/-- Gives the key at the end of the path a value; the key must be new. The tables on the way are
    made as needed. `mayAdd` says whether the table at hand takes new keys: the one the path
    starts from does, and those that dotted keys made. -/
def define (mayAdd : Bool) (path : List Text) (value : Value) (members : Members) : Option Members :=
  match path with
  | [] => none
  | [key] => if mayAdd && (members.get? key).isNone then some (members ++ [(key, value)]) else none
  | key :: next :: path =>
    match members.get? key with
    | none => (define true (next :: path) value []).map fun sub => members.put key (.table .dotted sub)
    | some (.table .dotted sub) =>
      (define true (next :: path) value sub).map fun sub => members.put key (.table .dotted sub)
    | some (.table .implied sub) =>
      (define false (next :: path) value sub).map fun sub => members.put key (.table .implied sub)
    | some (.tables elements) =>
      elements.getLast?.bind fun last =>
        (define false (next :: path) value last).map fun sub =>
          members.put key (.tables (elements.dropLast ++ [sub]))
    | some _ => none

def defineAll (pairs : List (List Text × Value)) (members : Members) : Option Members :=
  pairs.foldlM (fun members (path, value) => define true path value members) members

/-! ## Headers -/

/-- Changes the table that the path leads to; tables missing on the way are implied, and an array
    of tables stands for its newest element. -/
def changeAt (path : List Text) (change : Members → Option Members) (members : Members) :
    Option Members :=
  match path with
  | [] => change members
  | key :: path =>
    match members.get? key with
    | none => (changeAt path change []).map fun sub => members.put key (.table .implied sub)
    | some (.table origin sub) =>
      (changeAt path change sub).map fun sub => members.put key (.table origin sub)
    | some (.tables elements) =>
      elements.getLast?.bind fun last =>
        (changeAt path change last).map fun sub =>
          members.put key (.tables (elements.dropLast ++ [sub]))
    | some _ => none

end Members

structure Section where
  /-- The header has double brackets. -/
  isElement : Bool
  path : List Text
  pairs : List (List Text × Value)

/-- Adds the section to the document. A plain header opens a new table or one implied so far; a
    double one adds to an array of tables. -/
def Section.addTo (s : Section) (root : Members) : Option Members :=
  s.path.getLast?.bind fun key =>
    root.changeAt s.path.dropLast fun members =>
      match s.isElement, members.get? key with
      | true, none =>
        (Members.defineAll s.pairs []).map fun sub => members.put key (.tables [sub])
      | true, some (.tables elements) =>
        (Members.defineAll s.pairs []).map fun sub => members.put key (.tables (elements ++ [sub]))
      | false, none =>
        (Members.defineAll s.pairs []).map fun sub => members.put key (.table .header sub)
      | false, some (.table .implied sub) =>
        (Members.defineAll s.pairs sub).map fun sub => members.put key (.table .header sub)
      | _, some _ => none

end ActivityLog.Toml
