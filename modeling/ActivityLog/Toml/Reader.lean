/-
  ActivityLog.Toml.Reader — reading a TOML document.

  A document is a sequence of lines: blank ones, comments, headers and keys with their
  values. Keys before the first header belong to the document itself, the others to the
  table of the header above them. A byte order mark at the very beginning is dropped.

  Arrays may run over several lines and end with a comma, inline tables may not. Values
  nest at most 79 deep, and a dotted key has at most 79 parts.
-/

import ActivityLog.Toml.Quoted
import ActivityLog.Toml.Scalar

namespace ActivityLog.Toml

/-- How deep values may nest, and how many parts a dotted key may have. -/
def depthLimit : Nat := 79

/-! ## Keys -/

def isBare (c : Char) : Bool := c.isAlphanum || c = '-' || c = '_'

def readKeyPart? (text : Text) : Option (Text × Text) :=
  match text with
  | '"' :: _ | '\'' :: _ => readLineString? text
  | _ =>
    let word := text.takeWhile isBare
    if word.isEmpty then none else some (word, text.dropWhile isBare)

def readParts? (text : Text) : Option (List Text × Text) :=
  match readKeyPart? (skipGap text) with
  | none => none
  | some (part, rest) =>
    match skipGap rest with
    | '.' :: more =>
      if more.length < text.length then
        (readParts? more).map fun (parts, rest) => (part :: parts, rest)
      else none
    | rest => some ([part], rest)
termination_by text.length

def readKey? (text : Text) : Option (List Text × Text) :=
  (readParts? text).filter fun (parts, _) => parts.length ≤ depthLimit

/-! ## Values -/

/-- The items of an array up to its closing bracket, and what follows. The text begins behind the
    opening bracket or behind a comma. -/
def readItems? (readItem : Text → Option (Value × Text)) (text : Text) : Option (List Value × Text) :=
  match skipLines? false text with
  | none => none
  | some (']' :: rest) => some ([], rest)
  | some item =>
    match readItem item with
    | none => none
    | some (value, rest) =>
      match skipLines? false rest with
      | some (']' :: rest) => some ([value], rest)
      | some (',' :: more) =>
        if more.length < text.length then
          (readItems? readItem more).map fun (values, rest) => (value :: values, rest)
        else none
      | _ => none
termination_by text.length

def readPair? (readItem : Text → Option (Value × Text)) (text : Text) :
    Option ((List Text × Value) × Text) := do
  let (path, rest) ← readKey? text
  let rest ← Text.dropMark? ['='] rest
  let (value, rest) ← readItem (skipGap rest)
  return ((path, value), rest)

/-- The pairs of an inline table up to its closing brace, at least one, and what follows. -/
def readMembers? (readItem : Text → Option (Value × Text)) (text : Text) :
    Option (List (List Text × Value) × Text) :=
  match readPair? readItem text with
  | none => none
  | some (pair, rest) =>
    match skipGap rest with
    | '\x7d' :: rest => some ([pair], rest)
    | ',' :: more =>
      if more.length < text.length then
        (readMembers? readItem more).map fun (pairs, rest) => (pair :: pairs, rest)
      else none
    | _ => none
termination_by text.length

def readSimple? (text : Text) : Option (Value × Text) :=
  match text with
  | '"' :: _ | '\'' :: _ => (readString? text).map fun (content, rest) => (.text content, rest)
  | _ => readScalar? text

def readValue? (depth : Nat) (text : Text) : Option (Value × Text) :=
  match depth, text with
  | depth + 1, '[' :: rest =>
    (readItems? (readValue? depth) rest).map fun (items, rest) => (.list items, rest)
  | depth + 1, '\x7b' :: rest =>
    match skipGap rest with
    | '\x7d' :: rest => some (.inline [], rest)
    | _ => do
      let (pairs, rest) ← readMembers? (readValue? depth) rest
      return (.inline (← Members.defineAll pairs []), rest)
  | _, text => readSimple? text

/-! ## Lines -/

/-- The pairs on the lines up to the next header, and what follows. -/
def readPairs? (text : Text) : Option (List (List Text × Value) × Text) :=
  match skipGap text with
  | [] => some ([], [])
  | '[' :: rest => some ([], '[' :: rest)
  | c :: line =>
    if c = '#' || c = '\n' || c = '\r' then
      match lineEnd? (c :: line) with
      | some rest => if rest.length < text.length then readPairs? rest else none
      | none => none
    else match readPair? (readValue? depthLimit) (c :: line) with
      | none => none
      | some (pair, rest) =>
        match lineEnd? rest with
        | some rest =>
          if rest.length < text.length then
            (readPairs? rest).map fun (pairs, rest) => (pair :: pairs, rest)
          else none
        | none => none
termination_by text.length

def readHeader? (text : Text) : Option ((Bool × List Text) × Text) := do
  let (isElement, inside, close) ← match text with
    | '[' :: '[' :: rest => some (true, rest, [']', ']'])
    | '[' :: rest => some (false, rest, [']'])
    | _ => none
  let (path, rest) ← readKey? inside
  let rest ← Text.dropMark? close rest
  return ((isElement, path), ← lineEnd? rest)

def readSections? (text : Text) : Option (List Section) :=
  if text.isEmpty then some []
  else match readHeader? text with
    | none => none
    | some ((isElement, path), rest) =>
      match readPairs? rest with
      | none => none
      | some (pairs, rest) =>
        if rest.length < text.length then
          (readSections? rest).map fun sections => ⟨isElement, path, pairs⟩ :: sections
        else none
termination_by text.length

/-- The table that the document describes; none where the text is no TOML document. -/
def readDocument? (text : Text) : Option Members := do
  let text := (Text.dropMark? ['\ufeff'] text).getD text
  let (pairs, rest) ← readPairs? text
  let sections ← readSections? rest
  let root ← Members.defineAll pairs []
  sections.foldlM (fun root s => s.addTo root) root

end ActivityLog.Toml
