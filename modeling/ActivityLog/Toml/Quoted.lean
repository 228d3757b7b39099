/-
  ActivityLog.Toml.Quoted — gaps, comments and strings of a TOML document.

  A gap is made of spaces and tabs. A line ends at a line feed, which a carriage return
  may precede, or with the document; a comment reaches from `#` to the end of its line.
  Controls other than the tab stand neither in comments nor in strings.

  A basic string stands in double quotes and has escapes, a literal one stands in
  single quotes and is taken as it is. With three quotes either may run over several
  lines: a line end right after the opening quotes is dropped, every other one is a
  line feed, and one or two more quotes may stand before the closing three. In a basic
  string of several lines a backslash at the end of a line skips to the next character
  that is not blank.
-/

import ActivityLog.Text.Decimal

namespace ActivityLog.Toml

/-! ## Gaps and line ends -/

def isGap (c : Char) : Bool := c = ' ' || c = '\t'

/-- A character that may stand in a comment or in a string on one line. -/
def isPlain (c : Char) : Bool := c = '\t' || (0x20 ≤ c.toNat && c.toNat != 0x7F)

def skipGap (text : Text) : Text := text.dropWhile isGap

def newline? : Text → Option Text
  | '\n' :: rest => some rest
  | '\r' :: '\n' :: rest => some rest
  | _ => none

def skipComment : Text → Text
  | '#' :: rest => rest.dropWhile isPlain
  | text => text

/-- What follows the rest of a line on which nothing but a comment may stand. -/
def lineEnd? (text : Text) : Option Text :=
  let text := skipComment (skipGap text)
  if text.isEmpty then some [] else newline? text

/-- The text from its first character outside of gaps, line ends and comments; none where a
    comment does not end. -/
def skipLines? (inComment : Bool) : Text → Option Text
  | [] => if inComment then none else some []
  | c :: rest =>
    if c = '\n' then skipLines? false rest
    else if c = '\r' then
      match rest with
      | '\n' :: rest => skipLines? false rest
      | _ => none
    else if inComment then if isPlain c then skipLines? true rest else none
    else if isGap c then skipLines? false rest
    else if c = '#' then skipLines? true rest
    else some (c :: rest)

/-! ## Cutting a string out -/

/-- The body up to the closing quote, and what follows. Where `escapes` holds, a backslash hides
    the character behind it. -/
def cutAt? (quote : Char) (escapes : Bool) : Text → Option (Text × Text)
  | [] => none
  | c :: rest =>
    if c = quote then some ([], rest)
    else if escapes && c = '\\' then
      match rest with
      | [] => none
      | d :: rest => (cutAt? quote escapes rest).map fun (body, rest) => (c :: d :: body, rest)
    else (cutAt? quote escapes rest).map fun (body, rest) => (c :: body, rest)

/-- The quotes that belong to the body although they stand behind three closing ones. -/
def spareQuotes (quote : Char) : Text → Text × Text
  | a :: b :: rest =>
    if a = quote then if b = quote then ([a, b], rest) else ([a], b :: rest) else ([], a :: b :: rest)
  | [a] => if a = quote then ([a], []) else ([], [a])
  | [] => ([], [])

def cutAtThree? (quote : Char) (escapes : Bool) : Text → Option (Text × Text)
  | [] => none
  | c :: rest =>
    let skip (_ : Unit) := (cutAtThree? quote escapes rest).map fun (body, rest) => (c :: body, rest)
    if c = quote then
      match rest with
      | d :: e :: rest => if d = quote && e = quote then some (spareQuotes quote rest) else skip ()
      | _ => none
    else if escapes && c = '\\' then
      match rest with
      | [] => none
      | d :: rest => (cutAtThree? quote escapes rest).map fun (body, rest) => (c :: d :: body, rest)
    else skip ()

/-! ## What a body means -/

def escapeLetter? : Char → Option Char
  | 'b' => some '\x08'
  | 't' => some '\t'
  | 'n' => some '\n'
  | 'f' => some '\x0c'
  | 'r' => some '\r'
  | '"' => some '"'
  | '\\' => some '\\'
  | _ => none

inductive Mode where
  | plain
  /-- Behind a backslash. -/
  | escape
  /-- Inside a character given by its scalar value: the digits left and the value so far. -/
  | scalar (left value : Nat)
  /-- Behind a backslash at the end of a line, before the line end. -/
  | lineEnd
  /-- Behind that line end, before the next character that is not blank. -/
  | skipping

def modeAfter? (multiline : Bool) (letter : Char) : Option Mode :=
  if letter = 'u' then some (.scalar 4 0)
  else if letter = 'U' then some (.scalar 8 0)
  else if multiline && isGap letter then some .lineEnd
  else if multiline && letter = '\n' then some .skipping
  else none

/-- The meaning of the body of a basic string. `multiline` allows line ends; a carriage return
    stands only before a line feed, and is dropped there. -/
def unescape? (multiline : Bool) (mode : Mode) : Text → Option Text
  | [] =>
    match mode with
    | .plain | .skipping => some []
    | _ => none
  | c :: rest =>
    if multiline && c = '\r' then
      if rest.head? = some '\n' then unescape? multiline mode rest else none
    else match mode with
      | .plain =>
        if c = '\\' then unescape? multiline .escape rest
        else if isPlain c || (multiline && c = '\n') then (unescape? multiline .plain rest).map (c :: ·)
        else none
      | .escape =>
        match escapeLetter? c, modeAfter? multiline c with
        | some d, _ => (unescape? multiline .plain rest).map (d :: ·)
        | none, some next => unescape? multiline next rest
        | none, none => none
      | .scalar left value =>
        match Text.hexDigit? c with
        | none => none
        | some digit =>
          let value := 16 * value + digit
          if 1 < left then unescape? multiline (.scalar (left - 1) value) rest
          else if value.isValidChar then
            (unescape? multiline .plain rest).map (Char.ofNat value :: ·)
          else none
      | .lineEnd =>
        if isGap c then unescape? multiline .lineEnd rest
        else if c = '\n' then unescape? multiline .skipping rest
        else none
      | .skipping =>
        if isGap c || c = '\n' then unescape? multiline .skipping rest
        else if c = '\\' then unescape? multiline .escape rest
        else if isPlain c then (unescape? multiline .plain rest).map (c :: ·)
        else none

def takeLiterally? (multiline : Bool) : Text → Option Text
  | [] => some []
  | c :: rest =>
    if multiline && c = '\n' then (takeLiterally? multiline rest).map ('\n' :: ·)
    else if multiline && c = '\r' then
      match rest with
      | '\n' :: rest => (takeLiterally? multiline rest).map ('\n' :: ·)
      | _ => none
    else if isPlain c then (takeLiterally? multiline rest).map (c :: ·)
    else none

/-! ## Whole strings -/

def dropNewline (text : Text) : Text := (newline? text).getD text

def readLineString? : Text → Option (Text × Text)
  | '"' :: rest => do
    let (body, rest) ← cutAt? '"' true rest
    return (← unescape? false .plain body, rest)
  | '\'' :: rest => do
    let (body, rest) ← cutAt? '\'' false rest
    return (← takeLiterally? false body, rest)
  | _ => none

def readString? : Text → Option (Text × Text)
  | '"' :: '"' :: '"' :: rest => do
    let (body, rest) ← cutMultiline? '"' true rest
    return (← unescape? true .plain body, rest)
  | '\'' :: '\'' :: '\'' :: rest => do
    let (body, rest) ← cutMultiline? '\'' false rest
    return (← takeLiterally? true body, rest)
  | text => readLineString? text
where
  /-- The body with its spare quotes, without a line end at its front. -/
  cutMultiline? (quote : Char) (escapes : Bool) (text : Text) : Option (Text × Text) :=
    cutAtThree? quote escapes (dropNewline text)

example : readString? "\"a\\u00e9\\n\"x".toList = some ("aé\n".toList, ['x']) := by decide +kernel
example : readString? "\"\"\"\r\na\\\n  b\"\"\"\"".toList = some ("ab\"".toList, []) := by decide +kernel
example : readString? "'''a'b''''".toList = some ("a'b'".toList, []) := by decide +kernel

end ActivityLog.Toml
