/-
  ActivityLog.Json — values in JSON, written without any spaces.

  The members of an object are written in the order in which they are listed. In a
  string the quote, the backslash and the controls below the space are escaped: five of
  them by a letter, the others by four lower-case hexadecimal digits. All other
  characters stand as they are, so the written value is one line.
-/

import ActivityLog.Text.Decimal

namespace ActivityLog.Json

/-- The JSON values that are written. -/
inductive Value where
  | number (n : Nat)
  | string (text : Text)
  | array (items : List Value)
  | object (members : List (Text × Value))

def escapedChar (c : Char) : Text :=
  match c with
  | '"' => ['\\', '"']
  | '\\' => ['\\', '\\']
  | '\x08' => ['\\', 'b']
  | '\x0c' => ['\\', 'f']
  | '\n' => ['\\', 'n']
  | '\r' => ['\\', 'r']
  | '\t' => ['\\', 't']
  | c =>
    if c.toNat < 0x20 then "\\u".toList ++ (Nat.toDigits 16 c.toNat).leftpad 4 '0' else [c]

def writeString (text : Text) : Text := '"' :: text.flatMap escapedChar ++ ['"']

mutual

def Value.write : Value → Text
  | .number n => Text.ofNat n
  | .string text => writeString text
  | .array items => '[' :: writeItems items ++ [']']
  | .object members => '\x7b' :: writeMembers members ++ ['\x7d']

def writeItems : List Value → Text
  | [] => []
  | [item] => item.write
  | item :: next :: more => item.write ++ ',' :: writeItems (next :: more)

def writeMembers : List (Text × Value) → Text
  | [] => []
  | [(name, value)] => writeString name ++ ':' :: value.write
  | (name, value) :: next :: more =>
    writeString name ++ ':' :: value.write ++ ',' :: writeMembers (next :: more)

end

example : (Value.object [("a\n\x01".toList, .array [.number 0, .string ['"']])]).write =
    "\x7b\"a\\n\\u0001\":[0,\"\\\"\"]\x7d".toList := by decide

end ActivityLog.Json
