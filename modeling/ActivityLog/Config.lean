/-
  ActivityLog.Config — the settings that a configuration file can give.

  The file is a TOML document. It may name the folder of the log files, their
  extension, and the format of the output; what it does not name has its default, and
  other keys are ignored.
-/

import ActivityLog.Display
import ActivityLog.Ingest
import ActivityLog.Toml.Reader

namespace ActivityLog

structure Config where
  /-- The folder to load where the command line names none. -/
  logDir : Option Text := none
  extension : Text := defaultExtension
  output : Display.Format := .plain
  deriving DecidableEq, Repr

inductive ConfigError where
  /-- The text is no TOML document. -/
  | notToml
  /-- The key has a value that it cannot have. -/
  | badValue (key : Text)
  deriving DecidableEq, Repr

def ConfigError.message : ConfigError → Text
  | .notToml => "not a TOML document".toList
  | .badValue key => "bad value of ".toList ++ key

namespace Config

def textAt (key : Text) (root : Toml.Members) : Except ConfigError (Option Text) :=
  match root.get? key with
  | none => .ok none
  | some (.text content) => .ok (some content)
  | some _ => .error (.badValue key)

/-- A table or an array with nothing in it. -/
def isEmptyValue : Toml.Value → Bool
  | .list items => items.isEmpty
  | .inline members => members.isEmpty
  | .table _ members => members.isEmpty
  | .tables elements => elements.isEmpty
  | _ => false

/-- The name of the format: a text, or the only key of a table, with an empty value. -/
def formatName? : Toml.Value → Option Text
  | .text name => some name
  | .inline [(name, value)] | .table _ [(name, value)] => if isEmptyValue value then some name else none
  | _ => none

def formatAt (key : Text) (root : Toml.Members) : Except ConfigError (Option Display.Format) :=
  match root.get? key with
  | none => .ok none
  | some value =>
    if formatName? value = some "plain".toList then .ok (some .plain)
    else if formatName? value = some "json".toList then .ok (some .json)
    else .error (.badValue key)

def read (text : Text) : Except ConfigError Config :=
  match Toml.readDocument? text with
  | none => .error .notToml
  | some root => do
    let logDir ← textAt "log_dir".toList root
    let extension ← textAt "extension".toList root
    let output ← formatAt "output".toList root
    return { logDir, extension := extension.getD defaultExtension, output := output.getD .plain }

end Config
end ActivityLog
