/-
  ActivityLog.Ingest — from the log files of a folder to a store.

  A folder is listed in whatever order the file system gives. Log files are the
  regular files directly inside it whose names end with the extension. The bytes of the
  two are compared, as a name need not be text. The extension need not begin with a dot,
  and the empty one takes every file.

  Files are read one after another, in the order of the listing. A file that is no
  text is noted as unreadable and skipped as a whole. Of the other files every line
  that is not blank becomes an entry or a rejection, with its number counted over all
  lines. Nothing that stands in a file makes loading fail.
-/

import ActivityLog.Store
import ActivityLog.Text.Basic
import ActivityLog.Text.Quoted

namespace ActivityLog

/-! ## What can fail -/

/-- Why the bytes of a file cannot be had or are no text, or why a folder cannot be listed. -/
inductive ReadFault where
  | notFound
  | notADirectory
  | isADirectory
  | nameTooLong
  | denied
  | notText
  | other (reason : Text)
  deriving DecidableEq, Repr

def ReadFault.message : ReadFault → Text
  | .notFound => "No such file or directory (os error 2)".toList
  | .notADirectory => "Not a directory (os error 20)".toList
  | .isADirectory => "Is a directory (os error 21)".toList
  | .nameTooLong => "File name too long (os error 36)".toList
  | .denied => "Permission denied (os error 13)".toList
  | .notText => "stream did not contain valid UTF-8".toList
  | .other reason => reason

inductive ListFault where
  /-- There is no folder at the path, or none that can be seen. -/
  | notAFolder
  /-- There is one, and reading it fails. -/
  | broken (fault : ReadFault)
  deriving DecidableEq, Repr

/-- What a folder lists, in the order of the file system. -/
abbrev Listing (α : Type) := Except ListFault (List α)

/-! ## Folders -/

inductive Content where
  | file (bytes : Bytes)
  /-- A regular file whose bytes cannot be had. -/
  | locked
  /-- Anything that is not a regular file. -/
  | other
  deriving DecidableEq, Repr

namespace Content

def isFile : Content → Bool
  | .file _ | .locked => true
  | .other => false

/-- The text of a file; none where there are no bytes or the bytes are no text. -/
def text? : Content → Option Text
  | .file bytes => Text.decode? bytes
  | .locked | .other => none

end Content

/-- One name in a folder. A name need not be text. -/
structure Item where
  name : Bytes
  content : Content
  deriving DecidableEq, Repr

structure Source where
  folder : Text
  extension : Text
  deriving DecidableEq, Repr

def defaultExtension : Text := ".log".toList

inductive LoadError where
  | notADirectory (folder : Text)
  | unlistable (folder : Text) (fault : ReadFault)
  | noLogFiles (folder extension : Text)
  deriving DecidableEq, Repr

namespace LoadError

def message : LoadError → Text
  | .notADirectory folder => folder ++ " is not a directory".toList
  | .unlistable folder _ => "cannot read ".toList ++ folder
  | .noLogFiles folder extension =>
    "no files ending in ".toList ++ Text.quoted extension ++ " found in ".toList ++ folder

def fullMessage (e : LoadError) : Text :=
  match e with
  | .unlistable _ fault => e.message ++ ": ".toList ++ fault.message
  | e => e.message

end LoadError

namespace Source

/-- The bytes of the name end with those of the extension. -/
def takesName (src : Source) (name : Bytes) : Bool := (Text.encode src.extension).isSuffixOf name

def isLogFile (src : Source) (item : Item) : Bool := item.content.isFile && src.takesName item.name

def logFiles (src : Source) : Listing Item → Except LoadError (List Item)
  | .error .notAFolder => .error (.notADirectory src.folder)
  | .error (.broken fault) => .error (.unlistable src.folder fault)
  | .ok items =>
    match items.filter src.isLogFile with
    | [] => .error (.noLogFiles src.folder src.extension)
    | files => .ok files

end Source

/-! ## Loading -/

/-- What became of a file's lines that are not blank, with their numbers. -/
def readLines (text : Text) : List (Nat × Except LineError Entry) :=
  (Text.numberedLines text).filterMap fun (n, line) =>
    if Text.isAllBlank line then none else some (n, Entry.read line)

def acceptedOf (outcomes : List (Nat × Except LineError Entry)) : List Entry :=
  outcomes.filterMap fun (_, outcome) => outcome.toOption

def rejectedOf (file : Bytes) (outcomes : List (Nat × Except LineError Entry)) : List Rejection :=
  outcomes.filterMap fun (n, outcome) =>
    match outcome with
    | .ok _ => none
    | .error e => some ⟨file, n, e⟩

namespace Store

def empty : Store := ⟨[], {}⟩

def readFile (s : Store) (item : Item) : Store :=
  let r := s.report
  match item.content.text? with
  | none => { s with report := { r with unreadable := r.unreadable ++ [item.name] } }
  | some text =>
    let outcomes := readLines text
    let entries := acceptedOf outcomes
    { entries := s.entries ++ entries
      report := { r with
        files := r.files ++ [item.name]
        accepted := r.accepted + entries.length
        rejected := r.rejected ++ rejectedOf item.name outcomes } }

/-- The store of all log files of the source, given the listing of its folder. -/
def load (src : Source) (listing : Listing Item) : Except LoadError Store :=
  (src.logFiles listing).map fun files => files.foldl readFile empty

end Store
end ActivityLog
