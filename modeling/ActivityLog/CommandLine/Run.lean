/-
  ActivityLog.CommandLine.Run — a run of the program, from its inputs to its outputs.

  A run depends on its options, the configuration file, the listing of the folder and
  the standard input, and on nothing else. Four steps can fail, and the first that does
  is the only error: reading the configuration, choosing the folder, loading it, and
  reading queries from the standard input. The input is read only where the options hold
  neither a query nor a wish for the summary.

  After these steps nothing stops the run: the summary comes first, where it is wanted,
  then one answer after another. A query with an error leaves its message and the run
  goes on, but does not succeed. The error stream holds the remarks on loading, file by
  file, and then what the queries give rise to, query by query.
-/

import ActivityLog.CommandLine.Arguments
import ActivityLog.Config
import ActivityLog.Display
import ActivityLog.Ingest
import ActivityLog.Query.Answer
import ActivityLog.Query.Request

namespace ActivityLog.CommandLine

/-! ## What can fail -/

inductive Failure where
  | unreadableConfig (path : Text) (fault : ReadFault)
  | invalidConfig (path : Text) (error : ConfigError)
  | noFolder
  | notLoaded (source : Source) (error : LoadError)
  | unreadableInput (fault : ReadFault)
  | badQuery (query : Text) (error : Query.QueryError)
  deriving DecidableEq, Repr

def Failure.message : Failure → Text
  | .unreadableConfig path fault =>
    "failed to read config file ".toList ++ path ++ ": ".toList ++ fault.message
  | .invalidConfig path error =>
    "invalid config file ".toList ++ path ++ ": ".toList ++ error.message
  | .noFolder => "No log directory given: pass DIR or set log_dir in the config file".toList
  | .notLoaded source error =>
    "Failed to load ".toList ++ source.extension ++ " files from ".toList ++ source.folder ++
      ": ".toList ++ error.fullMessage
  | .unreadableInput fault => "Failed to read queries from stdin: ".toList ++ fault.message
  | .badQuery query error => query ++ ": ".toList ++ error.message

/-! ## The four steps -/

inductive ConfigFile where
  /-- None is named, and there is none in the usual place. -/
  | absent
  | unreadable (path : Text) (fault : ReadFault)
  | found (path : Text) (bytes : Bytes)
  deriving DecidableEq, Repr

def ConfigFile.settings : ConfigFile → Except Failure Config
  | .absent => .ok {}
  | .unreadable path fault => .error (.unreadableConfig path fault)
  | .found path bytes =>
    match Text.decode? bytes with
    | none => .error (.unreadableConfig path .notText)
    | some text => (Config.read text).mapError (.invalidConfig path)

namespace Options

/-- The folder and the extension of the log files; the options go before the settings. -/
def source (o : Options) (config : Config) : Except Failure Source :=
  match o.folder.or config.logDir with
  | none => .error .noFolder
  | some folder => .ok ⟨folder, o.extension.getD config.extension⟩

def format (o : Options) (config : Config) : Display.Format := if o.json then .json else config.output

/-- The queries stand in the standard input. -/
def readsInput (o : Options) : Bool := o.queries.isEmpty && !o.summary

def queryTexts (o : Options) (input : Except ReadFault Bytes) : Except Failure (List Text) :=
  if o.readsInput then
    match input with
    | .error fault => .error (.unreadableInput fault)
    | .ok bytes =>
      match Query.readScript? bytes with
      | some queries => .ok queries
      | none => .error (.unreadableInput .notText)
  else .ok o.queries

end Options

def loadStore (source : Source) (listing : Listing Item) : Except Failure Store :=
  (Store.load source listing).mapError (.notLoaded source)

/-! ## Answering -/

/-- What is told on the error stream. -/
inductive Remark where
  /-- Something was left out or not understood. -/
  | notice (text : Text)
  | error (failure : Failure)
  deriving DecidableEq, Repr

namespace Remark

def line : Remark → Text
  | .notice text => "WARN ".toList ++ text
  | .error failure => "Error: ".toList ++ failure.message

def failure? : Remark → Option Failure
  | .notice _ => none
  | .error failure => some failure

end Remark

/-- What a run has put out so far. -/
structure Outcome where
  stdout : Text := []
  /-- The error stream, in the order in which it was written. -/
  log : List Remark := []
  succeeded : Bool := true
  deriving DecidableEq, Repr

namespace Outcome

def failures (o : Outcome) : List Failure := o.log.filterMap Remark.failure?

def write (o : Outcome) (text : Text) : Outcome := { o with stdout := o.stdout ++ text }

def note (o : Outcome) (notices : List Text) : Outcome := { o with log := o.log ++ notices.map .notice }

def fail (o : Outcome) (failure : Failure) : Outcome :=
  { o with log := o.log ++ [.error failure], succeeded := false }

/-- The outcome behind remarks that were made before it. -/
def precededBy (o : Outcome) (notices : List Text) : Outcome := { o with log := notices.map .notice ++ o.log }

def exitCode (o : Outcome) : Nat := if o.succeeded then 0 else 1

end Outcome

def fileNotices (item : Item) : List Text :=
  match item.content.text? with
  | none => ["skipping unreadable log file ".toList ++ Text.lossy item.name]
  | some text =>
    (rejectedOf item.name (readLines text)).map fun rejection =>
      "dropping malformed log line ".toList ++ Text.lossy rejection.file ++ ':' ::
        Text.ofNat rejection.line ++ ": ".toList ++ rejection.error.message

/-- The remarks on loading, file by file. -/
def loadNotices (source : Source) (listing : Listing Item) : List Text :=
  match source.logFiles listing with
  | .error _ => []
  | .ok files => files.flatMap fileNotices

def warningNotice (w : Query.Warning) : Text :=
  w.message ++ ": ".toList ++ match w with
    | .missingBound clause => Text.quoted clause
    | .badBound error | .badDate error => error.message

/-- Answers one more query. Its warnings come before its error. -/
def answerQuery (s : Store) (format : Display.Format) (o : Outcome) (query : Text) : Outcome :=
  let answer := Query.executeNoted s query
  let o := o.note (answer.warnings.map warningNotice)
  match answer.value with
  | .error e => o.fail (.badQuery query e)
  | .ok output =>
    let unknown := if output = .noMatch then ["not a recognised query: ".toList ++ Text.quoted query] else []
    (o.note unknown).write (Display.writeAnswer format query output)

def opening (o : Options) (s : Store) (format : Display.Format) : Outcome where
  stdout := if o.summary then (Display.Summary.ofStore s).write format else []

def answerAll (o : Options) (s : Store) (format : Display.Format) (input : Except ReadFault Bytes) :
    Outcome :=
  match o.queryTexts input with
  | .error failure => (opening o s format).fail failure
  | .ok queries => queries.foldl (answerQuery s format) (opening o s format)

/-- The run: what it puts out, given everything it depends on. -/
def run (o : Options) (file : ConfigFile) (listing : Listing Item) (input : Except ReadFault Bytes) :
    Outcome :=
  match file.settings with
  | .error failure => Outcome.fail {} failure
  | .ok config =>
    match o.source config with
    | .error failure => Outcome.fail {} failure
    | .ok source =>
      match loadStore source listing with
      | .error failure => Outcome.fail {} failure
      | .ok s => (answerAll o s (o.format config) input).precededBy (loadNotices source listing)

end ActivityLog.CommandLine
