/-
  ActivityLog.CommandLine.Process — the program in its surroundings.

  The surroundings are whatever can be asked for environment variables, files, folders
  and the standard input: the real machine, or a tree of files in memory. The program
  asks for as little as it needs: nothing for help or the version, no folder before the
  settings are known, no input before the folder is loaded. Of what a folder lists it
  asks only for the wanted names, each by a path of its own.

  The settings are in the file that the options name, which then has to exist, or else in
  `logscope/config.toml` under `XDG_CONFIG_HOME`, or under `.config` in the home folder,
  if something is seen there. What cannot be seen, for whatever reason, counts as missing.
-/

import ActivityLog.CommandLine.Run

namespace ActivityLog.CommandLine

/-- What the program can ask for. Paths are bytes, as the names in them are. -/
structure Surroundings (m : Type → Type) where
  environment : Text → m (Option Text)
  /-- Something is at the path and can be seen. -/
  isThere : Bytes → m Bool
  readFile : Bytes → m (Except ReadFault Bytes)
  /-- The names in a folder. -/
  listFolder : Bytes → m (Listing Bytes)
  /-- What is at a path. -/
  contentAt : Bytes → m Content
  readInput : m (Except ReadFault Bytes)

structure Exit where
  code : Nat
  stdout : Text := []
  /-- The lines on the error stream. -/
  errors : List Text := []
  deriving DecidableEq, Repr

/-! ## Where the settings are -/

/-- The path of a name inside a folder, in characters or in bytes. -/
def joinPath {α : Type} [DecidableEq α] (slash : α) (folder name : List α) : List α :=
  if folder.isEmpty || folder.getLast? = some slash then folder ++ name else folder ++ slash :: name

def usualConfigPath (configHome home : Option Text) : Text :=
  let base := configHome.getD (joinPath '/' (home.getD ['.']) ".config".toList)
  joinPath '/' (joinPath '/' base "logscope".toList) "config.toml".toList

def ConfigFile.ofRead (path : Text) : Except ReadFault Bytes → ConfigFile
  | .ok bytes => .found path bytes
  | .error fault => .unreadable path fault

/-! ## Texts about the program -/

def versionText : Text := "logscope 0.1.0\n".toList

def helpText : Text := Display.writeLines <| [
  "Load tab-separated activity logs and answer queries over them",
  "",
  "Usage: logscope [OPTIONS] [DIR]",
  "",
  "Arguments:",
  "  [DIR]  Directory holding the log files (defaults to `log_dir` from the config file)",
  "",
  "Options:",
  "  -q, --query <QUERY>          Query to run, may be repeated; queries are read from stdin when absent",
  "      --extension <EXTENSION>  Log file extension",
  "      --json                   Print results as JSON lines",
  "      --summary                Print totals for the whole collection",
  "      --config <PATH>          Config file to use instead of the default location",
  "  -v, --verbose                Enable debug logging",
  "  -h, --help                   Print help",
  "  -V, --version                Print version"].map String.toList

/-! ## The process -/

def Exit.ofOutcome (o : Outcome) : Exit where
  code := o.exitCode
  stdout := o.stdout
  errors := o.log.map Remark.line

variable {m : Type → Type} [Monad m]

def findConfig (world : Surroundings m) (o : Options) : m ConfigFile := do
  match o.config with
  | some path => return .ofRead path (← world.readFile (Text.encode path))
  | none =>
    let configHome ← world.environment "XDG_CONFIG_HOME".toList
    let home ← world.environment "HOME".toList
    let path := usualConfigPath configHome home
    if ← world.isThere (Text.encode path) then
      return .ofRead path (← world.readFile (Text.encode path))
    else return .absent

/-- Asks for what the folder holds under the wanted names. -/
def listItems (world : Surroundings m) (folder : Bytes) (wanted : Bytes → Bool) : m (Listing Item) := do
  match ← world.listFolder folder with
  | .error fault => return .error fault
  | .ok names =>
    return .ok (← (names.filter wanted).mapM fun name =>
      return ⟨name, ← world.contentAt (joinPath 0x2F folder name)⟩)

def listSource (world : Surroundings m) (source : Source) : m (Listing Item) :=
  listItems world (Text.encode source.folder) source.takesName

/-- Asks for everything a run depends on, step by step, and runs. -/
def runIn (world : Surroundings m) (o : Options) : m Outcome := do
  let file ← findConfig world o
  match file.settings with
  | .error failure => return Outcome.fail {} failure
  | .ok config =>
    match o.source config with
    | .error failure => return Outcome.fail {} failure
    | .ok source =>
      let listing ← listSource world source
      match loadStore source listing with
      | .error failure => return Outcome.fail {} failure
      | .ok s =>
        let input ← if o.readsInput then world.readInput else pure (.ok [])
        return (answerAll o s (o.format config) input).precededBy (loadNotices source listing)

def process (world : Surroundings m) (words : List Text) : m Exit := do
  match Command.read words with
  | .error e => return { code := 2, errors := ["error: ".toList ++ e.message] }
  | .ok .help => return { code := 0, stdout := helpText }
  | .ok .version => return { code := 0, stdout := versionText }
  | .ok (.run o) => return .ofOutcome (← runIn world o)

end ActivityLog.CommandLine
