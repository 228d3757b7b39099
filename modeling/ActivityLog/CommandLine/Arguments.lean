/-
  ActivityLog.CommandLine.Arguments — what the words of a command line ask for.

  The words are taken from the left. A word that begins with two dashes is a long
  option, one with a single dash and more is a cluster of short ones; the value of an
  option is attached to it (behind an equals sign, which a short option may leave out)
  or is the next word, which then may not begin with a dash. A dash alone is an ordinary
  word. Behind `--` all words are ordinary. The only ordinary word is the folder.

  Every option but `--query` may be given once. A folder or a configuration file cannot
  be the empty word. The first word that does not fit decides, and so does the first that
  asks for help or for the version.
-/

import ActivityLog.Text.Basic

namespace ActivityLog.CommandLine

/-! ## Options -/

inductive Flag where
  | query
  | extension
  | json
  | summary
  | config
  | verbose
  | help
  | version
  deriving DecidableEq, Repr

namespace Flag

def all : List Flag := [.query, .extension, .json, .summary, .config, .verbose, .help, .version]

def name : Flag → Text
  | .query => "query".toList
  | .extension => "extension".toList
  | .json => "json".toList
  | .summary => "summary".toList
  | .config => "config".toList
  | .verbose => "verbose".toList
  | .help => "help".toList
  | .version => "version".toList

def letter? : Flag → Option Char
  | .query => some 'q'
  | .verbose => some 'v'
  | .help => some 'h'
  | .version => some 'V'
  | _ => none

def takesValue : Flag → Bool
  | .query | .extension | .config => true
  | _ => false

end Flag

structure Options where
  folder : Option Text := none
  queries : List Text := []
  extension : Option Text := none
  json : Bool := false
  summary : Bool := false
  config : Option Text := none
  verbose : Bool := false
  deriving DecidableEq, Repr

inductive Command where
  | run (options : Options)
  | help
  | version
  deriving DecidableEq, Repr

inductive UsageError where
  | unknownOption (word : Text)
  | missingValue (flag : Flag)
  | unexpectedValue (flag : Flag)
  | emptyValue (name : Text)
  | repeated (flag : Flag)
  | unexpectedWord (word : Text)
  deriving DecidableEq, Repr

def UsageError.message : UsageError → Text
  | .unknownOption word => "unexpected argument: ".toList ++ word
  | .missingValue flag => "a value is required for --".toList ++ flag.name
  | .unexpectedValue flag => "no value is expected for --".toList ++ flag.name
  | .emptyValue name => "a value is required for ".toList ++ name
  | .repeated flag => "cannot be used multiple times: --".toList ++ flag.name
  | .unexpectedWord word => "unexpected argument: ".toList ++ word

/-! ## Taking a word -/

/-- Where reading stands after an option: it goes on, waits for a value, or is over. -/
inductive Step where
  | next (options : Options)
  | value (flag : Flag) (options : Options)
  | stop (command : Command)
  deriving DecidableEq, Repr

namespace Options

def turnOn (o : Options) (flag : Flag) : Except UsageError Step :=
  match flag with
  | .json => if o.json then .error (.repeated .json) else .ok (.next { o with json := true })
  | .summary =>
    if o.summary then .error (.repeated .summary) else .ok (.next { o with summary := true })
  | .verbose =>
    if o.verbose then .error (.repeated .verbose) else .ok (.next { o with verbose := true })
  | .help => .ok (.stop .help)
  | .version => .ok (.stop .version)
  | flag => .ok (.value flag o)

def give (o : Options) (flag : Flag) (value : Text) : Except UsageError Options :=
  match flag with
  | .query => .ok { o with queries := o.queries ++ [value] }
  | .extension =>
    if o.extension.isSome then .error (.repeated .extension) else .ok { o with extension := some value }
  | .config =>
    if o.config.isSome then .error (.repeated .config)
    else if value.isEmpty then .error (.emptyValue "--config".toList)
    else .ok { o with config := some value }
  | flag => .error (.unexpectedValue flag)

def giveFolder (o : Options) (word : Text) : Except UsageError Options :=
  if o.folder.isSome then .error (.unexpectedWord word)
  else if word.isEmpty then .error (.emptyValue "DIR".toList)
  else .ok { o with folder := some word }

end Options

/-- Takes a long option; `body` is the word without its dashes. -/
def takeLong (o : Options) (body : Text) : Except UsageError Step :=
  let (name, value) := match Text.splitOnce ['='] body with
    | some (name, value) => (name, some value)
    | none => (body, none)
  match Flag.all.find? (fun flag => flag.name = name), value with
  | none, _ => .error (.unknownOption ("--".toList ++ body))
  | some flag, none => o.turnOn flag
  | some flag, some value => (o.give flag value).map .next

/-- Takes a cluster of short options. The first one with a value takes the rest of the cluster
    for its value, unless nothing is left. -/
def takeShort (o : Options) : Text → Except UsageError Step
  | [] => .ok (.next o)
  | c :: rest =>
    match Flag.all.find? fun flag => flag.letter? = some c with
    | none => .error (.unknownOption ['-', c])
    | some flag =>
      if flag.takesValue && !rest.isEmpty then
        (o.give flag ((Text.dropMark? ['='] rest).getD rest)).map .next
      else match o.turnOn flag with
        | .ok (.next o) => takeShort o rest
        | step => step

/-- A word that can be the value of the option before it. -/
def isValueWord : Text → Bool
  | '-' :: _ :: _ => false
  | _ => true

/-! ## The whole -/

/-- What the words ask for, in addition to `o`. `plain` holds behind `--`. -/
def Command.ofWords (plain : Bool) (o : Options) : List Text → Except UsageError Command
  | [] => .ok (.run o)
  | word :: rest =>
    if plain || word = ['-'] then (o.giveFolder word).bind fun o => ofWords plain o rest
    else
      let step := match word with
        | ['-', '-'] => none
        | '-' :: '-' :: body => some (takeLong o body)
        | '-' :: cluster => some (takeShort o cluster)
        | _ => some ((o.giveFolder word).map .next)
      match step with
      | none => ofWords true o rest
      | some (.error e) => .error e
      | some (.ok (.next o)) => ofWords false o rest
      | some (.ok (.stop command)) => .ok command
      | some (.ok (.value flag o)) =>
        match rest with
        | [] => .error (.missingValue flag)
        | value :: rest =>
          if isValueWord value then (o.give flag value).bind fun o => ofWords false o rest
          else .error (.missingValue flag)
termination_by structural words => words

def Command.read (words : List Text) : Except UsageError Command :=
  Command.ofWords false {} words

example : (Command.read ["-vqget ip".toList, "--json".toList, "--".toList, "-x".toList]).toOption =
    some (.run { folder := some "-x".toList, queries := ["get ip".toList], json := true,
                 verbose := true }) := by decide +kernel

end ActivityLog.CommandLine
