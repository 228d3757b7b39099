/-
  ActivityLog.Main — the program on the machine it runs on.

  The machine is asked through the file system and the standard streams; what is asked
  and what is answered is settled in `ActivityLog.CommandLine.Process`. The library of the
  language hands over names and paths as text, so a file whose name is none is out of reach.
-/

import ActivityLog.CommandLine.Process

namespace ActivityLog.CommandLine

/-- Why the system could not read a file. Its number for a folder in the place of a file is 21 and
    that for a name that is too long is 36; some calls report them with a minus sign. -/
def faultOf : IO.Error → ReadFault
  | .noFileOrDirectory .. => .notFound
  | .inappropriateType _ code _ => if code = 21 ∨ code = -21 then .isADirectory else .notADirectory
  | .invalidArgument _ code reason =>
    if code = 36 ∨ code = -36 then .nameTooLong else .other reason.toList
  | .permissionDenied .. => .denied
  | e => .other (toString e).toList

def bytesOf (bytes : ByteArray) : Bytes := bytes.data.toList

/-- The path for the system, which takes text only. -/
def pathOf (path : Bytes) : IO String :=
  match Text.decode? path with
  | some text => return String.ofList text
  | none => throw (.userError "path is no text")

/-- What is at a path: a regular file, which may be locked, or something else. A file whose path
    is too long is out of reach. -/
def contentOf (path : Bytes) : IO Content := do
  let isFile ← try
      pure ((← (← IO.FS.realPath (← pathOf path)).metadata).type == .file)
    catch _ => pure false
  if !isFile then return .other
  try
    return .file (bytesOf (← IO.FS.readBinFile (← pathOf path)))
  catch e => return if faultOf e = .nameTooLong then .other else .locked

def listingOfFolder (path : Bytes) : IO (Listing Bytes) := do
  let folder ← try IO.FS.realPath (← pathOf path) catch _ => return .error .notAFolder
  if !(← folder.isDir) then return .error .notAFolder
  try
    return .ok ((← folder.readDir).toList.map fun entry => Text.encode entry.fileName.toList)
  catch e => return .error (.broken (faultOf e))

def machine : Surroundings IO where
  environment name := return (← IO.getEnv (String.ofList name)).map String.toList
  isThere path := do
    try
      discard (← IO.FS.realPath (← pathOf path)).metadata
      return true
    catch _ => return false
  readFile path := do
    try
      return .ok (bytesOf (← IO.FS.readBinFile (← pathOf path)))
    catch e => return .error (faultOf e)
  listFolder := listingOfFolder
  contentAt := contentOf
  readInput := do
    try
      return .ok (bytesOf (← (← IO.getStdin).readBinToEnd))
    catch e => return .error (faultOf e)

end ActivityLog.CommandLine

open ActivityLog.CommandLine in
def main (words : List String) : IO UInt32 := do
  let exit ← process machine (words.map String.toList)
  for line in exit.errors do
    IO.eprintln (String.ofList line)
  IO.print (String.ofList exit.stdout)
  (← IO.getStdout).flush
  return exit.code.toUInt32
