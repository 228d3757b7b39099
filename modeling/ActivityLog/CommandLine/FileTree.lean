/-
  ActivityLog.CommandLine.FileTree — files and folders in memory.

  A tree stands for a file system with a working folder at its root. Paths are relative
  to it; their parts are separated by slashes. An empty part and `.` stay where they are,
  `..` goes up; above the root nothing is known but folders with nothing in them. Every
  part but the last has to be a folder. A name has at most 255 bytes and a path at most
  4095, and a part is looked at only when all before it were found.
-/

import ActivityLog.CommandLine.Process

namespace ActivityLog.CommandLine

/-- A file, or a folder with its items in the order of the listing. -/
inductive FileTree where
  | file (bytes : Bytes)
  | folder (items : List (Bytes × FileTree))

namespace FileTree

def empty : FileTree := .folder []

def child? (name : Bytes) (items : List (Bytes × FileTree)) : Option FileTree :=
  (items.find? fun item => item.1 = name).map (·.2)

/-- The items with that one, in place of an earlier one of its name. -/
def setChild (name : Bytes) (tree : FileTree) (items : List (Bytes × FileTree)) :
    List (Bytes × FileTree) :=
  if (child? name items).isSome then items.map fun item => if item.1 = name then (name, tree) else item
  else items ++ [(name, tree)]

/-- Puts a leaf at the end of the path, with the folders on the way; a folder that is there
    already stays as it is. -/
def put (path : List Bytes) (leaf tree : FileTree) : FileTree :=
  match path, tree with
  | [], tree =>
    match leaf, tree with
    | .folder _, .folder items => .folder items
    | leaf, _ => leaf
  | name :: path, .folder items =>
    .folder (setChild name (put path leaf ((child? name items).getD empty)) items)
  | _, .file bytes => .file bytes

def dot : UInt8 := 0x2E

def slash : UInt8 := 0x2F

/-- Follows the parts of a path. The trail holds the place reached and the folders above it. -/
def walk (place : FileTree) (above : List FileTree) (parts : List Bytes) : Except ReadFault FileTree :=
  match parts, place with
  | [], place => .ok place
  | _ :: _, .file _ => .error .notADirectory
  | part :: parts, .folder items =>
    if part = [] || part = [dot] then walk (.folder items) above parts
    else if part = [dot, dot] then
      match above with
      | [] => walk empty [] parts
      | up :: above => walk up above parts
    else if 255 < part.length then .error .nameTooLong
    else match child? part items with
      | none => .error .notFound
      | some tree => walk tree (.folder items :: above) parts

def find (tree : FileTree) (path : Bytes) : Except ReadFault FileTree :=
  if path = [] || path.head? = some slash then .error .notFound
  else if 4095 < path.length then .error .nameTooLong
  else tree.walk [] (Text.pieces slash path)

def read (tree : FileTree) (path : Bytes) : Except ReadFault Bytes :=
  match tree.find path with
  | .ok (.file bytes) => .ok bytes
  | .ok (.folder _) => .error .isADirectory
  | .error fault => .error fault

def names (tree : FileTree) (path : Bytes) : Listing Bytes :=
  match tree.find path with
  | .ok (.folder items) => .ok (items.map (·.1))
  | _ => .error .notAFolder

def content (tree : FileTree) (path : Bytes) : Content :=
  match tree.read path with
  | .ok bytes => .file bytes
  | .error _ => .other

def surroundings (tree : FileTree) (env : List (Text × Text)) (input : Bytes) : Surroundings Id where
  environment name := (env.find? fun entry => entry.1 = name).map (·.2)
  isThere path := (tree.find path).isOk
  readFile path := tree.read path
  listFolder path := tree.names path
  contentAt path := tree.content path
  readInput := .ok input

end FileTree
end ActivityLog.CommandLine
