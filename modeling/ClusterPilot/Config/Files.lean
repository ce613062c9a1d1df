/-
Where a configuration is looked for. Paths are compared by their parts: repeated separators, parts
that are a lone point, and a separator at the end say nothing; `..` is kept, since what it means
depends on links. Exactly two separators in front are kept too; more of them are one.

A configuration can be in the files of the directory that the tool is started in. Of what lies
outside only the directories on the way are known. A path is followed part by part, so `..` is the
parent of whatever stands before it, and nothing is found through a file or a name that does not
exist.
-/
import ClusterPilot.Text.Utf8

namespace ClusterPilot.Config

/-! ## Paths -/

/-- The configuration when nothing names one. -/
def defaultPath : String := "gcloud-driver.yaml"

/-- The parts of a path that say something. -/
def pathParts (path : List Char) : List (List Char) :=
  (path.splitOn '/').filter fun part => part ≠ [] ∧ part ≠ ['.']

/-- The separators that a path starts with, as far as they matter. -/
def pathRoot (path : List Char) : List Char :=
  match (path.takeWhile (· = '/')).length with
  | 0 => []
  | 2 => ['/', '/']
  | _ => ['/']

/-- A path in its plain spelling; a path without parts is the directory it starts from. -/
def normalizePath (path : String) : String :=
  let cs := path.toList
  match pathRoot cs, pathParts cs with
  | [], [] => "."
  | root, parts => String.ofList (root ++ ['/'].intercalate parts)

/-- The path of the configuration: the one given, else the one in the environment, else the
default. -/
def location (given environment : Option String) : String :=
  normalizePath (given.getD (environment.getD defaultPath))

/-! ## Files -/

/-- What a path leads to. -/
inductive Entry where
  | missing
  | directory
  | file (bytes : List UInt8)
  /-- A path that is longer, or has a longer part, than any path may be. -/
  | unnameable
  deriving DecidableEq, Repr

/-- What every path leads to. -/
abbrev Files := String → Entry

namespace Files

/-- The number of bytes that a part of a path may have. -/
def maxPart : Nat := 255

/-- The number of bytes that a path may have. -/
def maxPath : Nat := 4095

/-- The number of bytes of a text. -/
def bytes (cs : List Char) : Nat := (Text.Utf8.encode cs).length

/-- Where a path has led so far. -/
inductive Place where
  /-- In the directory that the tool is started in, or below it. -/
  | inside (parts : List String)
  /-- Above that directory. -/
  | above
  /-- At the root of all paths. -/
  | root
  /-- Somewhere else, where nothing is known to be. -/
  | elsewhere
  deriving DecidableEq

/-- What is at a place, when files have given paths below the starting directory. -/
def entryAt (files : List (String × List UInt8)) : Place → Entry
  | .above | .root => .directory
  | .elsewhere => .missing
  | .inside parts =>
    match files.lookup ("/".intercalate parts) with
    | some bytes => .file bytes
    | none =>
      let isInside (name : String) : Bool := parts.isPrefixOf (name.splitOn "/")
      if parts = [] ∨ files.any (fun f => isInside f.1) then .directory else .missing

/-- The place that one more part leads to from a directory. -/
def Place.enter (place : Place) (part : String) : Place :=
  match place with
  | .inside parts =>
    if part ≠ ".." then .inside (parts ++ [part])
    else if parts = [] then .above
    else .inside parts.dropLast
  | .above | .root => if part = ".." then place else .elsewhere
  | .elsewhere => .elsewhere

/-- What the parts of a path lead to from a place. -/
def follow (files : List (String × List UInt8)) (place : Place) : List (List Char) → Entry
  | [] => entryAt files place
  | part :: rest =>
    match entryAt files place with
    | .directory =>
      if maxPart < bytes part then .unnameable
      else follow files (place.enter (String.ofList part)) rest
    | _ => .missing

/-- The files of a starting directory. -/
def ofList (files : List (String × List UInt8)) : Files := fun path =>
  let cs := path.toList
  if cs.contains '\x00' then .missing
  else if maxPath < bytes cs then .unnameable
  else follow files (if (pathRoot cs).isEmpty then .inside [] else .root) (pathParts cs)

end Files

end ClusterPilot.Config
