import CodeAtlas.Disk.Basic
import CodeAtlas.Settings.Basic

/-!
Finding and loading configurations.

A configuration is looked for in a directory and then in those around it; the nearest one counts.
-/
namespace CodeAtlas.Settings

open CodeAtlas.Disk (IoError)
open CodeAtlas.Text (Bytes ofBytes)

/-- Why a configuration could not be loaded. -/
inductive LoadError where
  | unreadable (path : Bytes) (e : IoError)
  | malformed (path : Bytes)
deriving DecidableEq, Repr

/-- The wording of an error. -/
def LoadError.message : LoadError → String
  | .unreadable path _ => "Failed to read config file: " ++ ofBytes path
  | .malformed path => "Failed to parse config file: " ++ ofBytes path

/-- The wording of an error and then of what it comes from. -/
def LoadError.causes (e : LoadError) : List String :=
  match e with
  | .unreadable _ io => [e.message, io.message]
  | .malformed _ => [e.message]

/-- Loads the configuration in a file. -/
def load (d : Disk) (path : Bytes) : Except LoadError Configuration :=
  match d.readText path with
  | .error e => .error (.unreadable path e)
  | .ok text =>
    match Configuration.ofString? text with
    | none => .error (.malformed path)
    | some c => .ok c

/-- A directory and those around it, as far as its path tells. -/
def ancestors (path : Bytes) : List Bytes :=
  match _h : Path.parent? path with
  | none => [path]
  | some parent => path :: ancestors parent
termination_by path.length
decreasing_by exact Path.length_lt_of_parent? _h

/-- The directory of a configuration in another directory. -/
def directoryIn (path : Bytes) : Bytes :=
  Path.join path directoryName

/-- The file in the directory of a configuration. -/
def fileIn (directory : Bytes) : Bytes :=
  Path.join directory fileName

/-- Finds and loads the nearest configuration, with the directory that it stands in. -/
def find (d : Disk) (start : Bytes) : Except LoadError (Option (Configuration × Bytes)) :=
  match ((ancestors start).map directoryIn).find? fun dir => d.pathExists (fileIn dir) with
  | none => .ok none
  | some dir => (load d (fileIn dir)).map fun c => some (c, dir)

end CodeAtlas.Settings
