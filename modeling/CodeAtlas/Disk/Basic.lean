import CodeAtlas.Path.Basic

/-!
Disks: trees of files, directories and symbolic links, with a working directory.

A path is followed step by step. Links are replaced by what they lead to, up to a bound on their number. Names are
bytes, which need not be a text, and a disk may refuse to let something be used.
-/
namespace CodeAtlas.Disk

open CodeAtlas.Text (Bytes)

/-- What stands at a place of a disk. -/
inductive Entry where
  | file (content : ByteArray)
  | directory (entries : List (Bytes × Entry))
  | link (target : Bytes)
deriving Inhabited

/-- Why something could not be done on a disk. -/
inductive IoError where
  | notFound
  | permissionDenied
  | notADirectory
  | isADirectory
  | alreadyExists
  | nameTooLong
  | tooManyLinks
  /-- The bytes of a file are no text. -/
  | notText
  | other (message : String)
deriving DecidableEq, Repr

/-- The wording of an error. -/
def IoError.message : IoError → String
  | .notFound => "No such file or directory (os error 2)"
  | .permissionDenied => "Permission denied (os error 13)"
  | .notADirectory => "Not a directory (os error 20)"
  | .isADirectory => "Is a directory (os error 21)"
  | .alreadyExists => "File exists (os error 17)"
  | .nameTooLong => "File name too long (os error 36)"
  | .tooManyLinks => "Too many levels of symbolic links (os error 40)"
  | .notText => "stream did not contain valid UTF-8"
  | .other message => message

namespace Entry

/-- What a directory holds under a name. -/
def child? (name : Bytes) : Entry → Option Entry
  | .directory entries => entries.lookup name
  | _ => none

/-- What stands below an entry, following names and no links. -/
def at? : List Bytes → Entry → Option Entry
  | [], e => some e
  | name :: rest, e => (e.child? name).bind (at? rest)

/-- Whether it is a directory. -/
def isDirectory : Entry → Bool
  | .directory _ => true
  | _ => false

/-- How many bytes a file has. -/
def size : Entry → Nat
  | .file content => content.size
  | _ => 0

end Entry

/-- A way to use what stands at a place. -/
inductive Use where
  /-- To come to it by its name. -/
  | find
  /-- To tell of which kind it is when its directory is listed. -/
  | identify
  /-- To list what is in it. -/
  | list
  | read
  | write
deriving DecidableEq, Repr

end CodeAtlas.Disk

namespace CodeAtlas

open CodeAtlas.Disk
open CodeAtlas.Text (Bytes)

/-- A disk with its working directory, given by the names from the root. -/
structure Disk where
  root : Entry
  workingDirectory : List Bytes
  /-- Why what stands under some names from the root cannot be used in a way, if it cannot. -/
  refusal : Use → List Bytes → Option IoError := fun _ _ => none

namespace Disk

/-- How many links are followed on one path. -/
def maxLinks : Nat := 40

/-- How many bytes a name can have. -/
def maxName : Nat := 255

/-- How many bytes a path can have. -/
def maxPath : Nat := 4095

/-- The place that some steps lead to from a directory: names from the root, none of them a link. -/
def follow (d : Disk) (links : Nat) (here : List Bytes) (steps : List Bytes) : Except IoError (List Bytes) :=
  match steps with
  | [] => .ok here
  | name :: rest =>
    match d.root.at? here with
    | none => .error .notFound
    | some (.file _) | some (.link _) => .error .notADirectory
    | some (.directory entries) =>
      match d.refusal .find (here ++ [name]) with
      | some e => .error e
      | none =>
        if name == Path.toParent then follow d links here.dropLast rest
        else if maxName < name.length then .error .nameTooLong
        else match entries.lookup name with
          | none => .error .notFound
          | some (.link target) =>
            match links with
            | 0 => .error .tooManyLinks
            | links + 1 =>
              follow d links (if Path.isAbsolute target then [] else here) (Path.steps target ++ rest)
          | some _ => follow d links (here ++ [name]) rest
termination_by (links, steps.length)

/-- Where a path begins. -/
def start (d : Disk) (path : Bytes) : List Bytes :=
  if Path.isAbsolute path then [] else d.workingDirectory

/-- The place that a path leads to. -/
def locate (d : Disk) (path : Bytes) : Except IoError (List Bytes) :=
  if path.isEmpty then .error .notFound
  else if maxPath < path.length then .error .nameTooLong
  else d.follow maxLinks (d.start path) (Path.steps path)

/-- Whether a path ends in a way that only fits directories. -/
def wantsDirectory (path : Bytes) : Bool :=
  let last := (Path.segments path).getLast?
  last == some [] || last == some [Path.point] || last == some Path.toParent

/-- What stands at the end of a path, with its place. -/
def reach (d : Disk) (path : Bytes) : Except IoError (List Bytes × Entry) :=
  match d.locate path with
  | .error e => .error e
  | .ok place =>
    match d.root.at? place with
    | none => .error .notFound
    | some e => if wantsDirectory path && !e.isDirectory then .error .notADirectory else .ok (place, e)

/-- What stands at the end of a path. -/
def entry (d : Disk) (path : Bytes) : Except IoError Entry :=
  (d.reach path).map Prod.snd

/-- Whether something stands at the end of a path. -/
def pathExists (d : Disk) (path : Bytes) : Bool :=
  match d.reach path with
  | .ok _ => true
  | .error _ => false

/-- Whether a path leads to a directory. -/
def isDirectory (d : Disk) (path : Bytes) : Bool :=
  match d.reach path with
  | .ok (_, e) => e.isDirectory
  | .error _ => false

/-- What is in a directory. -/
def list (d : Disk) (path : Bytes) : Except IoError (List (Bytes × Entry)) :=
  match d.reach path with
  | .error e => .error e
  | .ok (place, e) =>
    match d.refusal .list place, e with
    | some refused, _ => .error refused
    | none, .directory entries => .ok entries
    | none, _ => .error .notADirectory

/-- The content of a file. -/
def read (d : Disk) (path : Bytes) : Except IoError ByteArray :=
  match d.reach path with
  | .error e => .error e
  | .ok (place, e) =>
    match d.refusal .read place, e with
    | some refused, _ => .error refused
    | none, .file content => .ok content
    | none, _ => .error .isADirectory

/-- The content of a text file. -/
def readText (d : Disk) (path : Bytes) : Except IoError String :=
  match d.read path with
  | .error e => .error e
  | .ok bytes =>
    match String.fromUTF8? bytes with
    | some text => .ok text
    | none => .error .notText

end Disk
end CodeAtlas
