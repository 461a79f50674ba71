import CodeAtlas.Disk.Basic

/-!
Changing a disk: writing files, making directories, removing entries.
-/
namespace CodeAtlas.Disk

open CodeAtlas.Text (Bytes)

namespace Entry

/-- Puts an entry under a name in a list. -/
def putIn (name : Bytes) (new : Entry) : List (Bytes × Entry) → List (Bytes × Entry)
  | [] => [(name, new)]
  | (n, e) :: rest => if n == name then (name, new) :: rest else (n, e) :: putIn name new rest

/-- What a directory holds; nothing if it is none. -/
def entries : Entry → List (Bytes × Entry)
  | .directory entries => entries
  | _ => []

/-- Puts an entry at a place; directories on the way are made where they are missing. -/
def put (e : Entry) (place : List Bytes) (new : Entry) : Entry :=
  match place with
  | [] => new
  | name :: rest =>
    .directory (putIn name (((e.child? name).getD (.directory [])).put rest new) e.entries)

/-- Takes away what stands at a place. -/
def remove (e : Entry) (place : List Bytes) : Entry :=
  match place with
  | [] => e
  | [name] => .directory (e.entries.filter (·.1 != name))
  | name :: rest =>
    match e.child? name with
    | none => e
    | some child => .directory (putIn name (child.remove rest) e.entries)

end Entry
end CodeAtlas.Disk

namespace CodeAtlas.Disk

open CodeAtlas.Text (Bytes)

/-- The disk with an entry at a place, whether or not it refuses that. -/
def putAt (d : Disk) (place : List Bytes) (e : Entry) : Disk :=
  { d with root := d.root.put place e }

/-- The disk with an entry at a path from the working directory; directories on the way are made. -/
def put (d : Disk) (path : Bytes) (e : Entry) : Disk :=
  d.putAt (d.start path ++ Path.steps path) e

/-- The disk without what stands at a path from the working directory. -/
def remove (d : Disk) (path : Bytes) : Disk :=
  { d with root := d.root.remove (d.start path ++ Path.steps path) }

/-- Writes an entry at a place, unless the disk refuses that. -/
def writeAt (d : Disk) (place : List Bytes) (e : Entry) : Except IoError Disk :=
  match d.refusal .write place with
  | some refused => .error refused
  | none => .ok (d.putAt place e)

/-- Writes a file. The directory that it is to stand in has to be there. -/
def write (d : Disk) (path : Bytes) (content : ByteArray) : Except IoError Disk :=
  match d.reach path with
  | .ok (_, .directory _) => .error .isADirectory
  | .ok (place, _) => d.writeAt place (.file content)
  | .error .notFound =>
    match (Path.steps path).getLast? with
    | none => .error .notFound
    | some name =>
      match d.follow maxLinks (d.start path) (Path.steps path).dropLast with
      | .error e => .error e
      | .ok place =>
        match d.root.at? place with
        | some (.directory _) =>
          if wantsDirectory path then .error .isADirectory else d.writeAt (place ++ [name]) (.file content)
        | _ => .error .notADirectory
  | .error e => .error e

/-- Makes the directories that some steps lead to from a place. A link that leads nowhere is in the way. -/
def makeSteps (d : Disk) (here : List Bytes) : List Bytes → Except IoError Disk
  | [] => .ok d
  | name :: rest =>
    match d.follow maxLinks here [name] with
    | .ok place =>
      match d.root.at? place with
      | some (.directory _) => makeSteps d place rest
      | _ => .error .notADirectory
    | .error .notFound =>
      if (d.root.at? (here ++ [name])).isSome then .error .alreadyExists
      else
        match d.writeAt (here ++ [name]) (.directory []) with
        | .error e => .error e
        | .ok made => makeSteps made (here ++ [name]) rest
    | .error .notADirectory | .error .tooManyLinks => .error .alreadyExists
    | .error e => .error e

/-- Makes a directory and those around it. -/
def makeDirectories (d : Disk) (path : Bytes) : Except IoError Disk :=
  if maxPath < path.length then .error .nameTooLong else d.makeSteps (d.start path) (Path.steps path)

end CodeAtlas.Disk
