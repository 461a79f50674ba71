import CodeAtlas.Command.Run

/-!
The program itself.

What a command line can look at is loaded from the disk first. The command runs on that, and then its changes are made.
What cannot be read is loaded without its content, and the loaded disk refuses to give it.
-/
namespace CodeAtlas.Main

open CodeAtlas.Command
open CodeAtlas.Disk (Entry IoError Use)
open CodeAtlas.Text (Bytes bytes ofBytes)

/-- Whether a directory is loaded with everything in it. -/
inductive Extent where
  | whole
  | alone
deriving DecidableEq

/-- What was loaded, with the places below it that cannot be read or listed. -/
structure Loaded where
  entry : Entry
  refused : List (Use × List Bytes × IoError) := []

/-- The error of a failed access. -/
def ioError (e : IO.Error) : IoError :=
  match e with
  | .permissionDenied .. => .permissionDenied
  | e => .other (toString e)

/-- A file whose content is not known. -/
def loadUnreadable (size : UInt64) (e : IO.Error) : Loaded :=
  ⟨.file ⟨Array.replicate size.toNat 0⟩, [(.read, [], ioError e)]⟩

/-- Loads what stands at a place; nothing if it is of an unknown kind or a link that leads nowhere. -/
partial def loadEntry (extent : Extent) (e : IO.FS.DirEntry) : IO (Option Loaded) := do
  let metadata ← try e.path.symlinkMetadata catch _ => return none
  match metadata.type with
  | .file =>
    try return some ⟨.file (← IO.FS.readBinFile e.path), []⟩
    catch error => return some (loadUnreadable metadata.byteSize error)
  | .symlink =>
    try return some ⟨.link (bytes (← IO.FS.realPath e.path).toString), []⟩
    catch _ => return none
  | .dir =>
    if extent = .alone then return some ⟨.directory [], []⟩
    else
      try
        let mut entries := []
        let mut refused := []
        for child in ← e.path.readDir do
          if let some loaded ← loadEntry .whole child then
            let name := bytes child.fileName
            entries := (name, loaded.entry) :: entries
            refused := loaded.refused.map (fun (use, below, error) => (use, name :: below, error)) ++ refused
        return some ⟨.directory entries, refused⟩
      catch error => return some ⟨.directory [], [(.list, [], ioError error)]⟩
  | .other => return none

/-- The names that a path leads through from the root, as far as the path tells. -/
def placeOf (d : Disk) (path : Bytes) : List Bytes :=
  (Path.steps path).foldl (fun place name => if name == Path.toParent then place.dropLast else place ++ [name])
    (d.start path)

/-- The disk with what was loaded at a place. -/
def addLoaded (d : Disk) (place : List Bytes) (loaded : Loaded) : Disk :=
  let refused := loaded.refused.map fun (use, below, e) => ((use, place ++ below), e)
  { d.putAt place loaded.entry with refusal := fun use there => (refused.lookup (use, there)).or (d.refusal use there) }

/-- Loads what a path leads to, unless it is known already. -/
def loadPath (extent : Extent) (d : Disk) (path : Bytes) : IO Disk := do
  let place := placeOf d path
  if extent = .alone && (d.root.at? place).isSome then return d
  match place.getLast? with
  | none => return d
  | some name =>
    let parent := ofBytes (Path.slash :: Path.ofNames place.dropLast)
    match ← loadEntry extent { root := parent, fileName := ofBytes name } with
    | some loaded => return addLoaded d place loaded
    | none => return d

/-- The paths of files and directories that a command line can look at, without what stands in the directories. -/
def pathsOf (d : Disk) (i : Invocation) : List Bytes :=
  let found := (Settings.ancestors (workingPath d)).flatMap fun dir =>
    [Settings.directoryIn dir, Settings.fileIn (Settings.directoryIn dir)]
  let asked := match i.config with
    | some path => [bytes path, Settings.fileIn (bytes path)]
    | none => found
  let output := match i.command with
    | .analyze r => r.output.toList.flatMap fun path => (Path.parent? (bytes path)).toList ++ [bytes path]
    | _ => []
  asked ++ output ++ [Settings.directoryName, Settings.fileIn Settings.directoryName]

/-- The repositories that a command goes through. -/
def repositoriesOf : Action → List String
  | .detect path | .map path | .query path _ _ => [path]
  | .analyze r => [r.path]
  | .init _ => []

/-- Loads all that a command line can look at. -/
def loadDisk (i : Invocation) : IO Disk := do
  let place := Path.steps (bytes (← IO.currentDir).toString)
  let empty : Disk := { root := (Entry.directory []).put place (.directory []), workingDirectory := place }
  let d ← (pathsOf empty i).foldlM (loadPath .alone) empty
  (repositoriesOf i.command).foldlM (fun d path => loadPath .whole d (bytes path)) d

/-- The file that a log is written to. -/
def logFile (directory : Bytes) : String :=
  ofBytes (Path.join directory (bytes "strata.log"))

/-- Opens the log that is configured, and says why that is not possible. -/
def tryLog (d : Disk) (i : Invocation) : IO (Option IoError) := do
  let directory := match loadConfiguration d i.config with
    | .ok (c, dir) => c.logPath? dir
    | .error _ => none
  match directory with
  | none => return none
  | some path =>
    try IO.FS.createDirAll (ofBytes path)
    catch _ => return none
    try
      let _ ← IO.FS.Handle.mk (logFile path) .append
      return none
    catch e => return some (ioError e)

/-- The machine that the program runs on, with what became of its log. Workers are never refused here, since files are
read one after the other. -/
def machine (logError : Option IoError) : Machine where
  refusesWorkers _ := none
  openLog d _ :=
    match logError with
    | some e => .error e
    | none => .ok d

/-- Makes a change. -/
def makeChange : Change → IO Unit
  | .makeDirectories path => IO.FS.createDirAll (ofBytes path)
  | .openLog directory => do
    let _ ← IO.FS.Handle.mk (logFile directory) .append
  | .write path content => IO.FS.writeFile (ofBytes path) content

end CodeAtlas.Main

/-- Runs the program. -/
def main (args : List String) : IO UInt32 := do
  let (d, m) ← match CodeAtlas.Command.Invocation.ofArguments args with
    | .error _ => pure ({ root := .directory [], workingDirectory := [] }, CodeAtlas.Main.machine none)
    | .ok i => do
      let d ← CodeAtlas.Main.loadDisk i
      pure (d, CodeAtlas.Main.machine (← CodeAtlas.Main.tryLog d i))
  let r := CodeAtlas.Command.run m d args
  r.changes.forM CodeAtlas.Main.makeChange
  IO.print r.output
  if let some message := r.error then IO.eprintln message
  if r.exitCode = 2 then IO.eprint CodeAtlas.Command.helpText
  return r.exitCode.toUInt32
