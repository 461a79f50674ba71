import CodeAtlas.Json.Decode

/-!
The tree of the files of a repository.
-/
namespace CodeAtlas.Crawl

open CodeAtlas.Json

/-- What a node of the tree is. -/
inductive NodeKind where
  | file
  | directory
deriving DecidableEq, Repr

/-- The word for a kind of node in reports. -/
def NodeKind.name : NodeKind → String
  | .file => "file"
  | .directory => "directory"

/-- The kind that a word stands for. -/
def NodeKind.ofName? : String → Option NodeKind
  | "file" => some .file
  | "directory" => some .directory
  | _ => none

/-- A file or a directory. The path is relative to the root of the repository, which is itself a single point. The size
of a directory is that of everything in it. -/
inductive FileNode where
  | mk (name path : String) (kind : NodeKind) (size : Nat) (language : Option String)
    (children : List FileNode)

namespace FileNode

/-- The last segment of the path. -/
def name : FileNode → String
  | mk n _ _ _ _ _ => n

/-- The path from the root of the repository. -/
def path : FileNode → String
  | mk _ p _ _ _ _ => p

/-- Whether it is a file or a directory. -/
def kind : FileNode → NodeKind
  | mk _ _ k _ _ _ => k

/-- How many bytes it has. -/
def size : FileNode → Nat
  | mk _ _ _ s _ _ => s

/-- The language of a file. -/
def language : FileNode → Option String
  | mk _ _ _ _ l _ => l

/-- What stands in a directory, ordered by name. -/
def children : FileNode → List FileNode
  | mk _ _ _ _ _ cs => cs

/-- Whether it is a directory. -/
def isDirectory (n : FileNode) : Bool :=
  n.kind == .directory

mutual

/-- The node with a path. -/
def find? (wanted : String) : FileNode → Option FileNode
  | mk n p k s l cs => if p == wanted then some (mk n p k s l cs) else findIn? wanted cs

/-- The node with a path in one of several trees. -/
def findIn? (wanted : String) : List FileNode → Option FileNode
  | [] => none
  | n :: rest =>
    match n.find? wanted with
    | some found => some found
    | none => findIn? wanted rest

end

mutual

/-- How many files there are. -/
def fileCount : FileNode → Nat
  | mk _ _ .file _ _ _ => 1
  | mk _ _ .directory _ _ cs => fileCountIn cs

/-- How many files there are in several trees. -/
def fileCountIn : List FileNode → Nat
  | [] => 0
  | n :: rest => n.fileCount + fileCountIn rest

end

mutual

/-- The JSON form of a tree. A missing language and an empty list of children are left out. -/
def toJson : FileNode → Json
  | mk name path kind size language children => .obj ([
      ("name", .str name),
      ("path", .str path),
      ("type", .str kind.name),
      ("size", .nat size)] ++
    (match language with
      | none => []
      | some l => [("language", .str l)]) ++
    (match children with
      | [] => []
      | c :: cs => [("children", .arr (c.toJson :: toJsonAll cs))]))

/-- The JSON forms of several trees. -/
def toJsonAll : List FileNode → List Json
  | [] => []
  | n :: rest => n.toJson :: toJsonAll rest

end

/-- The fields of a node. -/
def fieldNames : List String := ["name", "path", "type", "size", "language", "children"]

/-- A node of the given fields and children. -/
def ofFields (field : String → Option Json) (children : Option (Decoded (List FileNode))) :
    Decoded FileNode := do
  let name ← required (field "name") toText
  let path ← required (field "path") toText
  let kind ← required (field "type") (toWord NodeKind.ofName?)
  let size ← required (field "size") toNat
  let language ← optional (field "language") toText
  let children ← children.getD (.ok [])
  return mk name path kind size language children

mutual

/-- The tree that a JSON value stands for. -/
def ofJson : Json → Decoded FileNode
  | .obj fields => do ofFields (← toFields fieldNames 2 (.obj fields)) (childrenField fields)
  | .arr items => do ofFields (← toFields fieldNames 2 (.arr items)) (childrenItem 5 items)
  | _ => .error .malformed

/-- The children among the fields of an object. -/
def childrenField : List (String × Json) → Option (Decoded (List FileNode))
  | [] => none
  | (name, j) :: rest =>
    match childrenField rest with
    | some found => some found
    | none => if name == "children" then some (ofChildren j) else none

/-- The children after a number of items of an array. -/
def childrenItem : Nat → List Json → Option (Decoded (List FileNode))
  | _, [] => none
  | 0, j :: _ => some (ofChildren j)
  | n + 1, _ :: rest => childrenItem n rest

/-- The trees in an array. -/
def ofChildren : Json → Decoded (List FileNode)
  | .arr items => ofAll items
  | _ => .error .malformed

/-- The trees that several JSON values stand for. -/
def ofAll : List Json → Decoded (List FileNode)
  | [] => .ok []
  | j :: rest => do
    let node ← ofJson j
    let nodes ← ofAll rest
    return node :: nodes

end

end FileNode
end CodeAtlas.Crawl
