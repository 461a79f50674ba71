import CodeAtlas.Classify.Extension
import CodeAtlas.Classify.Signature
import CodeAtlas.Text.Capital
import CodeAtlas.Text.Utf8

/-!
What can be told about a file from its path and its first bytes.

The extension decides before the content does. Files with a null byte near their start are binary; binary and very
large files have no language.
-/
namespace CodeAtlas.Classify

/-- How many bytes at the start of a file are looked at. -/
def headBytes : Nat := 1024

/-- Files with more bytes than this have no language, unless another bound is set. -/
def defaultMaxFileSize : Nat := 10 * 1024 * 1024

/-- The language of a file with the given first bytes. -/
def language? (path : Text.Bytes) (head : ByteArray) : Option String :=
  match ofPath? path with
  | some language => some language
  | none => ofContent? (Text.decodeLossy head)

/-- Whether some bytes are not text. -/
def isBinary (head : ByteArray) : Bool :=
  head.data.contains 0

/-- The first bytes of a file. -/
def headOf (content : ByteArray) : ByteArray :=
  content.extract 0 headBytes

/-- What is known about a file. -/
structure Sniff where
  size : Nat
  binary : Bool
  language : Option String
deriving DecidableEq, Repr

/-- Looks at a file. -/
def sniff (maxFileSize : Nat) (path : Text.Bytes) (content : ByteArray) : Sniff :=
  if maxFileSize < content.size then ⟨content.size, false, none⟩
  else
    let head := headOf content
    let binary := isBinary head
    ⟨content.size, binary, if binary then none else language? path head⟩

/-- Whether a file may be read for its declarations. -/
def Sniff.isCode (s : Sniff) (maxFileSize : Nat) : Bool :=
  !s.binary && s.size ≤ maxFileSize && s.language.isSome

/-- All languages that a file can have, in alphabetical order. -/
def knownLanguages : List String :=
  ((extensions.map Prod.snd ++ signatures.map Prod.fst).eraseDups).mergeSort fun a b => a ≤ b

/-- The name of a language for readers. -/
def displayName (language : String) : String :=
  match language with
  | "javascript" => "JavaScript"
  | "typescript" => "TypeScript"
  | "cpp" => "C++"
  | other => Text.capitalize other

end CodeAtlas.Classify
