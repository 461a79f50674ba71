import CodeAtlas.Json.Decode
import CodeAtlas.Parsing.Strategy

/-!
What happened while a graph was built.
-/
namespace CodeAtlas.Build

open CodeAtlas.Json
open CodeAtlas.Parsing

/-- What happened while a graph was built. -/
structure Statistics where
  /-- The files that were to be read, whether or not that was possible. -/
  filesProcessed : Nat := 0
  grammarParses : Nat := 0
  fallbackParses : Nat := 0
  unreadableFiles : Nat := 0
  elements : Nat := 0
  relationships : Nat := 0
  /-- References whose name led nowhere. -/
  droppedReferences : Nat := 0
  parseTimeMs : Nat := 0
deriving DecidableEq, Repr

namespace Statistics

/-- What happened in two builds together. -/
def merge (a b : Statistics) : Statistics where
  filesProcessed := a.filesProcessed + b.filesProcessed
  grammarParses := a.grammarParses + b.grammarParses
  fallbackParses := a.fallbackParses + b.fallbackParses
  unreadableFiles := a.unreadableFiles + b.unreadableFiles
  elements := a.elements + b.elements
  relationships := a.relationships + b.relationships
  droppedReferences := a.droppedReferences + b.droppedReferences
  parseTimeMs := a.parseTimeMs + b.parseTimeMs

/-- One more file, read in the given way if it could be read at all. -/
def record (s : Statistics) (strategy? : Option Strategy) : Statistics :=
  let s := { s with filesProcessed := s.filesProcessed + 1 }
  match strategy? with
  | some .grammar => { s with grammarParses := s.grammarParses + 1 }
  | some .pattern => { s with fallbackParses := s.fallbackParses + 1 }
  | none => { s with unreadableFiles := s.unreadableFiles + 1 }

/-- The fields in the order in which they are written. -/
def fieldNames : List String := [
  "files_processed", "grammar_parses", "fallback_parses", "unreadable_files", "elements", "relationships",
  "dropped_references", "parse_time_ms"]

/-- The JSON form. -/
def toJson (s : Statistics) : Json := .obj [
  ("files_processed", .nat s.filesProcessed),
  ("grammar_parses", .nat s.grammarParses),
  ("fallback_parses", .nat s.fallbackParses),
  ("unreadable_files", .nat s.unreadableFiles),
  ("elements", .nat s.elements),
  ("relationships", .nat s.relationships),
  ("dropped_references", .nat s.droppedReferences),
  ("parse_time_ms", .nat s.parseTimeMs)]

/-- The statistics that a JSON value stands for. -/
def ofJson (j : Json) : Decoded Statistics := do
  let field ← toFields fieldNames 0 j
  return {
    filesProcessed := ← required (field "files_processed") toNat
    grammarParses := ← required (field "grammar_parses") toNat
    fallbackParses := ← required (field "fallback_parses") toNat
    unreadableFiles := ← required (field "unreadable_files") toNat
    elements := ← required (field "elements") toNat
    relationships := ← required (field "relationships") toNat
    droppedReferences := ← required (field "dropped_references") toNat
    parseTimeMs := ← required (field "parse_time_ms") toNat }

end Statistics
end CodeAtlas.Build
