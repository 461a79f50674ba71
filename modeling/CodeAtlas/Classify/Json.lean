import CodeAtlas.Classify.Statistics
import CodeAtlas.Json.Decode

/-!
JSON forms of language statistics.
-/
namespace CodeAtlas.Classify.LanguageStatistics

open CodeAtlas.Json

/-- The JSON form of language statistics. -/
def toJson (s : LanguageStatistics) : Json := .obj [
  ("primary_language", .ofOption .str s.primaryLanguage),
  ("detected_languages", .strings s.detectedLanguages),
  ("file_counts", .obj (s.fileCounts.toList.map fun (l, n) => (l, .nat n))),
  ("total_files", .nat s.totalFiles),
  ("confidence", .float s.confidence)]

/-- The language statistics that a JSON value stands for. -/
def ofJson (j : Json) : Decoded LanguageStatistics := do
  let field ← toFields
    ["primary_language", "detected_languages", "file_counts", "total_files", "confidence"] 0 j
  return {
    primaryLanguage := ← optional (field "primary_language") toText
    detectedLanguages := ← required (field "detected_languages") (toList toText)
    fileCounts := Std.TreeMap.ofList (← required (field "file_counts") (toPairs toNat))
    totalFiles := ← required (field "total_files") toNat
    confidence := ← required (field "confidence") toFloat }

end CodeAtlas.Classify.LanguageStatistics
