import Std.Data.TreeMap

/-!
Which languages a collection of files is written in.
-/
namespace CodeAtlas.Classify

/-- How many files there are of each language. -/
structure LanguageStatistics where
  /-- The language of most files; of several the one that was seen first. -/
  primaryLanguage : Option String
  /-- The languages in the order in which they were seen. -/
  detectedLanguages : List String
  fileCounts : Std.TreeMap String Nat
  totalFiles : Nat
  /-- The share of the primary language. -/
  confidence : Float

namespace LanguageStatistics

/-- Counts one more file of a language. -/
def count (counts : Std.TreeMap String Nat) (language : String) : Std.TreeMap String Nat :=
  counts.insert language (counts.getD language 0 + 1)

/-- The better of two languages with their counts; the first unless the second has more. -/
def better (best : Option (String × Nat)) (language : String) (n : Nat) : Option (String × Nat) :=
  match best with
  | none => some (language, n)
  | some (l, top) => if top < n then some (language, n) else some (l, top)

/-- The statistics of files with the given languages. -/
def ofLanguages (languages : List String) : LanguageStatistics :=
  let counts := languages.foldl count ∅
  let detected := languages.eraseDups
  let best := detected.foldl (fun best l => better best l (counts.getD l 0)) none
  { primaryLanguage := best.map Prod.fst
    detectedLanguages := detected
    fileCounts := counts
    totalFiles := languages.length
    confidence := match best with
      | none => 0
      | some (_, n) => n.toFloat / languages.length.toFloat }

end LanguageStatistics
end CodeAtlas.Classify
