/-
Which files the elements of a graph come from.

Between the disk and the graph a file is looked at several times: a walk passes over
it or not, it is too large or not text, it is of another language, or it is no file
of the crawl at all and was only named as an entry point.  `Eligible` is what is left
of this for the files that are read.  An element of the graph gives the path under
which such a file is listed, and all that is read under this path carries it.

A name that is no text is shown as another one, and the path that is shown for a file
need not lead back to it.  It leads nowhere then, unless there is another name that is
shown alike.
-/
import CodeAtlas.Proofs.Build.Order
import CodeAtlas.Proofs.Crawl.Files

namespace CodeAtlas.Build

open CodeAtlas.Graph
open CodeAtlas.Graph.Assembler
open CodeAtlas.Crawl (shownPath)
open CodeAtlas.Disk (holding)
open CodeAtlas.Parsing
open CodeAtlas.Text

section

variable {s : Crawl.Settings} {d : Disk} {root : Bytes} {language : String} {c : Crawl}

end

section

variable {p : Parser} {d : Disk} {c : Crawl} {language : String} {id : String}

end

end CodeAtlas.Build
