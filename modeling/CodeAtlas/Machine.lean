import CodeAtlas.Disk.Basic

/-!
What a program needs of the machine that it runs on, besides a disk.
-/
namespace CodeAtlas

/-- The machine that a program runs on. -/
structure Machine where
  /-- Why so many workers cannot be started, if they cannot. -/
  refusesWorkers : Nat → Option String
  /-- The disk after a log was opened in a directory. -/
  openLog : Disk → Text.Bytes → Except Disk.IoError Disk

/-- A machine that starts as many workers as one likes, and opens every log without a file for it. -/
def Machine.ready : Machine where
  refusesWorkers _ := none
  openLog d _ := .ok d

end CodeAtlas
