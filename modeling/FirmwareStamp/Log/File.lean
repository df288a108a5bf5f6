import FirmwareStamp.Path.Basic

/-!
Where a log file goes. The file's name is the text after the last `/` of its path, and
its base name is the part of the name before its last `.` (the whole name when it has
none). A path whose name is empty or `..`, or whose base name is empty (`.`, `.hidden`),
names no log file. The directory of a log file is the parent of its path; starting to log
makes it, with the directories above it.
-/

namespace FirmwareStamp.Log

def fileName (path : String) : List Char :=
  (path.toList.reverse.takeWhile (· != '/')).reverse

/-- The base name of a file name: the part before its last `.`, or the whole name when it
holds no `.`. -/
def baseName (name : List Char) : List Char :=
  if name.contains '.' then ((name.reverse.dropWhile (· != '.')).drop 1).reverse else name

/-- Whether a path names a log file: its name is neither empty nor `..`, and its base
name is not empty. -/
def namesFile (path : String) : Bool :=
  let name := fileName path
  name != ['.', '.'] && !(baseName name).isEmpty

/-- The directory of the log file at a path, when the path names one and has a parent. -/
def fileDirectory? (path : String) : Option String :=
  if namesFile path then Path.parent? path else none

end FirmwareStamp.Log
