import FirmwareStamp.Path.Basic

/-!
A disk as a value: a table from physical paths (component lists from the root, with
no link inside them) to directories, files and symbolic links, in the order the entries
were created, and the working directory of the process. The root is always a
directory. Looking a path text up walks its components from the root or the working
directory: `.` stays, `..` goes to the parent of the directory reached, a name longer
than an entry can be is refused when it is looked up, and a link met on the way is
replaced by its target, at most forty times.
-/

namespace FirmwareStamp

/-- What one physical path of a disk holds. -/
inductive Node where
  | dir
  | file (data : List UInt8)
  | link (target : String)
deriving DecidableEq, Repr

/-- A disk and the working directory of the process. -/
structure Disk where
  entries : List (List String × Node)
  cwd : List String
deriving Repr

/-- Why a file operation failed, as the operating system says it. -/
inductive IoError where
  | notFound
  | notADirectory
  | isADirectory
  | alreadyExists
  | tooManyLinks
  | invalidUtf8
  | notRegularFile
  | nameTooLong
  | nulInName
deriving DecidableEq, Repr

def IoError.message : IoError → String
  | .notFound => "No such file or directory (os error 2)"
  | .notADirectory => "Not a directory (os error 20)"
  | .isADirectory => "Is a directory (os error 21)"
  | .alreadyExists => "File exists (os error 17)"
  | .tooManyLinks => "Too many levels of symbolic links (os error 40)"
  | .invalidUtf8 => "stream did not contain valid UTF-8"
  | .notRegularFile => "the source path is neither a regular file nor a symlink to a regular file"
  | .nameTooLong => "File name too long (os error 36)"
  | .nulInName => "file name contained an unexpected NUL byte"

/-- Where a path text leads. `slash` says that the text, or the target of a link followed
in the last place, ended in a slash: the last place is asked for as a directory. -/
inductive Place where
  /-- An entry; for a link that was followed, the entry at its end. -/
  | found (path : List String) (node : Node) (slash : Bool)
  /-- No entry, but the directory that would hold it exists. -/
  | missing (path : List String) (slash : Bool)
deriving DecidableEq, Repr

/-- What a place holds for a lookup: a file asked for as a directory is an error, and so
is a missing entry. -/
def Place.node : Place → Except IoError Node
  | .found _ (.file _) true => .error .notADirectory
  | .found _ n _ => .ok n
  | .missing _ _ => .error .notFound

namespace Disk

def node? (d : Disk) (p : List String) : Option Node :=
  if p = [] then some .dir else (d.entries.find? (·.1 == p)).map (·.2)

/-- The pieces of a path text between slashes, empty pieces dropped. -/
def pieces (s : String) : List String :=
  (Version.splitAt '/' s.toList).filterMap fun p => if p = [] then none else some (String.ofList p)

/-- Whether a text asks for a directory by ending in a slash. -/
def wantsDir (s : String) : Bool := s.toList.getLast? == some '/'

/-- The longest name one directory entry can have, in bytes. -/
def nameMax : Nat := 255

/-- The length from which a whole path text is refused, in bytes. -/
def pathMax : Nat := 4096

/-- Whether a component is too long to be looked up in a directory. -/
def tooLong (c : String) : Bool := c.utf8ByteSize > nameMax

/-- Walks components from a directory. `links` is how many links may still be followed;
`follow` tells whether a link in the last place is followed; `wantDir` asks for a
directory in the last place, which also follows a link there, and a followed link whose
target ends in a slash asks the same of its own last place. -/
def walk (d : Disk) (follow wantDir : Bool) : Nat → List String → List String →
    Except IoError Place
  | _, cur, [] => .ok (.found cur .dir wantDir)
  | links, cur, [c] =>
    if c == "." then .ok (.found cur .dir wantDir)
    else if c == ".." then .ok (.found cur.dropLast .dir wantDir)
    else if tooLong c then .error .nameTooLong
    else
      let p := cur ++ [c]
      match d.node? p with
      | none => .ok (.missing p wantDir)
      | some (.link t) =>
        if follow || wantDir then
          match links with
          | 0 => .error .tooManyLinks
          | n + 1 =>
            if t.isEmpty then .error .notFound
            else walk d follow (wantDir || wantsDir t) n (if Path.hasRoot t then [] else cur) (pieces t)
        else .ok (.found p (.link t) false)
      | some n => .ok (.found p n wantDir)
  | links, cur, c :: c' :: rest =>
    if c == "." then walk d follow wantDir links cur (c' :: rest)
    else if c == ".." then walk d follow wantDir links cur.dropLast (c' :: rest)
    else if tooLong c then .error .nameTooLong
    else
      let p := cur ++ [c]
      match d.node? p with
      | none => .error .notFound
      | some .dir => walk d follow wantDir links p (c' :: rest)
      | some (.file _) => .error .notADirectory
      | some (.link t) =>
        match links with
        | 0 => .error .tooManyLinks
        | n + 1 =>
          if t.isEmpty then .error .notFound
          else walk d follow wantDir n (if Path.hasRoot t then [] else cur) (pieces t ++ c' :: rest)
termination_by links _cur comps => (links, comps.length)

def linkLimit : Nat := 40

/-- Where a path text leads from the working directory; `follow` tells whether a link
in the last place is followed, and `wantDir` whether the last place is asked for as a
directory. A text with a NUL byte never reaches the system, and one of `pathMax` bytes or
more is refused before any lookup. -/
def locateWith (d : Disk) (follow wantDir : Bool) (s : String) : Except IoError Place :=
  if s.toList.contains (Char.ofNat 0) then .error .nulInName
  else if s.utf8ByteSize ≥ pathMax then .error .nameTooLong
  else if s.isEmpty then .error .notFound
  else walk d follow wantDir linkLimit (if Path.hasRoot s then [] else d.cwd) (pieces s)

/-- Where a path text leads; a final slash asks for a directory. -/
def locate (d : Disk) (follow : Bool) (s : String) : Except IoError Place :=
  d.locateWith follow (wantsDir s) s

/-- The last place of a path text itself, as making or removing it sees it: a link
there is not followed, even before a final slash. -/
def locateLast (d : Disk) (s : String) : Except IoError Place :=
  d.locateWith false false s

end Disk

end FirmwareStamp
