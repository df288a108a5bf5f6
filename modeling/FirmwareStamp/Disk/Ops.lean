import FirmwareStamp.Disk.Basic

/-!
The file operations of a process on a disk value, with the errors the operating
system reports: metadata with and without following a final link, reading a file
(a directory cannot be read), creating or truncating a file (through a final link),
making one directory or a whole chain of them, removing a file or a link, resolving a
path to its physical place, listing a directory in creation order, copying a regular
file, and making a link. Rewriting a file keeps its place in the creation order.
-/

namespace FirmwareStamp.Disk

def stat (d : Disk) (s : String) : Except IoError Node :=
  (d.locate true s).bind Place.node

/-- What a path text names, a final link not followed. -/
def lstat (d : Disk) (s : String) : Except IoError Node :=
  (d.locate false s).bind Place.node

def present (d : Disk) (s : String) : Bool :=
  match d.stat s with
  | .ok _ => true
  | .error _ => false

def isFile (d : Disk) (s : String) : Bool :=
  match d.stat s with
  | .ok (.file _) => true
  | _ => false

def isDir (d : Disk) (s : String) : Bool :=
  match d.stat s with
  | .ok .dir => true
  | _ => false

def readBytes (d : Disk) (s : String) : Except IoError (List UInt8) :=
  match (d.locate true s).bind Place.node with
  | .ok (.file data) => .ok data
  | .ok _ => .error .isADirectory
  | .error e => .error e

def decodeUtf8 (data : List UInt8) : Option String :=
  String.fromUTF8? (ByteArray.mk data.toArray)

/-- The text of the file a path text leads to; its bytes must be UTF-8. -/
def readText (d : Disk) (s : String) : Except IoError String :=
  match d.readBytes s with
  | .ok data =>
    match decodeUtf8 data with
    | some t => .ok t
    | none => .error .invalidUtf8
  | .error e => .error e

/-- Sets the node at a physical path: in place when the path has an entry, else as the
newest entry. -/
def put (d : Disk) (p : List String) (n : Node) : Disk :=
  if d.entries.any (·.1 == p) then
    { d with entries := d.entries.map fun e => if e.1 == p then (p, n) else e }
  else { d with entries := d.entries ++ [(p, n)] }

def erase (d : Disk) (p : List String) : Disk :=
  { d with entries := d.entries.filter (·.1 != p) }

/-- Removes a physical path and everything below it. -/
def eraseTree (d : Disk) (p : List String) : Disk :=
  { d with entries := d.entries.filter fun e => !(p.isPrefixOf e.1) }

/-- The physical place a file write to a path text would reach. A final link is
followed, also to a missing entry; a last place asked for as a directory cannot be
created as a file, whatever is there. -/
def writePlace (d : Disk) (s : String) : Except IoError (List String) :=
  match d.locate true s with
  | .ok (.found _ _ true) | .ok (.missing _ true) => .error .isADirectory
  | .ok (.found p (.file _) false) => .ok p
  | .ok (.found _ _ false) => .error .isADirectory
  | .ok (.missing p false) => .ok p
  | .error e => .error e

/-- Creates or truncates the file a path text leads to and writes `data` to it. -/
def writeBytes (d : Disk) (s : String) (data : List UInt8) : Except IoError Disk :=
  (d.writePlace s).map fun p => d.put p (.file data)

def writeText (d : Disk) (s : String) (text : String) : Except IoError Disk :=
  d.writeBytes s text.toUTF8.toList

/-- Makes one directory; anything already at the path, a link included, is an error. -/
def createDir (d : Disk) (s : String) : Except IoError Disk :=
  match d.locateLast s with
  | .ok (.found _ _ _) => .error .alreadyExists
  | .ok (.missing p _) => .ok (d.put p .dir)
  | .error e => .error e

/-- Makes a directory and the missing directories above it, and says whether it failed.
A directory that is already there is fine; a missing parent is made first, found by
dropping the last component of the text. The directories made before a failure stay. -/
def createDirAll (d : Disk) (s : String) : Disk × Option IoError :=
  go (s.length + 1) d s
where
  go : Nat → Disk → String → Disk × Option IoError
    | 0, d, _ => (d, some .notFound)
    | fuel + 1, d, s =>
      if Path.components s = [] then (d, none)
      else
        match d.createDir s with
        | .ok d' => (d', none)
        | .error .notFound =>
          match Path.parent? s with
          | none => (d, some .notFound)
          | some par =>
            match go fuel d par with
            | (d', some e) => (d', some e)
            | (d', none) =>
              match d'.createDir s with
              | .ok d'' => (d'', none)
              | .error e => if d'.isDir s then (d', none) else (d', some e)
        | .error e => if d.isDir s then (d, none) else (d, some e)

/-- Removes a file or a link; a directory cannot be removed this way, and a text ending in
a slash names a directory, so a file or a link named so is not removed. -/
def removeFile (d : Disk) (s : String) : Except IoError Disk :=
  match d.locateLast s with
  | .ok (.found _ .dir _) => .error .isADirectory
  | .ok (.found p _ _) => if wantsDir s then .error .notADirectory else .ok (d.erase p)
  | .ok (.missing _ _) => .error .notFound
  | .error e => .error e

def canonicalize (d : Disk) (s : String) : Except IoError (List String) :=
  match d.locate true s with
  | .ok (.found _ (.file _) true) => .error .notADirectory
  | .ok (.found p _ _) => .ok p
  | .ok (.missing _ _) => .error .notFound
  | .error e => .error e

/-- The last component of a path one longer than `p` and extending it. -/
def childName (p q : List String) : Option String :=
  if q.length = p.length + 1 ∧ p.isPrefixOf q = true then (q.drop p.length).head? else none

/-- The entries directly inside a physical directory, in creation order, each with its
own node (links not followed). -/
def children (d : Disk) (p : List String) : List (String × Node) :=
  d.entries.filterMap fun e => (childName p e.1).map fun n => (n, e.2)

def readDir (d : Disk) (s : String) : Except IoError (List (String × Node)) :=
  match d.locate true s with
  | .ok (.found p .dir _) => .ok (d.children p)
  | .ok (.found _ _ _) => .error .notADirectory
  | .ok (.missing _ _) => .error .notFound
  | .error e => .error e

/-- Copies a regular file: the source is opened first and must be a regular file, then
the target is created or truncated. A target that is the source itself ends empty. -/
def copy (d : Disk) (src dst : String) : Except IoError Disk :=
  match d.locate true src with
  | .error e => .error e
  | .ok (.missing _ _) => .error .notFound
  | .ok (.found _ (.file _) true) => .error .notADirectory
  | .ok (.found _ .dir _) => .error .notRegularFile
  | .ok (.found _ (.link _) _) => .error .notRegularFile
  | .ok (.found p (.file data) false) =>
    match d.writePlace dst with
    | .error e => .error e
    | .ok q => .ok (d.put q (.file (if q = p then [] else data)))

def symlink (d : Disk) (target s : String) : Except IoError Disk :=
  match d.locateLast s with
  | .ok (.found _ _ _) => .error .alreadyExists
  | .ok (.missing p _) => .ok (d.put p (.link target))
  | .error e => .error e

/-- An empty disk whose working directory exists with all its ancestors. -/
def withWorkDir (cwd : List String) : Disk :=
  ⟨(List.range cwd.length).map (fun i => (cwd.take (i + 1), Node.dir)), cwd⟩

/-- The entries below the working directory, with their paths relative to it. -/
def belowWorkDir (d : Disk) : List (List String × Node) :=
  d.entries.filterMap fun e =>
    if d.cwd.isPrefixOf e.1 && e.1.length > d.cwd.length then
      some (e.1.drop d.cwd.length, e.2)
    else none

def physicalText (p : List String) : String :=
  "/" ++ "/".intercalate p

end FirmwareStamp.Disk
