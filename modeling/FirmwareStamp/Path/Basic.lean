import FirmwareStamp.Version.Triple

/-!
Path texts and their components. A text that starts with `/` has a root; a relative
text that starts with a `.` piece keeps it as a current-directory component; every
other piece between slashes is a component, except empty pieces and `.`, which are
dropped. Joining appends with one slash unless the right side has a root, which then
replaces the left side. The parent drops the last component together with trailing
slashes and `.` pieces, keeping the text before it as written. Paths are ordered by
their components: root, then current directory, then parent directory, then names by
their bytes.
-/

namespace FirmwareStamp.Path

/-- One component of a path text. -/
inductive Component where
  | root
  | current
  | up
  | name (text : String)
deriving DecidableEq, Repr

def pieceComponent (piece : List Char) : Option Component :=
  if piece = [] ∨ piece = ['.'] then none
  else if piece = ['.', '.'] then some .up
  else some (.name (String.ofList piece))

/-- The components of the body of a text (after its root or leading `.`). -/
def bodyComponents (body : List Char) : List Component :=
  (Version.splitAt '/' body).filterMap pieceComponent

/-- The length of the part before the body: the root slash, or a leading `.` piece. -/
def headLength : List Char → Nat
  | '/' :: _ => 1
  | ['.'] => 1
  | '.' :: '/' :: _ => 1
  | _ => 0

def components (s : String) : List Component :=
  match s.toList with
  | '/' :: rest => .root :: bodyComponents rest
  | ['.'] => [.current]
  | '.' :: '/' :: rest => .current :: bodyComponents rest
  | cs => bodyComponents cs

def hasRoot (s : String) : Bool := s.toList.head? == some '/'

/-- Appends a relative text with one slash; a text with a root replaces the base. -/
def join (base p : String) : String :=
  if hasRoot p then p
  else if base.isEmpty then p
  else if base.toList.getLast? == some '/' then base ++ p
  else base ++ "/" ++ p

def fileName? (s : String) : Option String :=
  match (components s).getLast? with
  | some (.name n) => some n
  | _ => none

/-- The last piece of a body text and the length it takes with its slash. -/
def lastPiece (revBody : List Char) : List Char × Nat :=
  let piece := revBody.takeWhile (· != '/')
  if piece.length < revBody.length then (piece.reverse, piece.length + 1)
  else (piece.reverse, piece.length)

def trimTail : Nat → List Char → List Char
  | 0, rb => rb
  | fuel + 1, rb =>
    if rb = [] then rb
    else
      let (piece, size) := lastPiece rb
      if (pieceComponent piece).isNone then trimTail fuel (rb.drop size) else rb

/-- The parent of a path text, as written: `none` for a root or an empty text. -/
def parent? (s : String) : Option String :=
  let cs := s.toList
  let head := cs.take (headLength cs)
  let rb := (cs.drop (headLength cs)).reverse
  let rb := trimTail rb.length rb
  if rb = [] then
    match cs with
    | '/' :: _ => none
    | ['.'] => some ""
    | '.' :: '/' :: _ => some ""
    | _ => none
  else
    let (_, size) := lastPiece rb
    let rb := rb.drop size
    let rb := trimTail rb.length rb
    some (String.ofList (head ++ rb.reverse))

/-- The extension of the file name: the part after its last dot, unless the name is
`..` or its only dot starts it. -/
def extension? (s : String) : Option String :=
  match fileName? s with
  | none => none
  | some n =>
    if n == ".." then none
    else
      let rn := n.toList.reverse
      let after := rn.takeWhile (· != '.')
      if after.length = rn.length then none
      else
        let before := rn.drop (after.length + 1)
        if before = [] then none else some (String.ofList after.reverse)

/-- Order of components: root, current directory, parent directory, then names. -/
def Component.rank : Component → Nat
  | .root => 0
  | .current => 1
  | .up => 2
  | .name _ => 3

def Component.compare (a b : Component) : Ordering :=
  match a, b with
  | .name x, .name y => Ord.compare x y
  | _, _ => Ord.compare a.rank b.rank

def compareComponents : List Component → List Component → Ordering
  | [], [] => .eq
  | [], _ :: _ => .lt
  | _ :: _, [] => .gt
  | a :: as, b :: bs =>
    match a.compare b with
    | .eq => compareComponents as bs
    | o => o

/-- Whether one path text sorts before or together with another. -/
def le (a b : String) : Bool :=
  compareComponents (components a) (components b) != .gt

end FirmwareStamp.Path
