import FirmwareStamp.Toml.Problem
import FirmwareStamp.Toml.Value
import FirmwareStamp.Toml.Scalar
import FirmwareStamp.Toml.Outline
import FirmwareStamp.Toml.Number

/-!
Building the tables of a TOML document from its lines. Keys and values are decoded in the
order they are written: the pieces of a key (at most 80), then its value, then the
definition. A key is defined once. A header defines a table once, or adds a table to an
array of tables; the tables on its way are made as needed and may be defined by a later
header. The pairs under a header fill a table of their own, which joins the root when the
next header or the end comes: a table header is checked against the root when it is read,
an array of tables only when its table joins. Dotted keys make tables that only dotted keys
extend; a value (an inline table included) is never extended, and a table defined by a
header is not reopened by dotted keys. Going through an array of tables goes into its last
table. Finally the numbers are brought into range, the first one out of range found by
going through the tables in the order of their keys.
-/

namespace FirmwareStamp.Toml

/-- A value once its text is decoded, numbers not yet brought into range. -/
inductive Draft where
  | scalar (s : Scalar)
  | array (items : List Draft)
  | inline (entries : List (String × Draft))
deriving Repr

/-- An entry of a table under construction. -/
inductive Item where
  /-- A value written in one place: a scalar, an array or an inline table. -/
  | leaf (v : Draft)
  /-- A table; `explicit` once a header defined it, `dotted` when dotted keys made it. -/
  | table (explicit dotted : Bool) (entries : List (String × Item))
  /-- An array of tables, made by `[[...]]` headers. -/
  | tables (items : List (List (String × Item)))

namespace Draft

/-- How the type of a value is named when something tries to extend it. -/
def typeName : Draft → String
  | .scalar (.str _) => "string"
  | .scalar (.bool _) => "boolean"
  | .scalar (.integer _ _) => "integer"
  | .scalar (.float _) => "float"
  | .scalar (.datetime _) => "datetime"
  | .array _ => "array"
  | .inline _ => "inline table"

end Draft

mutual

def Item.draft : Item → Draft
  | .leaf v => v
  | .table _ _ entries => .inline (Item.entriesDraft entries)
  | .tables items => .array (Item.tablesDraft items)

def Item.entriesDraft : List (String × Item) → List (String × Draft)
  | [] => []
  | (k, it) :: rest => (k, it.draft) :: Item.entriesDraft rest

def Item.tablesDraft : List (List (String × Item)) → List Draft
  | [] => []
  | es :: rest => .inline (Item.entriesDraft es) :: Item.tablesDraft rest

end

namespace Build

def duplicateKey : Problem := .plain "duplicate key"

def cannotExtend (v : Draft) : Problem :=
  .plain ("cannot extend value of type " ++ v.typeName ++ " with a dotted key")

/-- The problem of a value in the way of a path: it is no table to go into. Inside an inline
table, an inline table in the way was already written in full, so the key is a duplicate. -/
def inTheWay (inInline : Bool) (v : Draft) : Problem :=
  match inInline, v with
  | true, .inline _ => duplicateKey
  | _, _ => cannotExtend v

def maxKeyPieces : Nat := 80

def checkKeyLength (path : List String) : Except Problem Unit :=
  if maxKeyPieces < path.length then .error (.plain "recursion limit") else .ok ()

/-- Updates the entry of a key, or adds it at the end. -/
def modifyEntry (entries : List (String × Item)) (key : String)
    (f : Option Item → Except Problem Item) : Except Problem (List (String × Item)) :=
  match entries.find? (·.1 == key) with
  | some (_, it) => do
    let it' ← f (some it)
    pure (entries.map fun e => if e.1 == key then (key, it') else e)
  | none => do
    let it' ← f none
    pure (entries ++ [(key, it')])

/-- A key not yet in a table is added at its end. -/
theorem modifyEntry_absent {entries : List (String × Item)} {key : String}
    {f : Option Item → Except Problem Item} (h : entries.find? (·.1 == key) = none) :
    modifyEntry entries key f = (f none).map fun it => entries ++ [(key, it)] := by
  simp only [modifyEntry, h]
  cases f none <;> rfl

/-- Applies `f` to the entries of the table at a path below a table, making the missing
tables (dotted ones when `dotted`). `f` learns whether the table it gets was made by dotted
keys; `here` says so of the table the path starts from. `inInline` when the tables are
those of an inline table. -/
def within (dotted inInline : Bool) (entries : List (String × Item)) :
    List String → (Bool → List (String × Item) → Except Problem (List (String × Item))) →
    Bool → Except Problem (List (String × Item))
  | [], f, here => f here entries
  | k :: ks, f, _ => modifyEntry entries k fun
    | none => do
      let inner ← within dotted inInline [] ks f dotted
      pure (.table false dotted inner)
    | some (.leaf v) => .error (inTheWay inInline v)
    | some (.tables items) =>
      match items.reverse with
      | last :: before => do
        let last' ← within dotted inInline last ks f false
        pure (.tables (last' :: before).reverse)
      | [] => .error duplicateKey
    | some (.table explicit d inner) =>
      if dotted && explicit then .error duplicateKey
      else do
        let inner' ← within dotted inInline inner ks f d
        pure (.table explicit d inner')

/-- Defines a key (with the dotted keys before it) in a table's entries; `inInline` when
the table is an inline one. -/
def definePair (inInline : Bool) (entries : List (String × Item)) (path : List String)
    (key : String) (v : Draft) : Except Problem (List (String × Item)) :=
  within true inInline entries path (fun target es =>
    if !path.isEmpty && !target then .error duplicateKey
    else modifyEntry es key fun
      | none => pure (.leaf v)
      | some _ => .error duplicateKey) false

/-- The entries of the table at a path below a table, going into the last table of an
array of tables; none where no table is. -/
def entriesAt : List (String × Item) → List String → List (String × Item)
  | es, [] => es
  | es, k :: ks =>
    match es.find? (·.1 == k) with
    | some (_, .table _ _ inner) => entriesAt inner ks
    | some (_, .tables items) => entriesAt (items.getLastD []) ks
    | _ => []

/-- A document while its lines are read: the root table, the entries of the open table
that pairs go into, and the header that opened it with the path to its key and that key
(`none` for the pairs before the first header). The open table joins the root when the
next header or the end of the document comes. -/
structure Builder where
  root : List (String × Item)
  current : List (String × Item)
  header : Option (Bool × List String × String)

namespace Builder

def empty : Builder := ⟨[], [], none⟩

/-- The root table once the open table has joined it: a table header's table takes the
place its header checked, and an array of tables gets one more table, its key holding
nothing else. The pairs before the first header are the root itself. -/
def close (b : Builder) : Except Problem (List (String × Item)) :=
  match b.header with
  | none => pure b.current
  | some (false, path, last) =>
    within false false b.root path
      (fun _ es => modifyEntry es last fun _ => pure (.table true false b.current)) false
  | some (true, path, last) =>
    within false false b.root path (fun _ es => modifyEntry es last fun
      | none => pure (.tables [b.current])
      | some (.tables items) => pure (.tables (items ++ [b.current]))
      | some _ => .error duplicateKey) false

/-- Opens the table of a header in a root table. A table header checks at once that its
key is free or holds a table made on the way of an earlier header, whose entries it takes
over; an array of tables is checked when its table is closed. -/
def start (root : List (String × Item)) (arrayOf : Bool) (path : List String) (last : String) :
    Except Problem Builder :=
  if arrayOf then pure ⟨root, [], some (true, path, last)⟩
  else do
    let root ← within false false root path (fun _ es =>
      match es.find? (·.1 == last) with
      | none | some (_, .table false false _) => pure es
      | some _ => .error duplicateKey) false
    pure ⟨root, entriesAt root (path ++ [last]), some (false, path, last)⟩

end Builder

def keyPath (pieces : List Piece) : Except Problem (List String) :=
  pieces.mapM fun p => Text.decodeKey p.quote p.raw

/-- A key split into the dotted keys before its last piece and that piece. -/
def splitKey (path : List String) : Except Problem (List String × String) :=
  match path.getLast? with
  | some last => .ok (path.dropLast, last)
  | none => .error (.expecting "invalid key-value pair" [.description "key"])

mutual

def decode : Written → Except Problem Draft
  | .scalar p => (Scalar.decode p.quote p.raw).map Draft.scalar
  | .array items => do
    let vs ← decodeItems items
    pure (.array vs)
  | .inline entries => do
    let es ← decodeInline entries []
    pure (.inline (Item.entriesDraft es))

def decodeItems : List Written → Except Problem (List Draft)
  | [] => pure []
  | w :: rest => do
    let v ← decode w
    let vs ← decodeItems rest
    pure (v :: vs)

def decodeInline : List (List Piece × Written) → List (String × Item) →
    Except Problem (List (String × Item))
  | [], acc => pure acc
  | (key, w) :: rest, acc => do
    let path ← keyPath key
    checkKeyLength path
    let v ← decode w
    let (dotted, last) ← splitKey path
    let acc ← definePair true acc dotted last v
    decodeInline rest acc

end

/-- Builds the root table from the lines of a document, going on from a builder. A header
first closes the open table, then decodes its key and opens its own. -/
def lines : List Line → Builder → Except Problem (List (String × Item))
  | [], b => b.close
  | .header arrayOf key :: rest, b => do
    let root ← b.close
    let path ← keyPath key
    checkKeyLength path
    let (before, last) ← splitKey path
    let b ← Builder.start root arrayOf before last
    lines rest b
  | .pair key w :: rest, b => do
    let path ← keyPath key
    checkKeyLength path
    let v ← decode w
    let (dotted, last) ← splitKey path
    let current ← definePair false b.current dotted last v
    lines rest { b with current }

end Build

/-! ### Numbers in range -/

namespace Draft

/-- Why a scalar is no value: a number out of range. -/
def scalarProblem : Scalar → Option String
  | .integer ds r =>
    match Number.integerInRange ds r with
    | .ok _ => none
    | .error m => some m
  | .float text => if Number.floatOverflows text then some "floating-point number overflowed" else none
  | _ => none

def earlier (best : Option (String × String)) (e : String × String) : Option (String × String) :=
  match best with
  | none => some e
  | some b => if e.1 < b.1 then some e else some b

mutual

/-- The first number out of range, tables gone through in the order of their keys. -/
def problem : Draft → Option String
  | .scalar s => scalarProblem s
  | .array items => itemsProblem items
  | .inline entries => ((entriesProblems entries).foldl earlier none).map (·.2)

def itemsProblem : List Draft → Option String
  | [] => none
  | d :: rest =>
    match problem d with
    | some p => some p
    | none => itemsProblem rest

/-- The entries of a table that hold a number out of range, with their first one. -/
def entriesProblems : List (String × Draft) → List (String × String)
  | [] => []
  | (k, d) :: rest =>
    match problem d with
    | some p => (k, p) :: entriesProblems rest
    | none => entriesProblems rest

end

def scalarValue : Scalar → Value
  | .str s => .str s
  | .bool b => .bool b
  | .integer ds r => .int ((Number.integerInRange ds r).toOption.getD 0)
  | .float text => .float (String.ofList text)
  | .datetime text => .datetime (String.ofList text)

mutual

/-- The value of a decoded value whose numbers are in range. -/
def value : Draft → Value
  | .scalar s => scalarValue s
  | .array items => .arr (itemsValue items)
  | .inline entries => .table (entriesValue entries)

def itemsValue : List Draft → List Value
  | [] => []
  | d :: rest => value d :: itemsValue rest

def entriesValue : List (String × Draft) → List (String × Value)
  | [] => []
  | (k, d) :: rest => (k, value d) :: entriesValue rest

end

end Draft

end FirmwareStamp.Toml
