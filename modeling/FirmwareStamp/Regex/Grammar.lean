import FirmwareStamp.Text.Blank

/-!
The syntax of regular expressions, checked without building them. A pattern is a run of
alternatives separated by `|`, each a sequence of atoms and repetitions. An atom is a
character, `.`, `^`, `$`, an escape, a class in brackets or a group in parentheses.

A repetition (`*`, `+`, `?`, or a count `{n}`, `{n,}`, `{n,m}` with `n ≤ m`, blanks allowed
around the numbers) applies to what stands before it in its sequence, so it cannot open a
sequence or follow a flag setting such as `(?i)`; repetitions may follow each other. A
brace always opens a count.

Escapes are the ASCII punctuation (which stands for itself), the control letters
`a f n r t v`, the classes `d s w` and their capitals, the assertions `b B A z < >` and
the word boundaries `\b{start}`, `\b{end}`, `\b{start-half}`, `\b{end-half}`, hexadecimal
characters (`\x` with two digits, `\u` with four, `\U` with eight, or any number of digits
in braces) and Unicode classes (`\p` or `\P` with a category letter or a name in braces).
Digits are refused: there are no back references.

A class holds characters, escapes other than assertions, ascending ranges between two
characters, nested classes, the ASCII classes `[:name:]` and the operators `&&`, `--`,
`~~`. Right after the opening (and its `^`) any `-` stands for itself, and so does a `]`
when no `-` came first, so a class is never empty.

A group opens with `(`, optionally followed by `?P<name>` or `?<name>` (a name is a letter
or `_`, then letters, digits, `_`, `.`, `[` and `]`, not used by another group), `?:`, or
flags among `i m s U u x R` with at most one `-` before the last of them, each flag once,
closed by `:` for a group or `)` for a setting of the flags. Look-around is refused.
-/

namespace FirmwareStamp.Regex

/-- What an escape stands for: one character, a set of characters, or an assertion about
a position. -/
inductive Escape where
  | literal (code : Nat)
  | set
  | assertion
deriving DecidableEq, Repr

def isHexDigit (c : Char) : Bool :=
  c.isDigit || ('a' ≤ c && c ≤ 'f') || ('A' ≤ c && c ≤ 'F')

def hexDigitValue (c : Char) : Nat :=
  if c.isDigit then c.toNat - '0'.toNat
  else if 'a' ≤ c && c ≤ 'f' then c.toNat - 'a'.toNat + 10
  else c.toNat - 'A'.toNat + 10

def hexValue (ds : List Char) : Nat := ds.foldl (fun n c => 16 * n + hexDigitValue c) 0

/-- Whether a number is the code of a character: at most 10FFFF and no surrogate. -/
def isScalar (n : Nat) : Bool := n ≤ 0x10FFFF && !(0xD800 ≤ n && n ≤ 0xDFFF)

/-- A hexadecimal character after its letter: `width` digits, or digits in braces; the
character's code and the rest. -/
def hexCharacter (width : Nat) : List Char → Option (Nat × List Char)
  | '{' :: rest =>
    let ds := rest.takeWhile (· != '}')
    match rest.drop ds.length with
    | '}' :: after =>
      if !ds.isEmpty && ds.all isHexDigit && isScalar (hexValue ds) then
        some (hexValue ds, after)
      else none
    | _ => none
  | cs =>
    let ds := cs.take width
    if ds.length == width && ds.all isHexDigit && isScalar (hexValue ds) then
      some (hexValue ds, cs.drop width)
    else none

/-- The rest after a Unicode class's name: a category letter, or a name in braces. -/
def unicodeClassName : List Char → Option (List Char)
  | '{' :: rest =>
    let name := rest.takeWhile (· != '}')
    match rest.drop name.length with
    | '}' :: after => if name.isEmpty then none else some after
    | _ => none
  | c :: rest => if "LMNPSZClmnpszc".toList.contains c then some rest else none
  | [] => none

/-- The names of the word boundaries written in braces after `\b`. -/
def boundaryNames : List String := ["start", "end", "start-half", "end-half"]

/-- Whether a character may be part of a word boundary's name. -/
def isBoundaryNameChar (c : Char) : Bool := c.isAlpha || c == '-'

/-- The rest after `\b`: a brace followed by a name's character opens a named word
boundary, which must be closed and known; any other brace opens a count. -/
def wordBoundary : List Char → Option (List Char)
  | '{' :: rest =>
    match rest with
    | [] => none
    | c :: _ =>
      if isBoundaryNameChar c then
        let name := rest.takeWhile isBoundaryNameChar
        match rest.drop name.length with
        | '}' :: after =>
          if boundaryNames.contains (String.ofList name) then some after else none
        | _ => none
      else some ('{' :: rest)
  | cs => some cs

/-- Whether a character stands for itself after a backslash: ASCII punctuation, blanks and
controls, but not `<` and `>`, which are assertions. -/
def isEscapable (c : Char) : Bool :=
  c.toNat < 0x80 && !c.isAlphanum && c != '<' && c != '>'

/-- An escape after its backslash: what it stands for and the rest; `none` when it is not
one. -/
def escape : List Char → Option (Escape × List Char)
  | [] => none
  | c :: rest =>
    if isEscapable c then some (.literal c.toNat, rest)
    else
      match c with
      | 'a' => some (.literal 7, rest)
      | 'f' => some (.literal 12, rest)
      | 't' => some (.literal 9, rest)
      | 'n' => some (.literal 10, rest)
      | 'r' => some (.literal 13, rest)
      | 'v' => some (.literal 11, rest)
      | 'A' | 'z' | 'B' | '<' | '>' => some (.assertion, rest)
      | 'b' => (fun r => (.assertion, r)) <$> wordBoundary rest
      | 'x' => (fun (n, r) => (.literal n, r)) <$> hexCharacter 2 rest
      | 'u' => (fun (n, r) => (.literal n, r)) <$> hexCharacter 4 rest
      | 'U' => (fun (n, r) => (.literal n, r)) <$> hexCharacter 8 rest
      | 'p' | 'P' => (fun r => (.set, r)) <$> unicodeClassName rest
      | 'd' | 's' | 'w' | 'D' | 'S' | 'W' => some (.set, rest)
      | _ => none

def asciiClassNames : List String :=
  ["alnum", "alpha", "ascii", "blank", "cntrl", "digit", "graph", "lower", "print", "punct",
   "space", "upper", "word", "xdigit"]

/-- The rest after an ASCII class `[:name:]` or `[:^name:]` whose `[` was read, when there
is one. -/
def asciiClass : List Char → Option (List Char)
  | ':' :: rest =>
    let rest := match rest with
      | '^' :: r => r
      | r => r
    let name := rest.takeWhile (· != ':')
    match rest.drop name.length with
    | ':' :: ']' :: after =>
      if asciiClassNames.contains (String.ofList name) then some after else none
    | _ => none
  | _ => none

/-- What follows the opening `[` of a class once its `^`, its leading `-` and a leading
`]`, which stand for themselves, are passed. -/
def classOpening (cs : List Char) : List Char :=
  let cs := match cs with
    | '^' :: r => r
    | r => r
  let dashes := cs.takeWhile (· == '-')
  match dashes, cs.drop dashes.length with
  | [], ']' :: r => r
  | _, r => r

/-- One item of a class that can bound a range: a character or an escape; the character's
code when it has one, and the rest. An assertion is no item. -/
def classItem : List Char → Option (Option Nat × List Char)
  | [] => none
  | '\\' :: rest =>
    match escape rest with
    | some (.literal n, r) => some (some n, r)
    | some (.set, r) => some (none, r)
    | _ => none
  | c :: rest => some (some c.toNat, rest)

/-- An item of a class or a range of two: a `-` followed by `]` or `-` ends no range;
both ends of a range are characters, the first not above the second. -/
def classRange (cs : List Char) : Option (List Char) := do
  let (first, rest) ← classItem cs
  match rest with
  | '-' :: ']' :: _ | '-' :: '-' :: _ => some rest
  | '-' :: after =>
    let (last, rest) ← classItem after
    match first, last with
    | some a, some b => if a ≤ b then some rest else none
    | _, _ => none
  | [] => none
  | _ => some rest

/-- The rest after a class whose opening has been read; `depth` counts the nested classes
still open. -/
def classBody : Nat → Nat → List Char → Option (List Char)
  | 0, _, _ => none
  | fuel + 1, depth, cs =>
    match cs with
    | [] => none
    | '[' :: rest =>
      match asciiClass rest with
      | some r => classBody fuel depth r
      | none => classBody fuel (depth + 1) (classOpening rest)
    | ']' :: rest =>
      match depth with
      | 0 => some rest
      | d + 1 => classBody fuel d rest
    | '&' :: '&' :: rest | '-' :: '-' :: rest | '~' :: '~' :: rest => classBody fuel depth rest
    | _ =>
      match classRange cs with
      | some r => classBody fuel depth r
      | none => none

def classEnd (cs : List Char) : Option (List Char) :=
  classBody (cs.length + 1) 0 (classOpening cs)

/-- The digits of a count with the blanks around them; their value and the rest. There is
at least one digit and the value fits in 32 bits. -/
def countNumber (cs : List Char) : Option (Nat × List Char) :=
  let cs := cs.dropWhile Text.isBlank
  let ds := cs.takeWhile Char.isDigit
  let n := ds.foldl (fun n c => 10 * n + (c.toNat - '0'.toNat)) 0
  if ds.isEmpty || n ≥ Nat.pow 2 32 then none
  else some (n, (cs.drop ds.length).dropWhile Text.isBlank)

def count (cs : List Char) : Option (List Char) := do
  let (low, rest) ← countNumber cs
  match rest with
  | '}' :: after => some after
  | ',' :: '}' :: after => some after
  | ',' :: more =>
    let (high, rest) ← countNumber more
    match rest with
    | '}' :: after => if low ≤ high then some after else none
    | _ => none
  | _ => none

/-- Whether a character may be part of a group's name; `first` for its first character. -/
def isNameChar (first : Bool) (c : Char) : Bool :=
  if first then c == '_' || c.isAlpha || c.toNat ≥ 0x80
  else c == '_' || c == '.' || c == '[' || c == ']' || c.isAlphanum || c.toNat ≥ 0x80

/-- The name of a group after its `<`: the name and the rest after the `>`. -/
def groupName (cs : List Char) : Option (String × List Char) :=
  let name := cs.takeWhile (· != '>')
  match cs.drop name.length with
  | '>' :: after =>
    match name with
    | [] => none
    | c :: more =>
      if isNameChar true c && more.all (isNameChar false) then some (String.ofList name, after)
      else none
  | _ => none

def flagLetters : List Char := ['i', 'm', 's', 'U', 'u', 'x', 'R']

/-- Flags up to the `:` or `)` that closes them: whether that is a `)`, and the rest. Each
flag and the `-` come at most once, and a `-` is followed by a flag. -/
def flags (cs : List Char) : Option (Bool × List Char) :=
  let items := cs.takeWhile fun c => c != ':' && c != ')'
  match cs.drop items.length with
  | c :: after =>
    let letters := items.filter (· != '-')
    if items.all (fun x => x == '-' || flagLetters.contains x)
        && (items.filter (· == '-')).length ≤ 1
        && decide letters.Nodup
        && items.getLast? != some '-'
        && !(c == ')' && items.isEmpty) then
      some (c == ')', after)
    else none
  | [] => none

/-- How a parenthesis opens: a group, or a setting of flags that is no expression. -/
inductive Opening where
  | group
  | flags
deriving DecidableEq, Repr

/-- What follows `(`: the kind of opening, the names the groups use afterwards, and the
rest. -/
def opening (names : List String) : List Char → Option (Opening × List String × List Char)
  | '?' :: '=' :: _ | '?' :: '!' :: _ | '?' :: '<' :: '=' :: _ | '?' :: '<' :: '!' :: _ => none
  | '?' :: 'P' :: '<' :: rest | '?' :: '<' :: rest => do
    let (name, after) ← groupName rest
    if names.contains name then none else some (.group, name :: names, after)
  | '?' :: rest => do
    let (setting, after) ← flags rest
    some (if setting then .flags else .group, names, after)
  | rest => some (.group, names, rest)

/-- Whether the rest of a pattern is well formed; `depth` counts the groups still open,
`names` holds the groups' names so far and `after` says whether an expression precedes in
the current sequence. -/
def scan : Nat → Nat → List String → Bool → List Char → Bool
  | 0, _, _, _, _ => false
  | fuel + 1, depth, names, after, cs =>
    match cs with
    | [] => depth == 0
    | '(' :: rest =>
      match opening names rest with
      | some (.flags, names, r) => scan fuel depth names false r
      | some (.group, names, r) => scan fuel (depth + 1) names false r
      | none => false
    | ')' :: rest =>
      match depth with
      | 0 => false
      | d + 1 => scan fuel d names true rest
    | '|' :: rest => scan fuel depth names false rest
    | '[' :: rest =>
      match classEnd rest with
      | some r => scan fuel depth names true r
      | none => false
    | '*' :: rest | '+' :: rest | '?' :: rest => after && scan fuel depth names true rest
    | '{' :: rest =>
      match count rest with
      | some r => after && scan fuel depth names true r
      | none => false
    | '\\' :: rest =>
      match escape rest with
      | some (_, r) => scan fuel depth names true r
      | none => false
    | _ :: rest => scan fuel depth names true rest

def wellFormed (s : String) : Bool := scan (s.length + 1) 0 [] false s.toList

end FirmwareStamp.Regex
