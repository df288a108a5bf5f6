import FirmwareStamp.Text.Blank

/-!
Version triples `major.minor.patch` of 32-bit words, their text and their grammar.
A triple is read from text by trimming blanks, cutting at every dot into exactly three
segments, and reading each trimmed segment as a decimal word: an optional plus sign,
then one or more ASCII digits (leading zeros allowed) whose value fits in 32 bits.
-/

namespace FirmwareStamp.Version

/-- A release version: major, minor and patch numbers. -/
structure Triple where
  major : UInt32
  minor : UInt32
  patch : UInt32
deriving DecidableEq, Repr, Inhabited

def wordText (n : UInt32) : String := toString n.toNat

/-- The value of a list of ASCII digits, most significant first. -/
def digitsValue (cs : List Char) : Nat :=
  cs.foldl (fun acc c => acc * 10 + (c.toNat - '0'.toNat)) 0

/-- The digits of a decimal word with its optional plus sign removed. -/
def unsignedDigits : List Char → List Char
  | '+' :: rest => rest
  | cs => cs

/-- A decimal word: an optional plus sign and one or more ASCII digits whose value is
below 2^32. Every other text, a minus sign included, is no word. -/
def parseWord? (s : String) : Option UInt32 :=
  let ds := unsignedDigits s.toList
  if ds ≠ [] ∧ ds.all Char.isDigit = true ∧ digitsValue ds < Nat.pow 2 32 then
    some (digitsValue ds).toUInt32
  else
    none

/-- The pieces of a character list between the occurrences of `sep`; there is always
one more piece than there are separators. -/
def splitAt (sep : Char) : List Char → List (List Char)
  | [] => [[]]
  | c :: rest =>
    if c = sep then [] :: splitAt sep rest
    else
      match splitAt sep rest with
      | [] => [[c]]
      | first :: others => (c :: first) :: others

/-- Reads `major.minor.patch`. -/
def Triple.parse? (text : String) : Option Triple :=
  match splitAt '.' (Text.trimList text.toList) with
  | [a, b, c] => do
    let major ← parseWord? (Text.trim (String.ofList a))
    let minor ← parseWord? (Text.trim (String.ofList b))
    let patch ← parseWord? (Text.trim (String.ofList c))
    pure ⟨major, minor, patch⟩
  | _ => none

def Triple.render (t : Triple) : String :=
  wordText t.major ++ "." ++ wordText t.minor ++ "." ++ wordText t.patch

theorem splitAt_ne_nil (sep : Char) (cs : List Char) : splitAt sep cs ≠ [] := by
  cases cs with
  | nil => simp [splitAt]
  | cons c rest =>
    unfold splitAt
    split
    · simp
    · split <;> simp

end FirmwareStamp.Version
