/-!
Problems found in a TOML document. A problem says what is wrong and, when the reader
knows it, what it expected at that place; its message joins the two as
"description, expected A, B". An empty list of expectations reads "expected nothing",
and a line break is named "newline".
-/

namespace FirmwareStamp.Toml

/-- What the reader wanted to see where it found a problem. -/
inductive Expected where
  /-- A piece of text, shown between backticks. -/
  | literal (text : String)
  /-- A kind of thing, shown by its name. -/
  | description (text : String)
deriving DecidableEq, Repr

def Expected.render : Expected → String
  | .literal "\n" => "newline"
  | .literal t => "`" ++ t ++ "`"
  | .description d => d

/-- A problem of a document: its description and, when there is one, what was expected. -/
structure Problem where
  description : String
  expected : Option (List Expected)
deriving DecidableEq, Repr

namespace Problem

def plain (description : String) : Problem := ⟨description, none⟩

def expecting (description : String) (expected : List Expected) : Problem :=
  ⟨description, some expected⟩

def message (p : Problem) : String :=
  match p.expected with
  | none => p.description
  | some [] => p.description ++ ", expected nothing"
  | some es => p.description ++ ", expected " ++ ", ".intercalate (es.map Expected.render)

end Problem

end FirmwareStamp.Toml
