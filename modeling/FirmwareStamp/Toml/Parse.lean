import FirmwareStamp.Toml.Token
import FirmwareStamp.Toml.Outline
import FirmwareStamp.Toml.Table

/-!
Reading a TOML document into its root table, in three passes whose problems are reported
in this order. The structure is read first (`Outline.read`), so a structural problem
anywhere wins over a problem of decoding. Then keys and values are decoded and the tables
built (`Build.lines`), the first problem in the order of the text winning. Last, numbers
are brought into range, the tables gone through in the order of their keys. A byte order
mark at the start is not part of the document.
-/

namespace FirmwareStamp.Toml

/-- Reads a TOML document into its root table, or the message of its first problem. -/
def parse (text : String) : Except String (List (String × Value)) :=
  let cs := match text.toList with
    | '\uFEFF' :: rest => rest
    | cs => cs
  match Outline.read (Token.scan cs) with
  | .error p => .error p.message
  | .ok ls =>
    match Build.lines ls .empty with
    | .error p => .error p.message
    | .ok root =>
      let entries := Item.entriesDraft root
      match (Draft.inline entries).problem with
      | some m => .error m
      | none => .ok (Draft.entriesValue entries)

end FirmwareStamp.Toml
