/-!
TOML values and tables. A table is a list of keys with values in the order the keys
were defined; a key appears at most once. Arrays of tables are arrays whose items are
tables. The queries are the ones the configuration reader needs: a key of a table, and
whether a value is a text, a flag, a table or an array.
-/

namespace FirmwareStamp.Toml

/-- A TOML value. Numbers and date-times keep their text. -/
inductive Value where
  | str (s : String)
  | int (n : Int)
  | float (text : String)
  | bool (b : Bool)
  | datetime (text : String)
  | arr (items : List Value)
  | table (entries : List (String × Value))

def lookup (entries : List (String × Value)) (key : String) : Option Value :=
  (entries.find? (·.1 == key)).map (·.2)

namespace Value

def get? (v : Value) (key : String) : Option Value :=
  match v with
  | .table entries => lookup entries key
  | _ => none

def asStr? : Value → Option String
  | .str s => some s
  | _ => none

def asBool? : Value → Option Bool
  | .bool b => some b
  | _ => none

def asTable? : Value → Option (List (String × Value))
  | .table entries => some entries
  | _ => none

def asArray? : Value → Option (List Value)
  | .arr items => some items
  | _ => none

end Value

end FirmwareStamp.Toml
