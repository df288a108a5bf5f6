/-!
Reading TOML date-times: a date `YYYY-MM-DD`, a time `HH:MM[:SS[.fraction]]`, or a date and
a time joined by `T`, `t` or one space, with an offset `Z` or `±HH:MM` after a full
date-time. The text is cut into runs of digits and single signs first; each field is
checked for its presence, then for its width, then for its range (days by month, with
leap years), and nothing may follow. A problem names the part it was found in (date,
time, offset or date-time) and what was expected; text left over is an "invalid
datetime".
-/

namespace FirmwareStamp.Toml.Datetime

/-- A piece of a date-time text. -/
inductive Piece where
  | digits (ds : List Char)
  | dash
  | colon
  | point
  | timeMark
  | space
  | zulu
  | plus
  | other
deriving DecidableEq, Repr

/-- The pieces of a text: runs of digits and single characters. -/
def pieces : List Char → List Piece
  | [] => []
  | c :: rest =>
    if c.isDigit then
      let run := rest.takeWhile Char.isDigit
      .digits (c :: run) :: pieces (rest.drop run.length)
    else
      let p :=
        if c == '-' then Piece.dash
        else if c == ':' then .colon
        else if c == '.' then .point
        else if c == 'T' || c == 't' then .timeMark
        else if c == ' ' then .space
        else if c == 'Z' || c == 'z' then .zulu
        else if c == '+' then .plus
        else .other
      p :: pieces rest
termination_by cs => cs.length
decreasing_by
  · simp only [List.length_drop, List.length_cons]
    omega
  · simp

/-- A problem of a date-time text: the part it was found in, and what was expected. -/
structure Fault where
  part : Option String
  expected : Option String
deriving DecidableEq, Repr

def Fault.message (p : Fault) : String :=
  (match p.part with
   | some w => "invalid " ++ w
   | none => "invalid datetime") ++
  (match p.expected with
   | some e => ", expected " ++ e
   | none => "")

def fault (part expected : String) : Fault := ⟨some part, some expected⟩

def value (ds : List Char) : Nat := ds.foldl (fun acc c => acc * 10 + (c.toNat - 48)) 0

def takeDigits (p : Fault) : List Piece → Except Fault (List Char × List Piece)
  | .digits ds :: rest => .ok (ds, rest)
  | _ => .error p

def takePiece (want : Piece) (p : Fault) : List Piece → Except Fault (List Piece)
  | q :: rest => if q == want then .ok rest else .error p
  | [] => .error p

def isLeap (y : Nat) : Bool := y % 4 == 0 && (y % 100 != 0 || y % 400 == 0)

def date (year : List Char) (ps : List Piece) : Except Fault (List Piece) := do
  let (month, ps) ← takeDigits (fault "date" "month") ps
  let ps ← takePiece .dash (fault "date" "`-` (MM-DD)") ps
  let (day, ps) ← takeDigits (fault "date" "day") ps
  if year.length != 4 then throw (fault "date" "a four-digit year (YYYY)")
  if month.length != 2 then throw (fault "date" "a two-digit month (MM)")
  if day.length != 2 then throw (fault "date" "a two-digit day (DD)")
  let m := value month
  let d := value day
  if m < 1 || m > 12 then throw (fault "date" "month between 01 and 12")
  let (most, named) :=
    if m == 2 then
      if isLeap (value year) then (29, "day between 01 and 29") else (28, "day between 01 and 28")
    else if m == 4 || m == 6 || m == 9 || m == 11 then (30, "day between 01 and 30")
    else (31, "day between 01 and 31")
  if d < 1 || d > most then throw (fault "date" named)
  return ps

/-- Reads a time: hours and minutes, then seconds, then a fraction of a second after the
seconds. -/
def time (ps : List Piece) : Except Fault (List Piece) := do
  let (hour, ps) ← takeDigits (fault "time" "hour") ps
  let ps ← takePiece .colon (fault "time" "`:` (HH:MM)") ps
  let (minute, ps) ← takeDigits (fault "time" "minute") ps
  let (second, ps) ← match ps with
    | .colon :: rest => do
      let (s, rest) ← takeDigits (fault "time" "second") rest
      pure (some s, rest)
    | _ => pure (none, ps)
  let ps ← match second, ps with
    | some _, .point :: rest => do
      let (_, rest) ← takeDigits (fault "time" "nanosecond") rest
      pure rest
    | _, _ => pure ps
  if hour.length != 2 then throw (fault "time" "a two-digit hour (HH)")
  if minute.length != 2 then throw (fault "time" "a two-digit minute (MM)")
  if (second.map List.length).getD 2 != 2 then throw (fault "time" "a two-digit second (SS)")
  if value hour > 23 then throw (fault "time" "hour between 00 and 23")
  if value minute > 59 then throw (fault "time" "minute between 00 and 59")
  if (second.map value).getD 0 > 60 then throw (fault "time" "second between 00 and 60")
  return ps

/-- Reads an offset after a full date-time, if there is one. -/
def offset (ps : List Piece) : Except Fault (List Piece) :=
  match ps with
  | [] => .ok []
  | .zulu :: rest => .ok rest
  | sign :: rest =>
    if sign == .plus || sign == .dash then do
      let (hours, rest) ← takeDigits (fault "offset" "hour") rest
      let rest ← takePiece .colon (fault "offset" "`:` (HH:MM)") rest
      let (minutes, rest) ← takeDigits (fault "offset" "minute") rest
      if hours.length != 2 then throw (fault "offset" "a two-digit hour (HH)")
      if minutes.length != 2 then throw (fault "offset" "a two-digit minute (MM)")
      if value hours > 23 then throw (fault "offset" "hours between 00 and 23")
      if value minutes > 59 then throw (fault "offset" "minutes between 00 and 59")
      return rest
    else .error (fault "offset" "`Z`, +OFFSET, -OFFSET")

def check (text : List Char) : Except Fault Unit := do
  let ps := pieces text
  let (first, rest) ← takeDigits ⟨none, some "year or hour"⟩ ps
  match rest with
  | .dash :: afterDash => do
    let ps ← date first afterDash
    match ps with
    | [] => pure ()
    | p :: afterMark =>
      if p == .timeMark || p == .space then do
        let ps ← time afterMark
        let ps ← offset ps
        if !ps.isEmpty then throw ⟨none, none⟩
      else throw (fault "date-time" "`T` between date and time")
  | .colon :: _ => do
    let ps ← time ps
    if !ps.isEmpty then throw ⟨none, none⟩
  | _ => throw ⟨none, some "`-` (YYYY-MM) or `:` (HH:MM)"⟩

end FirmwareStamp.Toml.Datetime
