/-!
Shell-style patterns for file names. `?` stands for one character, `*` for any run of
characters, `**` for any run that ends at a slash (allowed only as a whole path
component), `[...]` for one character of a set and `[!...]` for one character outside
it, where a set lists characters and ranges `a-z`. Every other character stands for
itself. Reading a pattern fails at a run of three stars, at a `**` glued to other
characters, and at a bracket that does not close; the error names the character
position.
-/

namespace FirmwareStamp.Glob

/-- One member of a character set. -/
inductive CharSpec where
  | single (c : Char)
  | range (lo hi : Char)
deriving DecidableEq, Repr

/-- One piece of a pattern. -/
inductive Token where
  | char (c : Char)
  | anyChar
  | anySequence
  | anyRecursive
  | within (specs : List CharSpec)
  | except (specs : List CharSpec)
deriving DecidableEq, Repr

/-- A pattern: its pieces in order. -/
structure Pattern where
  tokens : List Token
deriving DecidableEq, Repr

/-- Why a pattern text is not a pattern, and the character position where it shows. -/
structure PatternError where
  pos : Nat
  msg : String
deriving DecidableEq, Repr

def PatternError.message (e : PatternError) : String :=
  "Pattern syntax error near position " ++ toString e.pos ++ ": " ++ e.msg

def tooManyStars : String := "wildcards are either regular `*` or recursive `**`"

def gluedStars : String := "recursive wildcards must form a single path component"

def badRange : String := "invalid range pattern"

/-- The members of a character set: `a-z` is a range, anything else one character. -/
def charSpecs : List Char → List CharSpec
  | a :: '-' :: b :: rest => .range a b :: charSpecs rest
  | c :: rest => .single c :: charSpecs rest
  | [] => []

def closingIndex (cs : List Char) : Option Nat := cs.findIdx? (· == ']')

def isSeparator (c : Char) : Bool := c == '/'

/-- Reads the pieces of a pattern. `i` is the position of the first unread character
and `prev` the character before it; `acc` holds the pieces read, last first. -/
def readTokens : Nat → Nat → Option Char → List Char → List Token →
    Except PatternError (List Token)
  | 0, _, _, _, acc => .ok acc.reverse
  | _ + 1, _, _, [], acc => .ok acc.reverse
  | fuel + 1, i, prev, c :: rest, acc =>
    let cs := c :: rest
    if c == '?' then readTokens fuel (i + 1) (some c) rest (.anyChar :: acc)
    else if c == '*' then
      let count := (cs.takeWhile (· == '*')).length
      let after := cs.drop count
      if count > 2 then .error ⟨i + 2, tooManyStars⟩
      else if count == 2 then
        if i == 0 || prev.any isSeparator then
          let acc' := if acc.length > 1 && acc.head? == some .anyRecursive then acc
            else .anyRecursive :: acc
          match after with
          | [] => .ok acc'.reverse
          | d :: more =>
            if isSeparator d then readTokens fuel (i + 3) (some d) more acc'
            else .error ⟨i + 2, gluedStars⟩
        else .error ⟨i - 1, gluedStars⟩
      else readTokens fuel (i + 1) (some c) rest (.anySequence :: acc)
    else if c == '[' then
      if cs.length ≥ 4 && rest.head? == some '!' then
        match closingIndex (cs.drop 3) with
        | some j =>
          readTokens fuel (i + j + 4) (some ']') (cs.drop (j + 4))
            (.except (charSpecs ((cs.drop 2).take (j + 1))) :: acc)
        | none => .error ⟨i, badRange⟩
      else if cs.length ≥ 3 && rest.head? != some '!' then
        match closingIndex (cs.drop 2) with
        | some j =>
          readTokens fuel (i + j + 3) (some ']') (cs.drop (j + 3))
            (.within (charSpecs ((cs.drop 1).take (j + 1))) :: acc)
        | none => .error ⟨i, badRange⟩
      else .error ⟨i, badRange⟩
    else readTokens fuel (i + 1) (some c) rest (.char c :: acc)

def Pattern.parse (text : String) : Except PatternError Pattern :=
  (readTokens (text.length + 1) 0 none text.toList []).map Pattern.mk

def inSpecs (specs : List CharSpec) (c : Char) : Bool :=
  specs.any fun
    | .single s => s == c
    | .range lo hi => lo ≤ c && c ≤ hi

def Token.accepts (t : Token) (c : Char) : Bool :=
  match t with
  | .char d => d == c
  | .anyChar => true
  | .within specs => inSpecs specs c
  | .except specs => !inSpecs specs c
  | .anySequence | .anyRecursive => false

/-- How matching a rest of a pattern ended: a match, no match for this split of the
text, or no match for any split because the text ran out. -/
inductive Verdict where
  | matched
  | noMatch
  | textExhausted
deriving DecidableEq, Repr

/-- Tries the rest of a pattern after a star at every later place in the text: after
each character taken (after each separator only for `**`), the first verdict other than
no match wins. When every place fails the star takes the whole text and matching goes
on from its end. -/
def afterStar (rest : List Char → Bool → Verdict) (recursive : Bool) :
    List Char → Bool → Verdict
  | [], sep => rest [] sep
  | c :: cs, _ =>
    let sep := isSeparator c
    if recursive && !sep then afterStar rest recursive cs sep
    else
      match rest cs sep with
      | .noMatch => afterStar rest recursive cs sep
      | v => v

/-- Matches pieces against a text; `sep` tells whether the text so far ends in a
separator (or is empty). -/
def matchFrom : List Token → List Char → Bool → Verdict
  | [], cs, _ => if cs.isEmpty then .matched else .noMatch
  | t :: ts, cs, sep =>
    match t with
    | .anySequence | .anyRecursive =>
      match matchFrom ts cs sep with
      | .noMatch => afterStar (matchFrom ts) (t == .anyRecursive) cs sep
      | v => v
    | _ =>
      match cs with
      | [] => .textExhausted
      | c :: rest => if t.accepts c then matchFrom ts rest (isSeparator c) else .noMatch

def Pattern.matchName (p : Pattern) (text : String) : Bool :=
  matchFrom p.tokens text.toList true == .matched

/-- Whether a text holds a character that makes it a pattern rather than a name. -/
def hasWildcard (text : String) : Bool :=
  text.toList.any fun c => c == '*' || c == '?' || c == '['

end FirmwareStamp.Glob
