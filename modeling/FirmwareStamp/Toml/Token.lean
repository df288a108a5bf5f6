/-!
The tokens of a TOML document. Punctuation, runs of blanks, comments, line ends, quoted
strings and bare words are told apart by their first character. A quoted string keeps
its delimiters as written: a basic or literal string ends at its closing quote or just
before a line feed, a multi-line string at its closing triple quote (with up to two more
quotes taken into it) or at the end of the text, so that a string left open is still a
token and its decoding later says what is missing. A comment runs up to a carriage return
or a line feed, and a carriage return without a line feed is a line end of its own. A
bare word runs up to the next punctuation, blank, comment sign or line end: a quote
inside it belongs to it.
-/

namespace FirmwareStamp.Toml

/-- How a quoted string is delimited. -/
inductive Quote where
  | basic
  | literal
  | multiBasic
  | multiLiteral
deriving DecidableEq, Repr

/-- A token of a document. -/
inductive Token where
  | dot
  | equals
  | comma
  | openBracket
  | closeBracket
  | openBrace
  | closeBrace
  /-- A run of spaces and tabs. -/
  | blank (text : List Char)
  /-- A comment: the characters after `#` up to the end of the line. -/
  | comment (text : List Char)
  /-- A line end; `bare` when it is a carriage return without a line feed. -/
  | newline (bare : Bool)
  /-- A quoted string as written, delimiters included. -/
  | quoted (q : Quote) (raw : List Char)
  /-- A bare word. -/
  | atom (text : List Char)
deriving DecidableEq, Repr

namespace Token

def isBlank (c : Char) : Bool := c == ' ' || c == '\t'

/-- A character that ends a bare word; quotes do not, so a word may hold them. -/
def endsWord (c : Char) : Bool :=
  c == '.' || c == '=' || c == ',' || c == '[' || c == ']' || c == '{' || c == '}' ||
    isBlank c || c == '#' || c == '\r' || c == '\n'

/-- A basic string after its opening quote, split into the part that belongs to the
token and the rest: up to and including the closing quote, or up to a line feed or the
end. A backslash takes a following backslash or quote with it. -/
def basicBody : List Char → List Char × List Char
  | [] => ([], [])
  | c :: rest =>
    if c == '"' then (['"'], rest)
    else if c == '\n' then ([], c :: rest)
    else if c == '\\' then
      match _h : rest with
      | d :: more =>
        if d == '\\' || d == '"' then
          let (b, r) := basicBody more
          (c :: d :: b, r)
        else
          let (b, r) := basicBody (d :: more)
          (c :: b, r)
      | [] => ([c], [])
    else
      let (b, r) := basicBody rest
      (c :: b, r)
termination_by cs => cs.length
decreasing_by
  · subst _h
    simp only [List.length_cons]
    omega
  · subst _h
    simp
  · simp

/-- Nothing is lost: the token part and the rest make up the input. -/
theorem basicBody_append (cs : List Char) : (basicBody cs).1 ++ (basicBody cs).2 = cs := by
  fun_induction basicBody cs <;> simp_all

/-- A literal string after its opening quote: up to and including the closing quote, or
up to a line feed or the end. -/
def literalBody : List Char → List Char × List Char
  | [] => ([], [])
  | c :: rest =>
    if c == '\'' then (['\''], rest)
    else if c == '\n' then ([], c :: rest)
    else
      let (b, r) := literalBody rest
      (c :: b, r)

/-- Nothing is lost: the token part and the rest make up the input. -/
theorem literalBody_append (cs : List Char) : (literalBody cs).1 ++ (literalBody cs).2 = cs := by
  induction cs with
  | nil => rfl
  | cons c rest ih =>
    simp only [literalBody]
    split
    · next h => simp_all
    · split
      · rfl
      · simp [ih]

/-- A multi-line string after its opening delimiter, quoted by `q`: up to and including
the first closing triple quote and at most two quotes right after it, or up to the end.
With `escapes`, a backslash takes a following backslash or double quote with it. -/
def multiBody (q : Char) (escapes : Bool) : List Char → List Char × List Char
  | [] => ([], [])
  | c :: rest =>
    if c == q && rest.take 2 == [q, q] then
      let after := rest.drop 2
      let extra := (after.take 2).takeWhile (· == q)
      (c :: q :: q :: extra, after.drop extra.length)
    else if escapes && c == '\\' then
      match _h : rest with
      | d :: more =>
        if d == '\\' || d == '"' then
          let (b, r) := multiBody q escapes more
          (c :: d :: b, r)
        else
          let (b, r) := multiBody q escapes (d :: more)
          (c :: b, r)
      | [] => ([c], [])
    else
      let (b, r) := multiBody q escapes rest
      (c :: b, r)
termination_by cs => cs.length
decreasing_by
  · subst _h
    simp only [List.length_cons]
    omega
  · subst _h
    simp
  · simp

/-- A list whose first two elements are `q` starts with them. -/
theorem eq_of_take_two {q : Char} {rest : List Char} (h : rest.take 2 = [q, q]) :
    rest = q :: q :: rest.drop 2 := by
  match rest, h with
  | a :: b :: tail, h => simp_all

/-- Nothing is lost: the token part and the rest make up the input. -/
theorem multiBody_append (q : Char) (escapes : Bool) (cs : List Char) :
    (multiBody q escapes cs).1 ++ (multiBody q escapes cs).2 = cs := by
  fun_induction multiBody q escapes cs with
  | case2 c rest h =>
    simp only [Bool.and_eq_true, beq_iff_eq] at h
    obtain ⟨rfl, h2⟩ := h
    have he := List.prefix_iff_eq_append.mp
      ((List.takeWhile_prefix (l := List.take 2 (List.drop 2 rest)) (fun x => x == c)).trans
        (List.take_prefix 2 (List.drop 2 rest)))
    simp +zetaDelta only [List.cons_append, he]
    exact congrArg (List.cons c) (eq_of_take_two h2).symm
  | _ => simp_all

/-- The tokens of a text; `fuel` bounds the number of tokens (one per character at most). -/
def scanWith : Nat → List Char → List Token
  | 0, _ => []
  | _, [] => []
  | fuel + 1, c :: rest =>
    if c == '.' then dot :: scanWith fuel rest
    else if c == '=' then equals :: scanWith fuel rest
    else if c == ',' then comma :: scanWith fuel rest
    else if c == '[' then openBracket :: scanWith fuel rest
    else if c == ']' then closeBracket :: scanWith fuel rest
    else if c == '{' then openBrace :: scanWith fuel rest
    else if c == '}' then closeBrace :: scanWith fuel rest
    else if isBlank c then
      let run := rest.takeWhile isBlank
      blank (c :: run) :: scanWith fuel (rest.drop run.length)
    else if c == '#' then
      let text := rest.takeWhile fun d => d != '\r' && d != '\n'
      comment text :: scanWith fuel (rest.drop text.length)
    else if c == '\n' then newline false :: scanWith fuel rest
    else if c == '\r' then
      match rest with
      | '\n' :: more => newline false :: scanWith fuel more
      | _ => newline true :: scanWith fuel rest
    else if c == '\'' then
      if rest.take 2 == ['\'', '\''] then
        let (b, r) := multiBody '\'' false (rest.drop 2)
        quoted .multiLiteral ('\'' :: '\'' :: '\'' :: b) :: scanWith fuel r
      else
        let (b, r) := literalBody rest
        quoted .literal (c :: b) :: scanWith fuel r
    else if c == '"' then
      if rest.take 2 == ['"', '"'] then
        let (b, r) := multiBody '"' true (rest.drop 2)
        quoted .multiBasic ('"' :: '"' :: '"' :: b) :: scanWith fuel r
      else
        let (b, r) := basicBody rest
        quoted .basic (c :: b) :: scanWith fuel r
    else
      let word := rest.takeWhile fun d => !endsWord d
      atom (c :: word) :: scanWith fuel (rest.drop word.length)

def scan (cs : List Char) : List Token := scanWith (cs.length + 1) cs

end Token

end FirmwareStamp.Toml
