import FirmwareStamp.Version.Header
import FirmwareStamp.Proofs.Version.TripleGrammar

/-!
The generated header as text. Cut at its line feeds, the header is the fourteen lines of the
template exactly when the project name has no line feed; each line feed in the name adds a
line. The name's literal, read as C reads the body of a string literal (`readCLiteral`),
gives the name back and has no bare double quote, but a line break in the name stands in it
bare, and then the literal is no C string literal at all.
-/

namespace FirmwareStamp.Version

/-! ### Reading a C string literal -/

/-- What is wrong with the body of a C string literal. -/
inductive LiteralFault where
  | loneBackslash
  | unknownEscape (c : Char)
  | bareQuote
  | lineBreak
deriving DecidableEq, Repr

/-- The character a simple escape sequence `\c` stands for, for the eleven `c` of C. -/
def simpleEscape? : Char → Option Char
  | '\'' => some '\''
  | '"' => some '"'
  | '?' => some '?'
  | '\\' => some '\\'
  | 'a' => some (Char.ofNat 7)
  | 'b' => some (Char.ofNat 8)
  | 'f' => some (Char.ofNat 12)
  | 'n' => some '\n'
  | 'r' => some '\r'
  | 't' => some '\t'
  | 'v' => some (Char.ofNat 11)
  | _ => none

/-- A character that ends a source line. -/
def isLineBreak (c : Char) : Bool := c == '\n' || c == '\r'

/-- Reads the body of a C string literal into the characters it stands for, or gives its
first fault: a backslash starts an escape sequence, and neither a double quote nor a line
break may stand bare. Octal and hexadecimal escapes are left out: escaping writes none. -/
def readCLiteral : List Char → Except LiteralFault (List Char)
  | [] => .ok []
  | ['\\'] => .error .loneBackslash
  | '\\' :: c :: rest =>
    match simpleEscape? c with
    | some e => (e :: ·) <$> readCLiteral rest
    | none => .error (.unknownEscape c)
  | c :: rest =>
    if c = '"' then .error .bareQuote
    else if isLineBreak c then .error .lineBreak
    else (c :: ·) <$> readCLiteral rest

/-- A plain character is read as itself. -/
theorem readCLiteral_plain {c : Char} (hs : c ≠ '\\') (hq : c ≠ '"') (hb : isLineBreak c = false)
    (rest : List Char) : readCLiteral (c :: rest) = (c :: ·) <$> readCLiteral rest := by
  simp [readCLiteral, hs, hq, hb]

/-- The escaped name reads back as the name, unless the name has a line break: that stands
bare in the literal, and is its first fault. -/
theorem readCLiteral_escapeC (s : String) :
    readCLiteral (escapeC s).toList =
      if s.toList.any isLineBreak then .error .lineBreak else .ok s.toList := by
  rw [escapeC, String.toList_ofList]
  induction s.toList with
  | nil => rfl
  | cons c cs ih =>
    rw [List.flatMap_cons]
    by_cases hsp : c = '\\' ∨ c = '"'
    · rcases hsp with rfl | rfl <;> cases hb : cs.any isLineBreak <;>
        simp [escapeCChar, readCLiteral, simpleEscape?, ih, hb, isLineBreak, Functor.map,
          Except.map]
    obtain ⟨hs, hq⟩ := not_or.mp hsp
    have hplain : escapeCChar c = [c] := by simp [escapeCChar, hs, hq]
    rw [hplain, List.singleton_append]
    cases hc : isLineBreak c
    · rw [readCLiteral_plain hs hq hc, ih]
      cases hb : cs.any isLineBreak <;> simp [hb, hc, Functor.map, Except.map]
    · simp [readCLiteral, hs, hq, hc]

/-! ### The lines of the header -/

theorem renderHeader_toList (r : Record) :
    (renderHeader r).toList = ((headerLines r).map String.toList).flatMap (· ++ ['\n']) := by
  simp [renderHeader, String.toList_join, List.flatMap_map]

theorem count_escapeC (s : String) (c : Char) (hs : c ≠ '\\') (hq : c ≠ '"') :
    (escapeC s).toList.count c = s.toList.count c := by
  rw [escapeC, String.toList_ofList]
  induction s.toList with
  | nil => rfl
  | cons d ds ih =>
    rw [List.flatMap_cons, List.count_append, ih, List.count_cons]
    by_cases hsp : d = '\\' ∨ d = '"'
    · rcases hsp with rfl | rfl <;> simp [escapeCChar, Ne.symm hs, Ne.symm hq]
    obtain ⟨hds, hdq⟩ := not_or.mp hsp
    simp only [escapeCChar, hds, hdq, if_false, List.count_singleton]
    omega

theorem count_wordText (w : UInt32) : (wordText w).toList.count '\n' = 0 :=
  List.count_eq_zero.mpr fun h => by simpa using isDigit_of_mem_wordText h

/-- Only the name's line can hold a line feed, and it holds the name's. -/
theorem headerLines_count (r : Record) :
    (headerLines r).map (fun l => l.toList.count '\n') =
      [0, 0, 0, 0, 0, r.name.toList.count '\n', 0, 0, 0, 0, 0, 0, 0, 0] := by
  simp only [headerLines, Record.versionString, Record.shortString, Record.longString,
    Triple.render, List.map_cons, List.map_nil, String.toList_append, List.count_append,
    count_wordText, count_escapeC r.name '\n' (by decide) (by decide)]
  simp only [String.reduceToList, List.count_cons_of_ne, List.count_nil, ne_eq, Char.reduceEq,
    not_false_eq_true, Nat.add_zero, Nat.zero_add]

theorem count_renderHeader (r : Record) :
    (renderHeader r).toList.count '\n' = 14 + r.name.toList.count '\n' := by
  have hlines : (headerLines r).map (fun l => l.toList.count '\n' + 1) =
      ((headerLines r).map (fun l => l.toList.count '\n')).map (· + 1) := by
    simp [List.map_map, Function.comp_def]
  rw [renderHeader_toList, List.count_flatMap, List.map_map]
  simp only [Function.comp_def, List.count_append, List.count_singleton, beq_self_eq_true,
    if_true]
  rw [hlines, headerLines_count]
  simp
  omega

theorem length_headerLines (r : Record) : (headerLines r).length = 14 := rfl

/-- Without a line feed in the name, the header cuts at its line feeds into exactly the
template's lines. -/
theorem splitAt_renderHeader {r : Record} (h : '\n' ∉ r.name.toList) :
    splitAt '\n' (renderHeader r).toList = (headerLines r).map String.toList ++ [[]] := by
  rw [renderHeader_toList]
  apply splitAt_flatMap_lines
  intro l hl
  obtain ⟨line, hline, rfl⟩ := List.mem_map.mp hl
  have hcount : line.toList.count '\n' ∈ (headerLines r).map (fun l => l.toList.count '\n') :=
    List.mem_map_of_mem hline
  rw [headerLines_count, List.count_eq_zero.mpr h] at hcount
  exact List.count_eq_zero.mp (by simpa using hcount)

/-- Each line feed in the name adds a line to the header's fifteen pieces. -/
theorem length_splitAt_renderHeader (r : Record) :
    (splitAt '\n' (renderHeader r).toList).length = 15 + r.name.toList.count '\n' := by
  rw [length_splitAt, count_renderHeader]
  omega

/-- The header as text: cut at its line feeds it is the template's fourteen lines exactly
when the name has no line feed, each line feed of the name adding one piece, and the name's
literal reads back as the name unless the name has a line break, which stands bare in it. -/
theorem header_lines_and_name_literal (r : Record) :
    (splitAt '\n' (renderHeader r).toList = (headerLines r).map String.toList ++ [[]] ↔
      '\n' ∉ r.name.toList) ∧
    (splitAt '\n' (renderHeader r).toList).length = 15 + r.name.toList.count '\n' ∧
    readCLiteral (escapeC r.name).toList =
      if r.name.toList.any isLineBreak then .error .lineBreak else .ok r.name.toList := by
  refine ⟨⟨fun h hn => ?_, splitAt_renderHeader⟩, length_splitAt_renderHeader r,
    readCLiteral_escapeC r.name⟩
  have hlen := length_splitAt_renderHeader r
  have hpos : 0 < r.name.toList.count '\n' := List.count_pos_iff.mpr hn
  rw [h, List.length_append, List.length_map, length_headerLines] at hlen
  simp at hlen
  omega

/-- A record whose name holds a line feed. -/
def brokenNameRecord : Record := Record.initial "a\nb"

/-- The name `a`, line feed, `b` cuts the header into fifteen lines, and its literal is no
C string literal: the line feed stands bare in it. -/
theorem broken_name_splits_header :
    (splitAt '\n' (renderHeader brokenNameRecord).toList).length = 16 ∧
    readCLiteral (escapeC brokenNameRecord.name).toList = .error .lineBreak := by
  have hname : brokenNameRecord.name.toList = ['a', '\n', 'b'] := by decide
  refine ⟨?_, ?_⟩
  · rw [length_splitAt_renderHeader, hname]
    decide
  · rw [readCLiteral_escapeC, hname]
    rfl

end FirmwareStamp.Version
