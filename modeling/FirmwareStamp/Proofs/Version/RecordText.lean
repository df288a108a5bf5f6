import FirmwareStamp.Version.Json
import FirmwareStamp.Proofs.Disk.Frame

/-!
A written version record reads back as itself. The text the writer prints is taken
apart into its bytes: an opening brace, then for each of the five keys a line with the
quoted key, a colon and the value, then the closing brace and a line break. Each piece
is read by the matching step of the reader: a quoted text through its escapes, a word
through its decimal digits, which never start with a zero unless the word is zero.
-/

namespace FirmwareStamp.Json
open Version

theorem toList_toByteArray (l : List UInt8) : l.toByteArray.toList = l := by
  rw [ByteArray.toList, Disk.toList_loop]
  simp [List.data_toByteArray]

/-- The bytes of a text are the bytes of its characters. -/
theorem toUTF8_toList (s : String) :
    s.toUTF8.toList = s.toList.flatMap String.utf8EncodeChar := by
  rw [String.toUTF8_eq_toByteArray, ← String.utf8Encode_toList, List.utf8Encode,
    toList_toByteArray]

theorem textOf_bytes (s : String) : textOf (s.toList.flatMap String.utf8EncodeChar) = s := by
  have h := Disk.decodeUtf8_toByteArray s
  rw [Disk.decodeUtf8, ← String.toUTF8_eq_toByteArray, toUTF8_toList] at h
  simp [textOf, h]

/-- A byte a string body takes as it is: no quote, no backslash, no control byte. -/
def Plain (b : UInt8) : Prop := b ≠ 0x22 ∧ b ≠ 0x5C ∧ ¬ b < 0x20

theorem readStringBody_plain (acc rest : List UInt8) :
    ∀ bs : List UInt8, (∀ b ∈ bs, Plain b) →
      readStringBody acc (bs ++ rest) = readStringBody (bs.reverse ++ acc) rest := by
  intro bs
  induction bs generalizing acc with
  | nil => intro _; rfl
  | cons b bs ih =>
    intro hbs
    obtain ⟨hq, hbk, hctl⟩ := hbs b List.mem_cons_self
    rw [List.cons_append, readStringBody.eq_def]
    simp only [beq_iff_eq, hq, hbk, hctl, if_false]
    rw [ih (b :: acc) fun b' hb' => hbs b' (List.mem_cons_of_mem _ hb')]
    simp

/-- The bytes of a character other than a quote, a backslash and a control character are
taken as they are. -/
theorem plain_utf8EncodeChar {c : Char} (hq : c ≠ '"') (hb : c ≠ '\\') (hc : ¬ c.toNat < 0x20) :
    ∀ b ∈ String.utf8EncodeChar c, Plain b := by
  have hq' : c.toNat ≠ 34 := fun h => hq (Char.ext (UInt32.toNat_inj.1 h))
  have hb' : c.toNat ≠ 92 := fun h => hb (Char.ext (UInt32.toNat_inj.1 h))
  intro b hbm
  rw [String.utf8EncodeChar] at hbm
  simp only [Plain, ne_eq, ← UInt8.toNat_inj, UInt8.lt_iff_toNat_lt, UInt8.reduceToNat]
  simp only [Char.toNat] at hq' hb' hc
  split at hbm
  · simp only [List.mem_singleton] at hbm
    subst hbm
    simp only [UInt8.toNat_ofNat']
    omega
  · split at hbm
    · simp only [List.mem_cons, List.not_mem_nil, or_false] at hbm
      rcases hbm with rfl | rfl <;> simp only [UInt8.toNat_ofNat'] <;> omega
    · split at hbm
      · simp only [List.mem_cons, List.not_mem_nil, or_false] at hbm
        rcases hbm with rfl | rfl | rfl <;> simp only [UInt8.toNat_ofNat'] <;> omega
      · simp only [List.mem_cons, List.not_mem_nil, or_false] at hbm
        rcases hbm with rfl | rfl | rfl | rfl <;> simp only [UInt8.toNat_ofNat'] <;> omega

/-- The byte of a hexadecimal digit as the writer prints it. -/
def hexByte (k : Nat) : UInt8 := if k < 10 then (0x30 + k).toUInt8 else (0x61 + k - 10).toUInt8

theorem utf8EncodeChar_hexDigitChar :
    ∀ k < 16, String.utf8EncodeChar (hexDigitChar k) = [hexByte k] := by
  decide

theorem hexDigit_hexByte : ∀ k < 16, hexDigit (hexByte k) = some k := by
  decide

theorem utf8Of_toNat (c : Char) : utf8Of c.toNat = String.utf8EncodeChar c := by
  simp [utf8Of, Char.ofNat_toNat, List.utf8Encode_singleton, toList_toByteArray]

theorem readStringBody_simpleEscape {acc rest : List UInt8} {e v : UInt8} (he : e ≠ 0x75)
    (hv : simpleEscape e = some v) :
    readStringBody acc (0x5C :: e :: rest) = readStringBody (v :: acc) rest := by
  conv => lhs; rw [readStringBody.eq_def]
  simp [he, hv]

theorem readStringBody_unicode {acc rest : List UInt8} {a b c d : UInt8} {n : Nat}
    (hq : hexQuad a b c d = some n) (hn : n < 0xD800) :
    readStringBody acc (0x5C :: 0x75 :: a :: b :: c :: d :: rest) =
      readStringBody ((utf8Of n).reverse ++ acc) rest := by
  conv => lhs; rw [readStringBody.eq_def]
  have h1 : ¬ 0xDC00 ≤ n := by omega
  simp [hq, h1, hn]

/-- A character escaped by the writer is read back as its own bytes. -/
theorem readStringBody_escapeChar (acc rest : List UInt8) (c : Char) :
    readStringBody acc ((escapeChar c).flatMap String.utf8EncodeChar ++ rest) =
      readStringBody ((String.utf8EncodeChar c).reverse ++ acc) rest := by
  unfold escapeChar
  split
  · subst c; exact readStringBody_simpleEscape (by decide) (by decide)
  rename_i hq
  split
  · subst c; exact readStringBody_simpleEscape (by decide) (by decide)
  rename_i hb
  split
  · subst c; exact readStringBody_simpleEscape (by decide) (by decide)
  split
  · subst c; exact readStringBody_simpleEscape (by decide) (by decide)
  split
  · subst c; exact readStringBody_simpleEscape (by decide) (by decide)
  split
  · subst c; exact readStringBody_simpleEscape (by decide) (by decide)
  split
  · subst c; exact readStringBody_simpleEscape (by decide) (by decide)
  split
  · rename_i hlt
    have hd1 : c.toNat / 16 < 16 := by omega
    have hd2 : c.toNat % 16 < 16 := Nat.mod_lt _ (by decide)
    have hquad : hexQuad 0x30 0x30 (hexByte (c.toNat / 16)) (hexByte (c.toNat % 16)) =
        some c.toNat := by
      have h0 : hexDigit 0x30 = some 0 := by decide
      simp only [hexQuad, h0, hexDigit_hexByte _ hd1, hexDigit_hexByte _ hd2]
      simp only [Option.bind_eq_bind, Option.bind_some, Option.pure_def, Option.some.injEq]
      omega
    simp only [List.flatMap_cons, List.flatMap_nil, utf8EncodeChar_hexDigitChar _ hd1,
      utf8EncodeChar_hexDigitChar _ hd2, List.append_nil]
    show readStringBody acc
      (0x5C :: 0x75 :: 0x30 :: 0x30 :: hexByte (c.toNat / 16) :: hexByte (c.toNat % 16) :: rest) = _
    rw [readStringBody_unicode hquad (by omega), utf8Of_toNat]
  · rename_i hlt
    rw [List.flatMap_singleton]
    exact readStringBody_plain acc rest _ (plain_utf8EncodeChar hq hb hlt)

/-- A string body as the writer escapes it reads back as the bytes of its characters,
up to the closing quote. -/
theorem readStringBody_escaped (rest : List UInt8) (cs : List Char) :
    ∀ acc, readStringBody acc ((cs.flatMap escapeChar).flatMap String.utf8EncodeChar ++ 0x22 :: rest) =
      .ok (acc.reverse ++ cs.flatMap String.utf8EncodeChar, rest) := by
  induction cs with
  | nil =>
    intro acc
    simp [readStringBody.eq_def]
  | cons c cs ih =>
    intro acc
    rw [List.flatMap_cons, List.flatMap_append, List.append_assoc, readStringBody_escapeChar, ih]
    simp

theorem readString_quoted (s : String) (rest : List UInt8) :
    readString.run ((s.toList.flatMap escapeChar).flatMap String.utf8EncodeChar ++ 0x22 :: rest) =
      .ok (s, rest) := by
  simp [readString, readStringBody_escaped, textOf_bytes]
  rfl

/-- The value of decimal digit bytes read after a significand `sig`. -/
def byteDigits (sig : Nat) (ds : List UInt8) : Nat :=
  ds.foldl (fun v d => v * 10 + (d.toNat - 0x30)) sig

theorem le_byteDigits (sig : Nat) (ds : List UInt8) : sig ≤ byteDigits sig ds := by
  induction ds generalizing sig with
  | nil => exact Nat.le_refl _
  | cons d ds ih =>
    have := ih (sig * 10 + (d.toNat - 0x30))
    simp only [byteDigits, List.foldl_cons] at this ⊢
    omega

/-- Digits whose value fits a 64-bit word are all taken into the significand. -/
theorem accumulate_eq (sig : Nat) (ds : List UInt8) (h : byteDigits sig ds ≤ wordMax) :
    accumulate sig ds = (byteDigits sig ds, ds.length, []) := by
  induction ds generalizing sig with
  | nil => rfl
  | cons d ds ih =>
    have hnext := le_byteDigits (sig * 10 + (d.toNat - 0x30)) ds
    simp only [byteDigits, List.foldl_cons] at h hnext
    rw [accumulate, if_neg (by omega)]
    simp only [byteDigits] at ih
    rw [ih _ h]
    rfl

theorem utf8EncodeChar_digit {c : Char} (h : c.isDigit = true) :
    String.utf8EncodeChar c = [UInt8.ofNat c.toNat] := by
  simp only [Char.isDigit, Bool.and_eq_true, decide_eq_true_eq] at h
  have hle : c.val.toNat ≤ 57 := by
    have := UInt32.le_iff_toNat_le.1 h.2
    simpa using this
  rw [String.utf8EncodeChar, if_pos (by omega)]
  rfl

theorem digits_bytes (cs : List Char) (h : ∀ c ∈ cs, c.isDigit = true) :
    cs.flatMap String.utf8EncodeChar = cs.map (fun c => UInt8.ofNat c.toNat) := by
  induction cs with
  | nil => rfl
  | cons c cs ih =>
    rw [List.flatMap_cons, utf8EncodeChar_digit (h c List.mem_cons_self),
      ih fun c' hc' => h c' (List.mem_cons_of_mem _ hc')]
    rfl

theorem byteDigits_digits (cs : List Char) (h : ∀ c ∈ cs, c.isDigit = true) (sig : Nat) :
    byteDigits sig (cs.map (fun c => UInt8.ofNat c.toNat)) = Nat.ofDigitChars 10 cs sig := by
  induction cs generalizing sig with
  | nil => rfl
  | cons c cs ih =>
    have hc := h c List.mem_cons_self
    simp only [Char.isDigit, Bool.and_eq_true, decide_eq_true_eq] at hc
    have hle : c.val.toNat ≤ 57 := by simpa using UInt32.le_iff_toNat_le.1 hc.2
    rw [List.map_cons, Nat.ofDigitChars_cons, ← ih fun c' hc' => h c' (List.mem_cons_of_mem _ hc')]
    simp only [byteDigits, List.foldl_cons, UInt8.toNat_ofNat', Char.toNat]
    congr 1
    have h0 : '0'.val.toNat = 48 := rfl
    rw [h0, Nat.mod_eq_of_lt (by omega : c.val.toNat < 2 ^ 8)]
    omega

theorem digitChar_ne_zero : ∀ n, n < 10 → 0 < n → Nat.digitChar n ≠ '0' := by decide

/-- A positive number is written without a leading zero. -/
theorem toDigits_head (n : Nat) (hn : 0 < n) : ∃ c cs, Nat.toDigits 10 n = c :: cs ∧ c ≠ '0' := by
  induction n using Nat.strongRecOn with
  | ind n ih =>
    rw [Nat.toDigits_eq_if (by decide)]
    split
    · exact ⟨_, [], rfl, digitChar_ne_zero n ‹_› hn⟩
    · obtain ⟨c, cs, hcs, hc⟩ := ih (n / 10) (by omega) (by omega)
      exact ⟨c, cs ++ [Nat.digitChar (n % 10)], by rw [hcs]; rfl, hc⟩

theorem isDigitByte_of_isDigit {c : Char} (h : c.isDigit = true) :
    isDigitByte (UInt8.ofNat c.toNat) = true := by
  simp only [Char.isDigit, Bool.and_eq_true, decide_eq_true_eq] at h
  have h1 : 48 ≤ c.val.toNat := by simpa using UInt32.le_iff_toNat_le.1 h.1
  have h2 : c.val.toNat ≤ 57 := by simpa using UInt32.le_iff_toNat_le.1 h.2
  simp only [isDigitByte, Bool.and_eq_true, decide_eq_true_eq, UInt8.le_iff_toNat_le,
    UInt8.toNat_ofNat', UInt8.reduceToNat, Char.toNat]
  omega

theorem spanDigits_append {ds rest : List UInt8} {b : UInt8}
    (hd : ∀ x ∈ ds, isDigitByte x = true) (hb : isDigitByte b = false) :
    spanDigits (ds ++ b :: rest) = (ds, b :: rest) := by
  simp [spanDigits, List.takeWhile_append_of_pos hd, List.dropWhile_append_of_pos hd, hb]

/-- What may follow a number the writer prints: a comma or a line break. -/
def Closes (b : UInt8) : Prop := b = 0x2C ∨ b = 0x0A

theorem isDigitByte_of_closes {b : UInt8} (hb : Closes b) : isDigitByte b = false := by
  rcases hb with rfl | rfl <;> rfl

theorem readNumberTail_closes {sig : Nat} {b : UInt8} (hb : Closes b) (rest : List UInt8) :
    readNumberTail true sig 0 false (b :: rest) = .ok (.unsigned sig, b :: rest) := by
  rcases hb with rfl | rfl <;> rfl

/-- The digits of a number that fits a 64-bit word read back as that number. -/
theorem readNumberBytes_toDigits (n : Nat) (hn : n ≤ wordMax) {b : UInt8} (hb : Closes b)
    (rest : List UInt8) :
    readNumberBytes true ((Nat.toDigits 10 n).map (fun c => UInt8.ofNat c.toNat) ++ b :: rest) =
      .ok (.unsigned n, b :: rest) := by
  have hdigit : ∀ c ∈ Nat.toDigits 10 n, c.isDigit = true :=
    fun c hc => Nat.isDigit_of_mem_toDigits (by decide) (by decide) hc
  rcases Nat.eq_zero_or_pos n with rfl | hpos
  · have hz : (Nat.toDigits 10 0).map (fun c => UInt8.ofNat c.toNat) = [0x30] := by decide
    rw [hz, List.cons_append, List.nil_append, readNumberBytes]
    simp only [beq_self_eq_true, ↓reduceIte, isDigitByte_of_closes hb, Bool.false_eq_true]
    exact readNumberTail_closes hb rest
  · obtain ⟨c, cs, hcs, hc0⟩ := toDigits_head n hpos
    have hc := hdigit c (by rw [hcs]; exact List.mem_cons_self)
    have hcs' : ∀ c' ∈ cs, c'.isDigit = true :=
      fun c' h' => hdigit c' (by rw [hcs]; exact List.mem_cons_of_mem _ h')
    have hc57 : c.toNat ≤ 57 := by
      simp only [Char.isDigit, Bool.and_eq_true, decide_eq_true_eq] at hc
      simpa using UInt32.le_iff_toNat_le.1 hc.2
    have hbyte : (UInt8.ofNat c.toNat).toNat = c.toNat := by
      rw [UInt8.toNat_ofNat', Nat.mod_eq_of_lt (by omega)]
    have hne : (UInt8.ofNat c.toNat == 0x30) = false := by
      have : c.toNat ≠ 48 := fun h => hc0 (Char.ext (UInt32.toNat_inj.1 h))
      simp only [beq_eq_false_iff_ne, ne_eq, ← UInt8.toNat_inj, hbyte, UInt8.reduceToNat]
      exact this
    have hval : byteDigits ((UInt8.ofNat c.toNat).toNat - 0x30)
        (cs.map (fun c => UInt8.ofNat c.toNat)) = n := by
      have h := Nat.ofDigitChars_ten_toDigits (n := n)
      rw [hcs, Nat.ofDigitChars_cons] at h
      rw [byteDigits_digits cs hcs', hbyte, ← h]
      simp
    rw [hcs, List.map_cons, List.cons_append, readNumberBytes.eq_def]
    simp only [hne, isDigitByte_of_isDigit hc, Bool.false_eq_true, ↓reduceIte]
    rw [spanDigits_append (fun x hx => by
        obtain ⟨c', hc', rfl⟩ := List.mem_map.1 hx
        exact isDigitByte_of_isDigit (hcs' c' hc')) (isDigitByte_of_closes hb)]
    rw [accumulate_eq _ _ (hval ▸ hn), hval]
    exact readNumberTail_closes hb rest

/-- The bytes of one member of a written record: a new line, four blanks, the quoted
key, a colon and a blank, the value, then what follows. -/
def memberBytes (key : String) (value rest : List UInt8) : List UInt8 :=
  [0x0A, 0x20, 0x20, 0x20, 0x20, 0x22] ++ key.toList.flatMap String.utf8EncodeChar ++
    [0x22, 0x3A, 0x20] ++ value ++ rest

/-- The bytes of a text as a string literal, after its opening quote. -/
def quotedBytes (s : String) (rest : List UInt8) : List UInt8 :=
  (s.toList.flatMap escapeChar).flatMap String.utf8EncodeChar ++ 0x22 :: rest

/-- The bytes of a word in decimal. -/
def wordBytes (w : UInt32) : List UInt8 :=
  (Nat.toDigits 10 w.toNat).map (fun c => UInt8.ofNat c.toNat)

theorem wordText_bytes (w : UInt32) :
    (Version.wordText w).toList.flatMap String.utf8EncodeChar = wordBytes w := by
  rw [Version.wordText, Nat.toString_eq_repr, Nat.toList_repr]
  exact digits_bytes _ fun c hc => Nat.isDigit_of_mem_toDigits (by decide) (by decide) hc

theorem quote_bytes (s : String) :
    (quote s).toList.flatMap String.utf8EncodeChar = 0x22 :: quotedBytes s [] := by
  rw [quote, String.toList_ofList, List.cons_append, List.flatMap_cons, List.flatMap_append]
  rfl

/-- The bytes of a written record after its opening brace. -/
def recordBytes (r : Version.Record) : List UInt8 :=
  memberBytes "name" (0x22 :: quotedBytes r.name [])
    (0x2C :: memberBytes "major" (wordBytes r.major)
    (0x2C :: memberBytes "minor" (wordBytes r.minor)
    (0x2C :: memberBytes "patch" (wordBytes r.patch)
    (0x2C :: memberBytes "build" (wordBytes r.build) [0x0A, 0x7D, 0x0A]))))

theorem renderJson_bytes (r : Version.Record) :
    r.renderJson.toUTF8.toList = 0x7B :: recordBytes r := by
  have l1 : "\x7b\n    \"name\": ".toList.flatMap String.utf8EncodeChar =
      0x7B :: [0x0A, 0x20, 0x20, 0x20, 0x20, 0x22] ++ "name".toList.flatMap String.utf8EncodeChar ++
        [0x22, 0x3A, 0x20] := by decide
  have l2 : ",\n    \"major\": ".toList.flatMap String.utf8EncodeChar =
      0x2C :: [0x0A, 0x20, 0x20, 0x20, 0x20, 0x22] ++ "major".toList.flatMap String.utf8EncodeChar ++
        [0x22, 0x3A, 0x20] := by decide
  have l3 : ",\n    \"minor\": ".toList.flatMap String.utf8EncodeChar =
      0x2C :: [0x0A, 0x20, 0x20, 0x20, 0x20, 0x22] ++ "minor".toList.flatMap String.utf8EncodeChar ++
        [0x22, 0x3A, 0x20] := by decide
  have l4 : ",\n    \"patch\": ".toList.flatMap String.utf8EncodeChar =
      0x2C :: [0x0A, 0x20, 0x20, 0x20, 0x20, 0x22] ++ "patch".toList.flatMap String.utf8EncodeChar ++
        [0x22, 0x3A, 0x20] := by decide
  have l5 : ",\n    \"build\": ".toList.flatMap String.utf8EncodeChar =
      0x2C :: [0x0A, 0x20, 0x20, 0x20, 0x20, 0x22] ++ "build".toList.flatMap String.utf8EncodeChar ++
        [0x22, 0x3A, 0x20] := by decide
  have l6 : "\n\x7d\n".toList.flatMap String.utf8EncodeChar = [0x0A, 0x7D, 0x0A] := by decide
  unfold Version.Record.renderJson
  simp only [toUTF8_toList, String.toList_append, List.flatMap_append, l1, l2, l3, l4, l5, l6,
    quote_bytes, wordText_bytes]
  simp only [recordBytes, memberBytes, List.append_assoc, List.cons_append, List.nil_append]

theorem run_bind {α β : Type} (x : Scan α) (f : α → Scan β) (bs : List UInt8) :
    (x >>= f).run bs =
      match x.run bs with
      | .ok (a, bs') => (f a).run bs'
      | .error e => .error e := by
  rw [StateT.run_bind]
  rcases x.run bs with e | ⟨a, bs'⟩ <;> rfl

theorem skipBlanks_run (bs : List UInt8) :
    skipBlanks.run bs = .ok ((bs.dropWhile isBlankByte).head?, bs.dropWhile isBlankByte) := rfl

theorem advance_run (b : UInt8) (bs : List UInt8) : advance.run (b :: bs) = .ok ((), bs) := rfl

theorem except_pure {ε α : Type} (a : α) : (pure a : Except ε α) = .ok a := rfl

theorem pure_run {α : Type} (a : α) (bs : List UInt8) : (pure a : Scan α).run bs = .ok (a, bs) :=
  rfl

theorem nextKey_close (rest : List UInt8) :
    (nextKey false).run (0x0A :: 0x7D :: rest) = .ok (none, 0x7D :: rest) := by
  simp only [nextKey, run_bind, skipBlanks_run, List.dropWhile_cons, isBlankByte]
  simp [except_pure]

theorem nextKey_first {key : String} (hkey : key.toList.flatMap escapeChar = key.toList)
    (value rest : List UInt8) :
    (nextKey true).run (memberBytes key value rest) =
      .ok (some key, 0x3A :: 0x20 :: (value ++ rest)) := by
  have hread := readString_quoted key (0x3A :: 0x20 :: (value ++ rest))
  rw [hkey] at hread
  simp only [memberBytes, List.append_assoc, List.cons_append, List.nil_append]
  simp +decide only [nextKey, run_bind, skipBlanks_run, List.dropWhile_cons, List.head?_cons,
    advance_run, ↓reduceIte, pure_run, hread]

theorem nextKey_next {key : String} (hkey : key.toList.flatMap escapeChar = key.toList)
    (value rest : List UInt8) :
    (nextKey false).run (0x2C :: memberBytes key value rest) =
      .ok (some key, 0x3A :: 0x20 :: (value ++ rest)) := by
  have hread := readString_quoted key (0x3A :: 0x20 :: (value ++ rest))
  rw [hkey] at hread
  simp only [memberBytes, List.append_assoc, List.cons_append, List.nil_append]
  simp +decide only [nextKey, run_bind, skipBlanks_run, List.dropWhile_cons, List.head?_cons,
    advance_run, ↓reduceIte, pure_run, hread]

theorem readText_quoted (s : String) (rest : List UInt8) :
    readText.run (0x20 :: 0x22 :: quotedBytes s rest) = .ok (s, rest) := by
  have hread := readString_quoted s rest
  simp +decide only [readText, run_bind, skipBlanks_run, List.dropWhile_cons, List.head?_cons,
    advance_run, ↓reduceIte, quotedBytes, hread]

theorem objectColon_run (rest : List UInt8) : objectColon.run (0x3A :: rest) = .ok ((), rest) := by
  simp +decide only [objectColon, run_bind, skipBlanks_run, List.dropWhile_cons, ↓reduceIte,
    List.head?_cons, advance_run]

theorem recordMember_name {fs : Version.RecordFields} (h : fs.name = none) (s : String)
    (rest : List UInt8) :
    (Version.recordMember fs "name").run (0x3A :: 0x20 :: ((0x22 :: quotedBytes s []) ++ rest)) =
      .ok (.ok { fs with name := some s }, rest) := by
  have hq : (0x22 :: quotedBytes s []) ++ rest = 0x22 :: quotedBytes s rest := by
    simp [quotedBytes]
  simp +decide only [Version.recordMember, h, ↓reduceIte, run_bind, objectColon_run, hq,
    readText_quoted, pure_run]

theorem isBlankByte_of_isDigitByte {b : UInt8} (h : isDigitByte b = true) :
    isBlankByte b = false := by
  simp only [isDigitByte, Bool.and_eq_true, decide_eq_true_eq, UInt8.le_iff_toNat_le,
    UInt8.reduceToNat] at h
  simp only [isBlankByte, Bool.or_eq_false_iff, beq_eq_false_iff_ne, ne_eq, ← UInt8.toNat_inj,
    UInt8.reduceToNat]
  omega

theorem isDigitByte_ne_minus {b : UInt8} (h : isDigitByte b = true) : (b == 0x2D) = false := by
  simp only [isDigitByte, Bool.and_eq_true, decide_eq_true_eq, UInt8.le_iff_toNat_le,
    UInt8.reduceToNat] at h
  simp only [beq_eq_false_iff_ne, ne_eq, ← UInt8.toNat_inj, UInt8.reduceToNat]
  omega

/-- A written word starts with a digit. -/
theorem wordBytes_head (w : UInt32) : ∃ c cs, wordBytes w = c :: cs ∧ isDigitByte c = true := by
  cases hd : Nat.toDigits 10 w.toNat with
  | nil => exact absurd hd (Nat.toDigits_ne_nil)
  | cons c cs =>
    have hmem : c ∈ Nat.toDigits 10 w.toNat := by rw [hd]; exact List.mem_cons_self
    have hc : c.isDigit = true := Nat.isDigit_of_mem_toDigits (by decide) (by decide) hmem
    exact ⟨_, _, by rw [wordBytes, hd, List.map_cons], isDigitByte_of_isDigit hc⟩

theorem readNumber_run {positive : Bool} {bs rest : List UInt8} {n : Number}
    (h : readNumberBytes positive bs = .ok (n, rest)) :
    (readNumber positive).run bs = .ok (n, rest) := by
  simp only [readNumber, run_bind, StateT.run_get, except_pure, h]
  rfl

theorem readWord32_word (w : UInt32) {b : UInt8} (hb : Closes b) (rest : List UInt8) :
    readWord32.run (0x20 :: (wordBytes w ++ b :: rest)) = .ok (w, b :: rest) := by
  have hnum := readNumberBytes_toDigits w.toNat
    (Nat.le_trans (Nat.le_of_lt w.toNat_lt) (by decide)) hb rest
  have hlt : w.toNat < Nat.pow 2 32 := w.toNat_lt
  rw [← wordBytes] at hnum
  obtain ⟨c, cs, hcs, hc⟩ := wordBytes_head w
  rw [hcs, List.cons_append] at hnum
  rw [hcs]
  simp +decide only [readWord32, run_bind, skipBlanks_run, List.cons_append, List.dropWhile_cons,
    ↓reduceIte, isBlankByte_of_isDigitByte hc, List.head?_cons, isDigitByte_ne_minus hc, hc,
    Bool.false_eq_true, readNumber_run hnum, hlt, pure_run, UInt32.ofNat_toNat]

theorem readWordField_run {seen : Option UInt32} (h : seen = none) (key : String)
    (store : UInt32 → Version.RecordFields) (w : UInt32) {b : UInt8} (hb : Closes b)
    (rest : List UInt8) :
    (Version.readWordField seen key store).run (0x3A :: 0x20 :: (wordBytes w ++ b :: rest)) =
      .ok (.ok (store w), b :: rest) := by
  subst h
  simp only [Version.readWordField, run_bind, objectColon_run, readWord32_word w hb rest]
  rfl

section Members

variable {σ : Type} (member : σ → String → Scan (Except Problem σ)) (fuel : Nat) (first : Bool)

theorem foldMembers_key {s s' : σ} {key : String} {bs bs1 bs2 : List UInt8}
    (hkey : (nextKey first).run bs = .ok (some key, bs1))
    (hmem : (member s key).run bs1 = .ok (.ok s', bs2)) :
    (foldMembers member (fuel + 1) first s).run bs = (foldMembers member fuel false s').run bs2 := by
  simp only [foldMembers, run_bind, hkey, hmem]

theorem foldMembers_end {s : σ} {bs bs1 : List UInt8}
    (hkey : (nextKey first).run bs = .ok (none, bs1)) :
    (foldMembers member (fuel + 1) first s).run bs = .ok (.ok s, bs1) := by
  simp only [foldMembers, run_bind, hkey]
  rfl

end Members

/-- The members of a written record fill every field, and the closing brace is left. -/
theorem foldMembers_record (r : Version.Record) (fuel : Nat) :
    (foldMembers Version.recordMember (fuel + 6) true {}).run (recordBytes r) =
      .ok (.ok ⟨some r.name, some r.major, some r.minor, some r.patch, some r.build⟩,
        [0x7D, 0x0A]) := by
  have hname : "name".toList.flatMap escapeChar = "name".toList := by decide
  have hmajor : "major".toList.flatMap escapeChar = "major".toList := by decide
  have hminor : "minor".toList.flatMap escapeChar = "minor".toList := by decide
  have hpatch : "patch".toList.flatMap escapeChar = "patch".toList := by decide
  have hbuild : "build".toList.flatMap escapeChar = "build".toList := by decide
  have hcomma : Closes 0x2C := Or.inl rfl
  have hline : Closes 0x0A := Or.inr rfl
  unfold recordBytes
  rw [foldMembers_key _ _ _ (nextKey_first hname _ _) (recordMember_name rfl _ _),
    foldMembers_key _ _ _ (nextKey_next hmajor _ _)
      (by simp +decide only [Version.recordMember, ↓reduceIte]
          exact readWordField_run rfl _ _ _ hcomma _),
    foldMembers_key _ _ _ (nextKey_next hminor _ _)
      (by simp +decide only [Version.recordMember, ↓reduceIte]
          exact readWordField_run rfl _ _ _ hcomma _),
    foldMembers_key _ _ _ (nextKey_next hpatch _ _)
      (by simp +decide only [Version.recordMember, ↓reduceIte]
          exact readWordField_run rfl _ _ _ hcomma _),
    foldMembers_key _ _ _ (nextKey_next hbuild _ _)
      (by simp +decide only [Version.recordMember, ↓reduceIte]
          exact readWordField_run rfl _ _ _ hline _),
    foldMembers_end _ _ _ (nextKey_close _)]

theorem readRecordObject_run (r : Version.Record) :
    Version.readRecordObject.run (recordBytes r) = .ok (.ok r, [0x7D, 0x0A]) := by
  obtain ⟨k, hk⟩ : ∃ k, (recordBytes r).length + 1 = k + 6 := by
    refine ⟨(recordBytes r).length - 5, ?_⟩
    have : 5 ≤ (recordBytes r).length := by simp [recordBytes, memberBytes]
    omega
  simp only [Version.readRecordObject, run_bind, StateT.run_get, except_pure, hk,
    foldMembers_record]
  rfl

theorem endObject_run (rest : List UInt8) : endObject.run (0x7D :: rest) = .ok ((), rest) := by
  simp +decide only [endObject, run_bind, skipBlanks_run, List.dropWhile_cons, ↓reduceIte,
    List.head?_cons, advance_run]

/-- A written record reads back as itself. -/
theorem parseJson_renderJson (r : Version.Record) :
    Version.Record.parseJson r.renderJson = .ok r := by
  unfold Version.Record.parseJson runReader
  simp +decide only [renderJson_bytes, readRecord, run_bind, skipBlanks_run, List.dropWhile_cons,
    ↓reduceIte, List.head?_cons, advance_run, readRecordObject_run, endObject_run]
  rfl

end FirmwareStamp.Json
