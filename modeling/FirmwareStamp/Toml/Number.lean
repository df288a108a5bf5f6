/-!
The ranges of TOML numbers once a document is read. An integer value is a signed 64-bit
word. An integer beyond that range is refused with the widest machine type it fits: the
unsigned 64-bit range ("u64 value was too large"), the signed or unsigned 128-bit range
(named with its value), or none at all ("integer number overflowed", also for a base
prefix without digits). A float overflows when its exact decimal value is at least
`2^1024 - 2^970`, the least value that rounds to infinity in double precision; `inf` and
`nan` are values of their own.
-/

namespace FirmwareStamp.Toml.Number

def digitValue (c : Char) : Nat :=
  if c.isDigit then c.toNat - 48
  else if 'a' ≤ c && c ≤ 'z' then c.toNat - 87
  else c.toNat - 55

/-- The value of digits of a base; `none` when there is no digit or one is out of the base. -/
def digitsValue (radix : Nat) (ds : List Char) : Option Nat :=
  if ds.isEmpty then none
  else if ds.all fun c => (c.isDigit || c.isAlpha) && digitValue c < radix then
    some (ds.foldl (fun acc c => acc * radix + digitValue c) 0)
  else none

/-- The value of an integer's digits: in base ten with an optional sign. -/
def integerValue (digits : List Char) (radix : Nat) : Option Int :=
  match digits with
  | '-' :: ds => (digitsValue radix ds).map fun n => -(n : Int)
  | '+' :: ds => (digitsValue radix ds).map fun n => (n : Int)
  | ds => (digitsValue radix ds).map fun n => (n : Int)

/-- An integer brought into the range of a value, or the message of why it is not one. -/
def integerInRange (digits : List Char) (radix : Nat) : Except String Int :=
  match integerValue digits radix with
  | none => .error "integer number overflowed"
  | some n =>
    if -Int.pow 2 63 ≤ n ∧ n < Int.pow 2 63 then .ok n
    else if 0 ≤ n ∧ n < Int.pow 2 64 then .error "u64 value was too large"
    else if -Int.pow 2 127 ≤ n ∧ n < Int.pow 2 127 then
      .error ("invalid type: integer `" ++ toString n ++ "` as i128, expected any valid TOML value")
    else if 0 ≤ n ∧ n < Int.pow 2 128 then
      .error ("invalid type: integer `" ++ toString n ++ "` as u128, expected any valid TOML value")
    else .error "integer number overflowed"

/-- An integer in the signed 64-bit range is a value. -/
theorem integerInRange_of_bounds {ds : List Char} {r : Nat} {n : Int}
    (hv : integerValue ds r = some n) (lo : -Int.pow 2 63 ≤ n) (hi : n < Int.pow 2 63) :
    integerInRange ds r = .ok n := by
  simp only [integerInRange, hv]
  rw [if_pos ⟨lo, hi⟩]

def decimal (ds : List Char) : Nat := ds.foldl (fun acc c => acc * 10 + (c.toNat - 48)) 0

/-- The least value that rounds to infinity in double precision. -/
def overflowBound : Nat := Nat.pow 2 970 * (Nat.pow 2 54 - 1)

/-- Whether `m · 10^e` (with `m > 0` of `d` digits) is at least `overflowBound`. -/
def atLeastBound (m d : Nat) (e : Int) : Bool :=
  if d + e ≤ 308 then false
  else if 310 ≤ d + e then true
  else if 0 ≤ e then decide (overflowBound ≤ m * Nat.pow 10 e.toNat)
  else decide (overflowBound * Nat.pow 10 e.natAbs ≤ m)

/-- A value below `10^308` never reaches the bound. -/
theorem atLeastBound_of_le {m d : Nat} {e : Int} (h : d + e ≤ 308) : atLeastBound m d e = false := by
  simp [atLeastBound, h]

/-- Whether a float's text (underscores dropped) is too large for a double. -/
def floatOverflows (text : List Char) : Bool :=
  let body := match text with
    | '+' :: r => r
    | '-' :: r => r
    | r => r
  if body == "inf".toList || body == "nan".toList then false
  else
    let whole := body.takeWhile Char.isDigit
    let rest := body.drop whole.length
    let (frac, rest) := match rest with
      | '.' :: r => (r.takeWhile Char.isDigit, r.dropWhile Char.isDigit)
      | r => ([], r)
    let exponent : Int := match rest with
      | _ :: '-' :: ds => -(decimal ds : Int)
      | _ :: '+' :: ds => decimal ds
      | _ :: ds => decimal ds
      | [] => 0
    let m := decimal (whole ++ frac)
    if m == 0 then false
    else atLeastBound m (Nat.toDigits 10 m).length (exponent - frac.length)

end FirmwareStamp.Toml.Number
