/-!
Binary doubles and their shortest decimal text. A finite double is `m · 2^q`; the reals
that read back as it form an interval around it, closed when `m` is even. The shortest
text is the decimal with the fewest significant digits in that interval, the nearer of
two candidates when both qualify and the one ending in an even digit when they are equally
near, written positionally without an exponent. The
reverse direction, the double nearest to a positive rational, rounds half to even.
All arithmetic is exact on natural numbers.
-/

namespace FirmwareStamp.Decimal

/-- Sign, mantissa and binary exponent of a double's bit pattern: the value is
`mantissa · 2^exponent` for finite doubles. `lowerGapHalf` tells that the gap below
the value is half the gap above it (a power of two with a normal predecessor). -/
structure Unpacked where
  negative : Bool
  mantissa : Nat
  exponent : Int
  lowerGapHalf : Bool
  finite : Bool

def unpack (f : Float) : Unpacked :=
  let bits := f.toBits.toNat
  let biased := (bits >>> 52) % 2048
  let fraction := bits % Nat.pow 2 52
  let negative := bits >>> 63 == 1
  if biased == 0 then
    ⟨negative, fraction, -1074, false, true⟩
  else
    ⟨negative, fraction + Nat.pow 2 52, (biased : Int) - 1075, fraction == 0 && biased > 1,
      biased != 2047⟩

/-- `2 ^ e` for an integer exponent, as a numerator and a denominator. -/
def twoPow (e : Int) : Nat × Nat :=
  if e ≥ 0 then (Nat.pow 2 e.toNat, 1) else (1, Nat.pow 2 (-e).toNat)

/-- `10 ^ e` for an integer exponent, as a numerator and a denominator. -/
def tenPow (e : Int) : Nat × Nat :=
  if e ≥ 0 then (Nat.pow 10 e.toNat, 1) else (1, Nat.pow 10 (-e).toNat)

/-- Number of decimal digits of a positive number, less one. -/
def log10Floor (n : Nat) : Nat := (Nat.toDigits 10 n).length - 1

/-- The rounding interval of `m · 2^q`, scaled by a common denominator: the value,
its lower and upper ends, and the denominator. -/
def interval (u : Unpacked) : Nat × Nat × Nat × Nat :=
  let (num, den) := twoPow (u.exponent - 2)
  let value := 4 * u.mantissa * num
  let upper := (4 * u.mantissa + 2) * num
  let lower := (if u.lowerGapHalf then 4 * u.mantissa - 1 else 4 * u.mantissa - 2) * num
  (value, lower, upper, den)

/-- The decimal exponent `E` with `10^E ≤ value/den < 10^(E+1)`. -/
def decimalExponent (value den : Nat) : Int :=
  if value ≥ den then (log10Floor (value / den) : Int)
  else
    match (List.range 400).find? (fun t => value * Nat.pow 10 (t + 1) ≥ den) with
    | some t => -((t : Int) + 1)
    | none => -400

/-- Whether `c · 10^s` lies in the interval `[lower, upper]/den` (ends included when
`closed`). -/
def inInterval (c : Nat) (s : Int) (lower upper den : Nat) (closed : Bool) : Bool :=
  let (pn, pd) := tenPow s
  let x := c * pn * den
  let lo := lower * pd
  let hi := upper * pd
  if closed then lo ≤ x && x ≤ hi else lo < x && x < hi

/-- Distance of `c · 10^s` from `value/den`, scaled by `den · 10^-s` so that two
candidates on one grid compare. -/
def gridDistance (c : Nat) (s : Int) (value den : Nat) : Nat :=
  let (pn, pd) := tenPow s
  let x := c * pn * den
  let v := value * pd
  if x ≥ v then x - v else v - x

/-- The shortest decimal `(digits, exponent)` for a positive finite double, searched on
the grids of 1 to 17 significant digits; of two candidates equally near the double the
one ending in an even digit wins. -/
def shortest (u : Unpacked) : Nat × Int :=
  let (value, lower, upper, den) := interval u
  let closed := u.mantissa % 2 == 0
  let e := decimalExponent value den
  let rec search : Nat → Nat → Nat × Int
    | 0, _ => (u.mantissa, u.exponent)
    | fuel + 1, k =>
      let s : Int := e - (k : Int) + 1
      let (pn, pd) := tenPow s
      let low := (value * pd) / (pn * den)
      let high := low + 1
      let lowOk := inInterval low s lower upper den closed
      let highOk := inInterval high s lower upper den closed
      if lowOk && highOk then
        let dHigh := gridDistance high s value den
        let dLow := gridDistance low s value den
        if dHigh < dLow || (dHigh == dLow && high % 2 == 0) then (high, s)
        else (low, s)
      else if lowOk then (low, s)
      else if highOk then (high, s)
      else search fuel (k + 1)
  search 17 1

/-- Removes trailing zeros of the digits, raising the exponent. -/
def normalize : Nat → Int → Nat → Nat × Int
  | c, s, 0 => (c, s)
  | c, s, fuel + 1 => if c ≠ 0 ∧ c % 10 = 0 then normalize (c / 10) (s + 1) fuel else (c, s)

/-- Positional text of `c · 10^s`: no exponent, a point only when `s` is negative. -/
def positional (c : Nat) (s : Int) : String :=
  let digits := Nat.toDigits 10 c
  if s ≥ 0 then String.ofList (digits ++ List.replicate s.toNat '0')
  else
    let point := (-s).toNat
    if digits.length > point then
      String.ofList (digits.take (digits.length - point) ++ '.' :: digits.drop (digits.length - point))
    else
      String.ofList ('0' :: '.' :: List.replicate (point - digits.length) '0' ++ digits)

/-- The shortest positional text of a double: the fewest significant digits that read
back, a minus sign for negative values (negative zero included). -/
def shortestText (f : Float) : String :=
  let u := unpack f
  let sign := if u.negative then "-" else ""
  if !u.finite then
    if u.mantissa == Nat.pow 2 52 then sign ++ "inf" else "NaN"
  else if u.mantissa == 0 then sign ++ "0"
  else
    let (c, s) := shortest u
    let (c, s) := normalize c s 400
    sign ++ positional c s

/-- Scientific text of `c · 10^s`: the first digit, the others after a point, then `e`,
the exponent's sign and its digits. -/
def scientific (c : Nat) (s : Int) : String :=
  let digits := Nat.toDigits 10 c
  let e := s + ((digits.length - 1 : Nat) : Int)
  let mantissa := match digits with
    | d :: rest@(_ :: _) => String.ofList (d :: '.' :: rest)
    | _ => String.ofList digits
  mantissa ++ "e" ++ (if e ≥ 0 then "+" else "-") ++ toString e.natAbs

/-- The text a double shows when it is named in a message: the shortest digits that read
back, positional (with `.0` when integral) while the decimal exponent lies in `[-5, 16)`
and scientific beyond. -/
def displayText (f : Float) : String :=
  let u := unpack f
  let sign := if u.negative then "-" else ""
  if !u.finite then
    if u.mantissa == Nat.pow 2 52 then sign ++ "inf" else "NaN"
  else if u.mantissa == 0 then sign ++ "0.0"
  else
    let (c, s) := shortest u
    let (c, s) := normalize c s 400
    let e := s + (((Nat.toDigits 10 c).length - 1 : Nat) : Int)
    if -5 ≤ e ∧ e < 16 then
      let p := positional c s
      sign ++ (if s < 0 then p else p ++ ".0")
    else sign ++ scientific c s

def roundHalfEven (num den : Nat) : Nat :=
  let q := num / den
  let r := num % den
  if 2 * r > den then q + 1
  else if 2 * r < den then q
  else if q % 2 == 0 then q else q + 1

/-- The double nearest to the positive rational `num / den`, half to even; too large
a value gives infinity. -/
def nearest (num den : Nat) : Float :=
  if num = 0 then Float.ofBits 0
  else
    let b : Int := (Nat.log2 num : Int) - (Nat.log2 den : Int)
    -- first guess of the exponent that puts the mantissa in [2^52, 2^54)
    let q0 : Int := max (b - 53) (-1074)
    let (pn, pd) := twoPow q0
    let m0 := roundHalfEven (num * pd) (den * pn)
    -- move up while the mantissa has more than 53 bits
    let rec settle : Nat → Int → Nat → Nat × Int
      | 0, q, m => (m, q)
      | fuel + 1, q, m =>
        if m ≥ Nat.pow 2 53 then
          let (pn, pd) := twoPow (q + 1)
          settle fuel (q + 1) (roundHalfEven (num * pd) (den * pn))
        else (m, q)
    let (m, q) := settle 4 q0 m0
    if m < Nat.pow 2 52 then Float.ofBits m.toUInt64
    else if q > 971 then Float.ofBits 0x7FF0000000000000
    else Float.ofBits ((((q + 1075).toNat) * Nat.pow 2 52 + (m - Nat.pow 2 52)).toUInt64)

end FirmwareStamp.Decimal
