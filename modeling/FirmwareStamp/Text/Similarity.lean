/-!
How alike two words are, for suggesting a known word in place of a mistyped one. The
measure is the Jaro similarity: characters of the two words match when they are equal
and not further apart than half the longer word (less one), each character matching
at most once and the first free partner taken; the score combines the share of matched
characters in each word with the share of matches that stand in the same order.
Candidates scoring above 0.7 are suggested.
-/

namespace FirmwareStamp.Text

def window (lo hi : Nat) : List Nat := List.range' lo (hi - lo)

def matchFlags (a b : List Char) : Array Bool × Array Bool :=
  let reach := max a.length b.length / 2 - 1
  let bs := b.toArray
  a.zipIdx.foldl
    (fun (af, bf) (c, i) =>
      let hi := min b.length (i + reach + 1)
      match (window (i - reach) hi).find? (fun j => bs[j]? == some c && bf[j]? == some false) with
      | some j => (af.push true, bf.setIfInBounds j true)
      | none => (af.push false, bf))
    (#[], Array.replicate b.length false)

def flagged (cs : List Char) (flags : Array Bool) : List Char :=
  (cs.zip flags.toList).filterMap fun (c, f) => if f then some c else none

/-- The Jaro similarity of two words, between 0 and 1. -/
def jaro (a b : String) : Float :=
  let xs := a.toList
  let ys := b.toList
  if xs.isEmpty && ys.isEmpty then 1.0
  else if xs.isEmpty || ys.isEmpty then 0.0
  else
    let (af, bf) := matchFlags xs ys
    let ma := flagged xs af
    let mb := flagged ys bf
    let m := ma.length
    let t := ((ma.zip mb).countP fun (x, y) => x != y) / 2
    if m == 0 then 0.0
    else
      let mf := m.toFloat
      (mf / xs.length.toFloat + mf / ys.length.toFloat + (m - t).toFloat / mf) / 3.0

/-- The candidates scoring above 0.7 against a word, least alike first; equal scores
keep the candidates' order. -/
def similar (word : String) (candidates : List String) : List String :=
  let scored := candidates.filterMap fun c =>
    let s := jaro word c
    if s > 0.7 then some (s, c) else none
  (scored.mergeSort fun x y => x.1 ≤ y.1).map (·.2)

/-- The candidate most like a word, if one scores above 0.7; of equal scores the last. -/
def mostSimilar (word : String) (candidates : List String) : Option String :=
  (similar word candidates).getLast?

end FirmwareStamp.Text
