import Runboard.Url.Address

/-!
The ASCII form of a domain label with other characters: its ASCII characters, followed by the
others in order of code point, each as the distance from the one before it. Distances are written
in base 36 with the lowest digit first; thresholds that follow the size of the last distance mark
where each one ends.
-/

namespace Runboard.Url.Punycode

/-- The digit of a value below 36: letters first. -/
def digit (d : Nat) : Char :=
  if d < 26 then Char.ofNat ('a'.toNat + d) else Char.ofNat ('0'.toNat + (d - 26))

def digit? (c : Char) : Option Nat :=
  if 'a' ≤ c ∧ c ≤ 'z' then some (c.toNat - 'a'.toNat)
  else if 'A' ≤ c ∧ c ≤ 'Z' then some (c.toNat - 'A'.toNat)
  else if '0' ≤ c ∧ c ≤ '9' then some (c.toNat - '0'.toNat + 26)
  else none

/-- The threshold of a digit place under a bias. -/
def threshold (place bias : Nat) : Nat := min 26 (max 1 (place - bias))

theorem one_le_threshold (place bias : Nat) : 1 ≤ threshold place bias := by
  simp only [threshold]; omega

/-- Divides a distance until it is small, counting digit places. -/
def damp (distance place : Nat) : Nat :=
  if 455 < distance then damp (distance / 35) (place + 36)
  else place + 36 * distance / (distance + 38)
termination_by distance
decreasing_by exact Nat.div_lt_self (by omega) (by omega)

/-- The bias after a distance, when `count` characters are written. -/
def adapt (distance count : Nat) (first : Bool) : Nat :=
  let start := if first then distance / 700 else distance / 2
  damp (start + start / count) 0

def distanceDigits (bias place distance : Nat) : List Char :=
  let t := threshold place bias
  if distance < t then [digit distance]
  else
    digit (t + (distance - t) % (36 - t)) ::
      distanceDigits bias (place + 36) ((distance - t) / (36 - t))
termination_by distance
decreasing_by
  have h := one_le_threshold place bias
  exact Nat.lt_of_le_of_lt (Nat.div_le_self _ _) (by omega)

/-- The state of writing: what is written, the distance so far, the bias and how many characters
of the label are written. -/
structure Writing where
  out : List Char
  distance : Nat
  bias : Nat
  count : Nat

/-- Passes one character of the label while those with code point `point` are written. -/
def Writing.pass (basic point : Nat) (w : Writing) (c : Char) : Writing :=
  if c.toNat < point then { w with distance := w.distance + 1 }
  else if c.toNat = point then
    { out := w.out ++ distanceDigits w.bias 36 w.distance
      distance := 0
      bias := adapt w.distance (w.count + 1) (w.count = basic)
      count := w.count + 1 }
  else w

/-- Writes the characters of the given code points, in increasing order, from `least` on. -/
def Writing.points (label : List Char) (basic : Nat) : List Nat → Nat → Writing → Writing
  | [], _, w => w
  | point :: rest, least, w =>
    let w := { w with distance := w.distance + (point - least) * (w.count + 1) }
    let w := label.foldl (pass basic point) w
    points label basic rest (point + 1) { w with distance := w.distance + 1 }

/-- The ASCII form of a label, without its mark. -/
def encode (label : List Char) : List Char :=
  let basic := label.filter (·.toNat < 0x80)
  let points := ((label.filter (0x80 ≤ ·.toNat)).map Char.toNat).mergeSort.eraseDups
  let lead := if basic.isEmpty then [] else basic ++ ['-']
  let written : Writing :=
    Writing.points label basic.length points 0x80 ⟨[], 0, 72, basic.length⟩
  lead ++ written.out

/-- Reads one distance, added to `value`. -/
def readDistance (bias : Nat) : List Char → Nat → Nat → Nat → Option (Nat × List Char)
  | [], _, _, _ => none
  | c :: rest, place, weight, value => do
    let d ← digit? c
    let t := threshold place bias
    if d < t then return (value + d * weight, rest)
    readDistance bias rest (place + 36) (weight * (36 - t)) (value + d * weight)

/-- Reads distances and places the characters they stand for; the budget is the number of
digits left, of which each distance takes at least one. -/
def readPoints : Nat → List Char → Nat → Nat → Nat → List Char → Option (List Char)
  | _, [], _, _, _, out => some out
  | 0, _ :: _, _, _, _, _ => none
  | budget + 1, cs, point, place, bias, out => do
    let (value, rest) ← readDistance bias cs 36 1 place
    let size := out.length + 1
    let point := point + value / size
    if ¬ point.isValidChar then failure
    let index := value % size
    let out := out.take index ++ Char.ofNat point :: out.drop index
    readPoints budget rest point (index + 1) (adapt (value - place) size (place = 0)) out

/-- The label of an ASCII form, without its mark. -/
def decode? (cs : List Char) : Option (List Char) :=
  let tail := (cs.reverse.takeWhile (· ≠ '-')).reverse
  let lead := (cs.take (cs.length - tail.length)).dropLast
  readPoints tail.length tail 0x80 0 72 lead

end Runboard.Url.Punycode
