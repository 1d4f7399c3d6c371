/-!
# Decimal/Shortest — the fewest digits that read back

    0.1 + 0.2  ──shortest──▸  30000000000000004 · 10^(-17)

A number of double precision stands for an interval of reals: all that are rounded to it.  Its text
uses the fewest digits that name a point of the interval, and of those points the nearest one.  Only
the two neighbours of the number on a decimal grid need to be looked at: if any point of the grid is
in the interval, one of them is.
-/

namespace RestLoom.Decimal

/-- A positive number of double precision as `significand · 2^exponent`, and whether the numbers
below it lie twice as close as those above. -/
structure Binary where
  significand : Nat
  exponent : Int
  closerBelow : Bool

/-- The magnitude that bits stand for, if it is finite. -/
def Binary.ofBits (bits : UInt64) : Binary :=
  let fraction : Nat := bits.toNat % Nat.pow 2 52
  let scale : Nat := bits.toNat / Nat.pow 2 52 % 2048
  if scale = 0 then ⟨fraction, -1074, false⟩
  else ⟨Nat.pow 2 52 + fraction, (scale : Int) - 1075, fraction = 0 ∧ 1 < scale⟩

/-- A fraction of two natural numbers. -/
structure Ratio where
  num : Nat
  den : Nat

/-- The fraction `n · 2^e`. -/
def Ratio.ofScaled (n : Nat) (e : Int) : Ratio :=
  if 0 ≤ e then ⟨n * Nat.pow 2 e.toNat, 1⟩ else ⟨n, Nat.pow 2 (-e).toNat⟩

/-- A fraction divided by a power of ten. -/
def Ratio.shift (r : Ratio) (k : Int) : Ratio :=
  if 0 ≤ k then ⟨r.num, r.den * Nat.pow 10 k.toNat⟩ else ⟨r.num * Nat.pow 10 (-k).toNat, r.den⟩

/-- Whether one fraction is smaller than another one. -/
def Ratio.lt (a b : Ratio) : Bool := a.num * b.den < b.num * a.den

/-- The number of times a fraction below one has to be multiplied by ten to reach one. -/
def leadingZeros (r : Ratio) : Nat → Nat
  | 0 => 0
  | fuel + 1 => if r.den ≤ r.num then 0 else leadingZeros ⟨r.num * 10, r.den⟩ fuel + 1

/-- The exponent of the first digit of a positive fraction. -/
def firstExponent (r : Ratio) : Int :=
  if r.den ≤ r.num then ((toString (r.num / r.den)).length : Int) - 1
  else -(leadingZeros r 400 : Int)

/-- The interval of a number: its ends, and whether they belong to it. -/
structure Interval where
  low : Ratio
  high : Ratio
  closed : Bool

/-- Whether a natural number lies in an interval. -/
def Interval.mem (i : Interval) (n : Nat) : Bool :=
  let x : Ratio := ⟨n, 1⟩
  if i.closed then !x.lt i.low && !i.high.lt x else i.low.lt x && x.lt i.high

/-- The point in an interval nearest to a fraction among its two neighbours, an even one if they are
equally near. -/
def nearest? (v : Ratio) (i : Interval) : Option Nat :=
  let below := v.num / v.den
  let above := below + 1
  match i.mem below, i.mem above with
  | false, false => none
  | true, false => some below
  | false, true => some above
  | true, true =>
    let rest := 2 * (v.num % v.den)
    if rest < v.den then some below
    else if v.den < rest then some above
    else some (if below % 2 = 0 then below else above)

/-- The interval of a number divided by a power of ten. -/
def interval (b : Binary) (k : Int) : Interval :=
  let m := 4 * b.significand
  let low := if b.closerBelow then m - 1 else m - 2
  ⟨(Ratio.ofScaled low (b.exponent - 2)).shift k, (Ratio.ofScaled (m + 2) (b.exponent - 2)).shift k,
    b.significand % 2 = 0⟩

/-- Digits without zeros at their end, which count in the power of ten instead. -/
def dropZeros (n : Nat) (k : Int) : Nat → Nat × Int
  | 0 => (n, k)
  | fuel + 1 => if n % 10 = 0 then dropZeros (n / 10) (k + 1) fuel else (n, k)

/-- Tries grids of more and more digits. -/
def tryDigits (b : Binary) (first : Int) : Nat → Nat → Nat × Int
  | 0, _ => (b.significand, b.exponent)
  | fuel + 1, digits =>
    let k := first - digits + 1
    let v := (Ratio.ofScaled (4 * b.significand) (b.exponent - 2)).shift k
    match nearest? v (interval b k) with
    | some n => dropZeros n k 17
    | none => tryDigits b first fuel (digits + 1)

/-- The fewest digits of a positive number and the power of ten they are to be multiplied by. -/
def shortest (b : Binary) : Nat × Int :=
  tryDigits b (firstExponent (Ratio.ofScaled b.significand b.exponent)) 17 1

end RestLoom.Decimal
