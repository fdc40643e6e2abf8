/-!
# Shortest decimals

The shortest decimal that reads back as a given binary floating-point number. A positive number `m * 2 ^ q` stands
for all the reals that round to it. `Binary.shortest` looks for a decimal among them with one digit, then with two,
and so on; on each grid it tries the two neighbours of the number and takes the nearer one that is in the interval.

`Layout.text` lays these digits out.
-/

namespace Coordination.Decimal

/-- The number `m * 2 ^ q`. -/
structure Binary where
  m : Nat
  q : Int
  deriving DecidableEq, Repr

/-- The decimal `0.d₁…dₙ * 10 ^ point`. -/
structure Digits where
  digits : List Char
  point : Int
  deriving DecidableEq, Repr

namespace Binary

/-- The leading bit of a number, which its bit pattern leaves out. -/
def hidden : Nat := Nat.pow 2 52

/-- The magnitude of a finite 64-bit floating-point number, from its bit pattern. -/
def ofBits (bits : UInt64) : Binary :=
  let fraction := bits.toNat % hidden
  let exponent := bits.toNat / hidden % 2048
  if exponent = 0 then ⟨fraction, -1074⟩ else ⟨fraction + hidden, (exponent : Int) - 1075⟩

/-- The number as a fraction whose numerator is four times as fine as the last bit of `m`. -/
def fraction (b : Binary) : Nat × Nat :=
  if 2 ≤ b.q then (4 * b.m * Nat.pow 2 (b.q - 2).toNat, 1) else (4 * b.m, Nat.pow 2 (2 - b.q).toNat)

/-- How far the interval of a number reaches below and above it, in the units of `fraction`. The neighbour below a
power of two is nearer. -/
def reach (b : Binary) : Nat × Nat :=
  let unit := if 2 ≤ b.q then Nat.pow 2 (b.q - 2).toNat else 1
  if b.m = hidden ∧ b.q ≠ -1074 then (unit, 2 * unit) else (2 * unit, 2 * unit)

/-- The least `k` with `den ≤ num * 10 ^ k`, if it is at most `fuel`. -/
def leadingZeros (den : Nat) : Nat → Nat → Nat
  | 0, _ => 0
  | fuel + 1, num => if den ≤ num then 0 else leadingZeros den fuel (num * 10) + 1

/-- The exponent `p` with `10 ^ (p - 1) ≤ num / den < 10 ^ p`. -/
def point (num den : Nat) : Int :=
  if den ≤ num then (Nat.toDigits 10 (num / den)).length else 1 - (leadingZeros den 400 num : Int)

/-- The nearest decimal with `n` digits among those that read back as the number, if there is one. -/
def candidate (b : Binary) (p : Int) (n : Nat) : Option Nat :=
  let (num, den) := b.fraction
  let (below, above) := b.reach
  let shift : Int := n - p
  -- On the grid of `n` digits, a number `x` becomes `x * up / down`.
  let up := if 0 ≤ shift then Nat.pow 10 shift.toNat else 1
  let down := if 0 ≤ shift then 1 else Nat.pow 10 (-shift).toNat
  let scale := den * down
  let floor := num * up / scale
  let inside (d : Nat) : Bool :=
    if b.m % 2 = 0 then (num - below) * up ≤ d * scale && d * scale ≤ (num + above) * up
    else (num - below) * up < d * scale && d * scale < (num + above) * up
  let low := num * up - floor * scale
  let high := (floor + 1) * scale - num * up
  let nearer := if low < high ∨ (low = high ∧ floor % 2 = 0) then floor else floor + 1
  let farther := if nearer = floor then floor + 1 else floor
  if inside nearer then some nearer else if inside farther then some farther else none

/-- Tries `n` digits, then one more, at most `fuel` times. -/
def searchFrom (b : Binary) (p : Int) : Nat → Nat → Nat × Nat
  | 0, n => (0, n)
  | fuel + 1, n =>
    match b.candidate p n with
    | some d => (d, n)
    | none => searchFrom b p fuel (n + 1)

/-- The shortest decimal that reads back as a positive number, without zeros at its end. -/
def shortest (b : Binary) : Digits :=
  let (num, den) := b.fraction
  let p := point num den
  let (d, n) := b.searchFrom p 17 1
  let digits := Nat.toDigits 10 d
  ⟨(digits.reverse.dropWhile (· == '0')).reverse, p + digits.length - n⟩

end Binary

/-- How decimals are laid out. -/
structure Layout where
  /-- Exponents from `least` to `greatest` are not written; the point is moved instead. -/
  least : Int
  greatest : Int
  deriving DecidableEq, Repr

namespace Layout

/-- An exponent with its sign. -/
def exponent (e : Int) : String := (if e < 0 then "-" else "+") ++ toString e.natAbs

/-- The digits with a decimal point, before and after which there is at least one digit, or with an exponent. -/
def write (l : Layout) (d : Digits) : String :=
  let e := d.point - 1
  let size := d.digits.length
  if l.least ≤ e ∧ e < 0 then "0." ++ String.ofList (List.replicate (-d.point).toNat '0' ++ d.digits)
  else if 0 ≤ e ∧ e ≤ l.greatest then
    let whole := d.point.toNat
    if size ≤ whole then String.ofList (d.digits ++ List.replicate (whole - size) '0') ++ ".0"
    else String.ofList (d.digits.take whole) ++ "." ++ String.ofList (d.digits.drop whole)
  else
    match d.digits with
    | [] => "0.0"
    | [c] => c.toString ++ "e" ++ exponent e
    | c :: cs => c.toString ++ "." ++ String.ofList cs ++ "e" ++ exponent e

/-- A finite floating-point number as its shortest decimal. -/
def text (l : Layout) (x : Float) : String :=
  let bits := x.toBits
  let sign := if 2 * bits.toNat ≥ UInt64.size then "-" else ""
  let b := Binary.ofBits bits
  sign ++ if b.m = 0 then "0.0" else l.write b.shortest

end Layout

end Coordination.Decimal
