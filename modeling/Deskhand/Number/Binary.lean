/-!
# Doubles as exact numbers

A finite double is `± m · 2 ^ q` with natural `m`. `Binary.parts` takes a double apart, and `Binary.nearest`
gives the double nearest to a ratio of natural numbers, the one with the even mantissa where two are equally
near. Everything between them is exact arithmetic on natural numbers.
-/

namespace Deskhand.Binary

/-- A finite double as a sign, a natural mantissa and a power of two. -/
structure Parts where
  negative : Bool
  mantissa : Nat
  exponent : Int
  deriving DecidableEq, Repr

/-- The parts of a finite double. -/
def parts (x : Float) : Parts :=
  let bits := x.toBits.toNat
  let field : Nat := bits / Nat.pow 2 52 % Nat.pow 2 11
  let fraction := bits % Nat.pow 2 52
  if field = 0 then ⟨Nat.pow 2 63 ≤ bits, fraction, -1074⟩
  else ⟨Nat.pow 2 63 ≤ bits, Nat.pow 2 52 + fraction, (field : Int) - 1075⟩

/-- The quotient rounded to the nearest natural number, an exact half to the even neighbour. -/
def roundDiv (num den : Nat) : Nat :=
  let quotient := num / den
  let twice := 2 * (num % den)
  if twice > den || (twice == den && quotient % 2 == 1) then quotient + 1 else quotient

/-- The quotient of `num / den` by `2 ^ q`, rounded. -/
def scaled (num den : Nat) (q : Int) : Nat :=
  if 0 ≤ q then roundDiv num (den * Nat.pow 2 q.toNat) else roundDiv (num * Nat.pow 2 (-q).toNat) den

/-- The exponent at which `num / den` has a mantissa of 53 bits, or the least one there is. -/
def exponentOf (num den : Nat) : Int :=
  let q := (Nat.log2 num : Int) - Nat.log2 den - 52
  let small : Bool :=
    if 0 ≤ q then num < den * Nat.pow 2 (52 + q.toNat)
    else if -52 ≤ q then num < den * Nat.pow 2 (52 - (-q).toNat)
    else num * Nat.pow 2 ((-q).toNat - 52) < den
  max (if small then q - 1 else q) (-1074)

/-- The bits of positive infinity. -/
def infinityBits : Nat := 0x7FF0000000000000

/-- The double nearest to `num / den`, where `den` is positive; infinite when the ratio is too large. -/
def nearest (negative : Bool) (num den : Nat) : Float :=
  let magnitude :=
    if num = 0 then 0
    else
      let q := exponentOf num den
      min ((q + 1074).toNat * Nat.pow 2 52 + scaled num den q) infinityBits
  Float.ofBits (UInt64.ofNat ((if negative then Nat.pow 2 63 else 0) + magnitude))

/-- The double nearest to `m · 10 ^ e`. The power of ten is taken no further than doubles reach. -/
def ofDecimal (negative : Bool) (m : Nat) (e : Int) : Float :=
  let reach := e + (Nat.log2 m / 3 : Nat)
  if m = 0 then nearest negative 0 1
  else if reach < -400 then nearest negative 0 1
  else if e > 400 then nearest negative (Nat.pow 2 1100) 1
  else if 0 ≤ e then nearest negative (m * Nat.pow 10 e.toNat) 1
  else nearest negative m (Nat.pow 10 (-e).toNat)

/-- The double nearest to an integer; none when it is beyond every finite double. -/
def ofInt? (n : Int) : Option Float :=
  let x := nearest (n < 0) n.natAbs 1
  if x.isFinite then some x else none

/-- Whether a double is negative or minus zero. -/
def isNegative (x : Float) : Bool :=
  Nat.pow 2 63 ≤ x.toBits.toNat

/-- The integer below or at a finite double, and whether the double is equal to it. -/
def floor (x : Float) : Int × Bool :=
  let p := parts x
  let n := if p.negative then -(p.mantissa : Int) else p.mantissa
  if 0 ≤ p.exponent then (n * (Nat.pow 2 p.exponent.toNat : Nat), true)
  else
    let den : Int := (Nat.pow 2 (-p.exponent).toNat : Nat)
    (n.fdiv den, n.fmod den == 0)

/-- The integer that a finite double is equal to, if there is one. -/
def toInt? (x : Float) : Option Int :=
  if x.isFinite then
    match floor x with
    | (n, true) => some n
    | _ => none
  else none

/-- A finite double without its fraction; none for what is not a number or infinite. -/
def truncate? (x : Float) : Option Int :=
  if x.isFinite then
    let (n, exact) := floor x
    some (if exact || 0 ≤ n then n else n + 1)
  else none

end Deskhand.Binary
