/-!
Binary floating point computed exactly. A value of an IEEE interchange format is kept as a sign,
an integer significand and a power of two; every operation computes the exact result as a
rational number and rounds it once, to the nearest value of the format with ties to even. This is
what IEEE 754 asks of products, quotients and conversions, so the results agree bit for bit with
hardware arithmetic in either format.
-/

namespace InferRoute

/-- An IEEE binary interchange format: the significand width in bits (the leading bit counted)
and the largest exponent of a normal number. -/
structure FloatFormat where
  precision : Nat
  emax : Nat
deriving Repr, DecidableEq

namespace FloatFormat

/-- The 64-bit format (`double`). -/
def binary64 : FloatFormat := ⟨53, 1023⟩

/-- The 32-bit format (`float`). -/
def binary32 : FloatFormat := ⟨24, 127⟩

/-- Exponent of the least significant bit of the smallest subnormal number. -/
def quantum (f : FloatFormat) : Int := 2 - (f.emax : Int) - (f.precision : Int)

/-- Largest exponent of the least significant bit of a finite number. -/
def topQuantum (f : FloatFormat) : Int := (f.emax : Int) + 1 - (f.precision : Int)

end FloatFormat

/-- A value of a binary format: not-a-number, an infinity, or `(-1)^neg · mant · 2^exp`.
Rounding produces a canonical finite value: `mant < 2^precision`, and either the leading bit of
`mant` is set or `exp` is the format's quantum (a subnormal number or zero). -/
inductive BinaryFloat where
  | nan
  | inf (neg : Bool)
  | finite (neg : Bool) (mant : Nat) (exp : Int)
deriving Repr, DecidableEq, Inhabited

namespace Exact

/-- `a · 2^e2` compared with `b · 10^e10`, computed on natural numbers. -/
def compareScaled (a : Nat) (e2 : Int) (b : Nat) (e10 : Int) : Ordering :=
  let lhs := a * Nat.pow 2 e2.toNat * Nat.pow 10 (-e10).toNat
  let rhs := b * Nat.pow 10 e10.toNat * Nat.pow 2 (-e2).toNat
  compare lhs rhs

/-- `num · 2^k ≥ den`. -/
def scaledAtLeast (num den : Nat) (k : Int) : Bool :=
  num * Nat.pow 2 k.toNat ≥ den * Nat.pow 2 (-k).toNat

/-- The integer part of `log₂ (num / den · 2^k)` for positive `num` and `den`. The estimate from
the bit lengths is exact or one too large, and one comparison tells which. -/
def floorLog2 (num den : Nat) (k : Int) : Int :=
  let t : Int := (Nat.log2 num : Int) - (Nat.log2 den : Int) + k
  if scaledAtLeast num den (k - t) then t else t - 1

/-- `num · 2^k / den` rounded to the nearest integer, a tie going to the even one. -/
def roundHalfEven (num den : Nat) (k : Int) : Nat :=
  let n := num * Nat.pow 2 k.toNat
  let d := den * Nat.pow 2 (-k).toNat
  let q := n / d
  let r := n % d
  if 2 * r > d then q + 1 else if 2 * r < d then q else q + q % 2

end Exact

namespace FloatFormat

/-- The value of format `f` nearest to `(-1)^neg · num / den · 2^k`, ties to even; a magnitude
beyond the largest finite number rounds to infinity. -/
def round (f : FloatFormat) (neg : Bool) (num den : Nat) (k : Int) : BinaryFloat :=
  if num = 0 ∨ den = 0 then .finite neg 0 f.quantum
  else
    let e := max f.quantum (Exact.floorLog2 num den k - ((f.precision : Int) - 1))
    let m := Exact.roundHalfEven num den (k - e)
    let carried := m = Nat.pow 2 f.precision
    let m := if carried then m / 2 else m
    let e := if carried then e + 1 else e
    if e > f.topQuantum then .inf neg else .finite neg m e

/-- The value nearest to a natural number. -/
def ofNat (f : FloatFormat) (n : Nat) : BinaryFloat := f.round false n 1 0

/-- The value nearest to `(-1)^neg · digits · 10^exp10`. -/
def ofDecimal (f : FloatFormat) (neg : Bool) (digits : Nat) (exp10 : Int) : BinaryFloat :=
  f.round neg (digits * Nat.pow 10 exp10.toNat) (Nat.pow 10 (-exp10).toNat) 0

/-- The correctly rounded product. -/
def mul (f : FloatFormat) : BinaryFloat → BinaryFloat → BinaryFloat
  | .nan, _ => .nan
  | _, .nan => .nan
  | .inf a, .inf b => .inf (a != b)
  | .inf a, .finite b m _ => if m = 0 then .nan else .inf (a != b)
  | .finite a m _, .inf b => if m = 0 then .nan else .inf (a != b)
  | .finite a m e, .finite b n e' => f.round (a != b) (m * n) 1 (e + e')

/-- The correctly rounded quotient. -/
def div (f : FloatFormat) : BinaryFloat → BinaryFloat → BinaryFloat
  | .nan, _ => .nan
  | _, .nan => .nan
  | .inf _, .inf _ => .nan
  | .inf a, .finite b _ _ => .inf (a != b)
  | .finite a _ _, .inf b => .finite (a != b) 0 f.quantum
  | .finite a m e, .finite b n e' =>
    if n = 0 then (if m = 0 then .nan else .inf (a != b))
    else f.round (a != b) m n (e - e')

/-- The correctly rounded sum; an exact zero is negative only when both terms are. -/
def add (f : FloatFormat) : BinaryFloat → BinaryFloat → BinaryFloat
  | .nan, _ => .nan
  | _, .nan => .nan
  | .inf a, .inf b => if a == b then .inf a else .nan
  | .inf a, .finite .. => .inf a
  | .finite .., .inf b => .inf b
  | .finite a m e, .finite b n e' =>
    let k := min e e'
    let signed := fun (neg : Bool) (v : Nat) => if neg then -(v : Int) else (v : Int)
    let total := signed a (m * Nat.pow 2 (e - k).toNat) + signed b (n * Nat.pow 2 (e' - k).toNat)
    if total = 0 then .finite (a && b) 0 f.quantum
    else f.round (decide (total < 0)) total.natAbs 1 k

/-- The value of this format nearest to a value of another format. -/
def convert (f : FloatFormat) : BinaryFloat → BinaryFloat
  | .finite neg m e => f.round neg m 1 e
  | x => x

/-- The integer power `a^n` by repeated squaring: the bits of `n` from the lowest, each square
and each product rounded in the format, and one final reciprocal for a negative `n`. The
exponent is halved toward zero as in two's complement division, so the odd test reads the
lowest bit of `n` for negative `n` too. -/
def powInt (f : FloatFormat) (a : BinaryFloat) (n : Int) : BinaryFloat :=
  let one := f.ofNat 1
  let rec go : Nat → BinaryFloat → BinaryFloat → Int → BinaryFloat
    | 0, _, r, _ => r
    | fuel + 1, a, r, b =>
      let r := if b % 2 != 0 then f.mul r a else r
      let b := b.tdiv 2
      if b = 0 then r else go fuel (f.mul a a) r b
  let r := go 64 a one n
  if n < 0 then f.div one r else r

/-- The integer nearest to a value, a half going away from zero, as a value of the format; a zero
result keeps the value's sign. -/
def roundToIntegral (f : FloatFormat) : BinaryFloat → BinaryFloat
  | .finite neg m e =>
    if 0 ≤ e then .finite neg m e
    else
      let unit := Nat.pow 2 (-e).toNat
      let q := m / unit
      f.round neg (if 2 * (m % unit) ≥ unit then q + 1 else q) 1 0
  | x => x

end FloatFormat

namespace BinaryFloat

/-- Zero of either sign. -/
def isZero : BinaryFloat → Bool
  | .finite _ m _ => m = 0
  | _ => false

/-- The value with its sign flipped. -/
def negate : BinaryFloat → BinaryFloat
  | .nan => .nan
  | .inf neg => .inf (!neg)
  | .finite neg m e => .finite (!neg) m e

/-- Whether the value is an infinity. -/
def isInfinite : BinaryFloat → Bool
  | .inf _ => true
  | _ => false

/-- Whether the value is a number other than an infinity. -/
def isFinite : BinaryFloat → Bool
  | .finite .. => true
  | _ => false

/-- Whether the value is greater than zero. -/
def isPositive : BinaryFloat → Bool
  | .finite neg m _ => !neg && m != 0
  | .inf neg => !neg
  | .nan => false

/-- Conversion to an unsigned integer of at most `top` that saturates: the value is truncated
toward zero, not-a-number and everything below zero give zero, and everything above `top` gives
`top`. -/
def toNatSat (top : Nat) : BinaryFloat → Nat
  | .nan => 0
  | .inf neg => if neg then 0 else top
  | .finite neg m e =>
    if neg then 0 else min top (m * Nat.pow 2 e.toNat / Nat.pow 2 (-e).toNat)

/-- Conversion to an integer of `[lo, hi]` that saturates: the value is truncated toward zero,
not-a-number gives zero, and everything beyond a bound gives that bound. -/
def toIntSat (lo hi : Int) : BinaryFloat → Int
  | .nan => 0
  | .inf neg => if neg then lo else hi
  | .finite neg m e =>
    let t : Int := ((m * Nat.pow 2 e.toNat / Nat.pow 2 (-e).toNat : Nat) : Int)
    max lo (min hi (if neg then -t else t))

/-- The magnitude `mant · 2^exp` of a finite value as a pair of natural numbers
`(num, den)` with `num / den` equal to it. -/
def magnitude : BinaryFloat → Nat × Nat
  | .finite _ m e => (m * Nat.pow 2 e.toNat, Nat.pow 2 (-e).toNat)
  | _ => (0, 1)

/-- Whether a finite value is below another, compared exactly; not-a-number is below
nothing and nothing is below it, and the infinities are below or above every finite value. -/
def lt : BinaryFloat → BinaryFloat → Bool
  | .nan, _ => false
  | _, .nan => false
  | .inf a, .inf b => a && !b
  | .inf a, .finite .. => a
  | .finite .., .inf b => !b
  | .finite a m e, .finite b n e' =>
    let k := min e e'
    let signed := fun (neg : Bool) (v : Nat) => if neg then -(v : Int) else (v : Int)
    decide (signed a (m * Nat.pow 2 (e - k).toNat) < signed b (n * Nat.pow 2 (e' - k).toNat))

/-- The value held within `[lo, hi]`: below `lo` it is `lo`, above `hi` it is `hi`, and
not-a-number stays. -/
def clamp (lo hi x : BinaryFloat) : BinaryFloat :=
  if x.lt lo then lo else if hi.lt x then hi else x

end BinaryFloat

end InferRoute
