import InferRoute.Number.Binary

/-!
Decimal text of binary floating point numbers. `shortest` finds the fewest significant digits
that read back as the same value, the nearest such digits when several do; `FloatLayout` says
where those digits go: with or without an exponent, and whether an integral value keeps a `.0`.
-/

namespace InferRoute

/-- A decimal number `digits · 10^exp10`. -/
structure Decimal where
  digits : Nat
  exp10 : Int
deriving Repr, DecidableEq, Inhabited

namespace Decimal

/-- Removes trailing zero digits, keeping the value. -/
def normalize (d : Decimal) : Decimal :=
  let rec go : Nat → Nat → Int → Decimal
    | 0, n, e => ⟨n, e⟩
    | fuel + 1, n, e => if n ≠ 0 ∧ n % 10 = 0 then go fuel (n / 10) (e + 1) else ⟨n, e⟩
  go (Nat.log2 d.digits + 1) d.digits d.exp10

/-- The number of decimal digits of `n`, counting `0` as one digit. -/
def digitCount (n : Nat) : Nat := (Nat.toDigits 10 n).length

end Decimal

namespace Exact

/-- `num / den` as a pair of naturals for `m · 2^e`. -/
def ratioOf (m : Nat) (e : Int) : Nat × Nat := (m * Nat.pow 2 e.toNat, Nat.pow 2 (-e).toNat)

/-- Compares `a / b` with `c / d` for positive `b` and `d`. -/
def compareRatio (a b c d : Nat) : Ordering := compare (a * d) (c * b)

/-- The integer part of `log₁₀ (num / den)` for positive `num` and `den`: an estimate from the
bit lengths, then corrected by exact comparison. -/
def floorLog10 (num den : Nat) : Int :=
  let bits : Int := (Nat.log2 num : Int) - (Nat.log2 den : Int)
  let guess : Int := bits * 30103 / 100000
  let below (k : Int) : Bool :=
    -- 10^k ≤ num / den
    compareRatio (Nat.pow 10 k.toNat) (Nat.pow 10 (-k).toNat) num den != .gt
  let rec down : Nat → Int → Int
    | 0, k => k
    | fuel + 1, k => if below k then k else down fuel (k - 1)
  let rec up : Nat → Int → Int
    | 0, k => k
    | fuel + 1, k => if below (k + 1) then up fuel (k + 1) else k
  up 4 (down 4 guess)

end Exact

namespace BinaryFloat

/-- The digits of a positive finite value `m · 2^e` of format `f` with the fewest significant
digits that lie in its rounding interval, the interval's ends belonging to it when `m` is even;
of two such candidates on one decimal grid the nearer, an exact tie going to the even one. -/
def shortestOf (f : FloatFormat) (m : Nat) (e : Int) : Decimal :=
  -- Bounds in units of 2^(e-2): the value is 4m, the gap above is 4, the gap below is 4 or 2.
  let lowerGap := if m = Nat.pow 2 (f.precision - 1) ∧ e > f.quantum then 1 else 2
  let inclusive := m % 2 = 0
  let (vn, vd) := Exact.ratioOf (4 * m) (e - 2)
  let (hn, hd) := Exact.ratioOf (4 * m + 2) (e - 2)
  let (ln, ld) := Exact.ratioOf (4 * m - lowerGap) (e - 2)
  let inside (c : Nat) (s : Int) : Bool :=
    let (cn, cd) := (c * Nat.pow 10 s.toNat, Nat.pow 10 (-s).toNat)
    let lo := Exact.compareRatio ln ld cn cd
    let hi := Exact.compareRatio cn cd hn hd
    if inclusive then lo != .gt && hi != .gt else lo == .lt && hi == .lt
  let top := Exact.floorLog10 vn vd
  let rec search : Nat → Nat → Decimal
    | 0, _ => ⟨m, 0⟩
    | fuel + 1, n =>
      let s := top - (n : Int) + 1
      let c := vn * Nat.pow 10 (-s).toNat / (vd * Nat.pow 10 s.toNat)
      let okLow := inside c s
      let okHigh := inside (c + 1) s
      if okLow ∧ okHigh then
        -- compare the distances to the value: 2v against (2c + 1) · 10^s
        match Exact.compareRatio (2 * vn) vd ((2 * c + 1) * Nat.pow 10 s.toNat) (Nat.pow 10 (-s).toNat) with
        | .lt => (⟨c, s⟩ : Decimal).normalize
        | .gt => (⟨c + 1, s⟩ : Decimal).normalize
        | .eq => (if c % 2 = 0 then (⟨c, s⟩ : Decimal) else ⟨c + 1, s⟩).normalize
      else if okLow then (⟨c, s⟩ : Decimal).normalize
      else if okHigh then (⟨c + 1, s⟩ : Decimal).normalize
      else search fuel (n + 1)
  search (f.precision + 2) 1

/-- The shortest digits of a finite value; zero is `0 · 10^0`. -/
def shortest (f : FloatFormat) : BinaryFloat → Decimal
  | .finite _ m e => if m = 0 then ⟨0, 0⟩ else shortestOf f m e
  | _ => ⟨0, 0⟩

end BinaryFloat

/-- Where the digits of a number go. A value whose decimal magnitude `k` (it lies in
`[10^(k-1), 10^k)`) satisfies `lowest < k ≤ highest` is written positionally, others as
`d.ddde±k`; `none` leaves that side unbounded. With `pointZero` an integral value written
positionally ends in `.0`; with `plusSign` a positive exponent is written with its sign. -/
structure FloatLayout where
  lowest : Option Int
  highest : Option Int
  pointZero : Bool
  plusSign : Bool
deriving Repr, DecidableEq

namespace FloatLayout

/-- Always positional, an integral value marked by `.0`: `1e300` is a one and 300 zeros, `.0`. -/
def positional : FloatLayout := ⟨none, none, true, false⟩

/-- Positional from `1e-5` up to below `1e16`, otherwise with a signed exponent, as in `1e+16`,
`1.5e-7`. -/
def compact : FloatLayout := ⟨some (-5), some 16, true, true⟩

/-- `n` zeros. -/
def zeros (n : Nat) : String := String.ofList (List.replicate n '0')

/-- The text of nonnegative digits `d · 10^s` with no trailing zeros in `d`. -/
def render (l : FloatLayout) (d : Decimal) : String :=
  let ds := String.ofList (Nat.toDigits 10 d.digits)
  let n := ds.length
  let k : Int := (n : Int) + d.exp10
  let aboveLow : Bool := match l.lowest with | none => true | some lo => decide (lo < k)
  let belowHigh : Bool := match l.highest with | none => true | some hi => decide (k ≤ hi)
  if d.digits = 0 then (if l.pointZero then "0.0" else "0")
  else if aboveLow && belowHigh then
    if 0 ≤ d.exp10 then
      ds ++ zeros d.exp10.toNat ++ (if l.pointZero then ".0" else "")
    else if 0 < k then
      String.ofList (ds.toList.take k.toNat) ++ "." ++ String.ofList (ds.toList.drop k.toNat)
    else
      "0." ++ zeros (-k).toNat ++ ds
  else
    let exponent := (if l.plusSign && 0 < k - 1 then "+" else "") ++ toString (k - 1)
    match ds.toList with
    | [c] => String.singleton c ++ "e" ++ exponent
    | c :: rest => String.singleton c ++ "." ++ String.ofList rest ++ "e" ++ exponent
    | [] => "0e0"

/-- The text of a value of format `f`: the sign, then the shortest digits laid out by `l`;
`NaN`, `inf` and `-inf` for the values that are not finite. -/
def format (l : FloatLayout) (f : FloatFormat) (x : BinaryFloat) : String :=
  match x with
  | .nan => "NaN"
  | .inf neg => if neg then "-inf" else "inf"
  | .finite neg _ _ => (if neg then "-" else "") ++ l.render (x.shortest f)

end FloatLayout

end InferRoute
