/-!
Punycode (RFC 3492), the encoding of a label's code points into the letters, digits and hyphen
of ASCII. The ASCII characters of a label come first, then, after a hyphen, the others as
variable-length integers in base 36: each says how far to move through the positions and values
not yet used to reach the next character, taken in ascending order of code point. The digit
thresholds follow a bias that adapts to the sizes of the steps so far.

Decoding refuses a digit outside `a`–`z`, `A`–`Z`, `0`–`9`, an integer cut off by the end, a
value that leaves 32 bits, and a code point that is no Unicode scalar value. Encoding takes
labels of at most 3854 characters, for which no value leaves 32 bits, and decoding takes at most
2000 characters.
-/

namespace InferRoute.Idna.Punycode

/-- The largest value of 32 bits. -/
def wordMax : Nat := 0xFFFFFFFF

/-- The threshold of the digit at position `k`: digits below it end an integer. -/
def threshold (k bias : Nat) : Nat :=
  if k ≤ bias then 1 else if bias + 26 ≤ k then 26 else k - bias

theorem threshold_pos (k bias : Nat) : 1 ≤ threshold k bias := by
  unfold threshold; split
  · omega
  · split <;> omega

theorem threshold_le (k bias : Nat) : threshold k bias ≤ 26 := by
  unfold threshold; split
  · omega
  · split <;> omega

/-- Divides `delta` by 35 until it is at most 455, counting 36 for each division. -/
def adaptLoop (delta k : Nat) : Nat × Nat :=
  if 455 < delta then adaptLoop (delta / 35) (k + 36) else (delta, k)
termination_by delta
decreasing_by exact Nat.div_lt_self (by omega) (by omega)

/-- The bias after a step of size `delta` when `points` characters are placed; the first step is
damped by 700, the others by 2. -/
def adapt (delta points : Nat) (first : Bool) : Nat :=
  let d := if first then delta / 700 else delta / 2
  let (d, k) := adaptLoop (d + d / points) 0
  k + 36 * d / (d + 38)

/-- The character of a digit: `a` to `z` for 0 to 25, `0` to `9` for 26 to 35. -/
def digitChar (d : Nat) : Char :=
  if d < 26 then Char.ofNat (0x61 + d) else Char.ofNat (0x30 + d - 26)

/-- The digit a character stands for, letters of either case. -/
def digitValue? (c : Char) : Option Nat :=
  let n := c.toNat
  if 0x61 ≤ n && n ≤ 0x7A then some (n - 0x61)
  else if 0x41 ≤ n && n ≤ 0x5A then some (n - 0x41)
  else if 0x30 ≤ n && n ≤ 0x39 then some (n - 0x30 + 26)
  else none

/-- The digits of the variable-length integer `q`, the first at position `k`. -/
def encodeDigits (bias k q : Nat) : List Char :=
  let t := threshold k bias
  if q < t then [digitChar q]
  else digitChar (t + (q - t) % (36 - t)) :: encodeDigits bias (k + 36) ((q - t) / (36 - t))
termination_by q
decreasing_by
  have := threshold_pos k bias
  have := threshold_le k bias
  calc (q - threshold k bias) / (36 - threshold k bias)
      ≤ q - threshold k bias := Nat.div_le_self _ _
    _ < q := by omega

/-- Encoding in progress: the digits written, the step so far, the bias, and how many
characters are placed. -/
structure Encoding where
  out : List Char
  delta : Nat
  bias : Nat
  placed : Nat

/-- Passes over one character of the label while placing the code point `m`: a smaller one
lengthens the step, `m` itself ends it and writes it. `basic` counts the ASCII characters. -/
def passOver (basic m : Nat) (s : Encoding) (c : Char) : Encoding :=
  if c.toNat < m then { s with delta := s.delta + 1 }
  else if c.toNat = m then
    { out := s.out ++ encodeDigits s.bias 36 s.delta, delta := 0,
      bias := adapt s.delta (s.placed + 1) (s.placed = basic), placed := s.placed + 1 }
  else s

/-- Places the code points of `todo`, ascending, `n` being the one after the last placed. -/
def placeAll (label : List Char) (basic : Nat) : List Nat → Nat → Encoding → Encoding
  | [], _, s => s
  | m :: rest, n, s =>
    let s := { s with delta := s.delta + (m - n) * (s.placed + 1) }
    let s := label.foldl (passOver basic m) s
    placeAll label basic rest (m + 1) { s with delta := s.delta + 1 }

/-- The distinct code points of a list, ascending. -/
def ascending (ns : List Nat) : List Nat := ns.eraseDups.mergeSort

/-- The Punycode of a label, without the `xn--` prefix; none for a label over 3854 characters. -/
def encode (label : List Char) : Option (List Char) :=
  if label.length > 3854 then none
  else
    let basic := label.filter (·.toNat < 0x80)
    let others := ascending ((label.filter (0x80 ≤ ·.toNat)).map Char.toNat)
    let s := placeAll label basic.length others 0x80 ⟨[], 0, 72, basic.length⟩
    some (basic ++ (if basic.isEmpty then [] else ['-']) ++ s.out)

/-- Reads one variable-length integer at the front of `cs`, its first digit at position `k` with
weight `w`, adding to `i`: the sum and the rest, or none. -/
def readInteger (bias : Nat) : List Char → Nat → Nat → Nat → Option (Nat × List Char)
  | [], _, _, _ => none
  | c :: rest, k, w, i =>
    match digitValue? c with
    | none => none
    | some d =>
      if d * w > wordMax || i + d * w > wordMax then none
      else
        let t := threshold k bias
        if d < t then some (i + d * w, rest)
        else if w * (36 - t) > wordMax then none
        else readInteger bias rest (k + 36) (w * (36 - t)) (i + d * w)

theorem readInteger_length (bias : Nat) : ∀ (cs : List Char) (k w i : Nat) (r : Nat × List Char),
    readInteger bias cs k w i = some r → r.2.length < cs.length
  | [], _, _, _, _, h => by simp [readInteger] at h
  | c :: rest, k, w, i, r, h => by
    unfold readInteger at h
    split at h
    · simp at h
    · split at h
      · simp at h
      · dsimp only at h
        split at h
        · rw [← Option.some.inj h]; simp
        · split at h
          · simp at h
          · have := readInteger_length bias rest _ _ _ r h
            simp; omega

/-- Whether a number is a Unicode scalar value. -/
def isScalar (n : Nat) : Bool := n < 0xD800 || (0xDFFF < n && n ≤ 0x10FFFF)

/-- Inserts the characters the integers of `cs` describe into `out`. `n` is the last code point
inserted and `i` the position after it. -/
def decodeLoop (bias n i : Nat) (out : List Char) (cs : List Char) : Option (List Char) :=
  match cs with
  | [] => some out
  | c :: rest =>
    match h : readInteger bias (c :: rest) 36 1 i with
    | none => none
    | some (sum, more) =>
      let points := out.length + 1
      let n := n + sum / points
      let pos := sum % points
      if isScalar n then
        decodeLoop (adapt (sum - i) points (i = 0)) n (pos + 1) (out.insertIdx pos (Char.ofNat n))
          more
      else none
termination_by cs.length
decreasing_by exact readInteger_length bias (c :: rest) 36 1 i (sum, more) h

/-- The label that a Punycode text encodes, or none. The ASCII characters stand before the last
hyphen; without a hyphen there are none. -/
def decode (text : List Char) : Option (List Char) :=
  if text.length > 2000 then none
  else
    let (basic, digits) := match (text.reverse.span (· ≠ '-')) with
      | (revDigits, []) => ([], revDigits.reverse)
      | (revDigits, _ :: revBasic) => (revBasic.reverse, revDigits.reverse)
    if basic.any (0x80 ≤ ·.toNat) then none
    else decodeLoop 72 0x80 0 basic digits

end InferRoute.Idna.Punycode
