/-!
UTF-8 decoding that never fails. Well-formed sequences (RFC 3629) become their characters; each
maximal subpart of an ill-formed sequence becomes one U+FFFD, the practice that Unicode
recommends (chapter 3, "U+FFFD Substitution of Maximal Subparts").
-/

namespace InferRoute.Utf8

/-- What a lead octet asks of the octets after it: how many continuation octets follow, and the
range of the first of them (the later ones are always `0x80`–`0xBF`). -/
structure Lead where
  more : Nat
  low : UInt8
  high : UInt8
  /-- The bits of the lead octet that carry the code point. -/
  payload : Nat

/-- The lead-octet table of RFC 3629 §4; `none` for an octet that starts no character. -/
def lead (b : UInt8) : Option Lead :=
  let n := b.toNat
  if 0xC2 ≤ n ∧ n ≤ 0xDF then some ⟨1, 0x80, 0xBF, n % 0x20⟩
  else if n = 0xE0 then some ⟨2, 0xA0, 0xBF, 0⟩
  else if 0xE1 ≤ n ∧ n ≤ 0xEC then some ⟨2, 0x80, 0xBF, n % 0x10⟩
  else if n = 0xED then some ⟨2, 0x80, 0x9F, 0xD⟩
  else if 0xEE ≤ n ∧ n ≤ 0xEF then some ⟨2, 0x80, 0xBF, n % 0x10⟩
  else if n = 0xF0 then some ⟨3, 0x90, 0xBF, 0⟩
  else if 0xF1 ≤ n ∧ n ≤ 0xF3 then some ⟨3, 0x80, 0xBF, n % 0x08⟩
  else if n = 0xF4 then some ⟨3, 0x80, 0x8F, 4⟩
  else none

/-- The continuation octets that follow a lead: how many of the octets at the front of `bs` fit
(the first within `low`–`high`, the others within `0x80`–`0xBF`), at most `count`, and the code
point bits gathered from them onto `acc`. -/
def takeTail (count : Nat) (low high : UInt8) (acc : Nat) : List UInt8 → Nat × Nat
  | [] => (0, acc)
  | b :: rest =>
    match count with
    | 0 => (0, acc)
    | count + 1 =>
      if low ≤ b ∧ b ≤ high then
        let (k, v) := takeTail count 0x80 0xBF (acc * 64 + b.toNat % 64) rest
        (k + 1, v)
      else (0, acc)

theorem takeTail_le (count : Nat) (low high : UInt8) (acc : Nat) (bs : List UInt8) :
    (takeTail count low high acc bs).1 ≤ bs.length := by
  induction bs generalizing count low high acc with
  | nil => simp [takeTail]
  | cons b rest ih =>
    cases count with
    | zero => simp [takeTail]
    | succ count =>
      simp only [takeTail]
      split
      · have := ih count 0x80 0xBF (acc * 64 + b.toNat % 64)
        simp only [List.length_cons]
        omega
      · simp

/-- The replacement character U+FFFD. -/
def replacement : Char := '�'

/-- The characters of a byte sequence, each maximal ill-formed subpart read as one U+FFFD. -/
def decode (bs : List UInt8) : List Char :=
  match bs with
  | [] => []
  | b :: rest =>
    if b < 0x80 then Char.ofNat b.toNat :: decode rest
    else
      match lead b with
      | none => replacement :: decode rest
      | some l =>
        let (k, v) := takeTail l.more l.low l.high l.payload rest
        if k = l.more then Char.ofNat v :: decode (rest.drop k)
        else replacement :: decode (rest.drop k)
termination_by bs.length
decreasing_by
  all_goals simp only [List.length_cons, List.length_drop]
  all_goals omega

/-- A byte sequence read as text, ill-formed parts replaced. -/
def decodeLossy (bs : List UInt8) : String := String.ofList (decode bs)

/-- The UTF-8 octets of a text. -/
def encode (s : String) : List UInt8 := s.toUTF8.toList

end InferRoute.Utf8
