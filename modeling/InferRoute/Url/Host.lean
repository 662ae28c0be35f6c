import InferRoute.Url.Percent
import InferRoute.Idna.Domain
import InferRoute.Text.Utf8

/-!
Hosts of web addresses. A host is a domain name, an IPv4 address or an IPv6 address. Domains
of the well-known schemes are percent-decoded and brought to ASCII by IDNA processing, and a
domain whose last label is a number is read as an IPv4 address in the dotted notation that allows
hexadecimal and octal parts and fewer than four parts. Other schemes keep their host text, only escaping controls.
-/

namespace InferRoute

/-- Why text is not a web address. -/
inductive UrlError where
  | emptyHost
  | badDomain
  | invalidPort
  | invalidIpv4
  | invalidIpv6
  | invalidDomainCharacter
  | relativeWithoutBase
deriving Repr, DecidableEq

/-- The text of each reason. -/
def UrlError.message : UrlError → String
  | .emptyHost => "empty host"
  | .badDomain => "invalid international domain name"
  | .invalidPort => "invalid port number"
  | .invalidIpv4 => "invalid IPv4 address"
  | .invalidIpv6 => "invalid IPv6 address"
  | .invalidDomainCharacter => "invalid domain character"
  | .relativeWithoutBase => "relative URL without a base"

/-- The host of an address. -/
inductive Host where
  | domain (name : String)
  | ipv4 (address : Nat)
  | ipv6 (pieces : List Nat)
deriving Repr, DecidableEq

namespace Host

/-- The value of `c` as a digit of `radix` (at most 16). -/
def digitOf? (radix : Nat) (c : Char) : Option Nat :=
  let v :=
    if '0' ≤ c ∧ c ≤ '9' then some (c.toNat - 48)
    else if 'a' ≤ c ∧ c ≤ 'f' then some (c.toNat - 87)
    else if 'A' ≤ c ∧ c ≤ 'F' then some (c.toNat - 55)
    else none
  match v with
  | some d => if d < radix then some d else none
  | none => none

/-- The value of a nonempty run of digits of `radix`, `none` when a character is no digit. -/
def digitsValue? (radix : Nat) (cs : List Char) : Option Nat :=
  cs.foldlM (fun acc c => (digitOf? radix c).map (acc * radix + ·)) 0

/-- One dotted part of an IPv4 address: after `0x` hexadecimal (nothing after it is zero),
after another leading `0` octal, otherwise decimal; `none` when it is no such number. -/
def ipv4Part? : List Char → Option Nat
  | [] => none
  | '0' :: x :: rest =>
    if x = 'x' ∨ x = 'X' then digitsValue? 16 rest else digitsValue? 8 (x :: rest)
  | cs => digitsValue? 10 cs

/-- The dotted parts of a domain, a final empty part dropped. -/
def dottedParts (s : String) : List (List Char) :=
  let parts := (s.splitOn ".").map String.toList
  match parts.getLast? with
  | some [] => parts.dropLast
  | _ => parts

/-- Whether the last label of a domain (before a final dot) is a number, so that the domain
must be read as an IPv4 address. -/
def endsInNumber (s : String) : Bool :=
  match (dottedParts s).getLast? with
  | none => false
  | some last => (!last.isEmpty && last.all Char.isDigit) || (ipv4Part? last).isSome

/-- The largest 32-bit value. -/
def u32Max : Nat := Nat.pow 2 32 - 1

/-- An IPv4 address from one to four dotted parts: every part but the last is a byte, the last
fills the remaining bytes. -/
def ipv4Of (s : String) : Except UrlError Nat := do
  let parts := dottedParts s
  if parts.length > 4 || parts.isEmpty then throw .invalidIpv4
  let numbers ← parts.mapM fun p =>
    match ipv4Part? p with
    | some n => if n ≤ u32Max then pure n else throw UrlError.invalidIpv4
    | none => throw UrlError.invalidIpv4
  let front := numbers.dropLast
  let last := numbers.getLastD 0
  if last > u32Max / Nat.pow 2 (8 * front.length) then throw .invalidIpv4
  if front.any (· > 255) then throw .invalidIpv4
  let (_, total) := front.foldl (fun (i, acc) n => (i + 1, acc + n * Nat.pow 2 (8 * (3 - i))))
    (0, last)
  pure total

/-- The value of up to four hexadecimal digits at the front, their count, and the rest. -/
def hexPiece : Nat → List Char → Nat × Nat × List Char
  | 0, cs => (0, 0, cs)
  | n + 1, c :: rest =>
    match digitOf? 16 c with
    | some d =>
      let (v, k, r) := hexPiece n rest
      (d * Nat.pow 16 k + v, k + 1, r)
    | none => (0, 0, c :: rest)
  | _ + 1, [] => (0, 0, [])

/-- The decimal run at the front of an IPv4 part inside an IPv6 address: no leading zero
before more digits, at most 255. -/
def ipv4Byte : List Char → Option Nat → Except UrlError (Nat × List Char)
  | [], acc => match acc with | some v => pure (v, []) | none => throw .invalidIpv6
  | c :: rest, acc =>
    if c.isDigit then
      let d := c.toNat - 48
      match acc with
      | none => ipv4Byte rest (some d)
      | some 0 => throw .invalidIpv6
      | some v => if v * 10 + d > 255 then throw .invalidIpv6 else ipv4Byte rest (some (v * 10 + d))
    else match acc with | some v => pure (v, c :: rest) | none => throw .invalidIpv6

/-- The four bytes of an IPv4 address ending an IPv6 address, as two pieces. -/
def ipv4Tail (cs : List Char) : Except UrlError (List Nat) := do
  let (a, r) ← ipv4Byte cs none
  let r ← match r with | '.' :: r => pure r | _ => throw .invalidIpv6
  let (b, r) ← ipv4Byte r none
  let r ← match r with | '.' :: r => pure r | _ => throw .invalidIpv6
  let (c, r) ← ipv4Byte r none
  let r ← match r with | '.' :: r => pure r | _ => throw .invalidIpv6
  let (d, r) ← ipv4Byte r none
  if r.isEmpty then pure [a * 256 + b, c * 256 + d] else throw .invalidIpv6

/-- The pieces of an IPv6 address: `before` holds the pieces read so far, a `::` counting as
one zero piece, and `gap` the count of pieces up to and including that zero once a `::` was
read. -/
def ipv6Pieces : Nat → List Char → List Nat → Option Nat →
    Except UrlError (List Nat × Option Nat)
  | 0, _, _, _ => throw .invalidIpv6
  | _ + 1, [], before, gap => pure (before, gap)
  | fuel + 1, c :: rest, before, gap => do
    if before.length = 8 then throw .invalidIpv6
    if c = ':' then
      -- a `::` stands for at least one zero piece
      if gap.isSome then throw .invalidIpv6
      ipv6Pieces fuel rest (before ++ [0]) (some (before.length + 1))
    else
      let (value, count, after) := hexPiece 4 (c :: rest)
      match after with
      | '.' :: _ =>
        if count = 0 || before.length > 6 then throw .invalidIpv6
        let tail ← ipv4Tail (c :: rest)
        pure (before ++ tail, gap)
      | ':' :: more =>
        if count = 0 || more.isEmpty then throw .invalidIpv6
        ipv6Pieces fuel more (before ++ [value]) gap
      | [] =>
        if count = 0 then throw .invalidIpv6
        pure (before ++ [value], gap)
      | _ => throw .invalidIpv6

/-- The eight pieces of an IPv6 address written without brackets; a `::` stands for as many
zero pieces as are missing. -/
def ipv6Of (s : String) : Except UrlError (List Nat) := do
  let cs := s.toList
  if cs.length < 2 then throw .invalidIpv6
  let (start, before, gap) ← match cs with
    | ':' :: ':' :: rest => pure (rest, [0], some 1)
    | ':' :: _ => throw .invalidIpv6
    | _ => pure (cs, [], none)
  let (pieces, gap) ← ipv6Pieces (start.length + 1) start before gap
  if pieces.length > 8 then throw .invalidIpv6
  match gap with
  | some g => pure (pieces.take g ++ List.replicate (8 - pieces.length) 0 ++ pieces.drop g)
  | none => if pieces.length = 8 then pure pieces else throw .invalidIpv6

/-- The start and length of the longest run of zero pieces, the first of equal runs. -/
def longestZeros (pieces : List Nat) : Nat × Nat :=
  let step := fun (acc : Nat × Nat × Nat × Nat) (p : Nat) =>
    let (i, runStart, bestStart, bestLen) := acc
    if p = 0 then
      let len := i + 1 - runStart
      if len > bestLen then (i + 1, runStart, runStart, len) else (i + 1, runStart, bestStart, bestLen)
    else (i + 1, i + 1, bestStart, bestLen)
  let (_, _, s, l) := pieces.foldl step (0, 0, 0, 0)
  (s, l)

/-- A piece in lower-case hexadecimal without leading zeros. -/
def hexText (n : Nat) : String := String.ofList (Nat.toDigits 16 n)

/-- The pieces joined by colons, the longest run of two or more zero pieces written `::`. -/
def ipv6Text (pieces : List Nat) : String :=
  let (s, l) := longestZeros pieces
  let join (ps : List Nat) : String := ":".intercalate (ps.map hexText)
  if l < 2 then join pieces
  else join (pieces.take s) ++ "::" ++ join (pieces.drop (s + l))

/-- The text of a host in an address. -/
def render : Host → String
  | .domain name => name
  | .ipv4 a =>
    ".".intercalate ([a / Nat.pow 2 24, a / Nat.pow 2 16 % 256, a / Nat.pow 2 8 % 256, a % 256].map toString)
  | .ipv6 pieces => "[" ++ ipv6Text pieces ++ "]"

/-- A domain in ASCII by IDNA processing, its bytes read as UTF-8 with ill-formed parts
replaced; a domain in which processing finds an error is refused. -/
def domainToAscii (bytes : List UInt8) : Except UrlError String :=
  match Idna.toAscii (Utf8.decode bytes) with
  | some ascii => pure ascii
  | none => throw .badDomain

/-- The host of an address of a well-known scheme. -/
def ofSpecial (text : String) : Except UrlError Host := do
  let cs := text.toList
  if cs.head? = some '[' then
    if cs.getLast? ≠ some ']' then throw .invalidIpv6
    return .ipv6 (← ipv6Of (String.ofList (cs.drop 1).dropLast))
  let domain ← domainToAscii (Percent.decode (String.toUTF8 text).toList)
  if domain.isEmpty then throw .emptyHost
  if endsInNumber domain then return .ipv4 (← ipv4Of domain)
  return .domain domain

/-- Characters no host of another scheme may hold. -/
def deniedInHost (c : Char) : Bool :=
  "\x00\t\n\r #/:<>?@[\\]^|".toList.contains c

/-- The host of an address of another scheme: kept as written, controls escaped. -/
def ofOther (text : String) : Except UrlError Host := do
  let cs := text.toList
  if cs.head? = some '[' then
    if cs.getLast? ≠ some ']' then throw .invalidIpv6
    return .ipv6 (← ipv6Of (String.ofList (cs.drop 1).dropLast))
  if cs.any deniedInHost then throw .invalidDomainCharacter
  return .domain (Percent.encode PercentSet.controls cs)

end Host

end InferRoute
