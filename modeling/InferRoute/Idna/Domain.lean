import InferRoute.Idna.Mapping
import InferRoute.Idna.Punycode
import InferRoute.Unicode.Normal
import InferRoute.Unicode.Mark
import InferRoute.Unicode.Bidi
import InferRoute.Unicode.Joining

/-!
Domain names in ASCII, by IDNA compatibility processing (UTS #46) with the settings of web
addresses: nontransitional, hyphens anywhere, joiners and bidirectional text checked, no limit on
lengths, and the ASCII characters that a web address forbids in a host refused.

Every character is first mapped by the table (lower case, compatibility forms, dropped or
refused characters), the result brought to Normalization Form C and split into labels at full
stops. A label starting `xn--` stands for the label its Punycode decodes to, which must hold some
character outside ASCII. Each label must then be valid: in Normalization Form C, not itself
starting `xn--`, not starting with a mark, made only of characters the table keeps, with its
zero width joiners where they are allowed (RFC 5892, appendix A), and, when some label holds
right-to-left characters, laid out as RFC 5893 requires. A label with characters outside ASCII
is written `xn--` and its Punycode.
-/

namespace InferRoute.Idna

open InferRoute.Unicode

/-- The ASCII characters that a host of a web address may not hold: controls, the space,
delete, and the delimiters `%`, `#`, `/`, `:`, `<`, `>`, `?`, `@`, `[`, `\`, `]`, `^` and `|`. -/
def forbidden (c : Char) : Bool :=
  c.val ≤ 0x20 || c.val = 0x7F || "%#/:<>?@[\\]^|".toList.contains c

/-- The mapping step: each character replaced as the table says. None when a character is
disallowed or the result holds a forbidden one. -/
def mapAll (cs : List Char) : Option (List Char) := do
  let mapped ← cs.flatMapM mapChar
  if mapped.any forbidden then none else some mapped

/-- Whether a label starts with the prefix `xn--` of an encoded label. -/
def startsEncoded (label : List Char) : Bool := label.take 4 == ['x', 'n', '-', '-']

/-- Whether the character nearest before a position, skipping transparent ones, joins to the
right: the characters before are given nearest first. -/
def joinsFromLeft (before : List Char) : Bool :=
  match before.dropWhile (joiningType · = .transparent) with
  | b :: _ => joiningType b = .leftJoining || joiningType b = .dualJoining
  | [] => false

/-- Whether the character nearest after a position, skipping transparent ones, joins to the
left. -/
def joinsFromRight (after : List Char) : Bool :=
  match after.dropWhile (joiningType · = .transparent) with
  | a :: _ => joiningType a = .rightJoining || joiningType a = .dualJoining
  | [] => false

/-- Whether every zero width joiner and non-joiner of `after` stands where it may (`before`
holds the characters before it, nearest first): after a virama; a non-joiner also between a
character joining to its right and one joining to its left, transparent ones aside. -/
def joinersAllowed (before : List Char) : List Char → Bool
  | [] => true
  | c :: after =>
    let afterVirama := match before with
      | b :: _ => combiningClass b = viramaClass
      | [] => false
    let allowed :=
      if c.val = 0x200C then afterVirama || (joinsFromLeft before && joinsFromRight after)
      else if c.val = 0x200D then afterVirama
      else true
    allowed && joinersAllowed (c :: before) after

/-- Whether a class makes a domain one of bidirectional text: right-to-left, Arabic letter,
Arabic number. -/
def isRightToLeft : BidiClass → Bool
  | .rightToLeft | .arabicLetter | .arabicNumber => true
  | _ => false

/-- The classes allowed in a left-to-right label. -/
def ltrAllowed : BidiClass → Bool
  | .leftToRight | .europeanNumber | .europeanSeparator | .commonSeparator
  | .europeanTerminator | .otherNeutral | .boundaryNeutral | .nonspacingMark => true
  | _ => false

/-- The classes allowed in a right-to-left label. -/
def rtlAllowed : BidiClass → Bool
  | .rightToLeft | .arabicLetter | .arabicNumber | .europeanNumber | .europeanSeparator
  | .commonSeparator | .europeanTerminator | .otherNeutral | .boundaryNeutral
  | .nonspacingMark => true
  | _ => false

/-- The bidirectional rule of RFC 5893 for one label of a domain of bidirectional text. A label
starts with a left-to-right or right-to-left character. A left-to-right label holds only the
classes `ltrAllowed` names and ends, before any nonspacing marks, in a left-to-right character
or a European number. A right-to-left label holds only the classes `rtlAllowed` names, ends,
before any nonspacing marks, in a right-to-left character or a number, and does not mix
European and Arabic numbers. The empty label passes. -/
def bidiAllowed (label : List Char) : Bool :=
  let classes := label.map bidiClass
  let ending := (classes.reverse.dropWhile (· = .nonspacingMark)).head?
  match classes with
  | [] => true
  | .leftToRight :: rest =>
    rest.all ltrAllowed && (ending = some .leftToRight || ending = some .europeanNumber)
  | first :: rest =>
    (first = .rightToLeft || first = .arabicLetter) && rest.all rtlAllowed &&
      [some BidiClass.rightToLeft, some .arabicLetter, some .europeanNumber,
        some .arabicNumber].contains ending &&
      !(rest.contains .europeanNumber && rest.contains .arabicNumber)

/-- Whether a label is valid, the bidirectional rule aside. -/
def validLabel (label : List Char) : Bool :=
  isNfc label && !startsEncoded label && !label.contains '.' &&
    !(label.head?.map isMark).getD false &&
    label.all (fun c => status c = .valid) && joinersAllowed [] label

/-- The label a label stands for: an encoded one decoded, which must then hold a character
outside ASCII, any other as it is. -/
def labelOf? (label : List Char) : Option (List Char) :=
  if startsEncoded label then
    let code := label.drop 4
    if code.any (0x80 ≤ ·.toNat) then none
    else
      match Punycode.decode code with
      | some decoded => if decoded.all (·.toNat < 0x80) then none else some decoded
      | none => none
  else some label

/-- The labels of a text, split at full stops. -/
def labelsOf (cs : List Char) : List (List Char) :=
  ((String.ofList cs).splitOn ".").map String.toList

/-- A label in ASCII: itself when it is ASCII, else `xn--` and its Punycode. -/
def asciiLabel (label : List Char) : Option (List Char) :=
  if label.all (·.toNat < 0x80) then some label
  else (Punycode.encode label).map (['x', 'n', '-', '-'] ++ ·)

/-- A domain name in ASCII, or none when IDNA processing finds an error in it. -/
def toAscii (input : List Char) : Option String := do
  let mapped ← mapAll input
  let labels ← (labelsOf (nfc mapped)).mapM labelOf?
  let bidiDomain := labels.any (·.any fun c => isRightToLeft (bidiClass c))
  if !labels.all (fun l => validLabel l && (!bidiDomain || bidiAllowed l)) then none
  let ascii ← labels.mapM asciiLabel
  some (".".intercalate (ascii.map String.ofList))

end InferRoute.Idna
