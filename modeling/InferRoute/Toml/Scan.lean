/-!
Reading TOML text byte by byte. A reader either succeeds and moves the offset, or fails with a
`TomlFault` that records where it stopped. A failure is either open, when an enclosing choice
may still try another alternative from where it started, or committed, when the text can only
be wrong. On the way out a failure collects notes: what was being read (`invalid string`) and
what was expected there (`expected newline`); its message lists the innermost label, then all
expectations, then its cause.

Choices restore the offset before trying an alternative; the offset a failure reports is the
one where the failing step stood, except for steps that check a value after reading it, which
report the start of what they read.
-/

namespace InferRoute

/-- Something a reader expected to see. -/
inductive TomlExpected where
  | char (c : Char)
  | literal (s : String)
  | description (s : String)
deriving Repr, DecidableEq

/-- A note of a failed reader: what it was reading, or what it expected. -/
inductive TomlNote where
  | label (what : String)
  | expected (e : TomlExpected)
deriving Repr, DecidableEq

/-- A failed reading: the byte offset where it stopped, whether it is committed, its notes
from the innermost reader outwards, and a cause when a value was rejected. -/
structure TomlFault where
  offset : Nat
  committed : Bool
  notes : List TomlNote
  cause : Option String
deriving Repr

/-- The text of an expectation: characters and literals in backquotes, a newline by name. -/
def TomlExpected.render : TomlExpected → String
  | .char '\n' => "newline"
  | .char c => "\x60" ++ String.singleton c ++ "\x60"
  | .literal s => "\x60" ++ s ++ "\x60"
  | .description s => s

/-- The message of a failure: `invalid` and the innermost label, then the expectations, then
the cause, each on its own line. -/
def TomlFault.message (f : TomlFault) : String :=
  let label := f.notes.findSome? fun n => match n with | .label w => some w | _ => none
  let expected := f.notes.filterMap fun n => match n with | .expected e => some e.render | _ => none
  let parts := (label.map ("invalid " ++ ·)).toList ++
    (if expected.isEmpty then [] else ["expected " ++ ", ".intercalate expected]) ++ f.cause.toList
  "\n".intercalate parts

/-- Reading TOML text: the bytes are fixed, the offset moves. -/
abbrev TomlScan := ReaderT ByteArray (StateT Nat (Except TomlFault))

namespace TomlScan

variable {α : Type}

/-- The current offset. -/
def here : TomlScan Nat := get

/-- The byte at the offset, if any. -/
def peek : TomlScan (Option UInt8) := do
  return (← read)[← get]?

/-- The byte `k` places after the offset, if any. -/
def peekAt (k : Nat) : TomlScan (Option UInt8) := do
  return (← read)[(← get) + k]?

/-- Moves the offset by `n` bytes. -/
def skip (n : Nat) : TomlScan Unit := modify (· + n)

/-- Fails, open, at the offset. -/
def stop : TomlScan α := do
  throw ⟨← get, false, [], none⟩

/-- Fails, open, at `offset` because a value read there was rejected. -/
def reject (offset : Nat) (cause : String) : TomlScan α :=
  throw ⟨offset, false, [], some cause⟩

/-- Makes every failure of `p` committed. -/
def commit (p : TomlScan α) : TomlScan α :=
  tryCatch p fun e => throw { e with committed := true }

/-- Adds a note to every failure of `p`. -/
def note (n : TomlNote) (p : TomlScan α) : TomlScan α :=
  tryCatch p fun e => throw { e with notes := e.notes ++ [n] }

/-- Adds the label `what` to every failure of `p`. -/
def labelled (what : String) (p : TomlScan α) : TomlScan α := note (.label what) p

/-- Adds the expectation of a character to every failure of `p`. -/
def expectChar (c : Char) (p : TomlScan α) : TomlScan α := note (.expected (.char c)) p

/-- `p`, or else `q` from the same offset when `p` fails open; the failure of `q` is kept. -/
def orElse (p q : TomlScan α) : TomlScan α :=
  tryCatch p fun e => if e.committed then throw e else q

/-- `p`, or nothing from the same offset when `p` fails open. -/
def optional (p : TomlScan α) : TomlScan (Option α) :=
  tryCatch (some <$> p) fun e => if e.committed then throw e else pure none

/-- Runs `p` without moving the offset. -/
def lookAhead (p : TomlScan α) : TomlScan α := do
  let start ← get
  let v ← p
  set start
  pure v

/-- One byte satisfying `ok`, else an open failure. -/
def byteIf (ok : UInt8 → Bool) : TomlScan UInt8 := do
  match ← peek with
  | some b => if ok b then do skip 1; pure b else stop
  | none => stop

/-- One byte, else an open failure at the end. -/
def anyByte : TomlScan UInt8 := byteIf fun _ => true

/-- The given bytes, else an open failure at the offset. -/
def literal (lit : List UInt8) : TomlScan Unit := do
  let bs ← read
  let p ← get
  if (List.range lit.length).all (fun i => bs[p + i]? == lit[i]?) then skip lit.length
  else stop

/-- The end of the text, else an open failure. -/
def atEnd : TomlScan Unit := do
  if (← peek).isNone then pure () else stop

/-- The offset after the run of bytes satisfying `ok` from `p`. -/
def runEnd (bs : ByteArray) (ok : UInt8 → Bool) (p : Nat) : Nat :=
  if h : p < bs.size then
    if ok bs[p] then runEnd bs ok (p + 1) else p
  else p
termination_by bs.size - p

/-- Skips the run of bytes satisfying `ok`, possibly empty. -/
def scanWhile (ok : UInt8 → Bool) : TomlScan Unit := do
  set (runEnd (← read) ok (← get))

/-- Skips a nonempty run of bytes satisfying `ok`, else an open failure. -/
def scanWhile1 (ok : UInt8 → Bool) : TomlScan Unit := do
  let p ← get
  let e := runEnd (← read) ok p
  if e = p then stop else set e

/-- Skips between `lo` and `hi` bytes satisfying `ok`, as many as there are up to `hi`, and
fails open at the offset when there are fewer than `lo`. -/
def scanCount (ok : UInt8 → Bool) (lo hi : Nat) : TomlScan Unit := do
  let p ← get
  let e := min (runEnd (← read) ok p) (p + hi)
  if e - p < lo then stop else set e

/-- The text of the bytes from `start` to `stop`. -/
def textBetween (start stop : Nat) : TomlScan String := do
  let bs := (← read).extract start stop
  return (String.fromUTF8? bs).getD ""

/-- The value of `p` with the offsets where it started and ended. -/
def spanned (p : TomlScan α) : TomlScan (α × Nat × Nat) := do
  let start ← get
  let v ← p
  return (v, start, ← get)

/-- The text that `p` reads. -/
def taken (p : TomlScan α) : TomlScan String := do
  let (_, s, e) ← spanned p
  textBetween s e

/-- Repeats `p` while it succeeds, at most `fuel` times, stopping at its first open failure or
when it reads nothing; the offset stays where the last success left it. -/
def manyFrom (p : TomlScan α) : Nat → List α → TomlScan (List α)
  | 0, acc => pure acc.reverse
  | fuel + 1, acc => do
    let before ← get
    match ← optional p with
    | none => pure acc.reverse
    | some v => if (← get) = before then pure (v :: acc).reverse else manyFrom p fuel (v :: acc)

/-- `p` as often as it succeeds. -/
def many (p : TomlScan α) : TomlScan (List α) := do
  manyFrom p ((← read).size - (← get) + 1) []

/-- `p` at least once, then as often as it succeeds. -/
def many1 (p : TomlScan α) : TomlScan (List α) := do
  let v ← p
  return v :: (← many p)

/-- Items read by `p` and separated by what `sep` reads: none when the first item fails open,
and the list ends before a separator that is not followed by an item. -/
def sepBy (p : TomlScan α) (sep : TomlScan Unit) : TomlScan (List α) := do
  match ← optional p with
  | none => pure []
  | some v => return v :: (← many (do sep; p))

/-- At least one item read by `p`, separated by what `sep` reads. -/
def sepBy1 (p : TomlScan α) (sep : TomlScan Unit) : TomlScan (List α) := do
  let v ← p
  return v :: (← many (do sep; p))

/-- Runs a reader on the bytes from offset `start`. -/
def runAt (p : TomlScan α) (bytes : ByteArray) (start : Nat) : Except TomlFault (α × Nat) :=
  (p.run bytes).run start

end TomlScan

end InferRoute
