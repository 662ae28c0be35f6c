/-!
Diagnostic records: a level, the component that wrote it, and a message. Levels are ordered from
the most severe; a record is shown when its level is at most the chosen one.
-/

namespace InferRoute

/-- How severe a record is, from `error` to `trace`. -/
inductive LogLevel where
  | error
  | warn
  | info
  | debug
  | trace
deriving Repr, DecidableEq, Inhabited

namespace LogLevel

/-- The rank of a level, `0` for `error`. -/
def rank : LogLevel → Nat
  | .error => 0
  | .warn => 1
  | .info => 2
  | .debug => 3
  | .trace => 4

/-- The level's name in capitals. -/
def label : LogLevel → String
  | .error => "ERROR"
  | .warn => "WARN"
  | .info => "INFO"
  | .debug => "DEBUG"
  | .trace => "TRACE"

end LogLevel

/-- A diagnostic record. -/
structure LogRecord where
  level : LogLevel
  target : String
  message : String
deriving Repr, DecidableEq, Inhabited

namespace LogRecord

/-- Lowercase hexadecimal digits of `n`, at least `width` of them. -/
def hex (width n : Nat) : String :=
  let ds := (Nat.toDigits 16 n).map Char.toLower
  String.ofList (List.replicate (width - ds.length) '0' ++ ds)

/-- A character of a message as a line shows it. The characters that would drive a terminal are
written as escapes: escape, bell, backspace, form feed and delete as `\xNN`, the C1 controls
U+0080 to U+009F as `\u{NN}`. Every other character stands for itself. -/
def shownChar (c : Char) : String :=
  if c.val = 0x1B || c.val = 0x07 || c.val = 0x08 || c.val = 0x0C || c.val = 0x7F then
    "\\x" ++ hex 2 c.toNat
  else if 0x80 ≤ c.val && c.val ≤ 0x9F then "\\u\x7b" ++ hex 1 c.toNat ++ "\x7d"
  else String.singleton c

/-- The record as a line: `LEVEL target: message`, the message's terminal controls escaped. -/
def render (r : LogRecord) : String :=
  r.level.label ++ " " ++ r.target ++ ": " ++ String.join (r.message.toList.map shownChar)

end LogRecord

namespace LogTarget

/-! The components that write records. -/

def client : String := "tarx_core::infrastructure::ai::client"
def routing : String := "tarx_core::infrastructure::ai::routing"
def transport : String := "tarx_core::infrastructure::ai::transport"
def retry : String := "tarx_core::infrastructure::ai::retry"
def config : String := "tarx_core::infrastructure::ai::config"
def health : String := "tarx_core::infrastructure::ai::health"
def breaker : String := "tarx_core::infrastructure::ai::circuit_breaker"
def streams : String := "tarx_ai_adapters::stream_handler"
def localStream : String := "tarx_ai_adapters::stream_handler::openai"
def meshStream : String := "tarx_ai_adapters::stream_handler::mesh"
def program : String := "tarx"

end LogTarget

end InferRoute
