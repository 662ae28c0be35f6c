import InferRoute.Json.Value

/-!
What a decoded answer stream yields: text deltas and one closing usage report, or an error that
ends the stream. Events have a JSON form tagged by `type`.
-/

namespace InferRoute

/-- An event of a decoded answer: new text, or the token usage that closes the answer. -/
inductive StreamEvent where
  | textDelta (text : String)
  | usage (inputTokens outputTokens : Nat)
deriving Repr, DecidableEq, Inhabited

namespace StreamEvent

/-- Whether the event is the usage report. -/
def isUsage : StreamEvent → Bool
  | .usage .. => true
  | .textDelta _ => false

/-- The JSON form: `{"type": "text_delta", "text"}` or
`{"type": "usage", "inputTokens", "outputTokens"}`. -/
def toJson : StreamEvent → Json
  | .textDelta text => Json.ofFields [("type", .string "text_delta"), ("text", .string text)]
  | .usage i o => Json.ofFields [("type", .string "usage"), ("inputTokens", .number (.nat i)),
      ("outputTokens", .number (.nat o))]

end StreamEvent

/-- Why a decoded stream ended early: a failed read, or the deadline. -/
inductive DecodeError where
  | transport (backend : String) (message : String)
  | timeout (backend : String) (budgetMs : Nat)
deriving Repr, DecidableEq, Inhabited

namespace DecodeError

/-- The message of a decode error. -/
def message : DecodeError → String
  | .transport backend msg => backend ++ " stream read error: " ++ msg
  | .timeout backend ms => backend ++ " stream timed out after " ++ toString ms ++ "ms"

end DecodeError

/-- An item of a decoded stream. -/
abbrev StreamItem := Except DecodeError StreamEvent

end InferRoute
