import InferRoute.Json.Value

/-!
The model the client serves and what it offers: a context window of 32768 tokens, completions of
at most 4096 tokens, no images, no prompt cache, and no price. Its JSON form has camel-case keys,
and the prices are floating-point numbers.
-/

namespace InferRoute

/-- What a model offers and costs. -/
structure ModelInfo where
  contextWindow : Nat
  maxTokens : Nat
  supportsImages : Bool
  supportsPromptCache : Bool
  inputPrice : BinaryFloat
  outputPrice : BinaryFloat
deriving Repr, DecidableEq, Inhabited

/-- A model: its identifier and what it offers. -/
structure ModelDescriptor where
  id : String
  info : ModelInfo
deriving Repr, DecidableEq, Inhabited

namespace ModelInfo

/-- The JSON form, prices as floating-point numbers. -/
def toJson (i : ModelInfo) : Json :=
  Json.ofFields [("contextWindow", .number (.nat i.contextWindow)),
    ("maxTokens", .number (.nat i.maxTokens)), ("supportsImages", .bool i.supportsImages),
    ("supportsPromptCache", .bool i.supportsPromptCache),
    ("inputPrice", .number (.float i.inputPrice)), ("outputPrice", .number (.float i.outputPrice))]

end ModelInfo

namespace ModelDescriptor

/-- The context window of every served model, in tokens. -/
def contextWindow : Nat := 32768

/-- The longest completion of every served model, in tokens. -/
def maxTokens : Nat := 4096

/-- The descriptor of the served model `id`. -/
def served (id : String) : ModelDescriptor :=
  ⟨id, ⟨contextWindow, maxTokens, false, false, FloatFormat.binary64.ofNat 0,
    FloatFormat.binary64.ofNat 0⟩⟩

/-- The JSON form `{"id", "info"}`. -/
def toJson (d : ModelDescriptor) : Json :=
  Json.ofFields [("id", .string d.id), ("info", d.info.toJson)]

end ModelDescriptor

end InferRoute
