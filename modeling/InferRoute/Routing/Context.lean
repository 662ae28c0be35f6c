import InferRoute.Routing.Pattern
import InferRoute.Text.Blank
import InferRoute.Chat.History

/-!
How demanding a prompt looks. A prompt is complex when it has more than 500 characters, more than
100 words, or matches one of the complexity patterns (asking to analyze, to go step by step, to
implement, to debug, or to explain or review code). A list of messages is judged by its last user
message; without one it is simple.
-/

namespace InferRoute

/-- The sources of the complexity patterns, in the order they are tried. -/
def complexitySources : List String :=
  ["(?i)analyze|evaluate|compare", "(?i)step[- ]by[- ]step", "(?i)implement|refactor|optimize",
   "(?i)debug|fix|resolve", "(?i)explain.*code|review.*code"]

/-- The complexity patterns; a source outside the pattern language is left out. -/
def complexityPatterns : List Pattern := complexitySources.filterMap Pattern.compile

/-- More characters than this make a prompt complex. -/
def complexCharThreshold : Nat := 500

/-- More words than this make a prompt complex. -/
def complexWordThreshold : Nat := 100

/-- What routing looks at in a prompt. -/
structure RoutingContext where
  wordCount : Nat
  charCount : Nat
  matchedPatterns : List String
deriving Repr, DecidableEq, Inhabited

namespace RoutingContext

/-- The context of an empty prompt. -/
def empty : RoutingContext := ⟨0, 0, []⟩

/-- The words, characters and matching patterns of a prompt. -/
def analyze (text : String) : RoutingContext :=
  ⟨Blank.wordCount text, text.length,
    (complexityPatterns.filter (·.test text)).map (·.source)⟩

/-- The context of the last user message, or the empty context. -/
def ofMessages (ms : List Message) : RoutingContext :=
  match Message.latestUser? ms with
  | some m => analyze m.content
  | none => empty

/-- Whether the prompt is long, wordy, or matches a pattern. -/
def isComplex (c : RoutingContext) : Bool :=
  decide (c.charCount > complexCharThreshold) || decide (c.wordCount > complexWordThreshold) ||
    !c.matchedPatterns.isEmpty

end RoutingContext

end InferRoute
