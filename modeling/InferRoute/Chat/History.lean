import InferRoute.Chat.Message

/-!
From a conversation to the messages sent to a model: the system prompt first when it is not
empty, then each turn with non-empty text as a message of its role and text.
-/

namespace InferRoute

namespace Turn

/-- The turn as a message, when its text is not empty. -/
def toMessage? (t : Turn) : Option Message :=
  let text := t.content.flatten
  if text.isEmpty then none else some ⟨t.role, text⟩

end Turn

namespace Message

/-- The messages for a system prompt and a history. -/
def build (systemPrompt : String) (history : List Turn) : List Message :=
  (if systemPrompt.isEmpty then [] else [⟨.system, systemPrompt⟩]) ++ history.filterMap Turn.toMessage?

/-- The last message of the user. -/
def latestUser? (ms : List Message) : Option Message := ms.reverse.find? (·.role = .user)

/-- The text of the first system message. -/
def systemPrompt? (ms : List Message) : Option String := (ms.find? (·.role = .system)).map (·.content)

end Message

end InferRoute
