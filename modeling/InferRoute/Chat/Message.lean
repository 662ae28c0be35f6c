import InferRoute.Json.Value

/-!
Conversations: messages with a role and plain text, and turns whose content is plain text or a
list of parts (text, images, and parts of kinds this library does not use). A turn's text is its
text parts joined by line feeds; images and other parts carry no text.
-/

namespace InferRoute

/-- Who speaks a message. -/
inductive Role where
  | system
  | user
  | assistant
deriving Repr, DecidableEq, Inhabited

namespace Role

/-- The role's name. -/
def name : Role → String
  | .system => "system"
  | .user => "user"
  | .assistant => "assistant"

/-- Every role, in declaration order. -/
def all : List Role := [.system, .user, .assistant]

/-- The role of a name. -/
def ofName? (s : String) : Option Role := all.find? (·.name = s)

end Role

/-- A message: a role and its text. -/
structure Message where
  role : Role
  content : String
deriving Repr, DecidableEq, Inhabited

namespace Message

/-- The JSON form `{"role", "content"}`. -/
def toJson (m : Message) : Json :=
  Json.ofFields [("role", .string m.role.name), ("content", .string m.content)]

end Message

/-- Where an image comes from; every field is optional. -/
structure ImageSource where
  kind : Option String
  mediaType : Option String
  data : Option String
deriving Repr, DecidableEq, Inhabited

/-- A part of a turn's content. -/
inductive ContentPart where
  | text (text : String)
  | image (source : Option ImageSource)
  /-- A part of a kind this library does not use. -/
  | other
deriving Repr, DecidableEq, Inhabited

namespace ContentPart

/-- The text of a text part. -/
def asText? : ContentPart → Option String
  | .text t => some t
  | _ => none

/-- An optional text as JSON. -/
def optText : Option String → Json
  | some s => .string s
  | none => .null

/-- The JSON form of an image source: all three members, `null` when absent. -/
def sourceJson (s : ImageSource) : Json :=
  Json.ofFields [("type", optText s.kind), ("media_type", optText s.mediaType),
    ("data", optText s.data)]

/-- The JSON form, tagged by `type`: `text`, `image` or `other`. -/
def toJson : ContentPart → Json
  | .text t => Json.ofFields [("type", .string "text"), ("text", .string t)]
  | .image src =>
    Json.ofFields [("type", .string "image"), ("source", (src.map sourceJson).getD .null)]
  | .other => Json.ofFields [("type", .string "other")]

end ContentPart

/-- A turn's content: plain text, or parts. -/
inductive MessageContent where
  | text (text : String)
  | parts (parts : List ContentPart)
deriving Repr, DecidableEq, Inhabited

namespace MessageContent

/-- The content's text: the plain text, or the text parts joined by line feeds. -/
def flatten : MessageContent → String
  | .text t => t
  | .parts ps => "\n".intercalate (ps.filterMap ContentPart.asText?)

/-- The JSON form: a string, or an array of parts. -/
def toJson : MessageContent → Json
  | .text t => .string t
  | .parts ps => .array (ps.map ContentPart.toJson)

end MessageContent

/-- A turn of a conversation. -/
structure Turn where
  role : Role
  content : MessageContent
deriving Repr, DecidableEq, Inhabited

namespace Turn

/-- The JSON form `{"role", "content"}`. -/
def toJson (t : Turn) : Json :=
  Json.ofFields [("role", .string t.role.name), ("content", t.content.toJson)]

end Turn

end InferRoute
