import InferRoute.Chat.Decode

/-! Turns written as JSON values read back as themselves. A role is written as its name; a
content as a string or as an array of parts; a part as an object tagged by `type`, an image with
its source (`null` when it has none, every field of a source written, `null` when absent), and a
part of another kind as `{"type": "other"}`, which names no kind this library reads and so
comes back as a part of another kind. Reading each back gives what was written
(`Turn.decode_toJson_self`): a list of parts never comes back as plain text, and the text of a turn
is kept. The proof goes part by part, one case per kind of part. -/

namespace InferRoute

namespace Role

theorem ofName?_name (r : Role) : ofName? r.name = some r := by
  cases r <;> rfl

theorem decode_name (r : Role) : decode (.string r.name) = .ok r := by
  simp [decode, ofNameE, ofName?_name]

end Role

namespace ContentPart

theorem optStringOf?_optText (x : Option String) : optStringOf? (optText x) = some x := by
  cases x <;> rfl

/-- An image source written with all three fields reads back as itself. -/
theorem sourceOf?_sourceJson (src : ImageSource) : sourceOf? (sourceJson src) = some src := by
  obtain ⟨kind, mediaType, data⟩ := src
  -- the members are in key order, `data`, `media_type`, then `type`
  have hfields : sourceJson ⟨kind, mediaType, data⟩ =
      .object [("data", optText data), ("media_type", optText mediaType), ("type", optText kind)] :=
    rfl
  simp [hfields, sourceOf?, optMember?, List.lookup_cons, optStringOf?_optText]

/-- Every part written as JSON reads back as itself, one kind of part at a time. -/
theorem decode?_toJson (p : ContentPart) : decode? p.toJson = some p := by
  cases p with
  | text t => rfl
  | image src =>
    cases src with
    | none => rfl
    | some src =>
      have hfields : toJson (.image (some src)) =
          .object [("source", sourceJson src), ("type", .string "image")] := rfl
      -- a source is an object, so it is read as a source and not as a missing one
      have hsource : imageOf? (some (sourceJson src)) = some (.image (some src)) := by
        show (sourceOf? (sourceJson src)).map (fun s => ContentPart.image (some s)) = _
        rw [sourceOf?_sourceJson]
        rfl
      simp [hfields, decode?, List.lookup_cons, tagOf?, hsource]
  | other => rfl

end ContentPart

namespace MessageContent

/-- Parts written one after another read back as the same parts. -/
theorem mapM_decode?_toJson (ps : List ContentPart) :
    (ps.map ContentPart.toJson).mapM ContentPart.decode? = some ps := by
  induction ps with
  | nil => rfl
  | cons p rest ih => simp [List.mapM_cons, ContentPart.decode?_toJson, ih]

theorem decode_toJson (c : MessageContent) : decode c.toJson = .ok c := by
  cases c with
  | text t => rfl
  | parts ps =>
    simp only [toJson, decode]
    rw [mapM_decode?_toJson]

end MessageContent

namespace Turn

/-- A turn written as a JSON value reads back as itself: its role, and its content, plain text or
parts of every kind, each image with whatever source fields it has. -/
theorem decode_toJson_self (t : Turn) : decode t.toJson = .ok t := by
  obtain ⟨role, content⟩ := t
  -- the object's members are in key order, `content` before `role`
  have hfields : (Turn.toJson ⟨role, content⟩) =
      .object [("content", content.toJson), ("role", .string role.name)] := rfl
  simp [decode, hfields, decodePair, Role.decode_name, MessageContent.decode_toJson]
  rfl

end Turn

end InferRoute
