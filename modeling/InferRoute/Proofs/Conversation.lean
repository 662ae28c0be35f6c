import InferRoute.Proofs.Session

/-! From a conversation to the messages a model is sent, and what is read off them. The messages
are the system prompt when it is not empty, then, in order, the role and text of each turn that
has text (`Message.build_eq`). A turn's text joins its text parts with line feeds, and images and
parts of other kinds give none. So the last user message is the last user turn with text; the
system prompt read back is the one given, or else the first system turn with text; and routing
judges the text of that last user turn. The mesh query takes the last message as its prompt and
the system prompt read back as its own. It is the body of the only request that opening the
mesh's stream sends (`ClientM.openMesh_sends_query`), whatever the network answers. -/

namespace InferRoute

namespace Turn

/-- Whether a turn has text. -/
def hasText (t : Turn) : Bool := !t.content.flatten.isEmpty

/-- The message of a turn: its role and its text. -/
def asMessage (t : Turn) : Message := ⟨t.role, t.content.flatten⟩

theorem toMessage?_eq (t : Turn) :
    t.toMessage? = if t.hasText then some t.asMessage else none := by
  by_cases h : t.content.flatten.isEmpty <;> simp [toMessage?, hasText, asMessage, h]

end Turn

namespace Message

/-- The messages are the system prompt when it is not empty, then each turn with text, in order,
as its role and text. -/
theorem build_eq (systemPrompt : String) (history : List Turn) :
    build systemPrompt history =
      (if systemPrompt.isEmpty then [] else [⟨.system, systemPrompt⟩]) ++
        (history.filter Turn.hasText).map Turn.asMessage := by
  rw [build]
  congr 1
  induction history with
  | nil => rfl
  | cons t rest ih =>
    rw [List.filterMap_cons, Turn.toMessage?_eq, List.filter_cons]
    cases t.hasText <;> simp [ih]

/-- The last user message is the message of the last user turn with text. -/
theorem latestUser?_build (systemPrompt : String) (history : List Turn) :
    latestUser? (build systemPrompt history) =
      ((history.filter Turn.hasText).filter (·.role = .user)).getLast?.map Turn.asMessage := by
  -- the system prompt's message is no user message, so the last one comes from the turns
  have hsystem :
      ((if systemPrompt.isEmpty then [] else [⟨.system, systemPrompt⟩]) : List Message).filter
        (fun m => decide (m.role = .user)) = [] := by
    split <;> rfl
  rw [latestUser?, ← List.getLast?_filter, build_eq, List.filter_append, hsystem, List.nil_append,
    List.filter_map, List.getLast?_map]
  rfl

/-- The system prompt read back is the one given when it is not empty, and otherwise the text of
the first system turn with text. -/
theorem systemPrompt?_build (systemPrompt : String) (history : List Turn) :
    systemPrompt? (build systemPrompt history) =
      if systemPrompt.isEmpty then
        ((history.filter Turn.hasText).find? (·.role = .system)).map (·.content.flatten)
      else some systemPrompt := by
  rw [systemPrompt?, build_eq]
  split
  · rw [List.nil_append, List.find?_map, Option.map_map]
    rfl
  · simp

end Message

namespace RoutingContext

/-- Routing judges the text of the last user turn with text, or an empty prompt. -/
theorem ofMessages_build (systemPrompt : String) (history : List Turn) :
    ofMessages (Message.build systemPrompt history) =
      match ((history.filter Turn.hasText).filter (·.role = .user)).getLast? with
      | some t => analyze t.content.flatten
      | none => empty := by
  rw [ofMessages, Message.latestUser?_build]
  cases ((history.filter Turn.hasText).filter (·.role = .user)).getLast? <;> rfl

end RoutingContext

namespace Network

variable {σ : Type}

/-- The network `net` with every request it is sent written down, oldest first. -/
def logged (net : Network σ) : Network (σ × List HttpRequest) :=
  ⟨fun link req =>
    ((net.exchange link.1 req).1, ((net.exchange link.1 req).2, link.2 ++ [req]))⟩

end Network

/-- The mesh query takes the last message's text as its prompt, the empty text when there is no
message. -/
theorem meshQueryBody_prompt (model : String) (ms : List Message) (timeoutMs : Nat) :
    (meshQueryBody model ms timeoutMs).field? "prompt" =
      some (.string ((ms.getLast?.map (·.content)).getD "")) := by
  unfold meshQueryBody
  cases Message.systemPrompt? ms <;> rfl

/-- The mesh query carries the system prompt read back from the messages, and no system prompt
when there is none. -/
theorem meshQueryBody_systemPrompt (model : String) (ms : List Message) (timeoutMs : Nat) :
    (meshQueryBody model ms timeoutMs).field? "systemPrompt" =
      (Message.systemPrompt? ms).map .string := by
  unfold meshQueryBody
  cases Message.systemPrompt? ms <;> rfl

namespace ClientM

variable {σ : Type} (setup : ClientSetup σ) (s : Session σ)

/-- Requesting a stream sends at most one request: a POST of the body, with the accepted type. -/
theorem requestStream_sends (backend address : String) (accept : Option String) (body : Json)
    (start : Nat) :
    let r := ((requestStream backend address accept body start : ClientM σ _).run setup).run s
    r.2.link = s.link ∨ ∃ url,
      r.2.link = (setup.network.exchange s.link ⟨"POST", url, accept, some body⟩).2 := by
  unfold requestStream
  split
  · exact .inl rfl
  · next url _ => exact .inr ⟨url, by simp only [run_bind, run_send, run_pure]⟩

/-- Opening a stream sends what requesting it sends, and nothing more. -/
theorem openStream_sends (backend address : String) (accept : Option String) (body : Json)
    (abort : Abort) (budget : Option Nat) :
    let r := ((openStream backend address accept body abort budget : ClientM σ Opening).run
      setup).run s
    r.2.link = s.link ∨ ∃ url,
      r.2.link = (setup.network.exchange s.link ⟨"POST", url, accept, some body⟩).2 := by
  simp only [openStream, run_bind, run_now]
  have hsent := requestStream_sends setup s backend address accept body s.now
  generalize ((requestStream backend address accept body s.now : ClientM σ _).run setup).run s = req
    at hsent ⊢
  obtain ⟨⟨answer, done⟩, s'⟩ := req
  -- the wait that follows the request moves only the clock
  obtain ⟨⟨now, hnow⟩, -⟩ := settleOpening_spec setup s' backend budget
    (WaitEnd.race abort.atMs (budget.map (s.now + ·)) answer done)
  rw [hnow]
  exact hsent

/-- Opening the mesh's stream sends at most one request, whatever the network: a POST of the mesh
query built from the messages, with the model and time limit of the settings. -/
theorem openMesh_sends_query (net : Network σ) (config : ClientConfig) (ms : List Message)
    (abort : Abort) (s : Session (σ × List HttpRequest)) :
    let sent :=
      (((openMesh ms abort : ClientM _ Opening).run ⟨config, net.logged⟩).run s).2.link.2
    sent = s.link.2 ∨ ∃ url, sent = s.link.2 ++ [⟨"POST", url, some eventStreamType,
      some (meshQueryBody config.model ms config.requestTimeoutMs)⟩] := by
  simp only [openMesh, run_bind, run_config, run_note]
  rcases openStream_sends ⟨config, net.logged⟩ _ meshBackend _ (some eventStreamType)
      (meshQueryBody config.model ms config.requestTimeoutMs) abort none with h | ⟨url, h⟩
  · exact .inl (by rw [h])
  · exact .inr ⟨url, by rw [h]; rfl⟩

end ClientM

/-- The messages for a system prompt and a history are the system prompt when it is not empty,
then the role and text of each turn with text, in order. Read off them: the last user message is
the last user turn with text, the system prompt is the one given or else the first system turn
with text, and routing judges the text of that last user turn. Opening the mesh's stream, on any
network, sends at most one request, and its body takes the last message's text as the prompt and
the system prompt read back as its own. -/
theorem messages_of_conversation (systemPrompt : String) (history : List Turn) :
    Message.build systemPrompt history =
        (if systemPrompt.isEmpty then [] else [⟨.system, systemPrompt⟩]) ++
          (history.filter Turn.hasText).map Turn.asMessage ∧
      Message.latestUser? (Message.build systemPrompt history) =
        ((history.filter Turn.hasText).filter (·.role = .user)).getLast?.map Turn.asMessage ∧
      Message.systemPrompt? (Message.build systemPrompt history) =
        (if systemPrompt.isEmpty then
          ((history.filter Turn.hasText).find? (·.role = .system)).map (·.content.flatten)
        else some systemPrompt) ∧
      RoutingContext.ofMessages (Message.build systemPrompt history) =
        (match ((history.filter Turn.hasText).filter (·.role = .user)).getLast? with
        | some t => RoutingContext.analyze t.content.flatten
        | none => .empty) ∧
      ∀ (σ : Type) (net : Network σ) (config : ClientConfig) (abort : Abort)
        (s : Session (σ × List HttpRequest)),
        let ms := Message.build systemPrompt history
        let sent := (((ClientM.openMesh ms abort).run ⟨config, net.logged⟩).run s).2.link.2
        sent = s.link.2 ∨ ∃ url body,
          sent = s.link.2 ++ [⟨"POST", url, some eventStreamType, some body⟩] ∧
          body.field? "prompt" = some (.string ((ms.getLast?.map (·.content)).getD "")) ∧
          body.field? "systemPrompt" = (Message.systemPrompt? ms).map .string := by
  refine ⟨Message.build_eq _ _, Message.latestUser?_build _ _, Message.systemPrompt?_build _ _,
    RoutingContext.ofMessages_build _ _, fun σ net config abort s => ?_⟩
  -- the only request is the mesh query, whose prompt and system prompt are read off the messages
  rcases ClientM.openMesh_sends_query net config (Message.build systemPrompt history) abort s with
    h | ⟨url, h⟩
  · exact .inl h
  · exact .inr ⟨url, _, h, meshQueryBody_prompt _ _ _, meshQueryBody_systemPrompt _ _ _⟩

end InferRoute
