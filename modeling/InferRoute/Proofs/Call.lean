import InferRoute.Proofs.Session
import InferRoute.Proofs.Stream

/-! How a completion call ends. A call that is never aborted and runs to its end yields text
and then exactly one item that ends it: the usage report of the mesh or of the local server, or
an error that can only come from the local server. The breaker records exactly one success or
one failure of the local server, or nothing when the mesh served the call; after a failure the
caller is told that local inference is unavailable exactly when cloud fallback is off and the
breaker is then open.

Where the mesh is to be used and fails, while opening or later in its stream, the call is the
text the mesh already gave followed by exactly the local server's part on the same messages,
started from the session the routing left with only the network, the clock and the notes moved
on: the mesh's failure reaches neither the caller nor the breaker. -/

namespace InferRoute

open StreamEvent

@[simp] theorem splitDecoded_map_ok_append (events : List StreamEvent) (rest : List StreamItem) :
    splitDecoded (events.map Except.ok ++ rest) =
      (events ++ (splitDecoded rest).1, (splitDecoded rest).2) := by
  induction events with
  | nil => rfl
  | cons e events ih =>
    show splitDecoded (.ok e :: (events.map Except.ok ++ rest)) = _
    rw [splitDecoded, ih]
    rfl

@[simp] theorem splitDecoded_map_ok (events : List StreamEvent) :
    splitDecoded (events.map Except.ok) = (events, none) := by
  simpa [splitDecoded] using splitDecoded_map_ok_append events []

@[simp] theorem splitDecoded_textItems_append (texts : List String) (rest : List StreamItem) :
    splitDecoded (textItems texts ++ rest) =
      (texts.map .textDelta ++ (splitDecoded rest).1, (splitDecoded rest).2) := by
  rw [textItems_eq_map, splitDecoded_map_ok_append]

@[simp] theorem splitDecoded_textItems (texts : List String) :
    splitDecoded (textItems texts) = (texts.map .textDelta, none) := by
  rw [textItems_eq_map, splitDecoded_map_ok]

theorem InferError.backend?_ofDecode (d : DecodeError) :
    (InferError.ofDecode d).backend? = some d.backend := by
  cases d <;> rfl

/-- How a call that runs to its end ends, from the breaker `b` that the routing left, with the
clock at `t` when it ends; the flag says whether the mesh served the call. Each way is text and
then one usage report or one error, with the breaker's record of it. -/
inductive CallEnd (cfg : ClientConfig) (b : Breaker) (t : Nat) :
    Bool → List ClientItem → Breaker → Prop
  /-- The mesh served the call; the breaker is left alone. -/
  | mesh (texts : List String) (i o : Nat) :
      CallEnd cfg b t true (textItems texts ++ [.ok (.usage i o)]) b
  /-- The local server served the call: one success. -/
  | served (texts : List String) (i o : Nat) :
      CallEnd cfg b t false (textItems texts ++ [.ok (.usage i o)]) b.recordSuccess
  /-- The local server failed with `e`: one failure, at the end. The caller is told that local
  inference is unavailable instead when cloud fallback is off and the breaker is then open. -/
  | failed (texts : List String) (e : InferError) (he : e.backend? = some localBackend) :
      CallEnd cfg b t false
        (textItems texts ++ [.error (if cfg.enableCloudFallback = false ∧
          (b.recordFailure t).state = .opened then .localUnavailable else e)])
        (b.recordFailure t)

/-- Text before the end of a call keeps the way it ends. -/
theorem CallEnd.textItems_append {cfg : ClientConfig} {b b' : Breaker} {t : Nat}
    {viaMesh : Bool} {items : List ClientItem} (h : CallEnd cfg b t viaMesh items b')
    (texts : List String) : CallEnd cfg b t viaMesh (textItems texts ++ items) b' := by
  cases h with
  | mesh more i o => simpa using @CallEnd.mesh cfg b t (texts ++ more) i o
  | served more i o => simpa using @CallEnd.served cfg b t (texts ++ more) i o
  | failed more e he => simpa using @CallEnd.failed cfg b t (texts ++ more) e he

/-- What the mesh part of a call yields: text, closed by the mesh's usage report when the mesh
served the call. -/
def MeshLeg.Yields : MeshLeg → Prop
  | .finished items => ∃ texts i o, items = textItems texts ++ [.ok (.usage i o)]
  | .fallBack items | .stalled items => ∃ texts, items = textItems texts

namespace ClientM

variable {σ : Type} (setup : ClientSetup σ) (s : Session σ)

section LocalServer

/-- A local failure is recorded once, at the session's time, and reaches the caller as it is
unless cloud fallback is off and the breaker is then open. -/
theorem localFailure_spec (e : InferError) :
    ∃ notes, ((localFailure e : ClientM σ _).run setup).run s =
      (if setup.config.enableCloudFallback = false ∧
          (s.breaker.recordFailure s.now).state = .opened then .localUnavailable else e,
        { s with breaker := s.breaker.recordFailure s.now, notes }) := by
  obtain ⟨notes, hrecord⟩ := run_recordFailure setup
    { s with notes := s.notes ++ [⟨.error, LogTarget.client, "Local inference failed: " ++ e.message⟩] }
  simp only [localFailure, run_bind, run_note, hrecord, run_config, run_breaker]
  refine ⟨notes, ?_⟩
  simp only [Bool.and_eq_true, Bool.not_eq_true', decide_eq_true_eq]
  by_cases h : setup.config.enableCloudFallback = false ∧
      (s.breaker.recordFailure s.now).state = .opened
  · rw [if_pos h, if_pos h]
    rfl
  · rw [if_neg h, if_neg h]
    rfl

/-- A local failure leaves the network alone. -/
theorem localFailure_link (e : InferError) :
    (((localFailure e : ClientM σ _).run setup).run s).2.link = s.link := by
  obtain ⟨notes, h⟩ := localFailure_spec setup s e
  rw [h]

/-- Opening the local server's stream leaves the breaker alone. Under its deadline, and with no
abort, it is neither aborted nor waits for ever, and it fails only with a local error. -/
theorem openLocal_spec (ms : List Message) :
    let r := ((openLocal ms .never : ClientM σ Opening).run setup).run s
    (∃ link now notes, r.2 = { s with link, now, notes }) ∧ r.1 ≠ .aborted ∧ r.1 ≠ .stalled ∧
      ∀ e, r.1 = .failed e → e.backend? = some localBackend := by
  simp only [openLocal, run_bind, run_config, run_note]
  generalize s.notes ++ _ = notes
  obtain ⟨⟨link, now, hs⟩, habort, hstall, hfail⟩ := openStream_spec setup { s with notes }
    localBackend _ none _ .never (some setup.config.requestTimeoutMs)
  exact ⟨⟨link, now, _, hs⟩, fun h => by simpa using habort h, fun h => by simpa using hstall h,
    hfail⟩

section Steps

variable {setup} {ms : List Message} {abort : Abort} {k : Nat} {s1 s2 : Session σ}
  (hfired : abort.fired k s1.now = false)
include hfired

/-- A local server that cannot be opened ends the local part with its failure alone. -/
theorem tryLocal_of_failed {e : InferError}
    (hopen : ((openLocal ms abort : ClientM σ Opening).run setup).run s1 = (.failed e, s2)) :
    ((tryLocal ms abort k : ClientM σ _).run setup).run s1 =
      ([.error (((localFailure e : ClientM σ _).run setup).run s2).1],
        (((localFailure e : ClientM σ _).run setup).run s2).2) := by
  simp only [tryLocal, run_bind, run_aborted, hfired, Bool.false_eq_true, if_false, run_now,
    run_config, hopen, run_pure]
  rfl

section Opened

variable {body : ReadSchedule} {headers : Nat}
  (hopen : ((openLocal ms abort : ClientM σ Opening).run setup).run s1 = (.opened body headers, s2))
include hopen

/-- A local stream that breaks ends the local part with its events and the local failure. -/
theorem tryLocal_of_broken {events : List StreamEvent} {d : DecodeError} {t : Nat}
    (hdec : decodeFrom LocalDecoder (headers - s1.now) body
      (abort.control k s1.now (some setup.config.requestTimeoutMs)) =
        (events.map Except.ok ++ [.error d], some t)) :
    let s3 := { s2 with now := max s2.now (s1.now + t) }
    ((tryLocal ms abort k : ClientM σ _).run setup).run s1 =
      (events.map Except.ok ++
          [.error (((localFailure (.ofDecode d) : ClientM σ _).run setup).run s3).1],
        (((localFailure (.ofDecode d) : ClientM σ _).run setup).run s3).2) := by
  simp only [tryLocal, run_bind, run_aborted, hfired, Bool.false_eq_true, if_false, run_now,
    run_config, hopen, hdec, run_advanceTo, splitDecoded_map_ok_append, splitDecoded,
    List.append_nil, Option.map_some, run_pure]

/-- A local stream that gives events only ends the local part with them. Unless the abort has
fired once they are received, the breaker records a success. -/
theorem tryLocal_of_events {events : List StreamEvent} {stop : Option Nat}
    (hdec : decodeFrom LocalDecoder (headers - s1.now) body
      (abort.control k s1.now (some setup.config.requestTimeoutMs)) =
        (events.map Except.ok, stop)) :
    let s3 := match stop with
      | some t => { s2 with now := max s2.now (s1.now + t) }
      | none => s2
    ∃ notes, ((tryLocal ms abort k : ClientM σ _).run setup).run s1 =
      (events.map Except.ok,
        if abort.fired (k + events.length) s3.now then { s3 with notes }
        else { s3 with breaker := s3.breaker.recordSuccess, notes }) := by
  intro s3
  have hrun : ((tryLocal ms abort k : ClientM σ _).run setup).run s1 =
      ((do
        if ← aborted abort (k + events.length) then
          note .debug LogTarget.client "Local stream aborted"
        else recordSuccess
        return events.map Except.ok : ClientM σ _).run setup).run s3 := by
    cases stop <;>
      simp only [tryLocal, run_bind, run_aborted, hfired, Bool.false_eq_true, if_false, run_now,
        run_config, hopen, hdec, run_advanceTo, splitDecoded_map_ok, Option.map_none, run_pure,
        s3]
  rw [hrun]
  simp only [run_bind, run_aborted]
  cases abort.fired (k + events.length) s3.now with
  | true =>
    simp only [if_true, run_bind, run_note, run_pure]
    exact ⟨_, rfl⟩
  | false =>
    obtain ⟨notes, hsuccess⟩ := run_recordSuccess setup s3
    simp only [Bool.false_eq_true, if_false, run_bind, hsuccess, run_pure]
    exact ⟨notes, rfl⟩

end Opened

end Steps

/-- The local part of a call with no abort ends: the local server's text and usage report with
one success recorded, or its text and a local error with one failure recorded. -/
theorem tryLocal_ends (ms : List Message) (received : Nat) :
    let r := ((tryLocal ms .never received : ClientM σ _).run setup).run s
    CallEnd setup.config s.breaker r.2.now false r.1 r.2.breaker := by
  have hnever : Abort.never.fired received s.now = false := rfl
  obtain ⟨⟨link, now, notes, hs⟩, habort, hstall, hfail⟩ := openLocal_spec setup s ms
  rcases hopen : ((openLocal ms .never : ClientM σ Opening).run setup).run s with ⟨opening, s2⟩
  rw [hopen] at hs habort hstall hfail
  dsimp only at hs habort hstall hfail ⊢
  subst hs
  cases opening with
  | aborted => exact absurd rfl habort
  | stalled => exact absurd rfl hstall
  | failed e =>
    obtain ⟨notes', hfailure⟩ := localFailure_spec setup { s with link, now, notes } e
    rw [tryLocal_of_failed hnever hopen, hfailure]
    exact CallEnd.failed [] e (hfail e rfl)
  | opened body headers =>
    -- the stream has the request's deadline, so it cannot wait for ever
    have hdec := LocalDecoder.decoded setup.config.requestTimeoutMs (headers - s.now) body
    generalize hd : decodeFrom LocalDecoder (headers - s.now) body ⟨_, none, none⟩ = decoded
      at hdec
    cases hdec with
    | waiting texts h => cases h
    | finished texts i o t =>
      rw [textItems_append_ok] at hd
      obtain ⟨notes', hrun⟩ := tryLocal_of_events hnever hopen hd
      rw [hrun]
      simp only [Abort.fired_never, Bool.false_eq_true, if_false, ← textItems_append_ok]
      exact CallEnd.served texts i o
    | failed texts d t hd' =>
      rw [textItems_eq_map] at hd
      obtain ⟨notes', hfailure⟩ := localFailure_spec setup
        { s with link, now := max now (s.now + t), notes } (InferError.ofDecode d)
      rw [tryLocal_of_broken hnever hopen hd, hfailure, ← textItems_eq_map]
      refine CallEnd.failed texts _ ?_
      rw [InferError.backend?_ofDecode, hd']
      rfl

/-- With no abort, the local part of a call does not depend on how many items came before it. -/
theorem tryLocal_never_received (ms : List Message) (received : Nat) :
    ((tryLocal ms .never received : ClientM σ _).run setup).run s =
      ((tryLocal ms .never 0 : ClientM σ _).run setup).run s := by
  simp only [tryLocal, aborted, Abort.fired_never, Abort.control_never]

end LocalServer

section Mesh

/-- Opening the mesh's stream leaves the breaker alone and, with no abort, is not aborted. -/
theorem openMesh_spec (ms : List Message) :
    let r := ((openMesh ms .never : ClientM σ Opening).run setup).run s
    (∃ link now notes, r.2 = { s with link, now, notes }) ∧ r.1 ≠ .aborted := by
  simp only [openMesh, run_bind, run_config, run_note]
  generalize s.notes ++ _ = notes
  obtain ⟨⟨link, now, hs⟩, habort, -, -⟩ := openStream_spec setup { s with notes }
    meshBackend _ _ _ .never none
  exact ⟨⟨link, now, _, hs⟩, fun h => by simpa using habort h⟩

variable {setup s} {ms : List Message} {s1 : Session σ}

/-- A mesh that cannot be opened hands the call to the local server with nothing yet. -/
theorem tryMesh_of_failed {e : InferError}
    (h : ((openMesh ms .never : ClientM σ Opening).run setup).run s = (.failed e, s1)) :
    ∃ notes, ((tryMesh ms .never : ClientM σ MeshLeg).run setup).run s =
      (.fallBack [], { s1 with notes }) := by
  simp only [tryMesh, run_bind, run_aborted, Abort.fired_never, Bool.false_eq_true, if_false,
    run_now, h, run_note, run_pure]
  exact ⟨_, rfl⟩

/-- A mesh stream that gives text only ends the mesh part with it, the mesh having served the
call when the stream stopped and waiting for ever when it did not. -/
theorem tryMesh_of_texts {abort : Abort} {body : ReadSchedule} {headers : Nat}
    {texts : List String} {stop : Option Nat} (hfired : abort.fired 0 s.now = false)
    (hopen : ((openMesh ms abort : ClientM σ Opening).run setup).run s = (.opened body headers, s1))
    (hdec : decodeFrom MeshDecoder (headers - s.now) body (abort.control 0 s.now none) =
      (textItems texts, stop)) :
    ((tryMesh ms abort : ClientM σ MeshLeg).run setup).run s =
      (if stop.isSome then .finished (textItems texts) else .stalled (textItems texts),
        match stop with
        | some t => { s1 with now := max s1.now (s.now + t) }
        | none => s1) := by
  cases stop with
  | none =>
    simp only [tryMesh, run_bind, run_aborted, hfired, Bool.false_eq_true, if_false, run_now,
      hopen, hdec, splitDecoded_textItems, Option.isSome_none, run_pure, List.map_map,
      map_ok_comp_textDelta]
  | some t =>
    simp only [tryMesh, run_bind, run_aborted, hfired, Bool.false_eq_true, if_false, run_now,
      hopen, hdec, run_advanceTo, splitDecoded_textItems, Option.isSome_some, if_true, run_pure,
      List.map_map, map_ok_comp_textDelta]

section Opened

variable {body : ReadSchedule} {headers : Nat}
  (h : ((openMesh ms .never : ClientM σ Opening).run setup).run s = (.opened body headers, s1))
include h

/-- A mesh stream that ends with its usage report serves the call with exactly its items. -/
theorem tryMesh_of_finished {texts : List String} {i o t : Nat}
    (hdec : decodeFrom MeshDecoder (headers - s.now) body .none =
      (textItems texts ++ [.ok (.usage i o)], some t)) :
    ((tryMesh ms .never : ClientM σ MeshLeg).run setup).run s =
      (.finished (textItems texts ++ [.ok (.usage i o)]),
        { s1 with now := max s1.now (s.now + t) }) := by
  simp only [tryMesh, run_bind, run_aborted, Abort.fired_never, Bool.false_eq_true, if_false,
    run_now, h, Abort.control_never_none, hdec, run_advanceTo, splitDecoded_textItems_append,
    splitDecoded, run_pure, Option.isSome_some, if_true, List.map_append, List.map_map,
    map_ok_comp_textDelta, List.map_cons, List.map_nil]

/-- A mesh stream that breaks hands the call to the local server after the text it gave. -/
theorem tryMesh_of_broken {texts : List String} {d : DecodeError} {t : Nat}
    (hdec : decodeFrom MeshDecoder (headers - s.now) body .none =
      (textItems texts ++ [.error d], some t)) :
    ∃ notes, ((tryMesh ms .never : ClientM σ MeshLeg).run setup).run s =
      (.fallBack (textItems texts), { s1 with now := max s1.now (s.now + t), notes }) := by
  simp only [tryMesh, run_bind, run_aborted, Abort.fired_never, Bool.false_eq_true, if_false,
    run_now, h, Abort.control_never_none, hdec, run_advanceTo, splitDecoded_textItems_append,
    splitDecoded, run_note, run_pure, List.append_nil, List.map_map, map_ok_comp_textDelta]
  exact ⟨_, rfl⟩

/-- A mesh stream that never ends leaves the call waiting after the text it gave. -/
theorem tryMesh_of_waiting {texts : List String}
    (hdec : decodeFrom MeshDecoder (headers - s.now) body .none = (textItems texts, none)) :
    ((tryMesh ms .never : ClientM σ MeshLeg).run setup).run s =
      (.stalled (textItems texts), s1) :=
  tryMesh_of_texts rfl h hdec

end Opened

variable (setup s ms)

/-- The mesh part of a call with no abort leaves the breaker alone and yields text, closed by the
mesh's usage report when the mesh served the call. -/
theorem tryMesh_spec :
    let r := ((tryMesh ms .never : ClientM σ MeshLeg).run setup).run s
    r.2.breaker = s.breaker ∧ r.1.Yields := by
  obtain ⟨⟨link, now, notes, hs1⟩, habort⟩ := openMesh_spec setup s ms
  rcases hopen : ((openMesh ms .never : ClientM σ Opening).run setup).run s with ⟨opening, s1⟩
  rw [hopen] at hs1 habort
  dsimp only at hs1 habort
  subst hs1
  cases opening with
  | aborted => exact absurd rfl habort
  | stalled =>
    simp only [tryMesh, run_bind, run_aborted, Abort.fired_never, Bool.false_eq_true, if_false,
      run_now, hopen, run_pure]
    exact ⟨trivial, [], rfl⟩
  | failed e =>
    obtain ⟨notes', hmesh⟩ := tryMesh_of_failed hopen
    rw [hmesh]
    exact ⟨rfl, [], rfl⟩
  | opened body headers =>
    have hdec := MeshDecoder.decoded (headers - s.now) body
    generalize hd : decodeFrom MeshDecoder (headers - s.now) body .none = decoded at hdec
    cases hdec with
    | waiting texts _ => rw [tryMesh_of_waiting hopen hd]; exact ⟨rfl, texts, rfl⟩
    | finished texts i o t => rw [tryMesh_of_finished hopen hd]; exact ⟨rfl, texts, i, o, rfl⟩
    | failed texts d t _ =>
      obtain ⟨notes', hmesh⟩ := tryMesh_of_broken hopen hd
      rw [hmesh]
      exact ⟨rfl, texts, rfl⟩

/-- The routing and the mesh part of a call with no abort change the breaker only by asking it
once, when routing is on, and yield what the mesh part yields. -/
theorem routeMesh_spec :
    let r := ((routeMesh ms .never : ClientM σ MeshLeg).run setup).run s
    r.2.breaker =
        (if setup.config.enableMeshRouting then (s.breaker.permits s.now).2 else s.breaker) ∧
      r.1.Yields := by
  simp only [routeMesh, run_bind, run_config]
  cases setup.config.enableMeshRouting with
  | false =>
    simp only [Bool.false_eq_true, if_false, run_pure]
    exact ⟨trivial, [], rfl⟩
  | true =>
    obtain ⟨link, now, notes, hs0⟩ := shouldUseMesh_frame setup s ms
    simp only [↓reduceIte, run_bind]
    generalize ((shouldUseMesh ms : ClientM σ Bool).run setup).run s = decided at hs0 ⊢
    obtain ⟨use, s0⟩ := decided
    dsimp only at hs0 ⊢
    subst hs0
    cases use with
    | false =>
      simp only [Bool.false_eq_true, if_false, run_pure]
      exact ⟨trivial, [], rfl⟩
    | true =>
      simp only [↓reduceIte]
      exact tryMesh_spec setup _ ms

variable {setup s ms}

/-- Where the mesh is to be used, the routing is the mesh part from the session it left. -/
theorem routeMesh_of_use {s0 : Session σ} (hrouting : setup.config.enableMeshRouting = true)
    (huse : ((shouldUseMesh ms : ClientM σ Bool).run setup).run s = (true, s0)) :
    ((routeMesh ms .never : ClientM σ MeshLeg).run setup).run s =
      ((tryMesh ms .never : ClientM σ MeshLeg).run setup).run s0 := by
  simp only [routeMesh, run_bind, run_config, hrouting, huse, ↓reduceIte]

end Mesh

variable {setup s} {ms : List Message} {s1 : Session σ} {items : List ClientItem}

/-- A call that the mesh finished is over with the mesh's items. -/
theorem streamMessages_of_finished
    (h : ((routeMesh ms .never : ClientM σ MeshLeg).run setup).run s = (.finished items, s1)) :
    ((streamMessages ms .never : ClientM σ _).run setup).run s = (items, s1) := by
  simp only [streamMessages, run_bind, run_aborted, Abort.fired_never, Bool.false_eq_true,
    if_false, h, run_pure]

/-- A call that falls back is the mesh's items followed by the local part from the session the
mesh left. -/
theorem streamMessages_of_fallBack
    (h : ((routeMesh ms .never : ClientM σ MeshLeg).run setup).run s = (.fallBack items, s1)) :
    ((streamMessages ms .never : ClientM σ _).run setup).run s =
      (items ++ (((tryLocal ms .never 0 : ClientM σ _).run setup).run s1).1,
        (((tryLocal ms .never 0 : ClientM σ _).run setup).run s1).2) := by
  simp only [streamMessages, run_bind, run_aborted, Abort.fired_never, Bool.false_eq_true,
    if_false, h, run_pure]
  rw [tryLocal_never_received setup s1 ms items.length]

end ClientM

open ClientM

/-- A completion call that is never aborted and does not wait for ever on the mesh ends as
`CallEnd` says, from the breaker the routing left: text and one usage report or one error,
with exactly one success or failure of the local server recorded, or nothing when the mesh
served the call. -/
theorem createMessage_ends_once {σ : Type} (setup : ClientSetup σ) (s : Session σ)
    (systemPrompt : String) (history : List Turn)
    (hends : (((routeMesh (Message.build systemPrompt history) .never : ClientM σ MeshLeg).run
      setup).run s).1.waits = false) :
    let leg := (((routeMesh (Message.build systemPrompt history) .never : ClientM σ MeshLeg).run
      setup).run s).1
    let r := ((createMessage systemPrompt history .never : ClientM σ _).run setup).run s
    CallEnd setup.config
      (if setup.config.enableMeshRouting then (s.breaker.permits s.now).2 else s.breaker)
      r.2.now leg.served r.1 r.2.breaker := by
  obtain ⟨hbreaker, hyields⟩ := routeMesh_spec setup s (Message.build systemPrompt history)
  rcases hroute : ((routeMesh (Message.build systemPrompt history) .never : ClientM σ MeshLeg).run
    setup).run s with ⟨leg, s1⟩
  rw [hroute] at hbreaker hyields hends
  dsimp only at hbreaker hyields hends ⊢
  rw [← hbreaker]
  cases leg with
  | finished items =>
    obtain ⟨texts, i, o, rfl⟩ := hyields
    rw [createMessage, streamMessages_of_finished hroute]
    dsimp only [MeshLeg.served]
    exact CallEnd.mesh texts i o
  | fallBack items =>
    obtain ⟨texts, rfl⟩ := hyields
    rw [createMessage, streamMessages_of_fallBack hroute]
    dsimp only [MeshLeg.served]
    exact (tryLocal_ends setup s1 _ _).textItems_append texts
  | stalled items => cases hends

/-- Without mesh routing, a call on a network that never answers runs to its end. -/
theorem createMessage_ends_once_offline :
    let setup : ClientSetup Unit :=
      ⟨{ ClientConfig.standard with enableMeshRouting := false }, Network.unreachable⟩
    let s : Session Unit :=
      ⟨Breaker.new .standard, 0, (), [], fun _ _ => FloatFormat.binary32.ofNat 0⟩
    let leg := (((routeMesh (Message.build "" [⟨.user, .text "hello"⟩]) .never :
      ClientM Unit MeshLeg).run setup).run s).1
    let r := ((createMessage "" [⟨.user, .text "hello"⟩] .never : ClientM Unit _).run setup).run s
    leg.waits = false ∧
      CallEnd setup.config s.breaker r.2.now leg.served r.1 r.2.breaker :=
  ⟨rfl, createMessage_ends_once _ _ "" [⟨.user, .text "hello"⟩] rfl⟩

/-- The mesh part of a call that the routing sent to the mesh is transparent. When the mesh's
stream opens and ends without an error, the call is exactly the mesh's text and usage report, the
network is left as the mesh's opening left it, so the local server is never contacted, and the
breaker as the routing left it. When the mesh cannot be opened, or its stream breaks after some
text, the call is that text followed by exactly the local part of the call on the same messages,
run from the session the routing left with only the network, the clock and the notes moved on. -/
def MeshTransparent {σ : Type} (setup : ClientSetup σ) (s : Session σ) (systemPrompt : String)
    (history : List Turn) : Prop :=
  let ms := Message.build systemPrompt history
  let routed := (((shouldUseMesh ms : ClientM σ Bool).run setup).run s).2
  let call := ((createMessage systemPrompt history .never : ClientM σ _).run setup).run s
  let localOnly := fun s' : Session σ => ((tryLocal ms .never 0 : ClientM σ _).run setup).run s'
  routed.breaker = (s.breaker.permits s.now).2 ∧
  (∀ body headers s1, ((openMesh ms .never : ClientM σ Opening).run setup).run routed =
      (.opened body headers, s1) →
    let decoded := decodeFrom MeshDecoder (headers - routed.now) body .none
    (decoded.2.isSome → (∀ d, .error d ∉ decoded.1) →
      ∃ texts i o, decoded.1 = textItems texts ++ [.ok (.usage i o)] ∧
        call.1 = textItems texts ++ [.ok (.usage i o)] ∧ call.2.link = s1.link ∧
        call.2.breaker = routed.breaker) ∧
    (∀ texts d, decoded.1 = textItems texts ++ [.error d] →
      ∃ link now notes,
        call = (textItems texts ++ (localOnly { routed with link, now, notes }).1,
          (localOnly { routed with link, now, notes }).2))) ∧
  (∀ e s1, ((openMesh ms .never : ClientM σ Opening).run setup).run routed = (.failed e, s1) →
    ∃ link now notes, call = localOnly { routed with link, now, notes })

/-- Where routing is on and sends the messages to the mesh, the mesh part of the call is
transparent: its failure reaches neither the caller nor the breaker. -/
theorem createMessage_mesh_fallback_is_local {σ : Type} (setup : ClientSetup σ) (s : Session σ)
    (systemPrompt : String) (history : List Turn)
    (hrouting : setup.config.enableMeshRouting = true)
    (huse : (((shouldUseMesh (Message.build systemPrompt history) : ClientM σ Bool).run
      setup).run s).1 = true) :
    MeshTransparent setup s systemPrompt history := by
  unfold MeshTransparent
  intro ms routed call localOnly
  have hroute : ((routeMesh ms .never : ClientM σ MeshLeg).run setup).run s =
      ((tryMesh ms .never : ClientM σ MeshLeg).run setup).run routed :=
    routeMesh_of_use hrouting (Prod.ext huse rfl)
  obtain ⟨link, now, notes, hrouted⟩ := shouldUseMesh_frame setup s ms
  obtain ⟨⟨link1, now1, notes1, hopened⟩, -⟩ := openMesh_spec setup routed ms
  refine ⟨congrArg Session.breaker hrouted, fun body headers s1 hopen => ?_, fun e s1 hopen => ?_⟩
  · -- the mesh's stream opened: one case for each way it can end
    rw [hopen] at hopened
    subst hopened
    have hdecoded := MeshDecoder.decoded (headers - routed.now) body
    generalize hd : decodeFrom MeshDecoder (headers - routed.now) body .none = decoded
      at hdecoded ⊢
    cases hdecoded with
    | waiting more _ =>
      -- it never stops, and no error is in it
      refine ⟨fun hstop => by simp at hstop, fun texts d hdec => ?_⟩
      have herror : Except.error d ∈ (textItems more : List StreamItem) := by
        rw [show textItems more = _ from hdec]
        simp
      exact absurd herror (error_not_mem_textItems d more)
    | finished more i o t =>
      have hcall : call = _ :=
        streamMessages_of_finished (hroute.trans (tryMesh_of_finished hopen hd))
      refine ⟨fun _ _ => ⟨more, i, o, rfl, by rw [hcall], by rw [hcall], by rw [hcall]⟩,
        fun texts d hdec => ?_⟩
      -- a usage report is not an error
      simpa using (List.append_inj' hdec rfl).2
    | failed more d t _ =>
      refine ⟨fun _ hclean => absurd (by simp) (hclean d), fun texts d' hdec => ?_⟩
      obtain ⟨hmore, -⟩ := List.append_inj' hdec rfl
      rw [textItems_inj] at hmore
      subst hmore
      obtain ⟨notes', hmesh⟩ := tryMesh_of_broken hopen hd
      have hcall : call = _ := streamMessages_of_fallBack (hroute.trans hmesh)
      refine ⟨link1, max now1 (routed.now + t), notes', ?_⟩
      rw [hcall]
  · -- the mesh could not be opened
    obtain ⟨notes', hmesh⟩ := tryMesh_of_failed hopen
    have hcall : call = _ := streamMessages_of_fallBack (hroute.trans hmesh)
    rw [hopen] at hopened
    subst hopened
    refine ⟨link1, now1, notes', ?_⟩
    rw [hcall, List.nil_append]
    exact Prod.eta _

/-- A mesh that is up, with a peer, and answers every request with its status. -/
def Network.meshUp : Network Unit :=
  ⟨fun _ _ => (.replied ⟨0, 200,
    ⟨[⟨0, .bytes (Utf8.encode "\x7b\"running\":true,\"peer_count\":1\x7d")⟩], .eof⟩⟩, ())⟩

/-- A debugging request, with routing on and the mesh up, goes to the mesh, whose part of the
call is then transparent. -/
theorem createMessage_mesh_fallback_is_local_debug :
    let setup : ClientSetup Unit :=
      ⟨{ ClientConfig.standard with meshApiUrl := "http://[::1]:11436" }, Network.meshUp⟩
    let s : Session Unit :=
      ⟨Breaker.new .standard, 0, (), [], fun _ _ => FloatFormat.binary32.ofNat 0⟩
    setup.config.enableMeshRouting = true ∧
      (((shouldUseMesh (Message.build "" [⟨.user, .text "debug"⟩]) : ClientM Unit Bool).run
        setup).run s).1 = true ∧
      MeshTransparent setup s "" [⟨.user, .text "debug"⟩] :=
  ⟨rfl, by decide +kernel,
    createMessage_mesh_fallback_is_local _ _ "" [⟨.user, .text "debug"⟩] rfl (by decide +kernel)⟩

end InferRoute
