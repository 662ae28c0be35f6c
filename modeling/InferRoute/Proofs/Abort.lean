import InferRoute.Proofs.Retry
import InferRoute.Proofs.StreamControl

/-! Aborting a call. An abort that has fired when a call starts leaves it nothing to do: it
yields no item and changes nothing but the notes. A call aborted once it has received `n` items
(`CutAfter`) yields the first `n` items of the same call never aborted, and nothing after them.
Its only request to the local server is the one the call made before the abort: when the mesh
had handed over with fewer than `n` items. Its only record on the breaker is the one the call made
within its first `n` items: a local failure before its error, or a local success after fewer than
`n` items. A retrying call ends on an abort during a pause, with nothing more (`RetryRun`).

Each call takes its own `Abort`, and the session holds none, so an abort given to one call never
reaches another. -/

namespace InferRoute

open StreamEvent

namespace MeshLeg

/-- The items of the mesh part of a call. -/
def items : MeshLeg → List ClientItem
  | .finished items | .fallBack items | .stalled items => items

/-- Whether the call went on to the local server before it had received `n` items. -/
def fallsBackWithin (n : Nat) : MeshLeg → Bool
  | .fallBack items => decide (items.length < n)
  | _ => false

end MeshLeg

/-- Whether a call's items end, or reach an error, within their first `n`: the call's outcome
was then settled, and recorded on the breaker, before its `n`-th item was received. -/
def recordsWithin : Nat → List ClientItem → Bool
  | 0, _ => false
  | _ + 1, [] => true
  | _ + 1, .error _ :: _ => true
  | n + 1, .ok _ :: rest => recordsWithin n rest

@[simp] theorem recordsWithin_zero (items : List ClientItem) : recordsWithin 0 items = false := by
  cases items <;> rfl

/-- Text before the items counts against the first `n`. -/
theorem recordsWithin_textItems_append (texts : List String) (tail : List ClientItem) (n : Nat) :
    recordsWithin (texts.length + n) (textItems texts ++ tail) = recordsWithin n tail := by
  induction texts with
  | nil => simp
  | cons t texts ih =>
    rw [List.length_cons, Nat.add_right_comm]
    exact ih

/-- Items that begin with `n` texts are not settled within their first `n`. -/
theorem recordsWithin_textItems_append_of_le {texts : List String} {n : Nat}
    (h : n ≤ texts.length) (tail : List ClientItem) :
    recordsWithin n (textItems texts ++ tail) = false := by
  induction texts generalizing n with
  | nil =>
    rw [Nat.le_zero.1 h]
    exact recordsWithin_zero _
  | cons t texts ih =>
    cases n with
    | zero => exact recordsWithin_zero _
    | succ n => exact ih (by simpa using h)

/-- Text closed by one more item that is no error is settled within the first `m` items
exactly when it has fewer than `m` items in all. -/
theorem recordsWithin_textItems_ok (texts : List String) (event : StreamEvent) (m : Nat) :
    recordsWithin m (textItems texts ++ [.ok event]) = decide (texts.length + 1 < m) := by
  induction texts generalizing m with
  | nil =>
    match m with
    | 0 => rfl
    | 1 => rfl
    | m + 2 => simp [recordsWithin]
  | cons t texts ih =>
    cases m with
    | zero => simp
    | succ m =>
      show recordsWithin m (textItems texts ++ [.ok event]) = _
      rw [ih]
      simp

/-- Text closed by an error is settled within the first `m` items exactly when the error is one
of them. -/
theorem recordsWithin_textItems_error (texts : List String) (e : InferError) (m : Nat) :
    recordsWithin m (textItems texts ++ [.error e]) = decide (texts.length < m) := by
  induction texts generalizing m with
  | nil =>
    cases m with
    | zero => rfl
    | succ m => simp [recordsWithin]
  | cons t texts ih =>
    cases m with
    | zero => simp
    | succ m =>
      show recordsWithin m (textItems texts ++ [.error e]) = _
      rw [ih]
      simp

/-- A stream that closes with one more item after its text, cut before that item: the first
texts. -/
theorem take_closed_textItems {ε : Type} {texts : List String} {last : Except ε StreamEvent}
    {m : Nat} (hlt : m < (textItems texts ++ [last]).length) :
    (textItems texts ++ [last]).take m = textItems (texts.take m) ∧ m ≤ texts.length := by
  have hm : m ≤ texts.length := by
    simp at hlt
    omega
  exact ⟨take_textItems_append hm _, hm⟩

namespace Abort

theorem fired_afterItems (n received now : Nat) :
    (⟨some n, none⟩ : Abort).fired received now = decide (n ≤ received) := by
  simp [fired]

theorem control_afterItems (n received origin : Nat) (deadline : Option Nat) :
    (⟨some n, none⟩ : Abort).control received origin deadline =
      ⟨deadline, some (n - received), none⟩ := rfl

/-- An abort after `n` items has not fired while fewer have been received. -/
theorem fired_afterItems_of_lt {n received : Nat} (h : received < n) (now : Nat) :
    (⟨some n, none⟩ : Abort).fired received now = false := by
  rw [fired_afterItems]
  exact decide_eq_false (Nat.not_le.2 h)

end Abort

/-- How the mesh part of a call aborted after `n` items, `cut`, stands to the same part never
aborted, `never`: the same, when the mesh gives at most `n` items and hands over with fewer.
Otherwise the aborted part ends with the first `n` items, handing nothing over, with the network
and the breaker where the part never aborted leaves them. -/
def MeshCut {σ : Type} (n : Nat) (never cut : MeshLeg × Session σ) : Prop :=
  (cut = never ∧ never.1.items.length ≤ n ∧ ∀ items, never.1 = .fallBack items → items.length < n) ∨
    ((∀ items, cut.1 ≠ .fallBack items) ∧ cut.1.items = never.1.items.take n ∧
      n ≤ never.1.items.length ∧ cut.2.link = never.2.link ∧ cut.2.breaker = never.2.breaker)

/-- A mesh part that hands over at once is the same, aborted after `n` items or not. -/
theorem MeshCut.fallBack_nil {σ : Type} {n : Nat} (hn : 0 < n) (s : Session σ) :
    MeshCut n (.fallBack [], s) (.fallBack [], s) :=
  .inl ⟨rfl, Nat.zero_le n, fun items h => by cases h; exact hn⟩

/-- A mesh part that ends with text, the first `n` items of the part never aborted, with the
network and the breaker where that part leaves them, is a cut of it. -/
theorem MeshCut.of_texts {σ : Type} {n : Nat} {never : MeshLeg × Session σ}
    {texts : List String} {stop : Option Nat} {sc : Session σ}
    (htake : never.1.items.take n = textItems texts) (hle : n ≤ never.1.items.length)
    (hlink : sc.link = never.2.link) (hbreaker : sc.breaker = never.2.breaker) :
    MeshCut n never
      (if stop.isSome then .finished (textItems texts) else .stalled (textItems texts), sc) := by
  refine .inr ⟨fun items h => ?_, ?_, hle, hlink, hbreaker⟩
  · split at h <;> cases h
  · split <;> exact htake.symm

namespace ClientM

variable {σ : Type} (setup : ClientSetup σ)

section Opening

variable {a b : Abort} (h : a.atMs = b.atMs)
include h

/-- Opening a stream looks at the abort only for its time. -/
theorem openStream_congr_atMs (backend address : String) (accept : Option String) (body : Json)
    (budget : Option Nat) :
    (openStream backend address accept body a budget : ClientM σ Opening) =
      openStream backend address accept body b budget := by
  unfold openStream
  rw [h]

theorem openMesh_congr_atMs (ms : List Message) :
    (openMesh ms a : ClientM σ Opening) = openMesh ms b := by
  unfold openMesh
  simp only [openStream_congr_atMs h]

theorem openLocal_congr_atMs (ms : List Message) :
    (openLocal ms a : ClientM σ Opening) = openLocal ms b := by
  unfold openLocal
  simp only [openStream_congr_atMs h]

end Opening

section Mesh

variable {setup} {ms : List Message} {s0 s1 : Session σ}

/-- The mesh part of a call depends on its abort only through whether it has fired at the start,
its time, and how the mesh's stream decodes under it. -/
theorem tryMesh_congr {a b : Abort} (hfired : a.fired 0 s0.now = b.fired 0 s0.now)
    (hat : a.atMs = b.atMs)
    (hdec : ∀ body headers s1,
      ((openMesh ms b : ClientM σ Opening).run setup).run s0 = (.opened body headers, s1) →
        decodeFrom MeshDecoder (headers - s0.now) body (a.control 0 s0.now none) =
          decodeFrom MeshDecoder (headers - s0.now) body (b.control 0 s0.now none)) :
    ((tryMesh ms a : ClientM σ MeshLeg).run setup).run s0 =
      ((tryMesh ms b : ClientM σ MeshLeg).run setup).run s0 := by
  simp only [tryMesh, run_bind, run_aborted, hfired, openMesh_congr_atMs hat]
  split
  · rfl
  · simp only [run_bind, run_now]
    rcases hopen : ((openMesh ms b : ClientM σ Opening).run setup).run s0 with ⟨opening, s1⟩
    cases opening with
    | opened body headers => simp only [hdec body headers s1 hopen]
    | _ => rfl

variable (setup)

/-- The mesh part of a call aborted after `n` items stands to the same part never aborted as
`MeshCut` says. -/
theorem tryMesh_afterItems (ms : List Message) {n : Nat} (hn : 0 < n) (s0 : Session σ) :
    MeshCut n (((tryMesh ms .never : ClientM σ MeshLeg).run setup).run s0)
      (((tryMesh ms ⟨some n, none⟩ : ClientM σ MeshLeg).run setup).run s0) := by
  have hfired := Abort.fired_afterItems_of_lt hn s0.now
  obtain ⟨-, habort⟩ := openMesh_spec setup s0 ms
  rcases hopen : ((openMesh ms .never : ClientM σ Opening).run setup).run s0 with ⟨opening, s1⟩
  rw [hopen] at habort
  cases opening with
  | aborted => exact absurd rfl habort
  | stalled =>
    -- no stream to decode: both parts wait with nothing
    rw [tryMesh_congr (a := ⟨some n, none⟩) (b := .never) (by rw [hfired]; rfl) rfl
      (fun _ _ _ h => by rw [hopen] at h; cases h)]
    have hmesh : ((tryMesh ms .never : ClientM σ MeshLeg).run setup).run s0 = (.stalled [], s1) := by
      simp only [tryMesh, run_bind, run_aborted, Abort.fired_never, Bool.false_eq_true, if_false,
        run_now, hopen, run_pure]
    rw [hmesh]
    exact .inl ⟨rfl, Nat.zero_le n, fun _ h => by cases h⟩
  | failed e =>
    rw [tryMesh_congr (a := ⟨some n, none⟩) (b := .never) (by rw [hfired]; rfl) rfl
      (fun _ _ _ h => by rw [hopen] at h; cases h)]
    obtain ⟨notes, hmesh⟩ := tryMesh_of_failed hopen
    rw [hmesh]
    exact MeshCut.fallBack_nil hn _
  | opened body headers =>
    have hcutopen : ((openMesh ms ⟨some n, none⟩ : ClientM σ Opening).run setup).run s0 =
        (.opened body headers, s1) := by
      rw [openMesh_congr_atMs (rfl : (⟨some n, none⟩ : Abort).atMs = Abort.never.atMs)]
      exact hopen
    have hrel := decodeFrom_cancelAfter MeshDecoder.atMostOneEvent n (headers - s0.now) body none
    have hfull := MeshDecoder.decoded (headers - s0.now) body
    simp only [show (⟨none, none, none⟩ : DecodeControl) = .none from rfl] at hrel
    generalize hU : decodeFrom MeshDecoder (headers - s0.now) body .none = U at hrel hfull
    have hA : decodeFrom MeshDecoder (headers - s0.now) body
        ((⟨some n, none⟩ : Abort).control 0 s0.now none) =
          decodeFrom MeshDecoder (headers - s0.now) body ⟨none, some n, none⟩ := by
      rw [Abort.control_afterItems, Nat.sub_zero]
    generalize decodeFrom MeshDecoder (headers - s0.now) body ⟨none, some n, none⟩ = A at hrel hA
    rcases hrel with ⟨rfl, hlen⟩ | ⟨htake, hle, hgrow⟩
    · -- the mesh gave at most `n` items: the two parts are the same
      rw [tryMesh_congr (a := ⟨some n, none⟩) (b := .never) (by rw [hfired]; rfl) rfl
        (fun body' headers' s1' h => by
        rw [hopen] at h
        cases h
        rw [hA, Abort.control_never_none, hU])]
      refine .inl ⟨rfl, ?_⟩
      cases hfull with
      | waiting texts _ =>
        rw [tryMesh_of_waiting hopen hU]
        exact ⟨by simpa [MeshLeg.items] using hlen, fun _ h => by cases h⟩
      | finished texts i o t =>
        rw [tryMesh_of_finished hopen hU]
        exact ⟨by simpa [MeshLeg.items] using hlen, fun _ h => by cases h⟩
      | failed texts d t _ =>
        obtain ⟨notes, hmesh⟩ := tryMesh_of_broken hopen hU
        rw [hmesh]
        refine ⟨by simp [MeshLeg.items] at hlen ⊢; omega, fun items h => ?_⟩
        cases h
        simp at hlen ⊢
        omega
    · -- the mesh's stream was cut at `n` items: the aborted part ends with them
      obtain ⟨cutItems, stop⟩ := A
      dsimp only at htake
      cases hfull with
      | waiting texts _ =>
        rw [take_textItems] at htake
        subst htake
        rw [tryMesh_of_texts hfired hcutopen hA, tryMesh_of_waiting hopen hU]
        exact MeshCut.of_texts (take_textItems texts n) (by simpa [MeshLeg.items] using hle)
          (by cases stop <;> rfl) (by cases stop <;> rfl)
      | finished texts i o t =>
        obtain ⟨htexts, hn⟩ := take_closed_textItems (hgrow rfl)
        rw [htexts] at htake
        subst htake
        rw [tryMesh_of_texts hfired hcutopen hA, tryMesh_of_finished hopen hU]
        exact MeshCut.of_texts (take_textItems_append hn _) (by simp [MeshLeg.items]; omega)
          (by cases stop <;> rfl) (by cases stop <;> rfl)
      | failed texts d t _ =>
        obtain ⟨htexts, hn⟩ := take_closed_textItems (hgrow rfl)
        rw [htexts] at htake
        subst htake
        obtain ⟨notes, hmesh⟩ := tryMesh_of_broken hopen hU
        rw [tryMesh_of_texts hfired hcutopen hA, hmesh]
        exact MeshCut.of_texts (take_textItems texts n) (by simpa [MeshLeg.items] using hn)
          (by cases stop <;> rfl) (by cases stop <;> rfl)

/-- The routing and the mesh part of a call aborted after `n` items stand to the same never
aborted as `MeshCut` says: the routing does not look at the abort. -/
theorem routeMesh_afterItems (ms : List Message) {n : Nat} (hn : 0 < n) (s : Session σ) :
    MeshCut n (((routeMesh ms .never : ClientM σ MeshLeg).run setup).run s)
      (((routeMesh ms ⟨some n, none⟩ : ClientM σ MeshLeg).run setup).run s) := by
  simp only [routeMesh, run_bind, run_config]
  cases setup.config.enableMeshRouting with
  | false => exact MeshCut.fallBack_nil hn s
  | true =>
    simp only [↓reduceIte, run_bind]
    rcases ((shouldUseMesh ms : ClientM σ Bool).run setup).run s with ⟨use, s0⟩
    cases use with
    | false => exact MeshCut.fallBack_nil hn s0
    | true => exact tryMesh_afterItems setup ms hn s0

end Mesh

section Cut

variable {setup} {ms : List Message} {n k : Nat} {s1 s2 : Session σ} {body : ReadSchedule}
  {headers : Nat}

/-- A local stream cut when the call has received its `n` items gives its text, and the local
part then records nothing: the abort has fired. -/
theorem tryLocal_of_cut {texts : List String} {stop : Option Nat} (hk : k < n)
    (hlen : k + texts.length = n)
    (hopen : ((openLocal ms ⟨some n, none⟩ : ClientM σ Opening).run setup).run s1 =
      (.opened body headers, s2))
    (hdec : decodeFrom LocalDecoder (headers - s1.now) body
      ((⟨some n, none⟩ : Abort).control k s1.now (some setup.config.requestTimeoutMs)) =
        (textItems texts, stop)) :
    ∃ now notes, ((tryLocal ms ⟨some n, none⟩ k : ClientM σ _).run setup).run s1 =
      (textItems texts, { s2 with now, notes }) := by
  have hfired := Abort.fired_afterItems_of_lt hk s1.now
  obtain ⟨notes, h⟩ := tryLocal_of_events hfired hopen (hdec.trans (by rw [textItems_eq_map]))
  rw [h, ← textItems_eq_map, Abort.fired_afterItems, List.length_map, hlen]
  simp only [Nat.le_refl, decide_true, if_true]
  cases stop <;> exact ⟨_, notes, rfl⟩

end Cut

/-- The local part of a call aborted after `n` items, started after `k < n` of them: the first
`n - k` items of the same part never aborted, from the same request to the local server. It
records on the breaker what that part records when that part's items are settled within their
first `n - k`, and nothing otherwise. -/
theorem tryLocal_afterItems (ms : List Message) {n k : Nat} (hk : k < n) (s1 : Session σ) :
    let never := ((tryLocal ms .never k : ClientM σ _).run setup).run s1
    let cut := ((tryLocal ms ⟨some n, none⟩ k : ClientM σ _).run setup).run s1
    cut.1 = never.1.take (n - k) ∧ cut.2.link = never.2.link ∧
      cut.2.breaker = if recordsWithin (n - k) never.1 then never.2.breaker else s1.breaker := by
  have hfired := Abort.fired_afterItems_of_lt hk s1.now
  have hnever : Abort.never.fired k s1.now = false := rfl
  obtain ⟨⟨link, now, notes, hs2⟩, habort, hstall, -⟩ := openLocal_spec setup s1 ms
  rcases hopen : ((openLocal ms .never : ClientM σ Opening).run setup).run s1 with ⟨opening, s2⟩
  rw [hopen] at hs2 habort hstall
  dsimp only at hs2 habort hstall
  subst hs2
  have hcutopen : ((openLocal ms ⟨some n, none⟩ : ClientM σ Opening).run setup).run s1 =
      (opening, { s1 with link, now, notes }) := by
    rw [openLocal_congr_atMs (rfl : (⟨some n, none⟩ : Abort).atMs = Abort.never.atMs)]
    exact hopen
  dsimp only
  cases opening with
  | aborted => exact absurd rfl habort
  | stalled => exact absurd rfl hstall
  | failed e =>
    -- both parts fail alike, before any event
    rw [tryLocal_of_failed hfired hcutopen, tryLocal_of_failed hnever hopen]
    refine ⟨(List.take_of_length_le (by simp; omega)).symm, rfl, ?_⟩
    have hrec := recordsWithin_textItems_error []
      (((localFailure e : ClientM σ _).run setup).run { s1 with link, now, notes }).1 (n - k)
    rw [textItems_nil, List.nil_append] at hrec
    rw [if_pos (by rw [hrec]; simp; omega)]
  | opened body headers =>
    have hrel := decodeFrom_cancelAfter LocalDecoder.atMostOneEvent (n - k) (headers - s1.now) body
      (some setup.config.requestTimeoutMs)
    have hfull := LocalDecoder.decoded setup.config.requestTimeoutMs (headers - s1.now) body
    have hU : decodeFrom LocalDecoder (headers - s1.now) body
        (Abort.never.control k s1.now (some setup.config.requestTimeoutMs)) =
          decodeFrom LocalDecoder (headers - s1.now) body
            ⟨some setup.config.requestTimeoutMs, none, none⟩ := by
      rw [Abort.control_never]
    have hA : decodeFrom LocalDecoder (headers - s1.now) body
        ((⟨some n, none⟩ : Abort).control k s1.now (some setup.config.requestTimeoutMs)) =
          decodeFrom LocalDecoder (headers - s1.now) body
            ⟨some setup.config.requestTimeoutMs, some (n - k), none⟩ := by
      rw [Abort.control_afterItems]
    generalize decodeFrom LocalDecoder (headers - s1.now) body
      ⟨some setup.config.requestTimeoutMs, none, none⟩ = U at hrel hfull hU
    generalize decodeFrom LocalDecoder (headers - s1.now) body
      ⟨some setup.config.requestTimeoutMs, some (n - k), none⟩ = A at hrel hA
    cases hfull with
    | waiting texts h => cases h
    | finished texts i o t =>
      -- the part never aborted records a success after its text and usage report
      obtain ⟨notesN, hN⟩ := tryLocal_of_events hnever hopen (hU.trans (by rw [textItems_append_ok]))
      rw [hN]
      simp only [Abort.fired_never, Bool.false_eq_true, if_false]
      rcases hrel with ⟨rfl, hlen⟩ | ⟨htake, hle, hgrow⟩
      · obtain ⟨notesC, hC⟩ := tryLocal_of_events hfired hcutopen
          (hA.trans (by rw [textItems_append_ok]))
        rw [hC]
        have hlen' : texts.length + 1 ≤ n - k := by simpa using hlen
        rw [← textItems_append_ok, recordsWithin_textItems_ok, Abort.fired_afterItems]
        simp only [List.length_append, List.length_map, List.length_cons, List.length_nil]
        by_cases hreach : n ≤ k + (texts.length + 1)
        · -- the usage report is the `n`-th item: the abort comes before the success is recorded
          rw [if_pos (decide_eq_true hreach), if_neg (by simp; omega)]
          exact ⟨(List.take_of_length_le (by simp; omega)).symm, rfl, rfl⟩
        · -- fewer than `n` items: the success is recorded as without the abort
          rw [if_neg (by simpa using hreach), if_pos (by simp; omega)]
          exact ⟨(List.take_of_length_le (by simp; omega)).symm, rfl, rfl⟩
      · -- the stream was cut at its `n - k`-th item, before the usage report: no success is
        -- recorded
        obtain ⟨htexts, hm⟩ := take_closed_textItems (hgrow rfl)
        obtain ⟨cutItems, stop⟩ := A
        dsimp only at htake
        rw [htexts] at htake
        subst htake
        obtain ⟨now', notesC, hC⟩ := tryLocal_of_cut hk (by simp; omega) hcutopen hA
        rw [hC, ← textItems_append_ok, take_textItems_append hm, recordsWithin_textItems_ok,
          if_neg (by simp; omega)]
        exact ⟨rfl, rfl, rfl⟩
    | failed texts d t hd =>
      -- the part never aborted records the local failure after its text
      rw [tryLocal_of_broken hnever hopen (hU.trans (by rw [textItems_eq_map]))]
      rcases hrel with ⟨rfl, hlen⟩ | ⟨htake, hle, hgrow⟩
      · -- the same stream: the failure is recorded before its error is received
        rw [tryLocal_of_broken hfired hcutopen (hA.trans (by rw [textItems_eq_map])),
          ← textItems_eq_map, recordsWithin_textItems_error]
        have hlen' : texts.length + 1 ≤ n - k := by simpa using hlen
        rw [if_pos (by simp; omega)]
        exact ⟨(List.take_of_length_le (by simp; omega)).symm, rfl, rfl⟩
      · -- the stream was cut at its `n - k`-th item, before the error: nothing is recorded
        obtain ⟨htexts, hm⟩ := take_closed_textItems (hgrow rfl)
        obtain ⟨cutItems, stop⟩ := A
        dsimp only at htake
        rw [htexts] at htake
        subst htake
        obtain ⟨now', notesC, hC⟩ := tryLocal_of_cut hk (by simp; omega) hcutopen hA
        rw [hC, localFailure_link, ← textItems_eq_map, take_textItems_append hm,
          recordsWithin_textItems_error, if_neg (by simp; omega)]
        exact ⟨rfl, rfl, rfl⟩

/-- A call whose abort has fired when it starts yields nothing and changes nothing. -/
theorem streamMessages_fired (ms : List Message) {abort : Abort} {s : Session σ}
    (h : abort.fired 0 s.now = true) :
    ((streamMessages ms abort : ClientM σ _).run setup).run s = ([], s) := by
  simp only [streamMessages, run_bind, run_aborted, h, if_true, run_pure]

/-- What a call on `ms` aborted once it has received `n` items does, against the same call never
aborted: it yields the first `n` of that call's items. It leaves the network where that call
leaves it when the mesh part handed over to the local server before the `n`-th item, and where
the mesh part leaves it otherwise: no request goes out after the abort. It leaves the breaker
where that call leaves it when that call's items are settled within their first `n`, and where
the mesh part leaves it otherwise: nothing is recorded after the abort. -/
def CutAfter (s : Session σ) (ms : List Message) (n : Nat) : Prop :=
  let never := ((streamMessages ms .never : ClientM σ _).run setup).run s
  let cut := ((streamMessages ms ⟨some n, none⟩ : ClientM σ _).run setup).run s
  let mesh := ((routeMesh ms .never : ClientM σ MeshLeg).run setup).run s
  cut.1 = never.1.take n ∧
    cut.2.link = (if mesh.1.fallsBackWithin n then never.2.link else mesh.2.link) ∧
    cut.2.breaker = (if recordsWithin n never.1 then never.2.breaker else mesh.2.breaker)

/-- Every call aborted once it has received `n > 0` items does what `CutAfter` says. -/
theorem streamMessages_afterItems (ms : List Message) {n : Nat} (hn : 0 < n) (s : Session σ) :
    CutAfter setup s ms n := by
  have hfired := Abort.fired_afterItems_of_lt hn s.now
  have hyields := (routeMesh_spec setup s ms).2
  have hrel := routeMesh_afterItems setup ms hn s
  dsimp only [CutAfter]
  simp only [streamMessages, run_bind, run_aborted, hfired, Abort.fired_never, Bool.false_eq_true,
    if_false]
  generalize ((routeMesh ms .never : ClientM σ MeshLeg).run setup).run s = never at hrel hyields ⊢
  generalize ((routeMesh ms ⟨some n, none⟩ : ClientM σ MeshLeg).run setup).run s = cut at hrel ⊢
  obtain ⟨legN, sN⟩ := never
  obtain ⟨legC, sC⟩ := cut
  rcases hrel with ⟨heq, hlen, hfb⟩ | ⟨hnotfb, hitems, hle, hlink, hbreaker⟩
  · -- the mesh part went as without the abort
    cases heq
    cases legN with
    | finished items =>
      simp only [run_pure, MeshLeg.fallsBackWithin, Bool.false_eq_true, ite_self]
      exact ⟨(List.take_of_length_le hlen).symm, trivial, trivial⟩
    | stalled items =>
      simp only [run_pure, MeshLeg.fallsBackWithin, Bool.false_eq_true, ite_self]
      exact ⟨(List.take_of_length_le hlen).symm, trivial, trivial⟩
    | fallBack items =>
      -- the mesh handed over before the `n`-th item: the local part runs, cut at `n`
      have hk := hfb items rfl
      obtain ⟨texts, rfl⟩ := hyields
      obtain ⟨hcutItems, hcutLink, hcutBreaker⟩ := tryLocal_afterItems setup ms hk sN
      have hgo := Abort.fired_afterItems_of_lt hk sN.now
      simp only [run_bind, run_aborted, hgo, Abort.fired_never, Bool.false_eq_true, if_false,
        run_pure, MeshLeg.fallsBackWithin, decide_eq_true_eq, hk, if_true]
      refine ⟨?_, hcutLink, ?_⟩
      · rw [hcutItems, List.take_append, List.take_of_length_le (Nat.le_of_lt hk)]
      · -- the text before the local part counts against the `n` items
        have hrec : ∀ items, recordsWithin n (textItems texts ++ items) =
            recordsWithin (n - (textItems texts : List ClientItem).length) items := by
          intro items
          obtain ⟨m, rfl⟩ : ∃ m, n = texts.length + m := ⟨n - texts.length, by simp at hk; omega⟩
          rw [recordsWithin_textItems_append, length_textItems, Nat.add_sub_cancel_left]
        rw [hcutBreaker, hrec]
  · -- the mesh part ended with the first `n` items: nothing follows it
    cases legC with
    | fallBack itemsC => exact absurd rfl (hnotfb itemsC)
    | finished itemsC | stalled itemsC =>
      dsimp only [MeshLeg.items] at hitems hle hlink hbreaker
      subst hitems
      cases legN with
      | finished itemsN | stalled itemsN =>
        simp only [run_pure, MeshLeg.fallsBackWithin, Bool.false_eq_true, ite_self]
        exact ⟨trivial, hlink, hbreaker⟩
      | fallBack itemsN =>
        -- the part never aborted handed over at or after the `n`-th item
        obtain ⟨texts, rfl⟩ := hyields
        simp only [length_textItems] at hle
        simp only [run_bind, run_aborted, Abort.fired_never, Bool.false_eq_true, if_false, run_pure,
          MeshLeg.fallsBackWithin, length_textItems, decide_eq_true_eq, Nat.not_lt.2 hle,
          recordsWithin_textItems_append_of_le hle]
        refine ⟨?_, hlink, hbreaker⟩
        rw [List.take_append_of_le_length (by simpa using hle)]

end ClientM

open ClientM

/-- Aborting a completion call, plain or retrying. An abort that has fired when the call starts
leaves it nothing to do: no item, no request, no record, and for the retrying call no attempt.
An abort once `n + 1` items are received cuts a call as `CutAfter` says. Under any abort that has
not fired at its start, a retrying call goes as `RetryRun` says: each attempt runs under the
abort, so it is cut as above, and an abort during a pause ends the call there with nothing
more. -/
theorem abort_ends_call {σ : Type} (setup : ClientSetup σ) (s : Session σ) (policy : RetryPolicy)
    (shouldRetry : InferError → Bool) (systemPrompt : String) (history : List Turn) :
    (∀ abort : Abort, abort.fired 0 s.now = true →
      ((createMessage systemPrompt history abort : ClientM σ _).run setup).run s = ([], s) ∧
        ∃ notes, ((createMessageWithRetry policy shouldRetry systemPrompt history abort :
          ClientM σ _).run setup).run s = ([], { s with notes })) ∧
    (∀ n, CutAfter setup s (Message.build systemPrompt history) (n + 1)) ∧
    (∀ abort : Abort, abort.fired 0 s.now = false →
      let r := ((createMessageWithRetry policy shouldRetry systemPrompt history abort :
        ClientM σ _).run setup).run s
      RetryRun setup policy shouldRetry (Message.build systemPrompt history) abort 0 s r.1 r.2) := by
  refine ⟨fun abort hfired => ⟨?_, ?_⟩, fun n => ?_, fun abort hfired => ?_⟩
  · exact streamMessages_fired setup (Message.build systemPrompt history) hfired
  · exact run_createMessageWithRetry_fired s policy shouldRetry abort systemPrompt history hfired
  · exact streamMessages_afterItems setup (Message.build systemPrompt history) (Nat.succ_pos n) s
  · exact run_createMessageWithRetry s policy shouldRetry abort systemPrompt history hfired

end InferRoute
