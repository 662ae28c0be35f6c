import InferRoute.Url.Read
import InferRoute.Json.Value
import InferRoute.Stream.Run

/-!
HTTP exchanges as the inference client sees them. Before a request is sent the HTTP client reads
its address, and refuses one it cannot read, one without a host, and one whose scheme is not
`http` or `https`. A request that is sent meets a network, which either answers it (headers some
milliseconds later, then a body in timed reads) or lets it fail. The network is a parameter of
everything the client does: a step function over a state of its own, so a statement about the
client holds for every network.
-/

namespace InferRoute

/-- An HTTP request: method, address, the media type it asks for, and its JSON body. -/
structure HttpRequest where
  method : String
  url : Url
  accept : Option String
  body : Option Json

/-- A server's answer: the headers arrive `afterMs` after the request was sent, with `status`;
the body follows in timed reads. -/
structure HttpReply where
  afterMs : Nat
  status : Nat
  body : ReadSchedule
deriving Repr, Inhabited

/-- What became of a request that was sent. -/
inductive Exchange where
  /-- No answer: the connection could not be made, or broke before the headers; the client
  learns it `afterMs` after sending. -/
  | failed (afterMs : Nat)
  | replied (reply : HttpReply)
deriving Repr, Inhabited

/-- A network: what it makes of each request sent, given its state, and its next state. -/
structure Network (σ : Type) where
  exchange : σ → HttpRequest → Exchange × σ

namespace Network

/-- The network on which no request ever gets an answer: every connection fails at once. -/
def unreachable : Network Unit := ⟨fun _ _ => (.failed 0, ())⟩

end Network

/-- Why the HTTP client gives up on a request. -/
inductive HttpFault where
  /-- The address cannot be read. -/
  | badAddress
  /-- The address has no host, or a scheme other than `http` and `https`. -/
  | unsupported (url : Url)
  /-- The request could not be sent, or got no answer. -/
  | unsent (url : Url)

namespace HttpFault

/-- The HTTP client's message: the stage that failed and, when it is known, the address, shown
without its user name and password. -/
def message : HttpFault → String
  | .badAddress => "builder error"
  | .unsupported u => "builder error for url (" ++ u.withoutCredentials.render ++ ")"
  | .unsent u => "error sending request for url (" ++ u.withoutCredentials.render ++ ")"

end HttpFault

/-- The address of a request as the HTTP client takes it: readable, with a host, and of the
`http` or `https` scheme. -/
def HttpRequest.target (address : String) : Except HttpFault Url :=
  match Url.parse address with
  | .error _ => .error .badAddress
  | .ok u =>
    if u.hasHost && (u.scheme == "http" || u.scheme == "https") then .ok u
    else .error (.unsupported u)

namespace HttpReply

/-- Whether the status is a success (200 to 299). -/
def succeeded (r : HttpReply) : Bool := decide (200 ≤ r.status) && decide (r.status < 300)

/-- Whether the status is one whose answer has no body (204 No Content, 205 Reset Content). -/
def bodiless (r : HttpReply) : Bool := r.status == 204 || r.status == 205

end HttpReply

/-- A body read to its end: all its bytes and how long the reads took, or a failed read and
when it failed, or a body that never ends. -/
inductive BodyRead where
  | complete (bytes : List UInt8) (afterMs : Nat)
  | broken (message : String) (afterMs : Nat)
  | endless
deriving Repr, Inhabited

namespace ReadSchedule

/-- Reads from `reads` on, after `bytes` and `elapsed` ms. -/
def collectFrom (finish : StreamEnd) : List TimedRead → List UInt8 → Nat → BodyRead
  | [], bytes, elapsed =>
    match finish with
    | .eof => .complete bytes elapsed
    | .pending => .endless
  | r :: rest, bytes, elapsed =>
    match r.result with
    | .failure msg => .broken msg (elapsed + r.delayMs)
    | .bytes data => collectFrom finish rest (bytes ++ data) (elapsed + r.delayMs)

/-- The whole body of a schedule. -/
def collect (s : ReadSchedule) : BodyRead := collectFrom s.finish s.reads [] 0

end ReadSchedule

/-- The text of a body: a leading byte order mark dropped, the rest read as UTF-8 with
ill-formed parts replaced. -/
def bodyText (bytes : List UInt8) : String :=
  match bytes with
  | 0xEF :: 0xBB :: 0xBF :: rest => Utf8.decodeLossy rest
  | _ => Utf8.decodeLossy bytes

end InferRoute
