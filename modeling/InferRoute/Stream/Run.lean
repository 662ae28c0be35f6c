import InferRoute.Stream.Decoder
import InferRoute.Stream.LineBuffer

/-!
Decoding a byte stream that arrives in timed reads. Reads complete one after another, each a
given number of milliseconds after the one before; the stream then ends or stays pending. The
lines of each read go through the decoder; the stream yields the decoder's events and closes with
its usage report, either when a line finishes the answer or when the bytes end.

A deadline `D` wins over any read that would complete at `D` or later, and then the stream yields
one timeout error and stops; a failed read yields one transport error and stops. A caller may
cancel after it has received some number of items, or at a time: from then on nothing more is
yielded. A cancellation at a time wins over a deadline or a read at the same moment. The stream
looks for a cancellation before each read, before each line, and before its usage report, but not
between the events of one line. All times are milliseconds on one clock, on which the stream
starts at a given time (`0` for `decodeStream`).
-/

namespace InferRoute

/-- What a read delivers: bytes, or a failure with its message. -/
inductive ReadResult where
  | bytes (data : List UInt8)
  | failure (message : String)
deriving Repr, DecidableEq, Inhabited

/-- A read and the milliseconds it takes after the previous one. -/
structure TimedRead where
  delayMs : Nat
  result : ReadResult
deriving Repr, DecidableEq, Inhabited

/-- How a stream goes on after its reads: it ends, or it never delivers again. -/
inductive StreamEnd where
  | eof
  | pending
deriving Repr, DecidableEq, Inhabited

/-- The reads of a byte stream, in order, and how it goes on after them. -/
structure ReadSchedule where
  reads : List TimedRead
  finish : StreamEnd
deriving Repr, DecidableEq, Inhabited

/-- The caller's limits on decoding: a deadline, the number of received items after which it
cancels (`0` cancels before the first read), and a time at which it cancels. -/
structure DecodeControl where
  deadlineMs : Option Nat
  cancelAfter : Option Nat
  cancelAtMs : Option Nat
deriving Repr, DecidableEq, Inhabited

namespace DecodeControl

/-- No deadline, no cancellation. -/
def none : DecodeControl := ⟨Option.none, Option.none, Option.none⟩

/-- Whether the caller has cancelled once `received` items have been received. -/
def cancelled (c : DecodeControl) (received : Nat) : Bool :=
  match c.cancelAfter with
  | some n => decide (n ≤ received)
  | Option.none => false

/-- Whether a read completing at `t` ms comes too late. -/
def late (c : DecodeControl) (t : Nat) : Bool :=
  match c.deadlineMs with
  | some d => decide (d ≤ t)
  | Option.none => false

/-- When the caller's cancellation stops a wait that would end at `t` (`none`: a wait without
end): the cancellation time, if it comes no later than `t` and the deadline. -/
def stopsBefore (c : DecodeControl) (t : Option Nat) : Option Nat :=
  match c.cancelAtMs with
  | some at_ =>
    let beforeRead := match t with
      | some t => decide (at_ ≤ t)
      | Option.none => true
    let beforeDeadline := match c.deadlineMs with
      | some d => decide (at_ ≤ d)
      | Option.none => true
    if beforeRead && beforeDeadline then some at_ else Option.none
  | Option.none => Option.none

end DecodeControl

namespace Decoding

variable {σ : Type} [LineDecoder σ]

/-- The lines of one read, after `items`: the decoder, the items, and whether the stream has
stopped (cancelled, or closed by a finishing line and its usage report). -/
def feedLines (ctl : DecodeControl) : σ → List String → List StreamItem →
    σ × List StreamItem × Bool
  | d, [], items => (d, items, false)
  | d, line :: rest, items =>
    if ctl.cancelled items.length then (d, items, true)
    else
      let (d', events, flow) := LineDecoder.decodeLine d line
      let items := items ++ events.map Except.ok
      match flow with
      | .finished =>
        if ctl.cancelled items.length then (d', items, true)
        else (d', items ++ [.ok (LineDecoder.usage d')], true)
      | .continue => feedLines ctl d' rest items

/-- The items of the stream from the reads `reads`, the stream's clock standing at `now`, after
`items`; with the time at which the stream stops, or `none` when it waits for ever. -/
def runReads (ctl : DecodeControl) (finish : StreamEnd) : σ → LineBuffer → Nat →
    List TimedRead → List StreamItem → List StreamItem × Option Nat
  | d, buf, now, reads, items =>
    if ctl.cancelled items.length then (items, some now)
    else
      match reads with
      | [] =>
        match finish with
        | .eof => (items ++ [.ok (LineDecoder.usage d)], some now)
        | .pending =>
          match ctl.stopsBefore Option.none with
          | some at_ => (items, some (max now at_))
          | Option.none =>
            match ctl.deadlineMs with
            | some ms => (items ++ [.error (.timeout (LineDecoder.backend σ) ms)], some (max now ms))
            | Option.none => (items, Option.none)
      | r :: rest =>
        let t := now + r.delayMs
        match ctl.stopsBefore (some t) with
        | some at_ => (items, some (max now at_))
        | Option.none =>
          if ctl.late t then
            let ms := ctl.deadlineMs.getD 0
            (items ++ [.error (.timeout (LineDecoder.backend σ) ms)], some (max now ms))
          else
            match r.result with
            | .failure msg => (items ++ [.error (.transport (LineDecoder.backend σ) msg)], some t)
            | .bytes data =>
              let (lines, buf') := buf.push data
              let (d', items', stopped) := feedLines ctl d lines items
              if stopped then (items', some t) else runReads ctl finish d' buf' t rest items'

end Decoding

/-- Everything a decoded stream yields for a schedule under the caller's control when it starts
at `startMs`, and when it stops (`none`: it waits for ever). -/
def decodeFrom (σ : Type) [LineDecoder σ] (startMs : Nat) (schedule : ReadSchedule)
    (ctl : DecodeControl) : List StreamItem × Option Nat :=
  Decoding.runReads ctl schedule.finish (LineDecoder.fresh : σ) LineBuffer.empty startMs
    schedule.reads []

/-- Everything a decoded stream yields for a schedule under the caller's control. A stream that
stays pending with no deadline yields these items and then waits for ever. -/
def decodeStream (σ : Type) [LineDecoder σ] (schedule : ReadSchedule) (ctl : DecodeControl) :
    List StreamItem :=
  (decodeFrom σ 0 schedule ctl).1

end InferRoute
