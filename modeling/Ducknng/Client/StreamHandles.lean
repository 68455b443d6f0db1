import Ducknng.Lib.Runs
import Mathlib.Data.List.Basic

namespace Ducknng

/-!
# Handles of streaming HTTP responses

Model of the handles that `ducknng_ncurl_stream_open_aio`, `ducknng_ncurl_stream_recv_aio` and
`ducknng_ncurl_stream_close` work on: the registered streams with their reference counts, the
asynchronous operations on them, and every thread that is between two sections under the
runtime mutex. One step is one such section, together with what its thread does outside of the
mutex right before it.

* `HttpClientStream`, `ClientAio` — the fields that decide how long a stream lives.
* `AioTask` — what a thread still has to do, by its next section.
* `StreamRuntime.step` — calls, callbacks and the next section of a thread.

Streams and operations are named by the order of their registration, from zero; the ids of the
source are one more. What receiving makes of the bytes is the subject of `ClientStream`: here
every outcome is possible. An open that cannot register its stream frees it before anyone else
can name it.
-/

/-- `ducknng_http_stream_open_phase` -/
inductive OpenPhase
  | connect
  | writeRequest
  | readHeaders
  | done
  deriving DecidableEq, Repr

/-- `recv_aio_id`: zero, `UINT64_MAX` or the operation that receives. -/
inductive RecvMark
  | free
  | reserved
  | taken (aio : Nat)
  deriving DecidableEq, Repr

/-- A stream, with its place in the runtime's table. `collected` records that a collect has
    handed the stream out, `destroyed` how often it has been destroyed. -/
structure HttpClientStream where
  refcount : Nat := 1
  registered : Bool := true
  openPhase : OpenPhase := .connect
  conn : Bool := false
  isOpen : Bool := false
  failed : Bool := false
  closing : Bool := false
  recvAioId : RecvMark := .free
  collected : Bool := false
  destroyed : Nat := 0
  deriving DecidableEq, Repr

/-- The states `DUCKNNG_CLIENT_AIO_*` of an operation. -/
inductive AioState
  | pending
  | ready
  | error
  | cancelled
  | collected
  deriving DecidableEq, Repr

/-- The kinds of operation that work on a stream. -/
inductive AioKind
  | ncurlStreamOpen
  | ncurlStreamRecv
  deriving DecidableEq, Repr

/-- An operation. `live` says that it is in the runtime's table, `inFlight` that nng has it and
    will run its callback. -/
structure ClientAio where
  kind : AioKind
  httpStreamId : Nat
  httpStreamRef : Option Nat := none
  httpStreamClaimed : Bool := false
  state : AioState := .pending
  live : Bool := true
  inFlight : Bool := false
  deriving DecidableEq, Repr

/-- The outcome of something a thread does: a return code below, at or above zero. -/
inductive Advance
  | error
  | more
  | complete
  deriving DecidableEq, Repr

/-- The result of an nng operation, as far as callbacks tell them apart. -/
inductive AioResult
  | ok
  | canceled
  | failed
  deriving DecidableEq, Repr

/-- What a thread still has to do. -/
inductive AioTask
  /-- the open has registered its stream and makes its operation -/
  | openPrepared (sid : Nat)
  /-- the open submits the connect -/
  | openSubmitting (sid aio : Nat)
  /-- the callback of an open submits the next action -/
  | openResubmit (sid aio : Nat)
  /-- the receive has reserved the stream and makes its operation -/
  | recvReserved (sid : Nat)
  /-- the receive has registered its operation -/
  | recvRegistered (sid aio : Nat)
  /-- the receive submits its first read -/
  | recvSubmitting (sid aio : Nat)
  /-- the callback of a receive submits another read -/
  | recvResubmit (sid aio : Nat)
  /-- the receive takes its operation back: `fail_registered` -/
  | recvUnregister (sid aio : Nat)
  /-- the receive takes its reservation back: `fail_reservation` -/
  | recvReset (sid : Nat)
  /-- the close has taken the connection and closes it -/
  | closing (sid : Nat)
  /-- the drop has found its operation complete -/
  | dropping (aio : Nat)
  /-- `ducknng_client_aio_destroy` of an operation that is in no table -/
  | destroyAio (slot : ClientAio)
  /-- remove the stream, then release it -/
  | discard (sid : Nat)
  /-- `ducknng_runtime_release_http_client_stream` -/
  | release (sid : Nat)
  | done
  deriving DecidableEq, Repr

/-- The runtime: all streams and operations there have been, and the threads. -/
structure StreamRuntime where
  streams : List HttpClientStream := []
  slots : List ClientAio := []
  tasks : List AioTask := []
  down : Bool := false
  deriving DecidableEq, Repr

/-! ### Streams -/

namespace HttpClientStream

/-- `ducknng_http_client_stream_prepare`, with what registration adds. -/
def prepared : HttpClientStream where
  refcount := 1

variable (s : HttpClientStream)

/-- A reference is given back; without references the stream is destroyed. -/
def release : HttpClientStream :=
  { s with
    refcount := s.refcount - 1
    destroyed := if s.refcount - 1 = 0 then s.destroyed + 1 else s.destroyed }

/-- `ducknng_http_client_stream_open_advance`, where `rc` says whether the connect gave a
    connection and whether the response head could be configured. -/
def openAdvance (rv : AioResult) (rc : Advance) :
    Advance × HttpClientStream :=
  if rv ≠ .ok then (.error, { s with failed := true })
  else match s.openPhase with
    | .connect =>
      if rc = .error then (.error, { s with failed := true })
      else (.more, { s with conn := true, openPhase := .writeRequest })
    | .writeRequest => (.more, { s with openPhase := .readHeaders })
    | .readHeaders =>
      if rc = .error then (.error, { s with failed := true })
      else (.complete, { s with openPhase := .done, isOpen := true })
    | .done => (.error, { s with failed := true })

/-- `ducknng_http_client_stream_recv_begin`, where `rc` is what the buffered bytes give. -/
def recvBegin (rc : Advance) : Advance × HttpClientStream :=
  if !s.isOpen || s.failed || s.closing then (.error, s)
  else (rc, { s with failed := rc == .error })

/-- `ducknng_http_client_stream_recv_advance`: after an error of the read only a body that ends
    with the connection can be complete. -/
def recvAdvance (rv : AioResult) (rc : Advance) :
    Advance × HttpClientStream :=
  if rv ≠ .ok ∧ ¬ (rc = .complete ∧ s.closing = false) ∨ rc = .error then
    (.error, { s with failed := true })
  else (rc, s)

/-- The receive that a stream was marked with is over. -/
def unmark (mark : RecvMark) : HttpClientStream :=
  if s.recvAioId = mark then { s with recvAioId := .free } else s

/-- A receive may start. -/
def readable : Bool :=
  s.isOpen && !s.closing && !s.failed && s.recvAioId == .free

end HttpClientStream

namespace StreamRuntime

/-! ### Tables -/

variable (w : StreamRuntime)

/-- `ducknng_runtime_find_http_client_stream_locked` -/
def findStream (sid : Nat) : Option HttpClientStream :=
  w.streams[sid]?.filter (·.registered)

/-- `ducknng_find_client_aio_locked` -/
def findAio (a : Nat) : Option ClientAio :=
  w.slots[a]?.filter (·.live)

/-- A stream changes. -/
def setStream (sid : Nat) (s : HttpClientStream) : StreamRuntime :=
  { w with streams := w.streams.set sid s }

/-- An operation changes. -/
def setAio (a : Nat) (slot : ClientAio) : StreamRuntime :=
  { w with slots := w.slots.set a slot }

/-- `ducknng_runtime_add_client_aio` -/
def addAio (slot : ClientAio) : StreamRuntime :=
  { w with slots := w.slots ++ [slot] }

/-- A thread goes on to its next section. -/
def setTask (i : Nat) (t : AioTask) : StreamRuntime :=
  { w with tasks := w.tasks.set i t }

/-- A new thread, or a new callback. -/
def spawn (t : AioTask) : StreamRuntime :=
  { w with tasks := w.tasks ++ [t] }

/-- `ducknng_runtime_remove_http_client_stream`, then the release of what was removed. -/
def removeStream (i sid : Nat) : StreamRuntime :=
  match w.findStream sid with
  | none => w.setTask i .done
  | some s => (w.setStream sid { s with registered := false }).setTask i (.release sid)

/-- `ducknng_runtime_remove_client_aio`, then the destruction of what was removed. -/
def removeAio (i a : Nat) : StreamRuntime :=
  match w.findAio a with
  | none => w.setTask i .done
  | some slot => (w.setAio a { slot with live := false }).setTask i (.destroyAio slot)

/-! ### Sections of a thread -/

/-- The operation has been handed to nng. -/
def submitted (i a : Nat) : Option StreamRuntime := do
  let slot ← w.slots[a]?
  return (w.setAio a { slot with inFlight := true }).setTask i .done

/-- The section of a failed first submission: the receive is over. -/
def submitFailed (i sid a : Nat) : Option StreamRuntime := do
  let s ← w.streams[sid]?
  let slot ← w.slots[a]?
  return ((w.setStream sid (s.unmark (.taken a))).setAio a
    { slot with state := .error, httpStreamRef := none }).setTask i (.release sid)

/-- The section of a receive after its registration. -/
def recvSection (i sid a : Nat) (rc : Advance) : Option StreamRuntime := do
  let slot ← w.slots[a]?
  match w.findStream sid with
  | none => return w.setTask i (.recvUnregister sid a)
  | some s =>
    if s.recvAioId ≠ .reserved then return w.setTask i (.recvUnregister sid a)
    else match s.recvBegin rc with
      | (.more, s) =>
        return (w.setStream sid { s with recvAioId := .taken a }).setTask i (.recvSubmitting sid a)
      | (rc, s) =>
        return ((w.setStream sid { s with recvAioId := .free }).setAio a
          { slot with
            state := if rc = .complete then .ready else .error
            httpStreamRef := none }).setTask i (.release sid)

/-- The section of a callback of an open whose next action could not be submitted. -/
def openResubmitFailed (i sid a : Nat) : Option StreamRuntime := do
  let s ← w.streams[sid]?
  let slot ← w.slots[a]?
  if slot.state = .pending then
    return ((w.setStream sid { s with failed := true }).setAio a
      { slot with state := .error }).setTask i .done
  else return w.setTask i .done

/-- The section of a callback of a receive whose next read could not be submitted. The stream
    is released whatever the state of the operation is. -/
def recvResubmitFailed (i sid a : Nat) : Option StreamRuntime := do
  let s ← w.streams[sid]?
  let slot ← w.slots[a]?
  if slot.state = .pending then
    return ((w.setStream sid { s.unmark (.taken a) with failed := true }).setAio a
      { slot with state := .error, httpStreamRef := none }).setTask i (.release sid)
  else return w.setTask i (.release sid)

/-- `ducknng_runtime_release_http_client_stream` by thread `i`, which goes on with `t`. -/
def releaseStream (i sid : Nat) (t : AioTask) : Option StreamRuntime := do
  let s ← w.streams[sid]?
  return (w.setStream sid s.release).setTask i t

/-- A read needs the connection. -/
def readFails (sid : Nat) (rc : Advance) : Bool :=
  rc == .error || (w.streams[sid]?.all fun s => !s.conn)

/-- The next section of thread `i`; `rc` is the outcome of the allocation, the submission or
    the decoding that goes with it. -/
def resume (i : Nat) (rc : Advance) : AioTask → Option StreamRuntime
  | .openPrepared sid =>
    -- without a slot the stream is removed; a slot that cannot be added does the same
    if rc = .error then some (w.setTask i (.discard sid))
    else some ((w.addAio { kind := .ncurlStreamOpen, httpStreamId := sid }).setTask i
      (.openSubmitting sid w.slots.length))
  | .openSubmitting _ a => if rc = .error then some (w.removeAio i a) else w.submitted i a
  | .openResubmit sid a => if rc = .error then w.openResubmitFailed i sid a else w.submitted i a
  | .recvReserved sid =>
    if rc = .error then some (w.setTask i (.recvReset sid))
    else some ((w.addAio
      { kind := .ncurlStreamRecv, httpStreamId := sid, httpStreamRef := some sid }).setTask i
      (.recvRegistered sid w.slots.length))
  | .recvRegistered sid a => w.recvSection i sid a rc
  | .recvSubmitting sid a => if w.readFails sid rc then w.submitFailed i sid a else w.submitted i a
  | .recvResubmit sid a =>
    if w.readFails sid rc then w.recvResubmitFailed i sid a else w.submitted i a
  | .recvUnregister sid a =>
    match w.findAio a with
    | none => some (w.setTask i (.recvReset sid))
    | some slot =>
      some ((w.setAio a { slot with live := false, httpStreamRef := none }).setTask i
        (.recvReset sid))
  | .recvReset sid => do
    let s ← w.streams[sid]?
    return (w.setStream sid (s.unmark .reserved)).setTask i (.release sid)
  | .closing sid => some (w.removeStream i sid)
  | .dropping a => some (w.removeAio i a)
  | .destroyAio slot =>
    match slot.httpStreamRef with
    | some sid => w.releaseStream i sid (.destroyAio { slot with httpStreamRef := none })
    | none =>
      if slot.kind = .ncurlStreamOpen && !slot.httpStreamClaimed then
        some (w.removeStream i slot.httpStreamId)
      else some (w.setTask i .done)
  | .discard sid => some (w.removeStream i sid)
  | .release sid => w.releaseStream i sid .done
  | .done => none

/-! ### Callbacks -/

/-- The state of an operation that failed. -/
def failedState (canceled : Bool) : AioState :=
  if canceled then .cancelled else .error

/-- The callback of an open, up to the end of its first section. -/
def openCallback (a : Nat) (slot : ClientAio) (rv : AioResult) (rc : Advance) :
    StreamRuntime :=
  match w.findStream slot.httpStreamId with
  | none => w.setAio a { slot with state := failedState (rv = .canceled) }
  | some s =>
    match s.openAdvance rv rc with
    | (.more, s) =>
      ((w.setStream slot.httpStreamId s).setAio a slot).spawn (.openResubmit slot.httpStreamId a)
    | (.complete, s) => (w.setStream slot.httpStreamId s).setAio a { slot with state := .ready }
    | (.error, s) =>
      (w.setStream slot.httpStreamId s).setAio a
        { slot with state := failedState (rv = .canceled) }

/-- The callback of a receive, up to the end of its first section. -/
def recvCallback (a : Nat) (slot : ClientAio) (rv : AioResult) (rc : Advance) :
    Option StreamRuntime :=
  match slot.httpStreamRef with
  | none => some (w.setAio a { slot with state := failedState (rv = .canceled) })
  | some sid => do
    let s ← w.streams[sid]?
    match s.recvAdvance rv rc with
    | (.more, s) => return ((w.setStream sid s).setAio a slot).spawn (.recvResubmit sid a)
    | (.complete, s) =>
      return ((w.setStream sid (s.unmark (.taken a))).setAio a
        { slot with state := .ready, httpStreamRef := none }).spawn (.release sid)
    | (.error, s) =>
      return ((w.setStream sid (s.unmark (.taken a))).setAio a
        { slot with
          state := failedState (rv = .canceled || s.closing)
          httpStreamRef := none }).spawn (.release sid)

/-- `ducknng_client_aio_cb` for the operations on streams. -/
def clientAioCb (a : Nat) (slot : ClientAio) (rv : AioResult) (rc : Advance) :
    Option StreamRuntime :=
  if slot.state ≠ .pending then some (w.setAio a slot)
  else match slot.kind with
    | .ncurlStreamOpen => some (w.openCallback a slot rv rc)
    | .ncurlStreamRecv => w.recvCallback a slot rv rc

/-! ### Calls -/

/-- `ducknng_client_launch_ncurl_stream_open_aio`, up to its registered stream. -/
def ncurlStreamOpenAio : StreamRuntime :=
  { w with streams := w.streams ++ [HttpClientStream.prepared] }.spawn
    (.openPrepared w.streams.length)

/-- `ducknng_client_launch_ncurl_stream_recv_aio`, its first section. -/
def ncurlStreamRecvAio (sid : Nat) : StreamRuntime :=
  match w.findStream sid with
  | none => w
  | some s =>
    if s.readable then
      (w.setStream sid { s with recvAioId := .reserved, refcount := s.refcount + 1 }).spawn
        (.recvReserved sid)
    else w

/-- `ducknng_ncurl_stream_open_aio_collect_row_scalar` -/
def collectOpen (a : Nat) : StreamRuntime :=
  match w.findAio a with
  | none => w
  | some slot =>
    if slot.kind = .ncurlStreamOpen ∧ slot.state ≠ .pending ∧ slot.state ≠ .collected then
      match (if slot.state = .ready then w.findStream slot.httpStreamId else none) with
      | none => w.setAio a { slot with state := .collected }
      | some s =>
        (w.setStream slot.httpStreamId { s with collected := true }).setAio a
          { slot with httpStreamClaimed := true, state := .collected }
    else w

/-- `ducknng_ncurl_stream_recv_aio_collect_row_scalar` -/
def collectRecv (a : Nat) : StreamRuntime :=
  match w.findAio a with
  | none => w
  | some slot =>
    if slot.kind = .ncurlStreamRecv ∧ slot.state ≠ .pending ∧ slot.state ≠ .collected then
      w.setAio a { slot with state := .collected }
    else w

/-- `ducknng_aio_drop`, its first section: a pending operation stays. -/
def aioDrop (a : Nat) : StreamRuntime :=
  match w.findAio a with
  | none => w
  | some slot => if slot.state = .pending then w else w.spawn (.dropping a)

/-- `ducknng_ncurl_stream_close`, its first section. -/
def ncurlStreamClose (sid : Nat) : StreamRuntime :=
  match w.findStream sid with
  | none => w
  | some s =>
    if s.closing then w
    else (w.setStream sid { s with closing := true, conn := false }).spawn (.closing sid)

/-- The end of `ducknng_runtime_destroy`: every stream that is still registered is destroyed.
    Before, the runtime has destroyed all operations, each as a drop does once it is complete,
    and no thread is left inside of a call. -/
def runtimeDestroy : Option StreamRuntime :=
  if w.tasks.all (· == .done) && w.slots.all (!·.live) then
    some { w with
      streams := w.streams.map fun s =>
        if s.registered then { s with registered := false, destroyed := s.destroyed + 1 } else s
      down := true }
  else none

end StreamRuntime

/-- What can happen next. -/
inductive StreamEvent
  | openAio
  | recvAio (sid : Nat)
  | callback (a : Nat) (rv : AioResult) (rc : Advance)
  | collectOpen (a : Nat)
  | collectRecv (a : Nat)
  | cancel (a : Nat)
  | drop (a : Nat)
  | close (sid : Nat)
  | resume (i : Nat) (rc : Advance)
  | runtimeDestroy
  deriving DecidableEq, Repr

/-- One step. A cancel only makes nng end the operation, with any result; ids that name
    nothing leave everything as it is. -/
def StreamRuntime.step (w : StreamRuntime) (e : StreamEvent) : Option StreamRuntime :=
  if w.down then none
  else match e with
    | .openAio => some w.ncurlStreamOpenAio
    | .recvAio sid => some (w.ncurlStreamRecvAio sid)
    | .callback a rv rc => do
      let slot ← w.slots[a]?
      if slot.inFlight then w.clientAioCb a { slot with inFlight := false } rv rc else none
    | .collectOpen a => some (w.collectOpen a)
    | .collectRecv a => some (w.collectRecv a)
    | .cancel _ => some w
    | .drop a => some (w.aioDrop a)
    | .close sid => some (w.ncurlStreamClose sid)
    | .resume i rc => w.tasks[i]?.bind (w.resume i rc)
    | .runtimeDestroy => w.runtimeDestroy

end Ducknng
