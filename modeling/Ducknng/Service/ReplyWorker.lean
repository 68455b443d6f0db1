import Ducknng.Lib.Runs
import Mathlib.Data.List.Nodup

namespace Ducknng

open Option List

/-!
# The messages of a reply context

A reply context has one asynchronous operation, a callback that runs when it has finished, and
a worker thread that receives a request, handles it, sends the reply and begins again. A message
is in the operation, in the field `request_msg` or in a variable of the worker; teardown can set
`stopping` between any two moves.

* `ReplyContext`, `ReplyContext.step` — the context and every transition of the worker, of the
  callback, of teardown and of NNG.
* `ReplyOk.step` — what every step keeps when no request waits for the worker at the time
  teardown says stop.
* `replyLedger` — every message is accounted for in every reachable state.
-/

/-! ### The context -/

/-- `DUCKNNG_PHASE_*`; a new context has none. -/
inductive ReplyPhase where
  | unset
  | recv
  | send
  deriving DecidableEq

/-- `DUCKNNG_EVT_*`. -/
inductive ReplyEvent where
  | none
  | requestReady
  | sendDone
  | nngError
  deriving DecidableEq

/-- Where the asynchronous operation is; when it is finished its callback has still to run. A
    result of 0 is a success. -/
inductive AioStage where
  | idle
  | receiving
  | sending
  | finished (result : Nat)
  deriving DecidableEq

/-- Where `ducknng_rep_worker_main` is, with the variables that are alive there. -/
inductive WorkerAt where
  | notStarted
  | enter
  | receive
  | wait
  | took (event : ReplyEvent) (nngErr : Nat) (req : Option Nat) (stopping : Bool)
  | handled (req resp : Option Nat)
  | replying (resp : Option Nat)
  | settingMsg (resp : Option Nat)
  | send
  | exited
  deriving DecidableEq

/-- Where `ducknng_rep_ctx_teardown` is. -/
inductive TeardownAt where
  | notCalled
  | stopped
  | cancelled
  | joined
  | waited
  | aioCleared
  | returned
  deriving DecidableEq

/-- What the worker did that its peers can see: it called `nng_ctx_recv`, it handled a request,
    or it called `nng_ctx_send`. -/
inductive WorkerMark where
  | receive
  | handle
  | send
  deriving DecidableEq

/-- `ducknng_rep_ctx`, with the threads that use it and what has become of the messages. -/
structure ReplyContext where
  stopping : Bool
  phase : ReplyPhase
  event : ReplyEvent
  lastNngErr : Nat
  requestMsg : Option Nat
  aio : AioStage
  aioMsg : Option Nat
  worker : WorkerAt
  teardown : TeardownAt
  nextMsg : Nat
  received : List Nat
  replies : List Nat
  freed : List Nat
  sent : List Nat
  trace : List WorkerMark
  deriving DecidableEq

open ReplyContext

/-- A context whose worker was started, or could not be. -/
def ReplyContext.start (threadStarted : Bool) : ReplyContext where
  stopping := false
  phase := .unset
  event := .none
  lastNngErr := 0
  requestMsg := none
  aio := .idle
  aioMsg := none
  worker := if threadStarted then .enter else .notStarted
  teardown := .notCalled
  nextMsg := 0
  received := []
  replies := []
  freed := []
  sent := []
  trace := []

/-! ### Transitions -/

/-- `NNG_ECLOSED`. -/
def nngEclosed : Nat := 7

namespace ReplyContext

variable (c : ReplyContext)

/-- A message that may be there is freed. -/
def free (msg : Option Nat) : ReplyContext :=
  { c with freed := c.freed ++ msg.toList }

/-- `ducknng_handle_request`: the reply is a new message, unless there is no memory for it. -/
def handleRequest (req : Option Nat) (replied : Bool) :
    ReplyContext :=
  if replied then
    { c with
      worker := .handled req (some c.nextMsg)
      nextMsg := c.nextMsg + 1
      replies := c.replies ++ [c.nextMsg]
      trace := c.trace ++ [.handle] }
  else { c with worker := .handled req none, trace := c.trace ++ [.handle] }

/-- What the worker does with what it took. -/
def afterTake (event : ReplyEvent) (nngErr : Nat)
    (req : Option Nat) (stopping replied : Bool) : ReplyContext :=
  if stopping then { c with worker := .exited }
  else match event with
    | .nngError =>
      if nngErr = nngEclosed then { c with worker := .exited }
      else { c with phase := .recv, worker := .receive }
    | .requestReady => c.handleRequest req replied
    | .sendDone => { c with phase := .recv, worker := .receive }
    | .none => { c with worker := .wait }

/-- The next step of `ducknng_rep_worker_main`. -/
def workerStep (replied : Bool) : Option ReplyContext :=
  match c.worker with
  | .notStarted => none
  | .enter => some { c with phase := .recv, worker := .receive }
  | .receive =>
    some { c with aio := .receiving, worker := .wait, trace := c.trace ++ [.receive] }
  | .wait =>
    if c.event = .none ∧ c.stopping = false then none
    else some { c with
      worker := .took c.event c.lastNngErr c.requestMsg c.stopping
      event := .none
      lastNngErr := 0
      requestMsg := none }
  | .took event nngErr req stopping => some (c.afterTake event nngErr req stopping replied)
  | .handled req resp => some { c.free req with worker := .replying resp }
  | .replying resp => some { c with phase := .send, worker := .settingMsg resp }
  | .settingMsg resp => some { c with aioMsg := resp, worker := .send }
  | .send => some { c with aio := .sending, worker := .wait, trace := c.trace ++ [.send] }
  | .exited => none

/-- NNG finishes the operation: a receive puts a message into it, a send takes the message. A
    send of nothing cannot succeed. -/
def complete (result : Nat) : Option ReplyContext :=
  match c.aio with
  | .receiving =>
    if result = 0 then
      some { c with
        aio := .finished 0
        aioMsg := some c.nextMsg
        nextMsg := c.nextMsg + 1
        received := c.received ++ [c.nextMsg] }
    else some { c with aio := .finished result }
  | .sending =>
    if result = 0 then
      match c.aioMsg with
      | none => none
      | some msg => some { c with aio := .finished 0, aioMsg := none, sent := c.sent ++ [msg] }
    else some { c with aio := .finished result }
  | _ => none

/-- `ducknng_rep_aio_cb`. -/
def callback : Option ReplyContext :=
  match c.aio with
  | .finished result =>
    if c.stopping then some { c with aio := .idle }
    else if result ≠ 0 then
      some { c.free c.aioMsg with
        aio := .idle
        aioMsg := none
        lastNngErr := result
        event := .nngError }
    else if c.phase = .recv then
      some { c with
        aio := .idle
        requestMsg := c.aioMsg
        aioMsg := none
        event := .requestReady }
    else some { c with aio := .idle, event := .sendDone }
  | _ => none

/-- The next step of `ducknng_rep_ctx_teardown`. A cancelled operation finishes with an error,
    which it may do at any time anyway. -/
def teardownStep : Option ReplyContext :=
  match c.teardown with
  | .notCalled => some { c with stopping := true, teardown := .stopped }
  | .stopped => some { c with teardown := .cancelled }
  | .cancelled =>
    if c.worker = .exited ∨ c.worker = .notStarted then some { c with teardown := .joined }
    else none
  | .joined => if c.aio = .idle then some { c with teardown := .waited } else none
  | .waited => some { c.free c.aioMsg with aioMsg := none, teardown := .aioCleared }
  | .aioCleared => some { c.free c.requestMsg with requestMsg := none, teardown := .returned }
  | .returned => none

end ReplyContext

/-- Who takes the next step. -/
inductive ReplyAction where
  | worker (replied : Bool)
  | complete (result : Nat)
  | callback
  | teardown
  deriving DecidableEq

/-- One step of whoever it is the turn of. -/
def ReplyContext.step (c : ReplyContext) : ReplyAction → Option ReplyContext
  | .worker replied => c.workerStep replied
  | .complete result => c.complete result
  | .callback => c.callback
  | .teardown => c.teardownStep

/-! ### The book of messages -/

/-- The messages in the variables of the worker. -/
def WorkerAt.locals : WorkerAt → List Nat
  | .took _ _ req _ => req.toList
  | .handled req resp => req.toList ++ resp.toList
  | .replying resp => resp.toList
  | .settingMsg resp => resp.toList
  | _ => []

/-- The messages that the context and its worker own. -/
def ReplyContext.owned (c : ReplyContext) : List Nat :=
  c.aioMsg.toList ++ c.requestMsg.toList ++ c.worker.locals

/-- Every message is owned, freed or sent, as often as there is one. -/
def ReplyContext.Balanced (c : ReplyContext) : Prop :=
  ∀ msg, (c.received ++ c.replies).count msg =
    c.owned.count msg + c.freed.count msg + c.sent.count msg

/-! ### The pace of the worker -/

/-- What the worker did last. -/
inductive Pace where
  | begun
  | received
  | handled
  | sent
  deriving DecidableEq

/-- The order in which it may do things: a receive may be tried again, and between two receives
    there is nothing, or one request that was handled and one send. -/
def Pace.next : Pace → WorkerMark → Option Pace
  | .begun, .receive => some .received
  | .received, .receive => some .received
  | .received, .handle => some .handled
  | .handled, .send => some .sent
  | .sent, .receive => some .received
  | _, _ => none

/-- A trace that keeps the order ends with this. -/
def Paced (trace : List WorkerMark) (pace : Pace) : Prop :=
  Runs.run Pace.next .begun trace = some pace

variable {pace : Pace}

theorem Paced.mark {trace : List WorkerMark} {pace' : Pace} {mark : WorkerMark}
    (h : Paced trace pace) (hnext : pace.next mark = some pace') :
    Paced (trace ++ [mark]) pace' :=
  Runs.run_append_eq_some.2 ⟨pace, h, Runs.run_cons_eq_some.2 ⟨pace', hnext, rfl⟩⟩

/-! ### What every step keeps -/

namespace ReplyContext

/-- Nothing is going on and no message is shared. -/
structure Quiet (c : ReplyContext) : Prop where
  aio : c.aio = .idle
  aioMsg : c.aioMsg = none
  event : c.event = .none
  requestMsg : c.requestMsg = none

/-- The messages are replies. -/
def Replies (c : ReplyContext) (msg : Option Nat) : Prop :=
  ∀ m, msg = some m → m ∈ c.replies

/-- The worker waits for the operation that the pace says. -/
inductive Waits (c : ReplyContext) : Pace → Prop
  | receiving (haio : c.aio = .receiving) (hphase : c.phase = .recv) (hmsg : c.aioMsg = none)
      (hevent : c.event = .none) (hreq : c.requestMsg = none) : c.Waits .received
  | sending (haio : c.aio = .sending) (hphase : c.phase = .send) (hmsg : c.Replies c.aioMsg)
      (hevent : c.event = .none) (hreq : c.requestMsg = none) : c.Waits .sent
  | received {result : Nat} (haio : c.aio = .finished result) (hphase : c.phase = .recv)
      (hmsg : result = 0 → c.aioMsg.isSome) (hevent : c.event = .none)
      (hreq : c.requestMsg = none) : c.Waits .received
  | sent {result : Nat} (haio : c.aio = .finished result) (hphase : c.phase = .send)
      (hmsg : result = 0 → c.aioMsg = none) (hevent : c.event = .none)
      (hreq : c.requestMsg = none) : c.Waits .sent
  | requestReady (haio : c.aio = .idle) (hmsg : c.aioMsg = none) (hevent : c.event = .requestReady)
      (hreq : c.requestMsg.isSome) : c.Waits .received
  | sendDone (haio : c.aio = .idle) (hmsg : c.aioMsg = none) (hevent : c.event = .sendDone)
      (hreq : c.requestMsg = none) : c.Waits .sent
  | nngError {pace : Pace} (haio : c.aio = .idle) (hmsg : c.aioMsg = none)
      (hevent : c.event = .nngError) (hreq : c.requestMsg = none) (hpace : pace ≠ .handled) :
      c.Waits pace
  | stopped {pace : Pace} (haio : c.aio = .idle) (hevent : c.event = .none)
      (hstopping : c.stopping = true) (hreq : c.requestMsg = none) (hpace : pace ≠ .handled) :
      c.Waits pace

/-- The worker has left its loop: an operation may still be going on if it was told to stop. -/
structure Left (c : ReplyContext) (pace : Pace) : Prop where
  requestMsg : c.requestMsg = none
  receiving : c.aio = .receiving → c.aioMsg = none
  sending : c.aio = .sending → c.Replies c.aioMsg
  running : c.stopping = false → c.aio = .idle
  pace : pace ≠ .handled

/-- What holds where the worker is. -/
def WorkerOk (c : ReplyContext) (pace : Pace) : Prop :=
  match c.worker with
  | .notStarted => c.Quiet ∧ pace = .begun
  | .enter => c.Quiet ∧ pace = .begun
  | .receive => c.Quiet ∧ c.phase = .recv ∧ pace ≠ .handled
  | .wait => c.Waits pace
  | .took event _ req stopping =>
    if stopping then c.Left pace ∧ c.stopping = true ∧ req = none
    else c.Quiet ∧ ((event = .requestReady ∧ pace = .received) ∨
      (event = .sendDone ∨ event = .nngError) ∧ req = none ∧ pace ≠ .handled)
  | .handled _ resp => c.Quiet ∧ c.Replies resp ∧ pace = .handled
  | .replying resp => c.Quiet ∧ c.Replies resp ∧ pace = .handled
  | .settingMsg resp => c.Quiet ∧ c.Replies resp ∧ c.phase = .send ∧ pace = .handled
  | .send => c.aio = .idle ∧ c.event = .none ∧ c.requestMsg = none ∧ c.Replies c.aioMsg ∧
      c.phase = .send ∧ pace = .handled
  | .exited => c.Left pace

/-- The worker has left its loop or was never started, so that teardown can join it. -/
abbrev Gone (c : ReplyContext) : Prop := c.worker = .exited ∨ c.worker = .notStarted

/-- What holds where teardown is. -/
def TeardownOk (c : ReplyContext) : Prop :=
  match c.teardown with
  | .notCalled => True
  | .stopped => c.stopping = true
  | .cancelled => c.stopping = true
  | .joined => c.stopping = true ∧ c.Gone
  | .waited => c.stopping = true ∧ c.Gone ∧ c.aio = .idle
  | .aioCleared => c.stopping = true ∧ c.Gone ∧ c.aio = .idle ∧ c.aioMsg = none
  | .returned => c.stopping = true ∧ c.Gone ∧ c.aio = .idle ∧ c.aioMsg = none ∧ c.requestMsg = none

end ReplyContext

/-- What every step keeps. -/
structure ReplyOk (c : ReplyContext) : Prop where
  balanced : c.Balanced
  fresh : ∀ msg ∈ c.received ++ c.replies, msg < c.nextMsg
  nodup : (c.received ++ c.replies).Nodup
  sent : ∀ msg ∈ c.sent, msg ∈ c.replies
  worker : ∃ pace, Paced c.trace pace ∧ c.WorkerOk pace
  stopping : c.stopping = true → c.requestMsg = none
  teardown : c.TeardownOk

section
variable {c c' : ReplyContext}

namespace ReplyContext

/-- While the worker is at work teardown has not joined it. -/
theorem TeardownOk.working (h : c.TeardownOk) (hworking : ¬c.Gone)
    (hteardown : c'.teardown = c.teardown) (hstopping : c'.stopping = c.stopping) :
    c'.TeardownOk := by
  unfold TeardownOk at h ⊢
  rw [hteardown, hstopping]
  generalize c.teardown = teardown at h
  cases teardown with
  | notCalled => trivial
  | stopped | cancelled => exact h
  | joined => exact absurd h.2 hworking
  | waited | aioCleared | returned => exact absurd h.2.1 hworking

/-- While an operation goes on teardown has not waited for it. -/
theorem TeardownOk.busy (h : c.TeardownOk) (haio : c.aio ≠ .idle)
    (hteardown : c'.teardown = c.teardown) (hstopping : c'.stopping = c.stopping)
    (hworker : c'.worker = c.worker) : c'.TeardownOk := by
  unfold TeardownOk Gone at h ⊢
  rw [hteardown, hstopping, hworker]
  generalize c.teardown = teardown at h
  cases teardown with
  | notCalled => trivial
  | stopped | cancelled | joined => exact h
  | waited => exact absurd h.2.2 haio
  | aioCleared | returned => exact absurd h.2.2.1 haio

/-- A worker waits for a receive that goes on. -/
theorem Waits.of_receiving (h : c.Waits pace) (haio : c.aio = .receiving) :
    pace = .received ∧ c.phase = .recv ∧ c.aioMsg = none ∧ c.event = .none ∧
      c.requestMsg = none := by
  cases h with
  | receiving _ hphase hmsg hevent hreq => exact ⟨rfl, hphase, hmsg, hevent, hreq⟩
  | _ => simp_all

/-- A worker waits for a send that goes on. -/
theorem Waits.of_sending (h : c.Waits pace) (haio : c.aio = .sending) :
    pace = .sent ∧ c.phase = .send ∧ c.Replies c.aioMsg ∧ c.event = .none ∧
      c.requestMsg = none := by
  cases h with
  | sending _ hphase hmsg hevent hreq => exact ⟨rfl, hphase, hmsg, hevent, hreq⟩
  | _ => simp_all

/-- A worker that takes what there is finds what it waits for. -/
theorem Waits.take (h : c.Waits pace)
    (hready : ¬ (c.event = .none ∧ c.stopping = false))
    (hstopping : c.stopping = true → c.requestMsg = none)
    (hworker : c'.worker = .took c.event c.lastNngErr c.requestMsg c.stopping)
    (haio : c'.aio = c.aio) (haioMsg : c'.aioMsg = c.aioMsg) (hevent : c'.event = .none)
    (hreq : c'.requestMsg = none) (hstop : c'.stopping = c.stopping)
    (hreplies : c'.replies = c.replies) : c'.WorkerOk pace := by
  unfold WorkerOk
  rw [hworker]
  dsimp only
  split
  -- told to stop: an operation of NNG may still be running
  next hs =>
    refine ⟨⟨hreq, ?_, ?_, fun hfalse => ?_, ?_⟩, hstop.trans hs, hstopping hs⟩
    · rw [haio, haioMsg]
      exact fun hrecv => (h.of_receiving hrecv).2.2.1
    · rw [haio, haioMsg, Replies, hreplies]
      exact fun hsend => (h.of_sending hsend).2.2.1
    · rw [hstop, hs] at hfalse
      exact Bool.noConfusion hfalse
    · cases h with
      | nngError _ _ _ _ hpace | stopped _ _ _ _ hpace => exact hpace
      | _ => exact nofun
  -- an event has come, so no operation is running
  next hs =>
    have hrunning : c.stopping = false := Bool.not_eq_true _ ▸ hs
    have hevents : c.event ≠ .none := fun hnone => hready ⟨hnone, hrunning⟩
    cases h with
    | receiving _ _ _ hnone _ | sending _ _ _ hnone _ | received _ _ _ hnone _
    | sent _ _ _ hnone _ => exact absurd hnone hevents
    | stopped _ hnone _ _ _ => exact absurd hnone hevents
    | requestReady hidle hmsg hev _ =>
      exact ⟨⟨haio.trans hidle, haioMsg.trans hmsg, hevent, hreq⟩, .inl ⟨hev, rfl⟩⟩
    | sendDone hidle hmsg hev hnone =>
      exact ⟨⟨haio.trans hidle, haioMsg.trans hmsg, hevent, hreq⟩, .inr ⟨.inl hev, hnone, nofun⟩⟩
    | nngError hidle hmsg hev hnone hpace =>
      exact ⟨⟨haio.trans hidle, haioMsg.trans hmsg, hevent, hreq⟩, .inr ⟨.inr hev, hnone, hpace⟩⟩

end ReplyContext

/-- The worker moves on and the book stays as it is. -/
theorem ReplyOk.move (hok : ReplyOk c) (pace : Pace)
    (hworking : ¬c.Gone) (howned : c'.owned.Perm c.owned)
    (hmsgs : (c'.received, c'.replies, c'.freed, c'.sent, c'.nextMsg) =
      (c.received, c.replies, c.freed, c.sent, c.nextMsg))
    (hteardown : c'.teardown = c.teardown) (hstopping : c'.stopping = c.stopping)
    (hreq : c'.requestMsg = none ∨ c'.requestMsg = c.requestMsg)
    (hpaced : Paced c'.trace pace) (hworker : c'.WorkerOk pace) : ReplyOk c' := by
  simp only [Prod.mk.injEq] at hmsgs
  obtain ⟨hreceived, hreplies, hfreed, hsent, hnext⟩ := hmsgs
  refine ⟨fun msg => ?_, ?_, ?_, ?_, ⟨pace, hpaced, hworker⟩, fun hs => ?_,
    hok.teardown.working hworking hteardown hstopping⟩
  · rw [hreceived, hreplies, hfreed, hsent, howned.count_eq]
    exact hok.balanced msg
  · rw [hreceived, hreplies, hnext]
    exact hok.fresh
  · rw [hreceived, hreplies]
    exact hok.nodup
  · rw [hsent, hreplies]
    exact hok.sent
  · rcases hreq with hnone | hsame
    · exact hnone
    · rw [hsame]
      exact hok.stopping (hstopping ▸ hs)

/-- One more message is a new one. -/
theorem ReplyOk.one_more (hok : ReplyOk c) {msgs : List Nat}
    (hperm : msgs.Perm (c.nextMsg :: (c.received ++ c.replies))) :
    (∀ msg ∈ msgs, msg < c.nextMsg + 1) ∧ msgs.Nodup := by
  refine ⟨fun msg hmem => ?_, hperm.nodup_iff.2 (nodup_cons.2 ⟨fun hmem => ?_, hok.nodup⟩)⟩
  · rcases mem_cons.1 (hperm.mem_iff.1 hmem) with rfl | hold
    · exact Nat.lt_succ_self _
    · exact Nat.lt_succ_of_lt (hok.fresh msg hold)
  · exact Nat.lt_irrefl _ (hok.fresh _ hmem)

/-- A request is handled. -/
theorem ReplyOk.handleRequest {event : ReplyEvent} {err : Nat} {req : Option Nat} (hok : ReplyOk c)
    (hat : c.worker = .took event err req false) (hquiet : c.Quiet) (hpaced : Paced c.trace pace)
    (hpace : pace = .received) (replied : Bool) :
    ReplyOk (c.handleRequest req replied) := by
  subst hpace
  unfold handleRequest
  cases replied with
  | false =>
    refine hok.move .handled (by simp [hat]) ?_ rfl rfl rfl
      (.inr rfl) (hpaced.mark rfl) ?_
    · simp [owned, WorkerAt.locals, hat]
    · exact ⟨{ hquiet with }, nofun, rfl⟩
  | true =>
    -- the reply is a new message, owned by the worker
    have hperm : (c.received ++ (c.replies ++ [c.nextMsg])).Perm
        (c.nextMsg :: (c.received ++ c.replies)) := by
      rw [← append_assoc]
      exact perm_append_singleton ..
    obtain ⟨hfresh, hnodup⟩ := hok.one_more hperm
    refine ⟨fun msg => ?_, hfresh, hnodup, ?_, ⟨.handled, hpaced.mark rfl, ?_⟩, hok.stopping, ?_⟩
    · have hbook := hok.balanced msg
      simp only [owned, WorkerAt.locals, hat, count_append, if_true] at hbook ⊢
      simp only [toList_some] at hbook ⊢
      omega
    · exact fun msg hmem => mem_append_left _ (hok.sent msg hmem)
    · refine ⟨{ hquiet with }, fun m hm => ?_, rfl⟩
      cases hm
      exact mem_append_right _ mem_cons_self
    · exact hok.teardown.working (by simp [hat]) rfl rfl

/-- What the worker does with what it took. -/
theorem ReplyOk.afterTake {event : ReplyEvent} {err : Nat} {req : Option Nat} {stopping : Bool}
    (hok : ReplyOk c) (hat : c.worker = .took event err req stopping) (replied : Bool) :
    ReplyOk (c.afterTake event err req stopping replied) := by
  obtain ⟨pace, hpaced, hworker⟩ := hok.worker
  have hworking : ¬c.Gone := by simp [hat]
  unfold WorkerOk at hworker
  rw [hat] at hworker
  -- a request that has been taken is not given up here: nobody has it when the worker leaves
  have hdropped : ∀ {phase : ReplyPhase} {worker : WorkerAt}, req = none → worker.locals = [] →
      owned { c with phase := phase, worker := worker } = c.owned := by
    intro phase worker hreq hlocals
    have hold : c.worker.locals = [] := by
      rw [hat, hreq]
      rfl
    show c.aioMsg.toList ++ c.requestMsg.toList ++ worker.locals = c.owned
    rw [owned, hold, hlocals]
  cases stopping with
  | true =>
    obtain ⟨hleft, -, hreq⟩ := hworker
    refine hok.move pace hworking ?_ rfl rfl rfl (.inr rfl) hpaced ?_
    · exact Perm.of_eq (hdropped hreq rfl)
    · exact { hleft with }
  | false =>
    obtain ⟨hquiet, hevent⟩ := hworker
    have hquiet' : ∀ {phase : ReplyPhase} {worker : WorkerAt},
        Quiet { c with phase := phase, worker := worker } :=
      { hquiet with }
    rcases hevent with ⟨rfl, hpace⟩ | ⟨hevent, hreq, hpace⟩
    · exact hok.handleRequest hat hquiet hpaced hpace replied
    have hagain : ReplyOk { c with phase := .recv, worker := .receive } :=
      hok.move pace hworking (Perm.of_eq (hdropped hreq rfl)) rfl rfl rfl (.inr rfl)
        hpaced ⟨hquiet', rfl, hpace⟩
    rcases hevent with rfl | rfl
    · exact hagain
    · show ReplyOk (if err = nngEclosed then { c with worker := .exited }
        else { c with phase := .recv, worker := .receive })
      split
      · refine hok.move pace hworking (Perm.of_eq (hdropped hreq rfl)) rfl rfl rfl
          (.inr rfl) hpaced ⟨hquiet.requestMsg, fun _ => hquiet.aioMsg, ?_, fun _ => hquiet.aio,
            hpace⟩
        exact fun hsend => absurd (hquiet.aio.symm.trans hsend) nofun
      · exact hagain

/-- **A step of the worker.** -/
theorem ReplyOk.workerStep {replied : Bool} (hok : ReplyOk c)
    (hstep : c.workerStep replied = some c') : ReplyOk c' := by
  obtain ⟨pace, hpaced, hworker⟩ := hok.worker
  unfold WorkerOk at hworker
  unfold ReplyContext.workerStep at hstep
  generalize hat : c.worker = worker at hstep hworker
  cases worker with
  | notStarted | exited => cases hstep
  | enter =>
    cases hstep
    obtain ⟨hquiet, rfl⟩ := hworker
    refine hok.move .begun (by simp [hat]) ?_ rfl rfl rfl (.inr rfl)
      hpaced ⟨{ hquiet with }, rfl, nofun⟩
    simp [owned, WorkerAt.locals, hat]
  | receive =>
    cases hstep
    obtain ⟨hquiet, hphase, hpace⟩ := hworker
    have hnext : pace.next .receive = some .received := by
      cases pace with
      | handled => exact absurd rfl hpace
      | _ => rfl
    refine hok.move .received (by simp [hat]) ?_ rfl rfl rfl (.inr rfl)
      (hpaced.mark hnext) (.receiving rfl hphase hquiet.aioMsg hquiet.event hquiet.requestMsg)
    simp [owned, WorkerAt.locals, hat]
  | wait =>
    obtain ⟨hready, hstep⟩ := ite_none_left_eq_some.1 hstep
    cases hstep
    refine hok.move pace (by simp [hat]) ?_ rfl rfl rfl (.inl rfl) hpaced
      (hworker.take hready hok.stopping rfl rfl rfl rfl rfl rfl rfl)
    simp [owned, WorkerAt.locals, hat]
  | took event err req stopping =>
    cases hstep
    exact hok.afterTake hat replied
  | handled req resp =>
    cases hstep
    obtain ⟨hquiet, hresp, rfl⟩ := hworker
    refine ⟨fun msg => ?_, hok.fresh, hok.nodup, hok.sent, ⟨.handled, hpaced,
      { hquiet with }, hresp, rfl⟩, hok.stopping,
      hok.teardown.working (by simp [hat]) rfl rfl⟩
    -- the request goes from the worker to what has been freed
    have hbook := hok.balanced msg
    simp only [owned, free, WorkerAt.locals, hat, count_append] at hbook ⊢
    omega
  | replying resp =>
    cases hstep
    obtain ⟨hquiet, hresp, rfl⟩ := hworker
    refine hok.move .handled (by simp [hat]) ?_ rfl rfl rfl (.inr rfl)
      hpaced ⟨{ hquiet with }, hresp, rfl, rfl⟩
    simp [owned, WorkerAt.locals, hat]
  | settingMsg resp =>
    cases hstep
    obtain ⟨hquiet, hresp, hphase, rfl⟩ := hworker
    refine hok.move .handled (by simp [hat]) ?_ rfl rfl rfl (.inr rfl)
      hpaced ⟨hquiet.aio, hquiet.event, hquiet.requestMsg, hresp, hphase, rfl⟩
    simp [owned, WorkerAt.locals, hat, hquiet.aioMsg, hquiet.requestMsg]
  | send =>
    cases hstep
    obtain ⟨-, hevent, hreq, hresp, hphase, rfl⟩ := hworker
    refine hok.move .sent (by simp [hat]) ?_ rfl rfl rfl (.inr rfl)
      (hpaced.mark rfl) (.sending rfl hphase hresp hevent hreq)
    simp [owned, WorkerAt.locals, hat]

namespace ReplyContext

/-- While an operation goes on the worker waits for it, or has left. -/
theorem WorkerOk.busy (h : c.WorkerOk pace) (haio : c.aio ≠ .idle) :
    (c.worker = .wait ∧ c.Waits pace) ∨
      (c.worker.locals = [] ∧ c.Left pace ∧ c.stopping = true ∧
        ∀ c' : ReplyContext, c'.worker = c.worker → c'.stopping = true → c'.Left pace →
          c'.WorkerOk pace) := by
  unfold WorkerOk at h
  generalize hat : c.worker = worker at h ⊢
  -- an operation runs while the worker waits or after it was told to stop
  cases worker with
  | wait =>
    exact .inl ⟨rfl, h⟩
  | took event err req stopping =>
    cases stopping with
    | false => exact absurd h.1.aio haio
    | true =>
      obtain ⟨hleft, hstop, rfl⟩ := h
      refine .inr ⟨rfl, hleft, hstop, fun c' hworker hstop' hleft' => ?_⟩
      unfold WorkerOk
      rw [hworker]
      exact ⟨hleft', hstop', rfl⟩
  | exited =>
    have hstop : c.stopping = true := by
      by_contra hnot
      exact haio (h.running (Bool.not_eq_true _ ▸ hnot))
    refine .inr ⟨rfl, h, hstop, fun c' hworker _ hleft' => ?_⟩
    unfold WorkerOk
    rw [hworker]
    exact hleft'
  | send =>
    exact absurd h.1 haio
  | notStarted | enter | receive | handled _ _ | replying _ | settingMsg _ =>
    exact absurd h.1.aio haio

theorem WorkerOk.of_waits (hat : c.worker = .wait) (h : c.Waits pace) :
    c.WorkerOk pace := by
  unfold WorkerOk
  rw [hat]
  exact h

/-- Only the operation and its message have changed. -/
structure SameSides (c c' : ReplyContext) : Prop where
  worker : c'.worker = c.worker
  stopping : c'.stopping = c.stopping
  phase : c'.phase = c.phase
  event : c'.event = c.event
  requestMsg : c'.requestMsg = c.requestMsg

end ReplyContext

variable {result : Nat}

theorem ReplyContext.Left.finished (h : c.Left pace) (hstop : c.stopping = true)
    (hsame : c.SameSides c') (haio : c'.aio = .finished result) :
    c'.Left pace := by
  refine ⟨hsame.requestMsg.trans h.requestMsg, ?_, ?_, ?_, h.pace⟩
  · exact fun hrecv => absurd (haio.symm.trans hrecv) nofun
  · exact fun hsend => absurd (haio.symm.trans hsend) nofun
  · exact fun hfalse => absurd (hstop.symm.trans (hsame.stopping.symm.trans hfalse)) nofun

/-- A receive has no message before it has finished; then the worker finds one if it succeeded. -/
theorem ReplyContext.WorkerOk.receiving (h : c.WorkerOk pace) (haio : c.aio = .receiving) :
    c.aioMsg = none ∧ ∀ (c' : ReplyContext) (result : Nat), c.SameSides c' →
      c'.aio = .finished result → (result = 0 → c'.aioMsg.isSome) → c'.WorkerOk pace := by
  have hbusy : c.aio ≠ .idle := by rw [haio]; nofun
  rcases h.busy hbusy with ⟨hwait, hwaits⟩ | ⟨-, hleft, hs, hstay⟩
  · obtain ⟨rfl, hphase, hmsg, hevent, hreq⟩ := hwaits.of_receiving haio
    refine ⟨hmsg, fun c' result hsame hfin hsome => .of_waits (hsame.worker.trans hwait) ?_⟩
    exact .received hfin (hsame.phase.trans hphase) hsome (hsame.event.trans hevent)
      (hsame.requestMsg.trans hreq)
  · refine ⟨hleft.receiving haio, fun c' result hsame hfin _ => ?_⟩
    exact hstay c' hsame.worker (hsame.stopping.trans hs) (hleft.finished hs hsame hfin)

/-- A send has a reply before it has finished; then it has none if it succeeded. -/
theorem ReplyContext.WorkerOk.sending (h : c.WorkerOk pace) (haio : c.aio = .sending) :
    c.Replies c.aioMsg ∧ ∀ (c' : ReplyContext) (result : Nat), c.SameSides c' →
      c'.aio = .finished result → (result = 0 → c'.aioMsg = none) → c'.WorkerOk pace := by
  have hbusy : c.aio ≠ .idle := by rw [haio]; nofun
  rcases h.busy hbusy with ⟨hwait, hwaits⟩ | ⟨-, hleft, hs, hstay⟩
  · obtain ⟨rfl, hphase, hmsg, hevent, hreq⟩ := hwaits.of_sending haio
    refine ⟨hmsg, fun c' result hsame hfin hnone => .of_waits (hsame.worker.trans hwait) ?_⟩
    exact .sent hfin (hsame.phase.trans hphase) hnone (hsame.event.trans hevent)
      (hsame.requestMsg.trans hreq)
  · refine ⟨hleft.sending haio, fun c' result hsame hfin _ => ?_⟩
    exact hstay c' hsame.worker (hsame.stopping.trans hs) (hleft.finished hs hsame hfin)

/-- **NNG finishes a receive.** -/
theorem ReplyOk.receive_finished (hok : ReplyOk c) (haio : c.aio = .receiving)
    (hstep : c.complete result = some c') : ReplyOk c' := by
  obtain ⟨pace, hpaced, hworker⟩ := hok.worker
  obtain ⟨hempty, hnext⟩ := hworker.receiving haio
  have hbusy : c.aio ≠ .idle := by rw [haio]; nofun
  unfold complete at hstep
  rw [haio] at hstep
  dsimp only at hstep
  split at hstep
  · cases hstep
    have hperm : (c.received ++ [c.nextMsg] ++ c.replies).Perm
        (c.nextMsg :: (c.received ++ c.replies)) := by
      rw [append_assoc]
      exact perm_middle
    obtain ⟨hfresh, hnodup⟩ := hok.one_more hperm
    refine ⟨fun msg => ?_, hfresh, hnodup, hok.sent, ⟨pace, hpaced,
      hnext _ 0 ⟨rfl, rfl, rfl, rfl, rfl⟩ rfl fun _ => rfl⟩, hok.stopping,
      hok.teardown.busy hbusy rfl rfl rfl⟩
    have hbook := hok.balanced msg
    simp only [owned, hempty, count_append, toList_none, toList_some, count_nil] at hbook ⊢
    omega
  · next hfail =>
    cases hstep
    -- a receive that fails brings nothing
    exact { hok with
      worker := ⟨pace, hpaced,
        hnext _ result ⟨rfl, rfl, rfl, rfl, rfl⟩ rfl fun hzero => absurd hzero hfail⟩
      teardown := hok.teardown.busy hbusy rfl rfl rfl }

/-- **NNG finishes a send.** -/
theorem ReplyOk.send_finished (hok : ReplyOk c) (haio : c.aio = .sending)
    (hstep : c.complete result = some c') : ReplyOk c' := by
  obtain ⟨pace, hpaced, hworker⟩ := hok.worker
  obtain ⟨hreplies, hnext⟩ := hworker.sending haio
  have hbusy : c.aio ≠ .idle := by rw [haio]; nofun
  unfold complete at hstep
  rw [haio] at hstep
  dsimp only at hstep
  split at hstep
  · split at hstep
    · cases hstep
    next msg hmsg =>
    cases hstep
    refine ⟨fun m => ?_, hok.fresh, hok.nodup, ?_, ⟨pace, hpaced,
      hnext _ 0 ⟨rfl, rfl, rfl, rfl, rfl⟩ rfl fun _ => rfl⟩, hok.stopping,
      hok.teardown.busy hbusy rfl rfl rfl⟩
    · have hbook := hok.balanced m
      simp only [owned, hmsg, count_append, toList_none, toList_some, count_nil] at hbook ⊢
      omega
    · exact forall_mem_append.2 ⟨hok.sent, forall_mem_singleton.2 (hreplies msg hmsg)⟩
  · next hfail =>
    cases hstep
    -- a send that fails leaves the message in the operation
    exact { hok with
      worker := ⟨pace, hpaced,
        hnext _ result ⟨rfl, rfl, rfl, rfl, rfl⟩ rfl fun hzero => absurd hzero hfail⟩
      teardown := hok.teardown.busy hbusy rfl rfl rfl }

/-- While the context is not stopping, the worker waits for the callback. -/
theorem ReplyContext.WorkerOk.finished (h : c.WorkerOk pace) (haio : c.aio = .finished result) :
    c.requestMsg = none ∧ c.event = .none ∧ c.worker = .wait ∧
        ((pace = .received ∧ c.phase = .recv ∧ (result = 0 → c.aioMsg.isSome)) ∨
          (pace = .sent ∧ c.phase = .send ∧ (result = 0 → c.aioMsg = none))) ∨
      (c.requestMsg = none ∧ c.Left pace ∧ c.stopping = true ∧
        ∀ c' : ReplyContext, c'.worker = c.worker → c'.stopping = true → c'.Left pace →
          c'.WorkerOk pace) := by
  have hbusy : c.aio ≠ .idle := by rw [haio]; nofun
  rcases h.busy hbusy with ⟨hwait, hwaits⟩ | ⟨-, hleft, hs, hstay⟩
  · refine .inl ?_
    cases hwaits with
    | received hfin hphase hmsg hevent hreq =>
      obtain rfl := AioStage.finished.inj (haio.symm.trans hfin)
      exact ⟨hreq, hevent, hwait, .inl ⟨rfl, hphase, hmsg⟩⟩
    | sent hfin hphase hmsg hevent hreq =>
      obtain rfl := AioStage.finished.inj (haio.symm.trans hfin)
      exact ⟨hreq, hevent, hwait, .inr ⟨rfl, hphase, hmsg⟩⟩
    | receiving hne _ _ _ _ | sending hne _ _ _ _ => exact absurd (haio.symm.trans hne) nofun
    | requestReady hidle _ _ _ | sendDone hidle _ _ _ | nngError hidle _ _ _ _
    | stopped hidle _ _ _ _ => exact absurd hidle hbusy
  · exact .inr ⟨hleft.requestMsg, hleft, hs, hstay⟩

/-- **The callback.** -/
theorem ReplyOk.callback (hok : ReplyOk c) (hstep : c.callback = some c') : ReplyOk c' := by
  obtain ⟨pace, hpaced, hworker⟩ := hok.worker
  unfold ReplyContext.callback at hstep
  split at hstep
  next result haio =>
    have hbusy : c.aio ≠ .idle := by rw [haio]; nofun
    split at hstep
    next hstop =>
      -- a context that is stopping keeps the message in the operation for teardown
      cases hstep
      refine { hok with
        worker := ⟨pace, hpaced, ?_⟩, teardown := hok.teardown.busy hbusy rfl rfl rfl }
      rcases hworker.finished haio with ⟨hreq, hevent, hwait, hpace⟩ | ⟨hreq, hleft, -, hstay⟩
      · refine .of_waits hwait (.stopped rfl hevent hstop hreq ?_)
        rcases hpace with ⟨rfl, -⟩ | ⟨rfl, -⟩ <;> nofun
      · exact hstay _ rfl hstop ⟨hreq, nofun, nofun, fun _ => rfl, hleft.pace⟩
    next hstop =>
      obtain ⟨hreq, hevent, hwait, hpace⟩ :=
        (hworker.finished haio).resolve_right fun hleft => hstop hleft.2.2.1
      split at hstep
      next hfail =>
        cases hstep
        refine ⟨fun msg => ?_, hok.fresh, hok.nodup, hok.sent, ⟨pace, hpaced, .of_waits hwait ?_⟩,
          hok.stopping, hok.teardown.busy hbusy rfl rfl rfl⟩
        · have hbook := hok.balanced msg
          simp only [owned, free, count_append, toList_none, count_nil] at hbook ⊢
          omega
        · refine .nngError rfl rfl rfl hreq ?_
          rcases hpace with ⟨rfl, -⟩ | ⟨rfl, -⟩ <;> nofun
      next hsuccess =>
        have hzero : result = 0 := by simpa using hsuccess
        split at hstep
        next hphase =>
          cases hstep
          rcases hpace with ⟨rfl, -, hmsg⟩ | ⟨-, hsend, -⟩
          · refine ⟨fun msg => ?_, hok.fresh, hok.nodup, hok.sent,
              ⟨.received, hpaced, .of_waits hwait ?_⟩, ?_, hok.teardown.busy hbusy rfl rfl rfl⟩
            · have hbook := hok.balanced msg
              simp only [owned, hreq, count_append] at hbook ⊢
              omega
            · exact .requestReady rfl rfl rfl (hmsg hzero)
            · exact fun hs => absurd hs hstop
          · exact absurd (hphase.symm.trans hsend) nofun
        next hphase =>
          cases hstep
          rcases hpace with ⟨-, hrecv, -⟩ | ⟨rfl, -, hmsg⟩
          · exact absurd hrecv hphase
          · exact { hok with
              worker := ⟨.sent, hpaced, .of_waits hwait (.sendDone rfl (hmsg hzero) rfl hreq)⟩
              teardown := hok.teardown.busy hbusy rfl rfl rfl }
  next => cases hstep

namespace ReplyContext

/-- The worker does not see at once that the context is stopping. -/
theorem WorkerOk.stop (h : c.WorkerOk pace) (teardown : TeardownAt) :
    WorkerOk { c with stopping := true, teardown := teardown } pace := by
  have hquiet : ∀ {worker : WorkerAt}, c.Quiet → Quiet
      { c with stopping := true, worker := worker, teardown := teardown } :=
    fun hq => { hq with }
  have hleft : ∀ {worker : WorkerAt}, c.Left pace → Left
      { c with stopping := true, worker := worker, teardown := teardown } pace :=
    fun hl => { hl with running := nofun }
  unfold WorkerOk at h ⊢
  generalize c.worker = worker at h ⊢
  -- setting the flag keeps what each state of the worker asks for
  cases worker with
  | notStarted | enter | receive | handled _ _ | replying _ | settingMsg _ =>
    exact ⟨hquiet h.1, h.2⟩
  | wait =>
    cases h with
    | receiving haio hphase hmsg hevent hreq => exact .receiving haio hphase hmsg hevent hreq
    | sending haio hphase hmsg hevent hreq => exact .sending haio hphase hmsg hevent hreq
    | received haio hphase hmsg hevent hreq => exact .received haio hphase hmsg hevent hreq
    | sent haio hphase hmsg hevent hreq => exact .sent haio hphase hmsg hevent hreq
    | requestReady haio hmsg hevent hreq => exact .requestReady haio hmsg hevent hreq
    | sendDone haio hmsg hevent hreq => exact .sendDone haio hmsg hevent hreq
    | nngError haio hmsg hevent hreq hpace => exact .nngError haio hmsg hevent hreq hpace
    | stopped haio hevent _ hreq hpace => exact .stopped haio hevent rfl hreq hpace
  | took event err req stopping =>
    cases stopping with
    | true => exact ⟨hleft h.1, rfl, h.2.2⟩
    | false => exact ⟨hquiet h.1, h.2⟩
  | send =>
    exact h
  | exited =>
    exact hleft h

/-- No request waits for the worker when teardown says stop. -/
def StopsIdle (c : ReplyContext) (action : ReplyAction) : Prop :=
  action = .teardown → c.teardown = .notCalled → c.requestMsg = none

end ReplyContext

/-- Teardown goes on without touching a message. -/
theorem ReplyOk.teardown_moves {teardown : TeardownAt} (hok : ReplyOk c)
    (hreq : c.stopping = false → c.requestMsg = none)
    (hteardown : TeardownOk { c with stopping := true, teardown := teardown }) :
    ReplyOk { c with stopping := true, teardown := teardown } := by
  obtain ⟨pace, hpaced, hworker⟩ := hok.worker
  refine ⟨hok.balanced, hok.fresh, hok.nodup, hok.sent, ⟨pace, hpaced, hworker.stop teardown⟩,
    fun _ => ?_, hteardown⟩
  show c.requestMsg = none
  cases hs : c.stopping with
  | true => exact hok.stopping hs
  | false => exact hreq hs

/-- A worker that is gone does not mind what happens to the message of a finished operation. -/
theorem ReplyContext.WorkerOk.gone (h : c.WorkerOk pace)
    (hgone : c.Gone) (hworker : c'.worker = c.worker)
    (haio' : c'.aio = .idle) (hmsg : c'.aioMsg = none) (hevent : c'.event = c.event)
    (hreq : c'.requestMsg = none) : c'.WorkerOk pace := by
  unfold WorkerOk at h ⊢
  rw [hworker]
  rcases hgone with hat | hat
  · rw [hat] at h ⊢
    exact ⟨hreq, fun _ => hmsg, fun hsend => absurd (haio'.symm.trans hsend) nofun, fun _ => haio',
      h.pace⟩
  · rw [hat] at h ⊢
    exact ⟨⟨haio', hmsg, hevent.trans h.1.event, hreq⟩, h.2⟩

/-- **A step of teardown.** -/
theorem ReplyOk.teardownStep (hok : ReplyOk c) (hidle : c.teardown = .notCalled →
    c.requestMsg = none) (hstep : c.teardownStep = some c') : ReplyOk c' := by
  obtain ⟨pace, hpaced, hworker⟩ := hok.worker
  have htd := hok.teardown
  unfold TeardownOk at htd
  unfold ReplyContext.teardownStep at hstep
  -- from the second step on the context is stopping already
  have hset : ∀ {teardown : TeardownAt}, c.stopping = true →
      { c with teardown := teardown } = { c with stopping := true, teardown := teardown } := by
    intro teardown hs
    rw [← hs]
  have hnever : c.stopping = true → c.stopping = false → c.requestMsg = none :=
    fun ht hf => absurd (ht.symm.trans hf) nofun
  generalize hat : c.teardown = teardown at hstep htd
  cases teardown with
  | returned =>
    cases hstep
  | notCalled =>
    cases hstep
    exact hok.teardown_moves (fun _ => hidle hat) rfl
  | stopped =>
    cases hstep
    rw [hset htd]
    exact hok.teardown_moves (hnever htd) rfl
  | cancelled =>
    obtain ⟨hgone, hstep⟩ := ite_none_right_eq_some.1 hstep
    cases hstep
    rw [hset htd]
    exact hok.teardown_moves (hnever htd) ⟨rfl, hgone⟩
  | joined =>
    obtain ⟨haio, hstep⟩ := ite_none_right_eq_some.1 hstep
    cases hstep
    rw [hset htd.1]
    exact hok.teardown_moves (hnever htd.1) ⟨rfl, htd.2, haio⟩
  | waited =>
    cases hstep
    obtain ⟨hs, hgone, haio⟩ := htd
    have hreq := hok.stopping hs
    refine ⟨fun msg => ?_, hok.fresh, hok.nodup, hok.sent,
      ⟨pace, hpaced, hworker.gone hgone rfl haio rfl rfl hreq⟩, fun _ => hreq,
      hs, hgone, haio, rfl⟩
    have hbook := hok.balanced msg
    simp only [owned, free, count_append, toList_none, count_nil] at hbook ⊢
    omega
  | aioCleared =>
    cases hstep
    obtain ⟨hs, hgone, haio, hmsg⟩ := htd
    refine ⟨fun msg => ?_, hok.fresh, hok.nodup, hok.sent,
      ⟨pace, hpaced, hworker.gone hgone rfl haio hmsg rfl rfl⟩, fun _ => rfl,
      hs, hgone, haio, hmsg, rfl⟩
    have hbook := hok.balanced msg
    simp only [owned, free, count_append, toList_none, count_nil] at hbook ⊢
    omega

/-- **What every step keeps**, if no request waits for the worker when teardown says stop. -/
theorem ReplyOk.step {action : ReplyAction} (hok : ReplyOk c) (hidle : c.StopsIdle action)
    (hstep : c.step action = some c') : ReplyOk c' := by
  cases action with
  | worker replied => exact hok.workerStep hstep
  | callback => exact hok.callback hstep
  | teardown => exact hok.teardownStep (hidle rfl) hstep
  | complete result =>
    cases haio : c.aio with
    | receiving => exact hok.receive_finished haio hstep
    | sending => exact hok.send_finished haio hstep
    | idle | finished _ =>
      have hnone : c.complete result = none := by
        unfold complete
        rw [haio]
      exact absurd (hnone.symm.trans hstep) nofun

theorem replyOk_start (threadStarted : Bool) : ReplyOk (.start threadStarted) := by
  cases threadStarted <;> exact ⟨fun _ => rfl, nofun, nodup_nil, nofun, ⟨.begun, rfl,
    ⟨rfl, rfl, rfl, rfl⟩, rfl⟩, nofun, trivial⟩

theorem ReplyOk.run {threadStarted : Bool} {actions : List ReplyAction}
    (hidle : Runs.Along ReplyContext.step StopsIdle (.start threadStarted) actions)
    (hrun : Runs.run ReplyContext.step (.start threadStarted) actions = some c) : ReplyOk c :=
  Runs.run_induction (fun _ c => ReplyOk c) (fun _ _ _ _ hok hidle hstep => hok.step hidle hstep)
    (replyOk_start threadStarted) hidle hrun

/-! ### Every interleaving -/

/-- After a request was handled comes one send, and after that a receive, as far as the trace
    goes. -/
theorem Paced.handle {trace before after : List WorkerMark} (h : Paced trace pace)
    (htrace : trace = before ++ .handle :: after) :
    (after = [] ∧ pace = .handled) ∨ ∃ later, after = .send :: later ∧
      (later = [] ∨ ∃ rest, later = .receive :: rest) := by
  rw [htrace] at h
  -- the pace allows a handle behind a receive, then a send, then a receive
  obtain ⟨pace₀, -, hrun⟩ := Runs.run_append_eq_some.1 h
  obtain ⟨pace₁, hhandle, hrun⟩ := Runs.run_cons_eq_some.1 hrun
  obtain rfl : pace₁ = .handled := by
    cases pace₀ with
    | received => exact (some.inj hhandle).symm
    | _ => cases hhandle
  cases after with
  | nil => exact .inl ⟨rfl, (some.inj hrun).symm⟩
  | cons mark later =>
    obtain ⟨pace₂, hsend, hrun⟩ := Runs.run_cons_eq_some.1 hrun
    cases mark with
    | receive => cases hsend
    | handle => cases hsend
    | send =>
      refine .inr ⟨later, rfl, ?_⟩
      obtain rfl : pace₂ = .sent := (some.inj hsend).symm
      cases later with
      | nil => exact .inl rfl
      | cons mark rest =>
        obtain ⟨pace₃, hreceive, -⟩ := Runs.run_cons_eq_some.1 hrun
        cases mark with
        | receive => exact .inr ⟨rest, rfl⟩
        | handle => cases hreceive
        | send => cases hreceive

/-- **The ledger of a reply context.** In every interleaving of worker, callback, teardown and NNG
    in which no request waits for the worker when teardown says stop: every message received is
    owned or was freed, once; every reply is owned, was freed or was sent, once; nothing else was
    freed; every request that was handled is followed by one send before the next receive; and
    the context owns nothing when teardown returns. -/
theorem replyLedger (threadStarted : Bool) (actions : List ReplyAction) (c : ReplyContext)
    (hidle : Runs.Along ReplyContext.step StopsIdle (.start threadStarted) actions)
    (hrun : Runs.run ReplyContext.step (.start threadStarted) actions = some c) :
    (∀ msg ∈ c.received, c.owned.count msg + c.freed.count msg = 1 ∧ msg ∉ c.sent) ∧
    (∀ msg ∈ c.replies, c.owned.count msg + c.freed.count msg + c.sent.count msg = 1) ∧
    (∀ msg ∈ c.freed, msg ∈ c.received ∨ msg ∈ c.replies) ∧
    (∀ before after, c.trace = before ++ .handle :: after →
      (after = [] ∧ c.worker ≠ .exited) ∨
        ∃ later, after = .send :: later ∧ (later = [] ∨ ∃ rest, later = .receive :: rest)) ∧
    (c.teardown = .returned → c.owned = []) := by
  have hok := ReplyOk.run hidle hrun
  obtain ⟨pace, hpaced, hworker⟩ := hok.worker
  -- each message was received or built once and stands once in the book
  have hone : ∀ msg ∈ c.received ++ c.replies,
      c.owned.count msg + c.freed.count msg + c.sent.count msg = 1 := by
    intro msg hmem
    rw [← hok.balanced msg]
    exact count_eq_one_of_mem hok.nodup hmem
  refine ⟨fun msg hmem => ?_, fun msg hmem => hone msg (mem_append_right _ hmem), ?_, ?_, ?_⟩
  -- requests and replies have different names
  · have hunsent : msg ∉ c.sent := fun hsent =>
      (nodup_append.1 hok.nodup).2.2 msg hmem msg (hok.sent msg hsent) rfl
    have hcount := hone msg (mem_append_left _ hmem)
    rw [count_eq_zero_of_not_mem hunsent] at hcount
    exact ⟨hcount, hunsent⟩
  · intro msg hmem
    have hpos := count_pos_iff.2 hmem
    have hbook := hok.balanced msg
    have hthere : 0 < (c.received ++ c.replies).count msg := by omega
    exact mem_append.1 (count_pos_iff.1 hthere)
  · intro before after htrace
    rcases hpaced.handle htrace with ⟨hnil, rfl⟩ | hsend
    · refine .inl ⟨hnil, fun hexited => ?_⟩
      unfold WorkerOk at hworker
      rw [hexited] at hworker
      exact hworker.pace rfl
    · exact .inr hsend
  · intro hreturned
    -- teardown returns when the worker is gone and both slots are empty
    have htd := hok.teardown
    unfold TeardownOk at htd
    rw [hreturned] at htd
    obtain ⟨-, hgone, -, hmsg, hreq⟩ := htd
    rcases hgone with hat | hat <;> simp [owned, WorkerAt.locals, hmsg, hreq, hat]

/-- A request is received, handled and answered, and then the context is torn down. -/
def oneRequest : List ReplyAction :=
  [.worker true, .worker true, .complete 0, .callback, .worker true, .worker true, .worker true,
    .worker true, .worker true, .worker true, .complete 0, .callback, .teardown, .worker true,
    .worker true, .teardown, .teardown, .teardown, .teardown, .teardown]

theorem replyLedger_oneRequest :
    ∃ c, Runs.run ReplyContext.step (.start true) oneRequest = some c ∧ c.teardown = .returned ∧
      c.received = [0] ∧ c.replies = [1] ∧ c.freed.count 0 = 1 ∧ c.sent.count 1 = 1 ∧
      c.owned = [] := by
  have hrun : Runs.run ReplyContext.step (.start true) oneRequest = some _ := rfl
  have hidle : Runs.Along ReplyContext.step StopsIdle (.start true) oneRequest := by
    iterate 12 refine .cons nofun rfl ?_
    refine .cons (fun _ _ => rfl) rfl ?_
    iterate 2 refine .cons nofun rfl ?_
    iterate 5 refine .cons (fun _ => nofun) rfl ?_
    trivial
  refine ⟨_, hrun, rfl, rfl, rfl, rfl, rfl, ?_⟩
  exact (replyLedger true oneRequest _ hidle hrun).2.2.2.2 rfl

/-- **A request is lost** when teardown says stop between the callback and the worker: the worker
    takes it out of the context and leaves without freeing it. -/
theorem request_lost :
    ∃ c, Runs.run ReplyContext.step (.start true)
        [.worker true, .worker true, .complete 0, .callback, .teardown, .worker true, .worker true,
          .teardown, .teardown, .teardown, .teardown, .teardown] = some c ∧
      c.teardown = .returned ∧ c.received = [0] ∧ c.freed = [] ∧ c.sent = [] ∧ c.owned = [] :=
  ⟨_, rfl, rfl, rfl, rfl, rfl, rfl⟩

end

end Ducknng
