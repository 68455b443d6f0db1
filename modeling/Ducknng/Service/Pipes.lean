import Ducknng.Checked
import Ducknng.Lib.Runs

namespace Ducknng

open Runs

/-!
# Pipe events and the active-pipe limit

NNG reports every connection three times: before it is added, after it was added and
after it is gone. The first report may close the pipe; the second and third keep the
table of active pipes. Every report is also written to a ring of events.

* `OneAccept` — the orders in which one listener of NNG reports.
* `activePipes_le` — in these orders the limit holds; `activePipes_exceeded` — in others it may
  not.
-/

/-! ### The table of active pipes -/

/-- What `ducknng_sockaddr_addr_dup` makes of a remote address. -/
structure RemoteAddr where
  addr : CStr
  ip : CStr
  port : Int
  deriving DecidableEq

/-- `ducknng_pipe_state`. -/
structure PipeState where
  pipeId : Nat
  openedMs : Nat
  remote : Option RemoteAddr
  peerIdentity : Option CStr
  deriving DecidableEq

/-- `nng_pipe_ev`. -/
inductive PipeEv where
  | addPre | addPost | remPost
  deriving DecidableEq, Repr

/-- `ducknng_pipe_event_name`. -/
def pipeEventName : PipeEv → String
  | .addPre => "add_pre"
  | .addPost => "add_post"
  | .remPost => "rem_post"

/-- `ducknng_pipe_event`; `admitted` is `-1` when the event decides nothing. -/
structure PipeEvent where
  seq : Nat
  tsMs : Nat
  pipeId : Nat
  event : String
  admitted : Int
  reason : Option String
  remote : Option RemoteAddr
  peerIdentity : Option CStr
  deriving DecidableEq

/-- The part of a service that pipe events touch: the table of active pipes with its
    published count, and the ring of events. -/
structure PipeTable where
  states : List PipeState
  countVisible : Nat
  events : List (Option PipeEvent)
  eventStart : Nat
  eventCount : Nat
  eventDropped : Nat
  nextEventSeq : Nat

/-- A service that has seen no pipe; the ring is allocated with the first event. -/
def PipeTable.empty : PipeTable := ⟨[], 0, [], 0, 0, 0, 0⟩

/-- What the callback is told about a pipe, and what the clock says. -/
structure PipeReport where
  pipeId : Nat
  nowMs : Nat
  remote : Option RemoteAddr
  peerIdentity : Option CStr
  deriving DecidableEq

/-- Which allocations of one report succeed: the event's texts, the ring, and a larger
    table. -/
structure PipeAlloc where
  event : Bool
  ring : Bool
  table : Bool
  deriving DecidableEq, Repr

variable (t : PipeTable)

/-- `ducknng_service_pipe_state_add_locked`: an entry of the same pipe is overwritten,
    a new one goes to the end. Without room and without memory nothing is recorded. -/
def pipeStateAdd (r : PipeReport) (grows : Bool) : PipeTable :=
  let state : PipeState := ⟨r.pipeId, r.nowMs, r.remote, r.peerIdentity⟩
  if r.pipeId = 0 then t
  else
    match t.states.findIdx? (fun s => s.pipeId = r.pipeId) with
    | some i => { t with states := t.states.set i state }
    | none =>
      if grows then
        { t with states := t.states ++ [state], countVisible := t.states.length + 1 }
      else t

/-- `ducknng_service_pipe_state_remove_locked`. -/
def pipeStateRemove (pipeId : Nat) : PipeTable :=
  if pipeId = 0 then t
  else
    match t.states.findIdx? (fun s => s.pipeId = pipeId) with
    | some i => { t with states := t.states.eraseIdx i, countVisible := t.states.length - 1 }
    | none => t

/-- The capacity of the ring. -/
def pipeEventCap : Nat := 1024

/-- Where the next event goes: behind the last one, or over the oldest one. -/
def pipeEventSlot : PipeTable × Nat :=
  if t.eventCount < pipeEventCap then
    ({ t with eventCount := t.eventCount + 1 }, (t.eventStart + t.eventCount) % pipeEventCap)
  else
    ({ t with
      eventStart := (t.eventStart + 1) % pipeEventCap
      eventDropped := t.eventDropped + 1 }, t.eventStart)

/-- The table part of `ducknng_service_pipe_event_append`. -/
def pipeStateUpdate (ev : PipeEv) (r : PipeReport) (grows : Bool) : PipeTable :=
  match ev with
  | .addPre => t
  | .addPost => pipeStateAdd t r grows
  | .remPost => pipeStateRemove t r.pipeId

/-- `ducknng_service_pipe_event_append`. -/
def pipeEventAppend (ev : PipeEv) (r : PipeReport) (admitted : Int)
    (reason : Option String) (alloc : PipeAlloc) : PipeTable :=
  if !alloc.event then t
  else if t.events.isEmpty && !alloc.ring then t
  else
    let ring := if t.events.isEmpty then List.replicate pipeEventCap none else t.events
    let (t, idx) := pipeEventSlot { t with events := ring }
    let t := pipeStateUpdate t ev r alloc.table
    let event : PipeEvent := ⟨t.nextEventSeq + 1, r.nowMs, r.pipeId, pipeEventName ev, admitted,
      reason, r.remote, r.peerIdentity⟩
    { t with nextEventSeq := t.nextEventSeq + 1, events := t.events.set idx (some event) }

/-- The decision of `ducknng_service_pipe_event_cb` on a pipe that is about to be added:
    the network admission's refusal, or the limit's. -/
def pipeRefusal (maxActivePipes : Nat) (t : PipeTable) (admission : Option String) :
    Option String :=
  match admission with
  | some reason => some reason
  | none =>
    if maxActivePipes > 0 ∧ t.states.length ≥ maxActivePipes then
      some "ducknng: max active pipes exceeded"
    else none

/-- `ducknng_service_pipe_event_cb`: the table afterwards, and whether the pipe was
    closed. The outcome of the network admission is an input. -/
def pipeEventCb (maxActivePipes : Nat) (t : PipeTable) (ev : PipeEv) (r : PipeReport)
    (admission : Option String) (alloc : PipeAlloc) : PipeTable × Bool :=
  match ev with
  | .addPre =>
    let refusal := pipeRefusal maxActivePipes t admission
    (pipeEventAppend t .addPre r (if refusal.isNone then 1 else 0) refusal alloc, refusal.isSome)
  | ev => (pipeEventAppend t ev r (-1) none alloc, false)

/-! ### Any number of pipes -/

/-- A service and the pipes around it: which were reported, which were let in and wait
    for their second report, and which are gone. -/
structure PipeSystem where
  table : PipeTable
  known : List Nat
  waiting : List Nat
  gone : List Nat

/-- No pipe has been reported. -/
def PipeSystem.init : PipeSystem := ⟨.empty, [], [], []⟩

/-- One event of one pipe, with everything the callback does not decide itself. -/
structure PipeInput where
  ev : PipeEv
  report : PipeReport
  admission : Option String
  alloc : PipeAlloc

/-- The callback on the next event. A pipe is reported in order, and one that the first
    report closed is not added; the reports of different pipes come in any order. -/
def pipeStep (maxActivePipes : Nat) (s : PipeSystem) (e : PipeInput) : Option PipeSystem :=
  let pipe := e.report.pipeId
  let (table, closed) := pipeEventCb maxActivePipes s.table e.ev e.report e.admission e.alloc
  match e.ev with
  | .addPre =>
    if pipe ∈ s.known then none
    else some { s with
      table := table
      known := pipe :: s.known
      waiting := if closed then s.waiting else pipe :: s.waiting }
  | .addPost =>
    if pipe ∈ s.waiting then
      some { s with table := table, waiting := s.waiting.erase pipe }
    else none
  | .remPost =>
    if pipe ∈ s.known ∧ pipe ∉ s.gone then
      some { s with table := table, waiting := s.waiting.erase pipe, gone := pipe :: s.gone }
    else none

/-- The accept callback of a listener makes the first two reports of a pipe and only then takes
    the next one (`nni_listener_add_pipe`, `listener_accept_cb`); a service has one listener and
    no dialer. So the second report is about the pipe that was reported last. -/
def OneAccept (s : PipeSystem) (e : PipeInput) : Prop :=
  e.ev = .addPost → s.known.head? = some e.report.pipeId

instance (s : PipeSystem) (e : PipeInput) : Decidable (OneAccept s e) :=
  inferInstanceAs (Decidable (_ → _))

/-! ### The limit -/

/-- Only the second report adds an entry, and it adds one. -/
theorem pipeStateUpdate_length_le (ev : PipeEv) (r : PipeReport) (grows : Bool) :
    (pipeStateUpdate t ev r grows).states.length ≤
      t.states.length + if ev = .addPost then 1 else 0 := by
  cases ev with
  | addPre => exact Nat.le_refl _
  | addPost =>
    rw [pipeStateUpdate, pipeStateAdd]
    split
    · exact Nat.le_succ _
    split
    · simp
    split <;> simp
  | remPost =>
    rw [pipeStateUpdate, pipeStateRemove]
    split
    · exact Nat.le_refl _
    split
    · exact List.length_eraseIdx_le _ _
    · exact Nat.le_refl _

/-- The same for the whole report, whatever can be allocated. -/
theorem pipeEventAppend_length_le (ev : PipeEv) (r : PipeReport) (admitted : Int)
    (reason : Option String) (alloc : PipeAlloc) :
    (pipeEventAppend t ev r admitted reason alloc).states.length ≤
      t.states.length + if ev = .addPost then 1 else 0 := by
  unfold pipeEventAppend
  split
  · exact Nat.le_add_right _ _
  split
  · exact Nat.le_add_right _ _
  · have hupdate := pipeStateUpdate_length_le (pipeEventSlot { t with
      events := if t.events.isEmpty then List.replicate pipeEventCap none else t.events }).1
      ev r alloc.table
    have hstates : ∀ t, (pipeEventSlot t).1.states = t.states := fun t => by
      unfold pipeEventSlot
      split <;> rfl
    rwa [hstates] at hupdate

theorem pipeEventCb_length_le (m : Nat) (t : PipeTable) (ev : PipeEv) (r : PipeReport)
    (admission : Option String) (alloc : PipeAlloc) :
    (pipeEventCb m t ev r admission alloc).1.states.length ≤
      t.states.length + if ev = .addPost then 1 else 0 := by
  cases ev with
  | addPre => exact pipeEventAppend_length_le t .addPre r _ _ alloc
  | addPost => exact pipeEventAppend_length_le t .addPost r _ _ alloc
  | remPost => exact pipeEventAppend_length_le t .remPost r _ _ alloc

/-- A pipe is let in only where there is room. -/
theorem pipeEventCb_room {m : Nat} {t : PipeTable} {r : PipeReport} {admission : Option String}
    {alloc : PipeAlloc} (hm : 0 < m)
    (h : (pipeEventCb m t .addPre r admission alloc).2 = false) : t.states.length < m := by
  have hallowed : (pipeRefusal m t admission).isSome = false := h
  by_contra hfull
  unfold pipeRefusal at hallowed
  split at hallowed
  · cases hallowed
  · rw [if_pos ⟨hm, Nat.le_of_not_lt hfull⟩] at hallowed
    cases hallowed

/-- The limit is kept, and there is room for the pipe that was reported last as long as it is
    on its way. -/
structure PipesOk (m : Nat) (s : PipeSystem) : Prop where
  active : s.table.states.length ≤ m
  room : ∀ pipe, s.known.head? = some pipe → pipe ∈ s.waiting → s.table.states.length < m
  known : ∀ pipe ∈ s.waiting, pipe ∈ s.known
  nodup : s.waiting.Nodup

/-- **One event.** -/
theorem pipeStep_ok {m : Nat} {s s' : PipeSystem} {e : PipeInput} (hm : 0 < m)
    (hs : PipesOk m s) (horder : OneAccept s e) (hstep : pipeStep m s e = some s') :
    PipesOk m s' := by
  have hlen := pipeEventCb_length_le m s.table e.ev e.report e.admission e.alloc
  obtain ⟨hactive, hroom, hknown, hnodup⟩ := hs
  unfold pipeStep at hstep
  cases hev : e.ev with
  | addPre =>
    simp only [hev, reduceCtorEq, if_false, Nat.add_zero] at hstep hlen
    split at hstep
    · cases hstep
    next hnew =>
    cases hstep
    have hnotWaiting : e.report.pipeId ∉ s.waiting := fun hmem => hnew (hknown _ hmem)
    by_cases hclosed : (pipeEventCb m s.table .addPre e.report e.admission e.alloc).2 = true
    · simp only [hclosed, if_true]
      refine ⟨Nat.le_trans hlen hactive, fun pipe hlast hmem => ?_, fun pipe hmem => ?_, hnodup⟩
      · cases hlast
        exact absurd hmem hnotWaiting
      · exact List.mem_cons_of_mem _ (hknown pipe hmem)
    · -- The pipe was let in, so the table is not full.
      have hfree := pipeEventCb_room hm (Bool.eq_false_iff.2 hclosed)
      simp only [hclosed, Bool.false_eq_true, if_false]
      refine ⟨Nat.le_trans hlen hactive, fun _ _ _ => Nat.lt_of_le_of_lt hlen hfree,
        fun pipe hmem => ?_, List.nodup_cons.2 ⟨hnotWaiting, hnodup⟩⟩
      rcases List.mem_cons.1 hmem with rfl | hmem
      · exact List.mem_cons_self
      · exact List.mem_cons_of_mem _ (hknown pipe hmem)
  | addPost =>
    simp only [hev, if_true] at hstep hlen
    split at hstep
    · next hwait =>
      cases hstep
      -- It is the pipe that was reported last, so its room is still there.
      have hlast := horder hev
      have hfree := hroom _ hlast hwait
      refine ⟨Nat.le_trans hlen hfree, fun pipe hpipe hmem => ?_,
        fun pipe hmem => hknown pipe (List.mem_of_mem_erase hmem), hnodup.erase _⟩
      cases hlast.symm.trans hpipe
      exact absurd hmem hnodup.not_mem_erase
    · cases hstep
  | remPost =>
    simp only [hev, reduceCtorEq, if_false, Nat.add_zero] at hstep hlen
    split at hstep
    · cases hstep
      refine ⟨Nat.le_trans hlen hactive, fun pipe hlast hmem => ?_,
        fun pipe hmem => hknown pipe (List.mem_of_mem_erase hmem), hnodup.erase _⟩
      exact Nat.lt_of_le_of_lt hlen (hroom pipe hlast (List.mem_of_mem_erase hmem))
    · cases hstep

/-- **The active-pipe limit.** In every run in the orders of one listener the number of active
    pipes stays within the limit. -/
theorem activePipes_le {m : Nat} {events : List PipeInput} {s : PipeSystem} (hm : 0 < m)
    (horder : Along (pipeStep m) OneAccept .init events)
    (hrun : run (pipeStep m) .init events = some s) : s.table.states.length ≤ m := by
  have hstart : PipesOk m .init :=
    ⟨Nat.zero_le m, fun _ h => (by cases h), fun _ h => (by cases h), List.nodup_nil⟩
  exact (run_induction (fun _ s => PipesOk m s)
    (fun _ _ _ _ hs hP hstep => pipeStep_ok hm hs hP hstep) hstart horder hrun).active

/-- An event of a pipe for which everything else goes well. -/
def plainPipeInput (ev : PipeEv) (pipe : Nat) : PipeInput :=
  ⟨ev, ⟨pipe, 0, none, none⟩, none, ⟨true, true, true⟩⟩

/-- A pipe that is let in and never started, one that is added, and one that finds the table
    full. -/
theorem activePipes_le_notStarted :
    ∃ s, run (pipeStep 1) .init [plainPipeInput .addPre 1, plainPipeInput .addPre 2,
        plainPipeInput .addPost 2, plainPipeInput .addPre 3] = some s ∧
      s.table.states.length ≤ 1 := by
  have hrun : run (pipeStep 1) .init [plainPipeInput .addPre 1, plainPipeInput .addPre 2,
    plainPipeInput .addPost 2, plainPipeInput .addPre 3] = some _ := rfl
  refine ⟨_, hrun, activePipes_le (by decide) ?_ hrun⟩
  refine ⟨by decide, ?_⟩
  rintro s ⟨⟩
  refine ⟨by decide, ?_⟩
  rintro s ⟨⟩
  refine ⟨by decide, ?_⟩
  rintro s ⟨⟩
  exact ⟨by decide, fun _ _ => trivial⟩

/-- In another order the limit can be exceeded: two pipes are let in before either is counted. -/
theorem activePipes_exceeded :
    ∃ s, run (pipeStep 1) .init [plainPipeInput .addPre 1, plainPipeInput .addPre 2,
        plainPipeInput .addPost 1, plainPipeInput .addPost 2] = some s ∧
      s.table.states.length = 2 :=
  ⟨_, rfl, rfl⟩

end Ducknng
