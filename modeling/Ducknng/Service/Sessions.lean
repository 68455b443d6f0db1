import Ducknng.Service.Peers
import Ducknng.Service.SessionWork

namespace Ducknng

open List

/-!
# The session table of a service

The sections of `ducknng_session.c` that run under the service mutex: sessions are added,
looked up, removed, pruned when idle and detached all at once. A session object keeps its
address for good; the table holds addresses, in an array that is filled from the left.

* `addSession` — the registrar of query and upload sessions.
* `acquireSession`, `removeSession`, `pruneIdle`, `detachAll` — the other sections.
* `SessionStore.Stores` — what the array holds, as a list of addresses.
-/

/-! ### Sessions -/

/-- `ducknng_session`. A pool index of `(size_t)-1` is `none`; `torn` counts how often a
    teardown has passed its wait for the last reference. -/
structure Session (χ : Type) where
  sessionId : Nat
  ownerToken : CStr
  ownerIdentity : Option CStr
  resultHandle : CStr
  isUpload : Bool
  poolIndex : Option Nat
  closing : Bool
  refcount : Nat
  torn : Nat
  work : SessionWork χ

/-- The loop of `ducknng_session_token_equal` over the bytes both strings may have. -/
def tokenDiff (a b : List UInt8) : Nat → Nat → UInt8 → UInt8
  | 0, _, diff => diff
  | n + 1, i, diff => tokenDiff a b n (i + 1) (diff ||| (a.getD i 0 ^^^ b.getD i 0))

/-- `ducknng_session_token_equal`: lengths and bytes are compared without an early exit. -/
def tokenEqual (a b : CStr) : Bool :=
  let la := a.bytes.length
  let lb := b.bytes.length
  tokenDiff a.bytes b.bytes (max la lb) 0 (UInt8.ofNat (la ^^^ lb)) = 0

/-- The results of `ducknng_session_owner_auth`. -/
inductive SessionAuth where
  | ok
  | tokenMismatch
  | identityMismatch
  deriving DecidableEq, Repr

section
variable {χ : Type}

/-- `ducknng_session_owner_auth`. -/
def Session.ownerAuth (s : Session χ) (token identity : Option CStr) : SessionAuth :=
  match CStr.present token with
  | none => .tokenMismatch
  | some token =>
    if !tokenEqual s.ownerToken token then .tokenMismatch
    else match CStr.present s.ownerIdentity with
      | none => .ok
      | some owner => if identity = some owner then .ok else .identityMismatch

/-! ### The table -/

/-- What the service mutex protects: the array of sessions with its counters, the limits, and
    every session object there has been, by address. -/
structure SessionStore (χ : Type) where
  heap : List (Session χ)
  cells : List (Option Nat)
  sessionCount : Nat
  sessionCountVisible : Nat
  nextSessionId : Nat
  peers : List PeerIdentityState
  shuttingDown : Bool
  maxOpenSessions : Nat
  maxSessionsPerPeerIdentity : Nat
  maxSessionOpenRate : Nat
  sessionIdleMs : Nat

/-- A created service. -/
def SessionStore.init (maxOpen maxPerPeer maxRate idleMs : Nat) : SessionStore χ :=
  ⟨[], [], 0, 0, 1, [], false, maxOpen, maxPerPeer, maxRate, idleMs⟩

variable (st : SessionStore χ)

/-- The address in a cell of the array; `none` is a null pointer. -/
def SessionStore.cell (i : Nat) : Option Nat := st.cells.getD i none

/-- The session a cell points at. -/
def SessionStore.sessionAt (i : Nat) : Option (Session χ) :=
  (st.cell i).bind fun addr => st.heap[addr]?

/-- The store with one session object changed. -/
def SessionStore.modify (st : SessionStore χ) (addr : Nat) (f : Session χ → Session χ) :
    SessionStore χ :=
  { st with heap := st.heap.modify addr f }

/-- The sessions in the table, as addresses. -/
def SessionStore.stored : List Nat :=
  (st.cells.take st.sessionCount).filterMap id

/-- The loop of the per-identity limit: the sessions of an identity among the first `n`. -/
def SessionStore.ownedBy (identity : CStr) (n : Nat) : Nat :=
  ((range n).filter fun i =>
    ((st.sessionAt i).bind fun s => s.ownerIdentity) = some identity).length

/-! ### Adding -/

/-- What a registrar is asked to register. -/
structure NewSession (χ : Type) where
  identity : Option CStr
  isUpload : Bool
  poolIndex : Option Nat
  work : SessionWork χ

/-- What the clock, the random source and the allocator answer while a session is added. -/
structure AddWorld where
  nowMs : Nat
  allocPeer : Bool
  allocTimes : Bool
  grow : Bool
  create : Except String Unit
  copyHandle : Bool
  returnToken : Bool
  returnHandle : Bool
  ownerToken : CStr
  resultHandle : CStr

/-- A session that was added. -/
structure AddedSession where
  addr : Nat
  sessionId : Nat
  ownerToken : CStr
  resultHandle : CStr
  deriving DecidableEq

/-- The array with room for one more session. -/
def SessionStore.growCells : SessionStore χ :=
  if st.sessionCount = st.cells.length then
    let newCap := if st.cells.length = 0 then 4 else st.cells.length * 2
    { st with cells := st.cells ++ replicate (newCap - st.cells.length) none }
  else st

/-- The session object that is created. -/
def NewSession.toSession (new : NewSession χ) (sessionId : Nat) (world : AddWorld) : Session χ :=
  ⟨sessionId, world.ownerToken, CStr.present new.identity, world.resultHandle, new.isUpload,
    new.poolIndex, false, 0, 0, new.work⟩

/-- The session object is created and stored. -/
def SessionStore.insert (new : NewSession χ) (world : AddWorld) :
    AddedSession × SessionStore χ :=
  let addr := st.heap.length
  (⟨addr, st.nextSessionId, world.ownerToken, world.resultHandle⟩,
    { st with
      heap := st.heap ++ [new.toSession st.nextSessionId world]
      cells := st.cells.set st.sessionCount (some addr)
      nextSessionId := st.nextSessionId + 1
      sessionCount := st.sessionCount + 1
      sessionCountVisible := st.sessionCount + 1 })

/-- The allocations of the registrar, in order. A session object that cannot be completed is
    destroyed before anyone has seen it. -/
def SessionStore.create (st : SessionStore χ) (new : NewSession χ) (world : AddWorld) :
    Except (Int × String) AddedSession × SessionStore χ :=
  if st.sessionCount = st.cells.length ∧ !world.grow then
    (.error (-1, "ducknng: out of memory growing session table"), st)
  else
    let st := st.growCells
    match world.create with
    | .error message => (.error (-1, message), st)
    | .ok () =>
      if !world.copyHandle then
        (.error (-1, "ducknng: out of memory copying result handle"), st)
      else if !world.returnToken then
        (.error (-1, "ducknng: out of memory copying session owner token"), st)
      else if !world.returnHandle then
        (.error (-1, "ducknng: out of memory copying result handle"), st)
      else
        let (added, st) := st.insert new world
        (.ok added, st)

/-- The limits a registrar checks before it asks the rate limiter. -/
def SessionStore.limitRefusal (identity : Option CStr) : Option String :=
  if st.shuttingDown then some "ducknng: service is stopping"
  else if st.maxOpenSessions > 0 ∧ st.sessionCount ≥ st.maxOpenSessions then
    some "ducknng: max open sessions exceeded"
  else match CStr.present identity with
    | none => none
    | some identity =>
      if st.maxSessionsPerPeerIdentity > 0 ∧
          st.ownedBy identity st.sessionCount ≥ st.maxSessionsPerPeerIdentity then
        some "ducknng: max sessions per peer identity exceeded"
      else none

/-- `ducknng_service_add_session_full`, and `ducknng_service_add_session`, whose sessions have
    no pool connection: a positive code is a refusal, a negative one a failure. -/
def addSession (new : NewSession χ) (world : AddWorld) :
    Except (Int × String) AddedSession × SessionStore χ :=
  match st.limitRefusal new.identity with
  | some message => (.error (1, message), st)
  | none =>
    match checkAndRecordSessionOpen st.maxSessionOpenRate st.peers
        ⟨new.identity, world.nowMs, world.allocPeer, world.allocTimes⟩ with
    | (.error message, peers) => (.error (1, message), { st with peers := peers })
    | (.ok (), peers) => { st with peers := peers }.create new world

/-! ### Looking up and removing -/

/-- The loop that finds a session by its id: the first cell from `i` on that has it. -/
def SessionStore.findSession (st : SessionStore χ) (sessionId : Nat) : Nat → Nat → Option Nat
  | 0, _ => none
  | n + 1, i =>
    if ((st.sessionAt i).map fun s => s.sessionId) = some sessionId then some i
    else st.findSession sessionId n (i + 1)

/-- What a lookup under the service mutex answers. -/
inductive Lookup where
  | found (addr : Nat)
  | notFound
  | unauthorized (auth : SessionAuth)
  deriving DecidableEq, Repr

/-- `ducknng_service_acquire_session`. -/
def acquireSession (sessionId : Nat) (token identity : Option CStr) :
    Lookup × SessionStore χ :=
  if sessionId = 0 then (.notFound, st)
  else match st.findSession sessionId st.sessionCount 0 with
    | none => (.notFound, st)
    | some i =>
      match st.cell i, st.sessionAt i with
      | some addr, some s =>
        if s.ownerAuth token identity ≠ .ok then (.unauthorized (s.ownerAuth token identity), st)
        else if s.closing then (.notFound, st)
        else (.found addr, st.modify addr fun s => { s with refcount := s.refcount + 1 })
      | _, _ => (.notFound, st)

/-- The loop that closes a gap: `cells[i] = cells[i + 1]` while `i + 1 < count`. -/
def shiftCells (count : Nat) : Nat → Nat → List (Option Nat) → List (Option Nat)
  | 0, _, cells => cells
  | n + 1, i, cells =>
    if i + 1 < count then shiftCells count n (i + 1) (cells.set i (cells.getD (i + 1) none))
    else cells

/-- The array without the session of cell `i`. -/
def SessionStore.dropCell (i : Nat) : SessionStore χ :=
  { st with
    cells := (shiftCells st.sessionCount st.sessionCount i st.cells).set (st.sessionCount - 1) none
    sessionCount := st.sessionCount - 1
    sessionCountVisible := st.sessionCount - 1 }

/-- `ducknng_session_mark_closing`. -/
def Session.markClosing (s : Session χ) : Session χ := { s with closing := true }

/-- `ducknng_service_detach_session_locked`. -/
def SessionStore.detach (i : Nat) : Option Nat × SessionStore χ :=
  if i ≥ st.sessionCount then (none, st)
  else match st.cell i with
    | none => (none, st.dropCell i)
    | some addr => (some addr, (st.dropCell i).modify addr Session.markClosing)

/-- `ducknng_service_remove_session`. -/
def removeSession (sessionId : Nat) (token identity : Option CStr) :
    Lookup × SessionStore χ :=
  if sessionId = 0 then (.notFound, st)
  else match st.findSession sessionId st.sessionCount 0 with
    | none => (.notFound, st)
    | some i =>
      match st.sessionAt i with
      | none => (.notFound, st)
      | some s =>
        if s.ownerAuth token identity ≠ .ok then (.unauthorized (s.ownerAuth token identity), st)
        else match st.detach i with
          | (some addr, st') => (.found addr, st')
          | (none, st') => (.notFound, st')

/-- Whether a prune removes a session. -/
def Session.idle (s : Session χ) (idleMs nowMs : Nat) : Bool :=
  !s.closing && s.refcount = 0 && !s.work.cancelled && !s.work.eos &&
    decide (nowMs ≥ s.work.lastTouchMs) && decide (nowMs - s.work.lastTouchMs > idleMs)

/-- The scan of a prune: the first cell from `i` on whose session is idle. -/
def SessionStore.findIdle (st : SessionStore χ) (nowMs : Nat) : Nat → Nat → Option Nat
  | 0, _ => none
  | n + 1, i =>
    if ((st.sessionAt i).map fun s => s.idle st.sessionIdleMs nowMs) = some true then some i
    else st.findIdle nowMs n (i + 1)

/-- One round of `ducknng_service_prune_idle_sessions` from cell `i` on: the session it
    detaches, if any, and the cell where the next round goes on. -/
def pruneIdle (nowMs i : Nat) : Option (Nat × Nat) × SessionStore χ :=
  if st.sessionIdleMs = 0 then (none, st)
  else match st.findIdle nowMs (st.sessionCount - i) i with
    | none => (none, st)
    | some j =>
      match st.detach j with
      | (some addr, st') => (some (addr, j), st')
      | (none, st') => (none, st')

/-- `ducknng_service_detach_all_sessions`. -/
def detachAll : List Nat × SessionStore χ :=
  (st.stored,
    st.stored.foldl (fun st addr => st.modify addr Session.markClosing)
      { st with cells := [], sessionCount := 0, sessionCountVisible := 0 })

end

/-! ### The array as a list of addresses -/

section
variable {χ : Type} {st st' : SessionStore χ} {xs : List Nat}

/-- The array holds exactly these addresses, from the left. -/
def SessionStore.Stores (st : SessionStore χ) (xs : List Nat) : Prop :=
  st.sessionCount = xs.length ∧ ∃ k, st.cells = xs.map some ++ replicate k none

theorem SessionStore.Stores.stored (h : st.Stores xs) : st.stored = xs := by
  obtain ⟨hcount, k, hcells⟩ := h
  simp [SessionStore.stored, hcount, hcells]

variable {i n j : Nat}

theorem getD_cells {ys : List (Option Nat)} (hi : i < xs.length) :
    (xs.map some ++ ys).getD i none = some xs[i] := by
  rw [getD_eq_getElem?_getD, getElem?_append_left (by simpa using hi)]
  simp [hi]

theorem SessionStore.Stores.cell (h : st.Stores xs) (hi : i < xs.length) :
    st.cell i = some xs[i] := by
  obtain ⟨_, k, hcells⟩ := h
  rw [SessionStore.cell, hcells, getD_cells hi]

theorem SessionStore.Stores.sessionAt (h : st.Stores xs) (hi : i < xs.length) :
    st.sessionAt i = st.heap[xs[i]]? := by
  rw [SessionStore.sessionAt, h.cell hi, Option.bind_some]

/-- Closing the gap at `i` drops the address there. -/
theorem shiftCells_spec {ys : List (Option Nat)} (hi : i < xs.length) (hn : xs.length ≤ i + n) :
    (shiftCells xs.length n i (xs.map some ++ ys)).set (xs.length - 1) none =
      (xs.eraseIdx i).map some ++ none :: ys := by
  induction n generalizing xs i with
  | zero => omega
  | succ n ih =>
    rw [shiftCells]
    split
    · next hlt =>
      -- the next address moves one cell to the left, and the gap one to the right
      have hmove : (xs.map some ++ ys).set i ((xs.map some ++ ys).getD (i + 1) none) =
          (xs.set i xs[i + 1]).map some ++ ys := by
        rw [getD_cells hlt, set_append_left _ _ (by simpa using hi), map_set]
      have hnext := @ih (xs.set i xs[i + 1]) (i + 1) (by simpa using hlt) (by simp; omega)
      rw [length_set] at hnext
      rw [hmove, hnext]
      congr 2
      apply ext_getElem?
      intro j
      simp only [getElem?_eraseIdx]
      split
      · split <;> grind
      · grind
    · next hlast =>
      have hlen : i = xs.length - 1 := by omega
      subst hlen
      rw [eraseIdx_eq_dropLast (by omega)]
      have hne : xs ≠ [] := ne_nil_of_length_pos (by omega)
      conv_lhs => rw [← dropLast_append_getLast hne]
      simp

@[simp] theorem SessionStore.modify_stored (addr : Nat) (f : Session χ → Session χ) :
    (st.modify addr f).stored = st.stored := rfl

section
variable (h : st.Stores xs)
include h

theorem SessionStore.Stores.dropCell (hi : i < xs.length) :
    (st.dropCell i).Stores (xs.eraseIdx i) := by
  obtain ⟨hcount, k, hcells⟩ := h
  refine ⟨?_, k + 1, ?_⟩
  · rw [length_eraseIdx_of_lt hi]
    show st.sessionCount - 1 = _
    rw [hcount]
  · show (shiftCells st.sessionCount st.sessionCount i st.cells).set (st.sessionCount - 1) none = _
    rw [hcount, hcells, shiftCells_spec hi (by omega), replicate_succ]

theorem SessionStore.Stores.detach (hi : i < xs.length) :
    st.detach i = (some xs[i], (st.dropCell i).modify xs[i] Session.markClosing) := by
  rw [SessionStore.detach, if_neg (by rw [h.1]; omega), h.cell hi]

theorem SessionStore.Stores.growCells : st.growCells.Stores xs := by
  obtain ⟨hcount, k, hcells⟩ := h
  unfold SessionStore.growCells
  split
  · refine ⟨hcount, ?_⟩
    show ∃ m, st.cells ++ replicate _ none = _
    rw [hcells, append_assoc, replicate_append_replicate]
    exact ⟨_, rfl⟩
  · exact ⟨hcount, k, hcells⟩

theorem SessionStore.growCells_room :
    st.growCells.sessionCount < st.growCells.cells.length := by
  obtain ⟨hcount, k, hcells⟩ := h
  unfold SessionStore.growCells
  split
  · next hfull =>
    show st.sessionCount < (st.cells ++ replicate _ none).length
    rw [length_append, length_replicate]
    split <;> omega
  · next hfull =>
    have hlen : st.cells.length = xs.length + k := by simp [hcells]
    omega

theorem SessionStore.Stores.insert (hroom : st.sessionCount < st.cells.length)
    (new : NewSession χ) (world : AddWorld) :
    (st.insert new world).2.Stores (xs ++ [st.heap.length]) := by
  obtain ⟨hcount, k, hcells⟩ := h
  refine ⟨?_, k - 1, ?_⟩
  · show st.sessionCount + 1 = _
    simp [hcount]
  · show st.cells.set st.sessionCount (some st.heap.length) = _
    have hk : k = k - 1 + 1 := by
      have hlen : st.cells.length = xs.length + k := by simp [hcells]
      omega
    rw [hcells, hcount, hk, replicate_succ]
    simp

end

/-- A scan from a cell on is a search through the cells. -/
theorem scan_eq_find? {p : Nat → Prop} [DecidablePred p] {scan : Nat → Nat → Option Nat}
    (hzero : ∀ i, scan 0 i = none)
    (hsucc : ∀ n i, scan (n + 1) i = if p i then some i else scan n (i + 1)) (n i : Nat) :
    scan n i = (range' i n).find? (p ·) := by
  induction n generalizing i with
  | zero => exact hzero i
  | succ n ih =>
    rw [hsucc, range'_succ, find?_cons, ih]
    split <;> simp_all

theorem SessionStore.findSession_eq (st : SessionStore χ) (sessionId n i : Nat) :
    st.findSession sessionId n i =
      (range' i n).find? fun j => ((st.sessionAt j).map fun s => s.sessionId) = some sessionId :=
  scan_eq_find? (fun _ => rfl) (fun _ _ => rfl) n i

theorem SessionStore.findIdle_eq (st : SessionStore χ) (nowMs n i : Nat) :
    st.findIdle nowMs n i = (range' i n).find? fun j =>
      ((st.sessionAt j).map fun s => s.idle st.sessionIdleMs nowMs) = some true :=
  scan_eq_find? (fun _ => rfl) (fun _ _ => rfl) n i

/-- The scan by id stops at a cell of the table with that id. -/
theorem SessionStore.findSession_spec {sessionId : Nat}
    (h : st.findSession sessionId n i = some j) :
    i ≤ j ∧ j < i + n ∧ ∃ s, st.sessionAt j = some s ∧ s.sessionId = sessionId := by
  rw [findSession_eq, find?_range'_eq_some] at h
  obtain ⟨hle, hlt⟩ := mem_range'_1.1 h.2.1
  exact ⟨hle, hlt, Option.map_eq_some_iff.1 (of_decide_eq_true h.1)⟩

/-- The scan of a prune stops at an idle session of the table. -/
theorem SessionStore.findIdle_spec {nowMs : Nat} (h : st.findIdle nowMs n i = some j) :
    i ≤ j ∧ j < i + n ∧ ∃ s, st.sessionAt j = some s ∧ s.idle st.sessionIdleMs nowMs = true := by
  rw [findIdle_eq, find?_range'_eq_some] at h
  obtain ⟨hle, hlt⟩ := mem_range'_1.1 h.2.1
  exact ⟨hle, hlt, Option.map_eq_some_iff.1 (of_decide_eq_true h.1)⟩

end

end Ducknng
