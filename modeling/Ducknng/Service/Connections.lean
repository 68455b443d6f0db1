import Ducknng.Service.Lifetimes

namespace Ducknng

open Option List SessionStore

/-!
# Who holds a pooled connection

A connection of the pool is held by the thread that acquired it, by the session it was handed
to, or by the lane of the service. In every interleaving it has at most one holder, and only
its holder gives it back.

* `ConnectionsOk`, `LanesOk` — the invariants; `ConnectionsOk.act`, `LanesOk.act` — every action
  keeps them.
* `connectionsExclusive` — what follows for every interleaving.
-/

open Ledger (Exclusive)
open Discipline (others perm_others perm_others_set)

section
variable {χ : Type} {st st' : ServiceState χ} {hs : List Held} {h h' : Held} {i : Nat}

/-! ### Lanes -/

/-- The lanes are locked by the threads that think so, and a thread that has the lane of the
    service is right about its connection. -/
structure LanesOk (st : ServiceState χ) (hs : List Held) : Prop where
  service : ∀ (i : Nat) h, hs[i]? = some h → (h.lane ≠ .out ↔ st.serviceLane = some i)
  runtime : ∀ (i : Nat) h, hs[i]? = some h → (h.runtimeLane = true ↔ st.runtimeLane = some i)
  pinned : ∀ (i : Nat) h slot, hs[i]? = some h → h.lane = .pinned slot → st.laneSlot = some slot
  empty : ∀ (i : Nat) h, hs[i]? = some h → h.lane = .empty → st.laneSlot = none
  serviceIn : ∀ i, st.serviceLane = some i → i < hs.length
  runtimeIn : ∀ i, st.runtimeLane = some i → i < hs.length

/-- A thread is right about the lanes. -/
structure KnowsLanes (st : ServiceState χ) (i : Nat) (h : Held) : Prop where
  service : h.lane ≠ .out ↔ st.serviceLane = some i
  runtime : h.runtimeLane = true ↔ st.runtimeLane = some i
  pinned : ∀ slot, h.lane = .pinned slot → st.laneSlot = some slot
  empty : h.lane = .empty → st.laneSlot = none

theorem LanesOk.view (hok : LanesOk st hs) (hi : hs[i]? = some h) : KnowsLanes st i h :=
  ⟨hok.service i h hi, hok.runtime i h hi, fun slot => hok.pinned i h slot hi, hok.empty i h hi⟩

/-- One thread has acted: it is right about the lanes, the others still are, and nobody else has
    got one. -/
theorem LanesOk.set (hok : LanesOk st hs) (hi : hs[i]? = some h) (hview : KnowsLanes st' i h')
    (hothers : ∀ (j : Nat) g, j ≠ i → hs[j]? = some g → KnowsLanes st' j g)
    (hservice : st'.serviceLane ∈ [st.serviceLane, some i, none])
    (hruntime : st'.runtimeLane ∈ [st.runtimeLane, some i, none]) :
    LanesOk st' (hs.set i h') := by
  have hall : ∀ (j : Nat) g, (hs.set i h')[j]? = some g → KnowsLanes st' j g := by
    intro j g hg
    rcases Ledger.getElem?_set_cases hg with ⟨rfl, rfl⟩ | ⟨hne, hg⟩
    · exact hview
    · exact hothers j g hne hg
  have hin : ∀ {lane lane' : Option Nat}, (∀ j, lane = some j → j < hs.length) →
      lane' ∈ [lane, some i, none] → ∀ j, lane' = some j → j < (hs.set i h').length := by
    intro lane lane' hbefore hmem j hj
    rw [length_set]
    subst hj
    simp only [mem_cons, not_mem_nil, or_false, some.injEq, reduceCtorEq] at hmem
    rcases hmem with hsame | rfl
    · exact hbefore j hsame.symm
    · exact (List.getElem?_eq_some_iff.1 hi).1
  exact ⟨fun j g hg => (hall j g hg).service, fun j g hg => (hall j g hg).runtime,
    fun j g slot hg => (hall j g hg).pinned slot, fun j g hg => (hall j g hg).empty,
    hin hok.serviceIn hservice, hin hok.runtimeIn hruntime⟩

/-- An action that has nothing to do with lanes. -/
theorem LanesOk.frame (hok : LanesOk st hs) (hi : hs[i]? = some h)
    (hservice : st'.serviceLane = st.serviceLane) (hruntime : st'.runtimeLane = st.runtimeLane)
    (hslot : st'.laneSlot = st.laneSlot) (hlane : h'.lane = h.lane)
    (hlane' : h'.runtimeLane = h.runtimeLane) : LanesOk st' (hs.set i h') := by
  have hsame : ∀ {j : Nat} {g g' : Held}, hs[j]? = some g → g'.lane = g.lane →
      g'.runtimeLane = g.runtimeLane → KnowsLanes st' j g' := by
    intro j g g' hg hl hl'
    have hview := hok.view hg
    constructor
    · rw [hl, hservice]; exact hview.service
    · rw [hl', hruntime]; exact hview.runtime
    · rw [hl, hslot]; exact hview.pinned
    · rw [hl, hslot]; exact hview.empty
  exact hok.set hi (hsame hi hlane hlane') (fun j g _ hg => hsame hg rfl rfl)
    (by simp [hservice]) (by simp [hruntime])

/-- A lock that one thread has, or nobody, is not another's. -/
theorem not_locked {has : Prop} {lane : Option Nat} {j : Nat} (hview : has ↔ lane = some j)
    (hlane : lane = some i ∨ lane = none) (hne : j ≠ i) : ¬has := by
  intro hhas
  rcases hlane with hlane | hlane
  · exact hne (some.inj ((hview.1 hhas).symm.trans hlane))
  · exact absurd ((hview.1 hhas).symm.trans hlane) nofun

/-- The thread that has the lane of the service, or that gets it, changes it. -/
theorem LanesOk.service_change (hok : LanesOk st hs) (hi : hs[i]? = some h)
    (hbefore : st.serviceLane = some i ∨ st.serviceLane = none)
    (hruntime : st'.runtimeLane = st.runtimeLane) (hlane' : h'.runtimeLane = h.runtimeLane)
    (hafter : st'.serviceLane = if h'.lane = .out then none else some i)
    (hpinned : ∀ slot, h'.lane = .pinned slot → st'.laneSlot = some slot)
    (hempty : h'.lane = .empty → st'.laneSlot = none) : LanesOk st' (hs.set i h') := by
  refine hok.set hi ⟨?_, ?_, hpinned, hempty⟩ ?_ ?_ (by simp [hruntime])
  · rw [hafter]
    by_cases hl : h'.lane = .out <;> simp
  · rw [hlane', hruntime]
    exact (hok.view hi).runtime
  · intro j g hne hg
    have hout : g.lane = .out := not_not.1 (not_locked (hok.view hg).service hbefore hne)
    refine ⟨?_, hruntime ▸ (hok.view hg).runtime, fun slot hp => ?_, fun he => ?_⟩
    · rw [hout, hafter]
      by_cases hl : h'.lane = .out <;> simp [Ne.symm hne]
    · cases hout.symm.trans hp
    · cases hout.symm.trans he
  · rw [hafter]
    by_cases hl : h'.lane = .out <;> simp [hl]

/-- The runtime's lane is taken or left. -/
theorem LanesOk.runtime_change (hok : LanesOk st hs) (hi : hs[i]? = some h)
    (hbefore : st.runtimeLane = some i ∨ st.runtimeLane = none)
    (hservice : st'.serviceLane = st.serviceLane) (hslot : st'.laneSlot = st.laneSlot)
    (hlane : h'.lane = h.lane)
    (hafter : st'.runtimeLane = if h'.runtimeLane then some i else none) :
    LanesOk st' (hs.set i h') := by
  refine hok.set hi ⟨?_, ?_, ?_, ?_⟩ ?_ (by simp [hservice]) ?_
  · rw [hlane, hservice]; exact (hok.view hi).service
  · rw [hafter]
    cases h'.runtimeLane <;> simp
  · rw [hlane, hslot]; exact (hok.view hi).pinned
  · rw [hlane, hslot]; exact (hok.view hi).empty
  · intro j g hne hg
    have hview := hok.view hg
    have hfree := not_locked hview.runtime hbefore hne
    refine ⟨hservice ▸ hview.service, ?_, hslot ▸ hview.pinned, hslot ▸ hview.empty⟩
    rw [hafter]
    cases h'.runtimeLane <;> simp [hfree, Ne.symm hne]
  · rw [hafter]
    cases h'.runtimeLane <;> simp

/-- A new thread has no lane. -/
theorem LanesOk.start (hok : LanesOk st hs) : LanesOk st (hs ++ [Held.nothing]) := by
  have hview : ∀ {j : Nat} {g : Held}, (hs ++ [Held.nothing])[j]? = some g → KnowsLanes st j g := by
    intro j g hg
    rcases Nat.lt_or_ge j hs.length with hlt | hge
    · rw [getElem?_append_left hlt] at hg
      exact hok.view hg
    · obtain ⟨rfl, rfl⟩ : g = Held.nothing ∧ j = hs.length := by
        grind
      exact ⟨⟨fun hn => absurd rfl hn, fun hl => absurd (hok.serviceIn _ hl) (Nat.lt_irrefl _)⟩,
        ⟨nofun, fun hl => absurd (hok.runtimeIn _ hl) (Nat.lt_irrefl _)⟩, nofun, nofun⟩
  have hlen : hs.length < (hs ++ [Held.nothing]).length := by simp
  exact ⟨fun j g hg => (hview hg).service, fun j g hg => (hview hg).runtime,
    fun j g slot hg => (hview hg).pinned slot, fun j g hg => (hview hg).empty,
    fun j hj => (hok.serviceIn j hj).trans hlen, fun j hj => (hok.runtimeIn j hj).trans hlen⟩

variable {α : Type} {a : α} {addr slot : Nat} {op : ServiceOp χ α} {world : ServiceWorld χ}

/-- A section of a session changes nothing but the table. -/
theorem onSession_store {body : Session χ → α × Session χ}
    (hexec : st.onSession addr body = some (a, st')) : ∃ store, st' =
      { st with store := store } := by
  obtain ⟨s, _, _, rfl⟩ := ServiceState.onSession_eq_some hexec
  exact ⟨_, rfl⟩

/-- The connection of a lane that nobody has is taken out of it. -/
theorem LanesOk.lane_taken (hok : LanesOk st hs) (hi : hs[i]? = some h) (hout : h.lane = .out)
    (hfree : st.serviceLane = none) (hservice : st'.serviceLane = st.serviceLane)
    (hruntime : st'.runtimeLane = st.runtimeLane) (hlane : h'.lane = h.lane)
    (hlane' : h'.runtimeLane = h.runtimeLane) : LanesOk st' (hs.set i h') := by
  have hout' : h'.lane = .out := hlane.trans hout
  refine hok.service_change hi (.inr hfree) hruntime hlane' ?_ ?_ ?_
  · rw [hservice, hfree, if_pos hout']
  · intro slot hp
    rw [hout'] at hp
    cases hp
  · intro he
    rw [hout'] at he
    cases he

theorem LanesOk.act (hok : LanesOk st hs) (hi : hs[i]? = some h) (hmay : ownershipMay h op)
    (hexec : serviceExec i st world op = some (a, st')) :
    LanesOk st' (hs.set i (ownershipAfter h op a)) := by
  cases op with
  -- the pool and the sessions are beside the lanes
  | acquireConnection =>
    obtain ⟨⟨_, pool⟩, _, heq⟩ := map_eq_some_iff.1 hexec
    cases heq
    cases a <;> exact hok.frame hi rfl rfl rfl rfl rfl
  | markFree _ | setPoolMax _ | sql _ _ | executionModel | runtimeConnection | now | reply
  | shutDown | detachAll =>
    cases hexec
    exact hok.frame hi rfl rfl rfl rfl rfl
  | addSession _ | acquireSession _ _ _ | removeSession _ _ _ | pruneIdle _ _ =>
    obtain ⟨store, rfl⟩ : ∃ store, st' = { st with store := store } := by
      cases hexec
      exact ⟨_, rfl⟩
    cases a <;> exact hok.frame hi rfl rfl rfl rfl rfl
  | isUpload _ | batchNo _ | resultHandle _ | fetch _ | append _ _ | commit _ | cancel _
  | release _ | beginDestroy _ =>
    obtain ⟨store, rfl⟩ := onSession_store hexec
    exact hok.frame hi rfl rfl rfl rfl rfl
  | teardown addr =>
    obtain ⟨store, rfl⟩ := onSession_store hexec
    cases a <;> exact hok.frame hi rfl rfl rfl rfl rfl
  | awaitUnused addr =>
    obtain ⟨store, rfl⟩ := onSession_store (ite_none_right_eq_some.1 hexec).2
    exact hok.frame hi rfl rfl rfl rfl rfl
  -- a lock is taken while it is free and given back by its holder
  | lockRuntimeLane =>
    obtain ⟨hfree, heq⟩ := ite_none_right_eq_some.1 hexec
    cases heq
    exact hok.runtime_change hi (.inr hfree) rfl rfl rfl rfl
  | unlockRuntimeLane =>
    cases hexec
    exact hok.runtime_change hi (.inl ((hok.runtime i h hi).1 hmay)) rfl rfl rfl rfl
  | lockServiceLane =>
    obtain ⟨hfree, heq⟩ := ite_none_right_eq_some.1 hexec
    cases heq
    exact hok.service_change hi (.inr hfree) rfl rfl rfl nofun nofun
  | unlockServiceLane =>
    cases hexec
    exact hok.service_change hi (.inl ((hok.service i h hi).1 hmay)) rfl rfl rfl nofun nofun
  -- the lane's slot is read under its lock, so the reader knows it
  | laneConnection =>
    have hlock := (hok.service i h hi).1 hmay
    cases hexec
    cases hslot : st.laneSlot with
    | none => exact hok.service_change hi (.inl hlock) rfl rfl hlock nofun fun _ => hslot
    | some slot =>
      refine hok.service_change hi (.inl hlock) rfl rfl hlock (fun slot' hp => ?_) nofun
      cases hp
      exact hslot
  | pinLane slot =>
    have hlock := (hok.service i h hi).1 (by rw [hmay.1]; exact nofun)
    cases hexec
    refine hok.service_change hi (.inl hlock) rfl rfl hlock (fun slot' hp => ?_) nofun
    cases hp
    rfl
  -- both take the slot away, which waits for the lock
  | setExecutionModel model =>
    rw [serviceExec] at hexec
    split at hexec
    · cases hexec
      exact hok.frame hi rfl rfl rfl rfl rfl
    · split at hexec
      · cases hexec
        exact hok.frame hi rfl rfl rfl rfl rfl
      · obtain ⟨hfree, heq⟩ := ite_none_right_eq_some.1 hexec
        cases heq
        cases hslot : st.laneSlot <;> exact hok.lane_taken hi hmay hfree rfl rfl rfl rfl
  | takeLane =>
    obtain ⟨hfree, heq⟩ := ite_none_right_eq_some.1 hexec
    cases heq
    cases hslot : st.laneSlot <;> exact hok.lane_taken hi hmay hfree rfl rfl rfl rfl

/-! ### Connections -/

/-- The connections that sessions have. -/
def SessionStore.slots (store : SessionStore χ) : List Nat :=
  store.heap.filterMap fun s => s.poolIndex

/-- The connections that sessions and the lane of the service have. -/
def ServiceState.slots (st : ServiceState χ) : List Nat := st.store.slots ++ st.laneSlot.toList

/-- The table is in order, a connection has at most one holder, and held connections are busy. -/
structure ConnectionsOk (st : ServiceState χ) (hs : List Held) : Prop where
  table : TableOk st.store
  lanes : LanesOk st hs
  book : Exclusive st.pool.busy (hs.flatMap Held.slots ++ st.slots)

/-- All connections that are held, the thread's own in front. -/
theorem holders_perm (hi : hs[i]? = some h) (shared : List Nat) :
    (hs.flatMap Held.slots ++ shared).Perm (h.slots ++ shared ++ others Held.slots hs i) := by
  refine ((perm_others hi).append_right shared).trans ?_
  rw [append_assoc, append_assoc]
  exact (perm_append_comm).append_left _

theorem holders_perm_set (hi : hs[i]? = some h) (shared : List Nat) :
    ((hs.set i h').flatMap Held.slots ++ shared).Perm
      (h'.slots ++ shared ++ others Held.slots hs i) := by
  refine ((perm_others_set hi h').append_right shared).trans ?_
  rw [append_assoc, append_assoc]
  exact (perm_append_comm).append_left _

/-- Connections move between the thread and what is shared. -/
theorem ConnectionsOk.move (hok : ConnectionsOk st hs) (hi : hs[i]? = some h)
    (htable : TableOk st'.store) (hlanes : LanesOk st' (hs.set i h')) (hpool : st'.pool = st.pool)
    (hmove : (h'.slots ++ st'.slots).Perm (h.slots ++ st.slots)) :
    ConnectionsOk st' (hs.set i h') := by
  refine ⟨htable, hlanes, ?_⟩
  rw [hpool]
  refine hok.book.perm ((holders_perm_set hi _).trans ?_)
  exact (hmove.append_right _).trans (holders_perm hi _).symm

/-- Nothing happens to the connections. -/
theorem ConnectionsOk.frame (hok : ConnectionsOk st hs) (hi : hs[i]? = some h)
    (htable : TableOk st'.store) (hlanes : LanesOk st' (hs.set i h')) (hpool : st'.pool = st.pool)
    (hstore : st'.store.slots = st.store.slots) (hlane : st'.laneSlot = st.laneSlot)
    (hslots : h'.slots = h.slots) : ConnectionsOk st' (hs.set i h') := by
  refine hok.move hi htable hlanes hpool ?_
  rw [ServiceState.slots, ServiceState.slots, hstore, hlane, hslots]

namespace SessionStore

/-- Changes inside a session that keep its connection. -/
theorem slots_modify {f : Session χ → Session χ} (store : SessionStore χ)
    (addr : Nat) (hf : ∀ s, (f s).poolIndex = s.poolIndex) :
    (store.modify addr f).slots = store.slots := by
  have hmap : (store.modify addr f).heap.map (fun s => s.poolIndex) =
      store.heap.map fun s => s.poolIndex := map_modify_same hf addr
  have hslots : ∀ heap : List (Session χ), (heap.filterMap fun s => s.poolIndex) =
      (heap.map fun s => s.poolIndex).filterMap id := fun heap => by
    rw [filterMap_map]
    rfl
  rw [SessionStore.slots, hslots, hmap, ← hslots, SessionStore.slots]

theorem Detached.slots {store store' : SessionStore χ} (h : store.Detached addr store') :
    store'.slots = store.slots := by
  obtain ⟨j, _, _, rfl⟩ := h
  exact slots_modify (f := Session.markClosing) (store.dropCell j) addr fun _ => rfl

/-- A connection is taken out of a session. -/
theorem slots_take {f : Session χ → Session χ} {store : SessionStore χ} {s : Session χ}
    (hs : store.heap[addr]? = some s) (hf : ∀ s, (f s).poolIndex = none) :
    (s.poolIndex.toList ++ (store.modify addr f).slots).Perm store.slots := by
  have hgen : ∀ (heap : List (Session χ)) (addr : Nat), heap[addr]? = some s →
      (s.poolIndex.toList ++ (heap.modify addr f).filterMap fun s => s.poolIndex).Perm
        (heap.filterMap fun s => s.poolIndex) := by
    intro heap
    induction heap with
    | nil => exact nofun
    | cons x heap ih =>
      intro addr hget
      cases addr with
      | zero =>
        cases hget
        show (s.poolIndex.toList ++ ((f s) :: heap).filterMap _).Perm _
        rw [filterMap_cons_none (hf s)]
        cases hpool : s.poolIndex with
        | none => rw [filterMap_cons_none hpool]; exact Perm.refl _
        | some slot => rw [filterMap_cons_some hpool]; exact Perm.refl _
      | succ addr =>
        have hrest := ih addr hget
        show (s.poolIndex.toList ++ (x :: heap.modify addr f).filterMap _).Perm _
        cases hpool : x.poolIndex with
        | none =>
          rw [filterMap_cons_none hpool, filterMap_cons_none hpool]
          exact hrest
        | some slot =>
          rw [filterMap_cons_some hpool, filterMap_cons_some hpool]
          exact perm_middle.trans (hrest.cons slot)
  exact hgen store.heap addr hs

end SessionStore

/-- Only a registration and a teardown move the connections of sessions. -/
theorem StoreEffect.slots {store store' : SessionStore χ} (h : StoreEffect store world op a store')
    (hadds : op.adds a = none) (hleaves : ∀ s, (op.leaves world s).poolIndex = s.poolIndex) :
    store'.slots = store.slots := by
  cases h with
  | aside => rfl
  | shutDown => rfl
  | @added _ answer _ h =>
    cases answer with
    | error e => rw [SessionStore.slots, h.heap, SessionStore.slots]
    | ok added => cases hadds
  | acquired => exact slots_modify _ _ fun _ => rfl
  | removed _ hd => exact hd.slots
  | pruned hd => exact hd.slots
  | detachedAll =>
    exact detachAll_rule (P := fun store' => store'.slots = store.slots) rfl fun store' addr h =>
      (slots_modify (f := Session.markClosing) store' addr fun _ => rfl).trans h
  | inside => exact slots_modify _ _ hleaves

/-! ### Every action -/

/-- What the pool answers: a free connection, a new one, or nothing. -/
theorem ExecutionPool.acquire_spec {pool pool' : ExecutionPool} {connect timedOut : Bool}
    {a : Except String Nat} (h : pool.acquire connect timedOut = some (a, pool')) :
    (∃ slot, a = .ok slot ∧ pool.busy[slot]? = some false ∧
      pool'.busy = pool.busy.set slot true) ∨
    (a = .ok pool.busy.length ∧ pool'.busy = pool.busy ++ [true]) ∨
    ∃ message, a = .error message ∧ pool' = pool := by
  unfold ExecutionPool.acquire at h
  split at h
  · next slot hfind =>
    cases h
    obtain ⟨hlt, hfree, _⟩ := findIdx?_eq_some_iff_getElem.1 hfind
    refine .inl ⟨slot, rfl, ?_, rfl⟩
    rw [getElem?_eq_getElem hlt]
    exact congrArg some (by simpa using hfree)
  · split at h
    · cases h
      exact .inr (.inl ⟨rfl, rfl⟩)
    · split at h
      · cases h
        exact .inr (.inr ⟨_, rfl, rfl⟩)
      · cases h

/-- A refusal leaves the pool as it was. -/
theorem ExecutionPool.acquire_error {pool pool' : ExecutionPool} {connect timedOut : Bool}
    {e : String} (h : pool.acquire connect timedOut = some (.error e, pool')) : pool' = pool := by
  rcases acquire_spec h with ⟨_, hok, _⟩ | ⟨hok, _⟩ | ⟨_, _, hsame⟩
  · cases hok
  · cases hok
  · exact hsame

namespace ConnectionsOk

section
variable (hok : ConnectionsOk st hs)
include hok

section
variable (hi : hs[i]? = some h)
include hi

/-- The thread gets a connection that nobody held. -/
theorem acquired (hlanes : LanesOk st' (hs.set i h')) (hstore : st'.store = st.store)
    (hlane : st'.laneSlot = st.laneSlot) (hslots : h'.slots = slot :: h.slots)
    (hbook : Exclusive st'.pool.busy (slot :: (hs.flatMap Held.slots ++ st.slots))) :
    ConnectionsOk st' (hs.set i h') := by
  refine ⟨hstore.symm ▸ hok.table, hlanes, hbook.perm ?_⟩
  have hshared : st'.slots = st.slots := by rw [ServiceState.slots, hstore, hlane,
    ServiceState.slots]
  rw [hshared]
  refine (holders_perm_set hi _).trans ?_
  rw [hslots]
  exact (holders_perm hi _).symm.cons slot

/-- The holder of a connection gives it back. -/
theorem freed
    (hlanes : LanesOk st' (hs.set i h')) (hmem : slot ∈ h.slots) (hstore : st'.store = st.store)
    (hlane : st'.laneSlot = st.laneSlot) (hslots : h'.slots = h.slots.erase slot)
    (hpool : st'.pool = st.pool.markFree slot) : ConnectionsOk st' (hs.set i h') := by
  have hshared : st'.slots = st.slots := by rw [ServiceState.slots, hstore, hlane,
    ServiceState.slots]
  have hbook : Exclusive st.pool.busy
      (slot :: ((hs.set i h').flatMap Held.slots ++ st'.slots)) := by
    refine hok.book.perm ?_
    rw [hshared]
    refine ((holders_perm_set hi _).cons slot).trans ?_
    rw [hslots]
    refine Perm.trans ?_ (holders_perm hi _).symm
    exact ((perm_cons_erase hmem).symm.append_right _).append_right _
  have hlt : slot < st.pool.busy.length :=
    (List.getElem?_eq_some_iff.1 (hbook.busy slot List.mem_cons_self)).1
  refine ⟨hstore.symm ▸ hok.table, hlanes, ?_⟩
  rw [hpool, ExecutionPool.markFree, if_pos hlt]
  exact hbook.free

/-- A registered session takes the connection of its opener over. -/
theorem added {new : NewSession χ}
    {a : Except (Int × String) AddedSession} (hmay : ownershipMay h (.addSession new))
    (hexec : serviceExec i st world (.addSession new) = some (a, st')) :
    ConnectionsOk st' (hs.set i (ownershipAfter h (.addSession new) a)) := by
  have hlanes := hok.lanes.act hi hmay hexec
  obtain ⟨htable, hout⟩ := hok.table.addSession new world.add
  have hanswer : some ((addSession st.store new world.add).1,
      { st with store := (addSession st.store new world.add).2 }) = some (a, st') := hexec
  obtain ⟨rfl, rfl⟩ := Prod.mk.inj (some.inj hanswer)
  cases hadd : addSession st.store new world.add with
  | mk answer store =>
    rw [hadd] at htable hout hlanes
    cases answer with
    | error refusal =>
      refine hok.frame hi htable hlanes rfl ?_ rfl rfl
      rw [slots, hout.heap, slots]
    | ok added =>
      have hslots : store.slots = st.store.slots ++ new.poolIndex.toList := by
        rw [slots, hout.1, filterMap_append]
        cases hpool : new.poolIndex with
        | none => rw [filterMap_cons_none (by exact hpool)]; rfl
        | some slot => rw [filterMap_cons_some (by exact hpool)]; rfl
      refine hok.move hi htable hlanes rfl ?_
      show (new.poolIndex.elim h.slots (fun slot => h.slots.erase slot) ++
        (store.slots ++ st.laneSlot.toList)).Perm (h.slots ++ (st.store.slots ++ _))
      rw [hslots]
      cases hpool : new.poolIndex with
      | none => simp
      | some slot =>
        -- the connection moves from the opener behind those of the other sessions
        have hmem : slot ∈ h.slots := hmay slot hpool
        refine Perm.trans ?_ ((perm_cons_erase hmem).symm.append_right _)
        rw [append_assoc, toList_some]
        exact (perm_middle.append_left _).trans perm_middle

/-- The connection of a destroyed session goes to the thread that destroys it. -/
theorem torn {a : Option Nat} (hmay : ownershipMay h (.teardown addr : ServiceOp χ (Option Nat)))
    (hexec : serviceExec i st world (.teardown addr) = some (a, st')) :
    ConnectionsOk st' (hs.set i (ownershipAfter h (.teardown addr : ServiceOp χ _) a)) := by
  have hlanes := hok.lanes.act hi hmay hexec
  have htable := (serviceExec_extends hok.table hexec).1
  obtain ⟨s, hsession, rfl, rfl⟩ := ServiceState.onSession_eq_some hexec
  have htake := slots_take
    (f := fun s => { s with poolIndex := none, work := s.work.teardown }) hsession fun _ => rfl
  refine hok.move hi htable hlanes rfl ?_
  have hslots : (ownershipAfter h (.teardown addr : ServiceOp χ _) s.poolIndex).slots =
      s.poolIndex.toList ++ h.slots := by
    cases s.poolIndex <;> rfl
  rw [hslots]
  show (s.poolIndex.toList ++ h.slots ++ (slots _ ++ st.laneSlot.toList)).Perm
    (h.slots ++ (st.store.slots ++ st.laneSlot.toList))
  refine Perm.trans ?_ ((htake.append_right _).append_left h.slots)
  rw [append_assoc, append_assoc]
  exact perm_append_comm_assoc _ _ _

/-- The connection of the lane goes to the thread that takes it. -/
theorem lane_taken (hlanes : LanesOk st' (hs.set i h')) (hstore : st'.store = st.store)
    (hpool : st'.pool = st.pool) (hlane : st'.laneSlot = none)
    (hslots : h'.slots = st.laneSlot.toList ++ h.slots) : ConnectionsOk st' (hs.set i h') := by
  refine hok.move hi (hstore.symm ▸ hok.table) hlanes hpool ?_
  rw [ServiceState.slots, hslots, hstore, hlane, toList_none, append_nil, append_assoc]
  exact perm_append_comm.trans (append_assoc .. ▸ Perm.refl _)

/-- A thread that found the lane empty pins its connection there. -/
theorem pinned
    (hlanes : LanesOk st' (hs.set i h')) (hmem : slot ∈ h.slots) (hempty : h.lane = .empty)
    (hstore : st'.store = st.store) (hpool : st'.pool = st.pool) (hlane : st'.laneSlot = some slot)
    (hslots : h'.slots = h.slots.erase slot) :
    ConnectionsOk st' (hs.set i h') := by
  have hnone : st.laneSlot = none := hok.lanes.empty i h hi hempty
  refine hok.move hi (hstore.symm ▸ hok.table) hlanes hpool ?_
  rw [ServiceState.slots, ServiceState.slots, hslots, hstore, hlane, hnone, toList_none, append_nil]
  refine Perm.trans ?_ ((perm_cons_erase hmem).symm.append_right _)
  exact (perm_append_comm.append_left _).trans perm_middle

/-- An action on the table that moves no connection. -/
theorem table_only (hmay : ownershipMay h op) (hexec : serviceExec i st world op = some (a, st'))
    (hst : ∃ store, st' = { st with store := store }) (hadds : op.adds a = none)
    (hleaves : ∀ s, (op.leaves world s).poolIndex = s.poolIndex)
    (hslots : (ownershipAfter h op a).slots = h.slots) :
    ConnectionsOk st' (hs.set i (ownershipAfter h op a)) := by
  have hlanes := hok.lanes.act hi hmay hexec
  have htable := (serviceExec_extends hok.table hexec).1
  have hstore := (serviceExec_effect hok.table hexec).slots hadds hleaves
  obtain ⟨store, rfl⟩ := hst
  exact hok.frame hi htable hlanes rfl hstore rfl hslots

theorem act (hmay : ownershipMay h op) (hexec : serviceExec i st world op = some (a, st')) :
    ConnectionsOk st' (hs.set i (ownershipAfter h op a)) := by
  have hlanes := hok.lanes.act hi hmay hexec
  have htable := (serviceExec_extends hok.table hexec).1
  cases op with
  | acquireConnection =>
    obtain ⟨⟨_, pool⟩, hpool, heq⟩ := map_eq_some_iff.1 hexec
    cases heq
    -- a free slot, a new one, or a refusal
    rcases ExecutionPool.acquire_spec hpool with ⟨slot, rfl, hfree, hbusy⟩ | ⟨rfl, hbusy⟩ |
      ⟨message, rfl, rfl⟩
    · refine hok.acquired hi hlanes rfl rfl rfl ?_
      rw [hbusy]
      exact hok.book.take hfree
    · refine hok.acquired hi hlanes rfl rfl rfl ?_
      rw [hbusy]
      exact hok.book.grow
    · exact hok.frame hi htable hlanes rfl rfl rfl rfl
  | markFree slot =>
    cases hexec
    exact hok.freed hi hlanes hmay rfl rfl rfl rfl
  | setPoolMax max =>
    cases hexec
    exact ⟨htable, hlanes, hok.book.perm
      ((holders_perm_set hi _).trans (holders_perm hi _).symm)⟩
  | sql _ _ | executionModel | runtimeConnection | now | reply | unlockRuntimeLane
  | unlockServiceLane =>
    cases hexec
    exact hok.frame hi htable hlanes rfl rfl rfl rfl
  | lockRuntimeLane | lockServiceLane =>
    obtain ⟨_, heq⟩ := ite_none_right_eq_some.1 hexec
    cases heq
    exact hok.frame hi htable hlanes rfl rfl rfl rfl
  -- the slot goes from the thread to the lane
  | pinLane slot =>
    cases hexec
    exact hok.pinned hi hlanes hmay.2 hmay.1 rfl rfl rfl rfl
  | setExecutionModel model =>
    rw [serviceExec] at hexec
    split at hexec
    · cases hexec
      exact hok.frame hi htable hlanes rfl rfl rfl rfl
    · split at hexec
      · cases hexec
        exact hok.frame hi htable hlanes rfl rfl rfl rfl
      · obtain ⟨_, heq⟩ := ite_none_right_eq_some.1 hexec
        cases heq
        refine hok.lane_taken hi hlanes rfl rfl rfl ?_
        cases st.laneSlot <;> rfl
  -- and from the lane to the thread
  | takeLane =>
    obtain ⟨_, heq⟩ := ite_none_right_eq_some.1 hexec
    cases heq
    refine hok.lane_taken hi hlanes rfl rfl rfl ?_
    cases st.laneSlot <;> rfl
  | addSession new => exact hok.added hi hmay hexec
  -- sessions keep their slots in these sections
  | laneConnection | acquireSession _ _ _ | removeSession _ _ _ | pruneIdle _ _ =>
    refine hok.table_only hi hmay hexec ?_ rfl (fun _ => rfl) ?_
    · cases hexec
      exact ⟨_, rfl⟩
    · cases a <;> rfl
  | shutDown | detachAll =>
    refine hok.table_only hi hmay hexec ?_ rfl (fun _ => rfl) rfl
    cases hexec
    exact ⟨_, rfl⟩
  | isUpload _ | batchNo _ | resultHandle _ | fetch _ | append _ _ | commit _ | cancel _
  | release _ | beginDestroy _ =>
    exact hok.table_only hi hmay hexec (onSession_store hexec) rfl (fun _ => rfl) rfl
  | awaitUnused addr =>
    have hsection := (ite_none_right_eq_some.1 hexec).2
    exact hok.table_only hi hmay hexec (onSession_store hsection) rfl (fun _ => rfl) rfl
  | teardown addr => exact hok.torn hi hmay hexec

end

end

end ConnectionsOk

/-! ### Connections in the history of a thread -/

/-- Whether an action was answered with a connection: from the pool, out of a session that is
    destroyed, or out of the lane. -/
def getsSlot (slot : Nat) : {α : Type} → ServiceOp χ α → α → Bool
  | _, .acquireConnection, .ok got => got = slot
  | _, .teardown _, some got => got = slot
  | _, .takeLane, some got => got = slot
  | _, .setExecutionModel _, .ok (some got) => got = slot
  | _, _, _ => false

/-- Whether an action marks the connection free. -/
def freesSlot (slot : Nat) : {α : Type} → ServiceOp χ α → Bool
  | _, .markFree freed => freed = slot
  | _, _ => false

/-- Whether an action hands the connection to a session that is registered, or to the lane. -/
def handsSlot (slot : Nat) : {α : Type} → ServiceOp χ α → α → Bool
  | _, .addSession new, .ok _ => new.poolIndex = some slot
  | _, .pinLane pinned, _ => pinned = slot
  | _, _, _ => false

/-- How often a thread has got a connection. -/
def slotsGot (t : Thread (ServiceCall χ) (ServiceOp χ) (HandlerReply χ)) (slot : Nat) : Nat :=
  t.past.countP fun x => getsSlot slot x.op x.answer

/-- How often it has marked it free. -/
def slotsFreed (t : Thread (ServiceCall χ) (ServiceOp χ) (HandlerReply χ)) (slot : Nat) : Nat :=
  t.past.countP fun x => freesSlot slot x.op

/-- How often it has handed it over. -/
def slotsHanded (t : Thread (ServiceCall χ) (ServiceOp χ) (HandlerReply χ)) (slot : Nat) : Nat :=
  t.past.countP fun x => handsSlot slot x.op x.answer

theorem count_erase_mem {slots : List Nat} {got : Nat} (slot : Nat) (hmem : got ∈ slots) :
    slots.count slot = (if got = slot then 1 else 0) + (slots.erase got).count slot := by
  rw [(perm_cons_erase hmem).count_eq, count_cons, Nat.add_comm]
  simp only [beq_iff_eq]

theorem slots_count_after (op : ServiceOp χ α) (a : α) (slot : Nat) (hmay : ownershipMay h op) :
    h.slots.count slot + (if getsSlot slot op a then 1 else 0) =
      (if freesSlot slot op then 1 else 0) + (if handsSlot slot op a then 1 else 0) +
        (ownershipAfter h op a).slots.count slot := by
  have hgot : ∀ got, h.slots.count slot + (if decide (got = slot) then 1 else 0) =
      0 + 0 + (got :: h.slots).count slot := by
    intro got
    rw [count_cons]
    simp
  have hsame : h.slots.count slot + 0 = 0 + 0 + h.slots.count slot := by omega
  cases op with
  | acquireConnection =>
    cases a with
    | error message => exact hsame
    | ok got => exact hgot got
  | teardown addr =>
    cases a with
    | none => exact hsame
    | some got => exact hgot got
  | takeLane =>
    cases a with
    | none => exact hsame
    | some got => exact hgot got
  | setExecutionModel model =>
    match a with
    | .error message => exact hsame
    | .ok none => exact hsame
    | .ok (some got) => exact hgot got
  | markFree freed =>
    have hcount := count_erase_mem slot hmay
    show _ + 0 = (if decide (freed = slot) = true then 1 else 0) + 0 +
      (h.slots.erase freed).count slot
    simp only [decide_eq_true_eq]
    omega
  | pinLane pinned =>
    have hcount := count_erase_mem slot hmay.2
    show _ + 0 = 0 + (if decide (pinned = slot) = true then 1 else 0) +
      (h.slots.erase pinned).count slot
    simp only [decide_eq_true_eq]
    omega
  | addSession new =>
    cases a with
    | error refusal => exact hsame
    | ok added =>
      show _ + 0 = 0 + (if decide (new.poolIndex = some slot) = true then 1 else 0) +
        (new.poolIndex.elim h.slots fun slot => h.slots.erase slot).count slot
      cases hpool : new.poolIndex with
      | none => simp
      | some handed =>
        have hcount := count_erase_mem slot (hmay handed hpool)
        simp only [decide_eq_true_eq, some.injEq, elim_some]
        omega
  | laneConnection | acquireSession _ _ _ | removeSession _ _ _ | pruneIdle _ _ =>
    cases a <;> exact hsame
  | _ => exact hsame

/-- The connections a thread owns are those it has got and neither freed nor handed over. -/
theorem ServiceConfig.Reaches.slots_history {config : ServiceConfig} {s : ServiceSystem χ}
    (hs : config.Reaches s) : ∀ t ∈ s.threads, ∀ slot,
      slotsGot t slot =
        slotsFreed t slot + slotsHanded t slot + (heldBy t).slots.count slot := by
  refine Discipline.history _ _ _ (fun _ past h => ∀ slot,
    past.countP (fun x => getsSlot slot x.op x.answer) =
      past.countP (fun x => freesSlot slot x.op) +
        past.countP (fun x => handsSlot slot x.op x.answer) + h.slots.count slot)
    config.entry_keeps (fun _ _ => rfl) ?_ hs
  intro α call past h op a hcount hmay slot
  have hstep := slots_count_after op a slot hmay.owns
  have hpast := hcount slot
  rw [countP_append, countP_append, countP_append, countP_singleton,
    countP_singleton, countP_singleton]
  show _ + (if getsSlot slot op a then 1 else 0) = _ + (if freesSlot slot op then 1 else 0) +
    (_ + (if handsSlot slot op a then 1 else 0)) + (ownershipAfter h op a).slots.count slot
  omega

/-! ### The theorem -/

theorem ServiceConfig.Reaches.connections {config : ServiceConfig} {s : ServiceSystem χ}
    (hs : config.Reaches s) :
    ConnectionsOk s.shared (s.threads.map heldBy) ∧
      ∀ t ∈ s.threads, (conduct NewSession.Fresh).wp t.rest (fun h _ => h = Held.nothing)
        (heldBy t) := by
  refine Discipline.invariant _ _ _ ConnectionsOk config.entry_keeps ?_ ?_ ?_ hs
  · intro st held call hok
    refine ⟨hok.table, hok.lanes.start, ?_⟩
    exact hok.book.perm (by simp [Held.nothing])
  · intro α st held i h op world a st' hok hi hmay hexec
    exact hok.act hi hmay.owns hexec
  · refine ⟨config.tableOk_start, ?_, nodup_nil, fun slot hbusy => ?_, fun _ h => (by cases h)⟩
    swap
    · simp [ServiceConfig.start, ServiceState.init, getElem?_replicate] at hbusy
    constructor
    all_goals
      intros
      contradiction

/-- The holders of pooled connections: threads, sessions, and the lane of the service. -/
def slotHolders (s : ServiceSystem χ) : List Nat :=
  s.threads.flatMap (fun t => (heldBy t).slots) ++ s.shared.slots

/-- **Every pooled connection has at most one holder.** In every interleaving: no connection is
    held twice, by threads, sessions or the lane, and a held one is not free; SQL runs on a
    pooled connection only in the thread that holds it, or that has locked the lane which holds
    it; a connection is marked free only by the thread that holds it; what a thread holds is
    what it has got and neither freed nor handed to a registered session or the lane; and a
    call that is done holds nothing, so that it has freed or handed over what it got exactly
    as often as it got it. -/
theorem connectionsExclusive (config : ServiceConfig) (s : ServiceSystem χ)
    (hs : config.Reaches s) :
    (slotHolders s).Nodup ∧
    (∀ slot ∈ slotHolders s, s.shared.pool.busy[slot]? = some true) ∧
    (∀ (i : Nat) t slot call k, s.threads[i]? = some t →
      t.rest = .act (.sql (.pooled slot) call) k →
      slot ∈ (heldBy t).slots ∨
        s.shared.serviceLane = some i ∧ s.shared.laneSlot = some slot) ∧
    (∀ t ∈ s.threads, ∀ slot k, t.rest = .act (.markFree slot) k → slot ∈ (heldBy t).slots) ∧
    (∀ t ∈ s.threads, ∀ slot, slotsGot t slot =
      slotsFreed t slot + slotsHanded t slot + (heldBy t).slots.count slot) ∧
    ∀ t ∈ s.threads, ∀ reply, t.rest = .ret reply →
      (heldBy t).slots = [] ∧
        ∀ slot, slotsGot t slot = slotsFreed t slot + slotsHanded t slot := by
  obtain ⟨hok, hwp⟩ := hs.connections
  have hholders : slotHolders s = (s.threads.map heldBy).flatMap Held.slots ++ s.shared.slots := by
    rw [slotHolders, flatMap_map]
  refine ⟨hholders ▸ hok.book.nodup, hholders ▸ hok.book.busy, ?_, ?_, hs.slots_history, ?_⟩
  · intro i t slot call k ht hrest
    have hmay := hwp t (mem_of_getElem? ht)
    rw [hrest] at hmay
    have hi : (s.threads.map heldBy)[i]? = some (heldBy t) := by rw [List.getElem?_map, ht]; rfl
    -- a connection of its own, or that of the lane it has locked
    rcases hmay.1 with hmem | hlane
    · exact .inl hmem
    · refine .inr ⟨?_, hok.lanes.pinned i _ slot hi hlane⟩
      exact (hok.lanes.service i _ hi).1 (by rw [hlane]; exact nofun)
  · intro t ht slot k hrest
    have hmay := hwp t ht
    rw [hrest] at hmay
    exact hmay.1
  · intro t ht reply hrest
    have hend : heldBy t = Held.nothing := by
      have hdone := hwp t ht
      rw [hrest] at hdone
      exact hdone
    have hnil : (heldBy t).slots = [] := by rw [hend]; rfl
    refine ⟨hnil, fun slot => ?_⟩
    rw [hs.slots_history t ht slot, hnil, count_nil, Nat.add_zero]

/-- A query session is opened on the only connection, and the service is stopped and
    destroyed. -/
def openThenDestroy : List (Event (ServiceCall Unit) (ServiceWorld Unit)) :=
  .start ⟨.queryOpen (.ok ⟨none, 0, 0, none, [()]⟩), none, 0⟩ :: .start ⟨.destroy, none, 0⟩ ::
    (replicate 9 (.act 0 (calmWorld [])) ++ replicate 9 (.act 1 (calmWorld [])))

theorem connectionsExclusive_openThenDestroy :
    ∃ s : ServiceSystem Unit, smallConfig.Reaches s ∧ s.shared.pool.busy = [false] ∧
      (s.threads.map fun t => slotsGot t 0) = [1, 1] ∧
      (s.threads.map fun t => slotsHanded t 0) = [1, 0] ∧ (slotHolders s).Nodup := by
  refine ⟨_, ⟨openThenDestroy, rfl⟩, rfl, rfl, rfl, ?_⟩
  exact (connectionsExclusive smallConfig _ ⟨openThenDestroy, rfl⟩).1

end

end Ducknng
