import Ducknng.Lib.Ledger
import Ducknng.Service.Ownership
import Ducknng.Service.SessionEffects

namespace Ducknng

open Option SessionStore

/-!
# The lifetime of a session

In every interleaving of calls on a service, the reference count of a session is the number of
references that threads hold, and a detached session belongs to the one thread that detached
it. So its teardown waits for the last reference, and happens once.

* `LifetimesOk` — the invariant; `LifetimesOk.act` — every action of a thread that owns what
  it needs keeps it.
* `sessionLifetimes` — what follows for every interleaving.
-/

open Ledger (Lifetimes)
open Discipline (others perm_others perm_others_set)

section
variable {χ : Type} {st st' : ServiceState χ} {hs : List Held} {h h' : Held} {i : Nat}

/-- Reference count and number of teardowns of every session there has been. -/
def SessionStore.marks (store : SessionStore χ) : List (Nat × Nat) :=
  store.heap.map fun s => (s.refcount, s.torn)

/-- The table is in order, and so is the book of references and owners. -/
structure LifetimesOk (st : ServiceState χ) (hs : List Held) : Prop where
  table : TableOk st.store
  book : Lifetimes st.store.marks st.store.stored (hs.flatMap Held.refs) (hs.flatMap Held.owned)

/-! ### Frames -/

/-- What the threads hold after one of them has changed its references and its sessions. -/
theorem flatMap_set_same {f : Held → List Nat} (hi : hs[i]? = some h) (hf : f h' = f h) :
    ((hs.set i h').flatMap f).Perm (hs.flatMap f) :=
  (perm_others_set hi h').trans (hf ▸ (perm_others hi).symm)

variable {f : Session χ → Session χ} {addr : Nat} {α : Type} {a : α} {op : ServiceOp χ α}
  {world : ServiceWorld χ}

theorem SessionStore.marks_modify_same (store : SessionStore χ) (addr : Nat)
    (hf : ∀ s, ((f s).refcount, (f s).torn) = (s.refcount, s.torn)) :
    (store.modify addr f).marks = store.marks :=
  map_modify_same hf addr

section
variable (hok : LifetimesOk st hs) (hi : hs[i]? = some h)
include hok hi

/-- Nothing changes in the book. -/
theorem LifetimesOk.frame (htable : TableOk st'.store) (hmarks : st'.store.marks = st.store.marks)
    (hstored : st'.store.stored = st.store.stored) (hrefs : h'.refs = h.refs)
    (howned : h'.owned = h.owned) : LifetimesOk st' (hs.set i h') := by
  refine ⟨htable, ?_⟩
  rw [hmarks, hstored]
  exact hok.book.move (flatMap_set_same hi hrefs)
    ((flatMap_set_same hi howned).append_left _)

/-- A section of a session that neither counts references nor tears it down. -/
theorem LifetimesOk.inside (hstore : st'.store = st.store.modify addr f) (hkey : KeepsKey f)
    (hmark : ∀ s, ((f s).refcount, (f s).torn) = (s.refcount, s.torn)) (hrefs : h'.refs = h.refs)
    (howned : h'.owned = h.owned) : LifetimesOk st' (hs.set i h') := by
  refine hok.frame hi (hstore ▸ hok.table.modify hkey addr) ?_ (hstore ▸ rfl) hrefs howned
  rw [hstore]
  exact marks_modify_same _ addr hmark

/-! ### Actions that change the book -/

/-- A session is detached: it moves from the table to the thread. -/
theorem LifetimesOk.detached {store : SessionStore χ} (hd : st.store.Detached addr store)
    (hstore : st'.store = store) (hrefs : h'.refs = h.refs) (howned : h'.owned = addr :: h.owned) :
    LifetimesOk st' (hs.set i h') := by
  refine ⟨hstore ▸ hok.table.detached hd, ?_⟩
  obtain ⟨j, hj, hcount, rfl⟩ := hd
  have hmarks : st'.store.marks = st.store.marks := by
    rw [hstore]
    exact marks_modify_same _ addr fun _ => rfl
  obtain ⟨hlt, hget⟩ := List.getElem?_eq_some_iff.1 hj
  have hstored : st'.store.stored = st.store.stored.eraseIdx j := by
    rw [hstore]
    exact (hok.table.stores.dropCell hlt).stored
  have hcell : (addr :: st.store.stored.eraseIdx j).Perm st.store.stored := by
    rw [← hget]
    exact List.getElem_cons_eraseIdx_perm hlt
  rw [hmarks, hstored]
  refine hok.book.move (flatMap_set_same hi hrefs) ?_
  -- the address moves over the table to the thread's own
  calc (st.store.stored.eraseIdx j ++ (hs.set i h').flatMap Held.owned).Perm
        (st.store.stored.eraseIdx j ++ (addr :: hs.flatMap Held.owned)) := by
          refine List.Perm.append_left _ ((perm_others_set hi h').trans ?_)
          rw [howned]
          exact ((perm_others hi).symm.cons addr)
    _ |>.Perm (addr :: st.store.stored.eraseIdx j ++ hs.flatMap Held.owned) := List.perm_middle
    _ |>.Perm (st.store.stored ++ hs.flatMap Held.owned) := hcell.append_right _

/-- Several sessions are detached at once. -/
theorem LifetimesOk.detachedAll (hstore : st'.store = (detachAll st.store).2)
    (hrefs : h'.refs = h.refs) (howned : h'.owned = (detachAll st.store).1 ++ h.owned) :
      LifetimesOk st' (hs.set i h') := by
  refine ⟨hstore ▸ hok.table.detachAll, ?_⟩
  have hmarks : (detachAll st.store).2.marks = st.store.marks :=
    detachAll_rule (P := fun store => store.marks = st.store.marks) rfl fun store addr h =>
      (marks_modify_same (f := Session.markClosing) store addr fun _ => rfl).trans h
  rw [hstore, hmarks, detachAll_stored]
  refine hok.book.move (flatMap_set_same hi hrefs) ?_
  refine (perm_others_set hi h').trans ?_
  rw [howned, List.append_assoc]
  exact ((perm_others hi).symm).append_left _

omit hi in
/-- One session changes, and the book with it. -/
theorem LifetimesOk.modified {g : Nat × Nat → Nat × Nat}
    (hstore : st'.store = st.store.modify addr f) (hkey : KeepsKey f)
    (hf : ∀ s, ((f s).refcount, (f s).torn) = g (s.refcount, s.torn))
    (hbook : Lifetimes (st.store.marks.modify addr g) st.store.stored
      ((hs.set i h').flatMap Held.refs) ((hs.set i h').flatMap Held.owned)) :
    LifetimesOk st' (hs.set i h') := by
  refine ⟨hstore ▸ hok.table.modify hkey addr, ?_⟩
  rw [hstore, marks, map_modify hf]
  exact hbook

/-- A stored session is found by its credentials. -/
theorem LifetimesOk.acquired (hmem : addr ∈ st.store.stored)
    (hstore : st'.store = st.store.modify addr fun s => { s with refcount := s.refcount + 1 })
    (hrefs : h'.refs = addr :: h.refs) (howned : h'.owned = h.owned) :
    LifetimesOk st' (hs.set i h') := by
  refine hok.modified (g := fun m => (m.1 + 1, m.2)) hstore keepsKey_acquire (fun _ => rfl) ?_
  refine (hok.book.acquire hmem).move ?_ ((flatMap_set_same hi howned).append_left _)
  refine (perm_others_set hi h').trans ?_
  rw [hrefs]
  exact (perm_others hi).symm.cons addr

/-- A reference is released by its holder. -/
theorem LifetimesOk.released (hmem : addr ∈ h.refs)
    (hstore : st'.store = st.store.modify addr Session.release)
    (hrefs : h'.refs = h.refs.erase addr) (howned : h'.owned = h.owned) :
    LifetimesOk st' (hs.set i h') := by
  refine hok.modified (g := fun m => (m.1 - 1, m.2)) hstore (fun _ => ⟨rfl, rfl⟩) (fun _ => rfl) ?_
  -- in the book, the reference stands in front of all others
  have hbook : Lifetimes st.store.marks st.store.stored
      (addr :: (hs.set i h').flatMap Held.refs) (hs.flatMap Held.owned) := by
    refine hok.book.move ?_ (List.Perm.refl _)
    refine ((perm_others_set hi h').cons addr).trans ?_
    rw [hrefs]
    refine List.Perm.trans ?_ (perm_others hi).symm
    exact ((List.perm_cons_erase hmem).symm.append_right _)
  exact hbook.release.move (List.Perm.refl _) ((flatMap_set_same hi howned).append_left _)

/-- The owner of a session to which nobody refers passes its wait. -/
theorem LifetimesOk.unused {s : Session χ} (hmem : addr ∈ h.owned)
    (hheap : st.store.heap[addr]? = some s) (hcount : s.refcount = 0)
    (hstore : st'.store = st.store.modify addr fun s => { s with torn := s.torn + 1 })
    (hrefs : h'.refs = h.refs) (howned : h'.owned = h.owned.erase addr) :
    LifetimesOk st' (hs.set i h') := by
  refine hok.modified (g := fun m => (m.1, m.2 + 1)) hstore (fun _ => ⟨rfl, rfl⟩) (fun _ => rfl) ?_
  have hmark : st.store.marks[addr]? = some (0, s.torn) := by
    rw [marks, List.getElem?_map, hheap, ← hcount]
    rfl
  have hbook : Lifetimes st.store.marks st.store.stored ((hs.set i h').flatMap Held.refs)
      (addr :: (hs.set i h').flatMap Held.owned) := by
    refine hok.book.move (flatMap_set_same hi hrefs) (List.Perm.append_left _ ?_)
    refine ((perm_others_set hi h').cons addr).trans ?_
    rw [howned]
    refine List.Perm.trans ?_ (perm_others hi).symm
    exact (List.perm_cons_erase hmem).symm.append_right _
  exact hbook.retire hmark

/-- A session is registered, or refused. -/
theorem LifetimesOk.added {new : NewSession χ} {answer : Except (Int × String) AddedSession}
    (world : AddWorld) (htable : TableOk st'.store)
    (hout : AddOutcome st.store new world (answer, st'.store)) (hrefs : h'.refs = h.refs)
      (howned : h'.owned = h.owned) :
    LifetimesOk st' (hs.set i h') := by
  cases answer with
  | error refusal =>
    exact hok.frame hi htable (by rw [marks, hout.heap, marks])
      hout.stored hrefs howned
  | ok added =>
    obtain ⟨hheap, hstored, haddr, _, _⟩ := hout
    have hmarks : st'.store.marks = st.store.marks ++ [(0, 0)] := by
      rw [marks, hheap, List.map_append]
      rfl
    have hlen : st.store.marks.length = st.store.heap.length := List.length_map _
    refine ⟨htable, ?_⟩
    rw [hmarks, hstored, haddr, ← hlen]
    exact hok.book.add.move (flatMap_set_same hi hrefs)
      ((flatMap_set_same hi howned).append_left _)

end

/-! ### The store over a run -/

/-- What an action does to the table is what a step of the table does. -/
theorem serviceExec_table (htable : TableOk st.store)
    (hexec : serviceExec i st world op = some (a, st')) :
    ∃ ids, TableEffect st.store ids st'.store := by
  obtain ⟨store', _⟩ := st'
  cases serviceExec_effect htable hexec with
  | aside => exact ⟨_, .same st.store.shuttingDown⟩
  | shutDown => exact ⟨_, .same true⟩
  | added =>
    cases hexec
    exact ⟨_, .added _ world.add⟩
  | acquired => exact ⟨_, .modified _ fun _ => ⟨rfl, rfl, rfl, rfl⟩⟩
  | removed _ hd => exact ⟨_, .detached hd⟩
  | pruned hd => exact ⟨_, .detached hd⟩
  | detachedAll => exact ⟨_, .detachedAll⟩
  | inside => exact ⟨_, .modified _ fun _ => by cases op <;> exact ⟨rfl, rfl, rfl, rfl⟩⟩

/-- No session is forgotten, changed into another one or put back into the table. -/
theorem serviceExec_extends (htable : TableOk st.store)
    (hexec : serviceExec i st world op = some (a, st')) :
    TableOk st'.store ∧ st'.store.Extends st.store ∧
      ∀ addr ∈ st'.store.stored, addr < st.store.heap.length → addr ∈ st.store.stored := by
  obtain ⟨ids, heffect⟩ := serviceExec_table htable hexec
  exact ⟨heffect.ok htable, heffect.extends htable⟩

/-! ### Every action -/

/-- An action that has nothing to do with sessions changes neither references nor sessions. -/
theorem ownershipAfter_aside (ha : op.aside a) :
    (ownershipAfter h op a).refs = h.refs ∧ (ownershipAfter h op a).owned = h.owned := by
  cases op with
  | acquireConnection | laneConnection | takeLane => cases a <;> exact ⟨rfl, rfl⟩
  | setExecutionModel _ => rcases a with e | _ | slot <;> exact ⟨rfl, rfl⟩
  | acquireSession _ _ _ | removeSession _ _ _ | pruneIdle _ _ =>
    cases a <;> first | exact ha.elim | exact ⟨rfl, rfl⟩
  | addSession _ | shutDown | detachAll => exact ha.elim
  | release _ | awaitUnused _ | teardown _ => cases ha
  | _ => exact ⟨rfl, rfl⟩

/-- Every action of a thread that owns what it needs keeps the invariant. -/
theorem LifetimesOk.act (hok : LifetimesOk st hs) (hi : hs[i]? = some h) (hmay : ownershipMay h op)
    (hexec : serviceExec i st world op = some (a, st')) :
    LifetimesOk st' (hs.set i (ownershipAfter h op a)) := by
  have htable := (serviceExec_extends hok.table hexec).1
  have heffect := serviceExec_effect hok.table hexec
  generalize hstore : st'.store = store' at heffect
  cases heffect with
  | aside ha =>
    obtain ⟨hrefs, howned⟩ := ownershipAfter_aside ha
    exact hok.frame hi htable (hstore ▸ rfl) (hstore ▸ rfl) hrefs howned
  | shutDown => exact hok.frame hi htable (hstore ▸ rfl) (hstore ▸ rfl) rfl rfl
  | @added _ answer _ hout =>
    subst hstore
    refine hok.added hi world.add htable hout ?_ ?_
    all_goals cases answer <;> rfl
  | acquired hmatch => exact hok.acquired hi hmatch.1 hstore rfl rfl
  | removed _ hd => exact hok.detached hi hd hstore rfl rfl
  | pruned hd => exact hok.detached hi hd hstore rfl rfl
  | detachedAll => exact hok.detachedAll hi hstore rfl rfl
  | inside hop hs =>
    cases op with
    | release addr =>
      cases hop
      exact hok.released hi hmay hstore rfl rfl
    | awaitUnused addr =>
      cases hop
      have hcount := (ite_none_right_eq_some.1 hexec).1
      rw [hs] at hcount
      exact hok.unused hi hmay hs (some.inj hcount) hstore rfl rfl
    | teardown addr =>
      refine hok.inside hi hstore (fun _ => ⟨rfl, rfl⟩) (fun _ => rfl) ?_ ?_
      all_goals cases a <;> rfl
    | isUpload _ | batchNo _ | resultHandle _ | fetch _ | append _ _ | commit _ | cancel _
    | beginDestroy _ => exact hok.inside hi hstore (fun _ => ⟨rfl, rfl⟩) (fun _ => rfl) rfl rfl
    | _ => cases hop

/-! ### The system -/

/-- How a service was created. -/
structure ServiceConfig where
  maxOpen : Nat
  maxPerPeer : Nat
  maxRate : Nat
  idleMs : Nat
  connections : Nat
  poolMax : Nat
  vectorRows : Nat
  model : ExecutionModel

/-- A service and its threads. -/
abbrev ServiceSystem (χ : Type) :=
  System (ServiceState χ) (ServiceCall χ) (ServiceOp χ) (HandlerReply χ)

variable (config : ServiceConfig)

/-- A created service. -/
def ServiceConfig.start : ServiceState χ :=
  .init (.init config.maxOpen config.maxPerPeer config.maxRate config.idleMs) config.connections
    config.poolMax config.model

/-- One event: a call arrives, or a thread takes its next action. -/
def ServiceConfig.step (config : ServiceConfig) :
    ServiceSystem χ → Event (ServiceCall χ) (ServiceWorld χ) → Option (ServiceSystem χ) :=
  System.step serviceMachine (serve config.vectorRows config.idleMs)

/-- What can come of a created service. -/
def ServiceConfig.Reaches (s : ServiceSystem χ) : Prop :=
  System.Reachable serviceMachine (serve config.vectorRows config.idleMs) config.start s

/-- What a thread owns. -/
def heldBy (t : Thread (ServiceCall χ) (ServiceOp χ) (HandlerReply χ)) : Held :=
  System.held ownership (fun _ => Held.nothing) t

theorem ServiceConfig.tableOk_start :
    TableOk (config.start : ServiceState χ).store :=
  tableOk_init _ _ _ _

/-- Every thread ends with nothing. -/
theorem ServiceConfig.entry_keeps (call : ServiceCall χ) :
    (conduct NewSession.Fresh).wp (serve config.vectorRows config.idleMs call)
      (fun h _ => h = Held.nothing) Held.nothing :=
  serve_keeps config.vectorRows config.idleMs ⟨rfl, rfl, rfl⟩ call

variable {config : ServiceConfig} {s : ServiceSystem χ}

theorem ServiceConfig.Reaches.lifetimes (hs : config.Reaches s) :
    LifetimesOk s.shared (s.threads.map heldBy) ∧
      ∀ t ∈ s.threads, (conduct NewSession.Fresh).wp t.rest (fun h _ => h = Held.nothing)
        (heldBy t) := by
  refine Discipline.invariant _ _ _ LifetimesOk config.entry_keeps ?_ ?_ ?_ hs
  · -- a new thread holds nothing
    intro st held call hok
    refine ⟨hok.table, ?_⟩
    exact hok.book.move (by simp [Held.nothing]) (by simp [Held.nothing])
  · intro α st held i h op world a st' hok hi hmay hexec
    exact hok.act hi hmay.owns hexec
  · exact ⟨config.tableOk_start, Ledger.Lifetimes.empty⟩

/-- A session counts the references that threads have to it. -/
theorem ServiceConfig.Reaches.refcount_eq (hs : config.Reaches s) {session : Session χ}
    (hsession : s.shared.store.heap[addr]? = some session) :
    session.refcount = ((s.threads.map heldBy).flatMap Held.refs).count addr := by
  refine hs.lifetimes.1.book.refcount addr (session.refcount, session.torn) ?_
  rw [marks, List.getElem?_map, hsession]
  rfl

/-! ### References in the history of a thread -/

/-- Whether an action was answered with a reference to the session. -/
def acquiresRef (addr : Nat) : {α : Type} → ServiceOp χ α → α → Bool
  | _, .acquireSession _ _ _, .found found => found = addr
  | _, _, _ => false

/-- Whether an action gives a reference to the session back. -/
def releasesRef (addr : Nat) : {α : Type} → ServiceOp χ α → Bool
  | _, .release released => released = addr
  | _, _ => false

/-- The references to a session that a thread has taken so far. -/
def refsTaken (t : Thread (ServiceCall χ) (ServiceOp χ) (HandlerReply χ)) (addr : Nat) : Nat :=
  t.past.countP fun x => acquiresRef addr x.op x.answer

/-- The references to a session that a thread has released so far. -/
def refsReleased (t : Thread (ServiceCall χ) (ServiceOp χ) (HandlerReply χ)) (addr : Nat) : Nat :=
  t.past.countP fun x => releasesRef addr x.op

theorem refs_count_after (op : ServiceOp χ α) (a : α) (addr : Nat) (hmay : ownershipMay h op) :
    h.refs.count addr + (if acquiresRef addr op a then 1 else 0) =
      (if releasesRef addr op then 1 else 0) + (ownershipAfter h op a).refs.count addr := by
  cases op with
  | acquireSession sessionId token identity =>
    cases a with
    | found found =>
      show _ = _ + (found :: h.refs).count addr
      rw [List.count_cons]
      simp [acquiresRef, releasesRef]
    | _ => exact (Nat.zero_add _).symm
  | release released =>
    show _ = _ + (h.refs.erase released).count addr
    rw [List.count_erase]
    by_cases haddr : released = addr
    · subst haddr
      have hpos : 0 < h.refs.count released := List.count_pos_iff.2 hmay
      simp [acquiresRef, releasesRef]
      omega
    · simp [acquiresRef, releasesRef, haddr]
  | acquireConnection | laneConnection | takeLane | addSession _ | removeSession _ _ _
  | pruneIdle _ _ | teardown _ => cases a <;> exact (Nat.zero_add _).symm
  | setExecutionModel model =>
    match a with
    | .error _ => exact (Nat.zero_add _).symm
    | .ok none => exact (Nat.zero_add _).symm
    | .ok (some _) => exact (Nat.zero_add _).symm
  | _ => exact (Nat.zero_add _).symm

/-- The references a thread owns are those it has taken and not released. -/
theorem ServiceConfig.Reaches.refs_history (hs : config.Reaches s) : ∀ t ∈ s.threads, ∀ addr,
      refsTaken t addr = refsReleased t addr + (heldBy t).refs.count addr := by
  refine Discipline.history _ _ _ (fun _ past h => ∀ addr,
    past.countP (fun x => acquiresRef addr x.op x.answer) =
      past.countP (fun x => releasesRef addr x.op) + h.refs.count addr)
    config.entry_keeps (fun _ _ => rfl) ?_ hs
  intro α call past h op a hcount hmay addr
  have hstep := refs_count_after op a addr hmay.owns
  have hpast := hcount addr
  rw [List.countP_append, List.countP_append, List.countP_singleton, List.countP_singleton]
  show _ + (if acquiresRef addr op a then 1 else 0) =
    _ + (if releasesRef addr op then 1 else 0) + (ownershipAfter h op a).refs.count addr
  omega

/-! ### The protocol -/

/-- A session that was in the table and is no longer. -/
def SessionStore.detachedAt (store : SessionStore χ) (addr : Nat) : Prop :=
  addr < store.heap.length ∧ addr ∉ store.stored

/-- What is detached stays detached. -/
theorem ServiceConfig.Reaches.detached_run {s' : ServiceSystem χ}
    {events : List (Event (ServiceCall χ) (ServiceWorld χ))} (hs : config.Reaches s)
    (hd : s.shared.store.detachedAt addr) (hrun : Runs.run config.step s events = some s') :
    s'.shared.store.detachedAt addr := by
  refine (Runs.run_invariant (fun s : ServiceSystem χ => TableOk s.shared.store ∧
    s.shared.store.detachedAt addr) ?_ ⟨hs.lifetimes.1.table, hd⟩ hrun).2
  rintro s e s' ⟨htable, hlt, hnot⟩ hstep
  rcases System.step_cases hstep with ⟨r, rfl, rfl⟩ | ⟨i, world, t, rfl, _, α, op, k, a, shared, _,
    hexec, rfl⟩
  · exact ⟨htable, hlt, hnot⟩
  · obtain ⟨htable', hext, hstored⟩ := serviceExec_extends htable hexec
    exact ⟨htable', Nat.lt_of_lt_of_le hlt hext.length, fun hmem => hnot (hstored addr hmem hlt)⟩

/-- **The lifetime protocol.** In every interleaving: a session that has been detached is never
    acquired again; a teardown passes its wait only when every reference to the session that
    any thread has taken is released; when a thread is about to release a reference, no
    teardown of the session has passed its wait; and no session is torn down twice. -/
theorem sessionLifetimes (config : ServiceConfig) (s : ServiceSystem χ) (hs : config.Reaches s) :
    (∀ addr, s.shared.store.detachedAt addr → ∀ events s', Runs.run config.step s events = some s' →
      ∀ i sessionId token identity world st',
        serviceExec i s'.shared world (.acquireSession sessionId token identity) ≠
          some (.found addr, st')) ∧
    (∀ (i : Nat) t addr k world st', s.threads[i]? = some t → t.rest = .act (.awaitUnused addr) k →
      serviceExec i s.shared world (.awaitUnused addr) = some ((), st') →
        ∀ u ∈ s.threads, refsTaken u addr = refsReleased u addr) ∧
    (∀ t ∈ s.threads, ∀ addr k, t.rest = .act (.release addr) k →
      ∃ session, s.shared.store.heap[addr]? = some session ∧ session.torn = 0) ∧
    ∀ session ∈ s.shared.store.heap, session.torn ≤ 1 := by
  obtain ⟨hok, hwp⟩ := hs.lifetimes
  refine ⟨?_, ?_, ?_, ?_⟩
  · intro addr hd events s' hrun i sessionId token identity world st' hexec
    have hd' := hs.detached_run hd hrun
    have htable : TableOk s'.shared.store := by
      obtain ⟨first, hfirst⟩ := hs
      have hreach : config.Reaches s' :=
        ⟨first ++ events, Runs.run_append_eq_some.2 ⟨s, hfirst, hrun⟩⟩
      exact hreach.lifetimes.1.table
    have hanswer : some ((acquireSession s'.shared.store sessionId token identity).1,
      { s'.shared with store := (acquireSession s'.shared.store sessionId token identity).2 }) =
        some (.found addr, st') := hexec
    have hfound := (Prod.mk.inj (some.inj hanswer)).1
    rcases htable.acquireSession_spec sessionId token identity with
      ⟨addr', _, hfound', hmatch, _⟩ | ⟨hnot, _⟩
    · obtain rfl : addr = addr' := Lookup.found.inj (hfound.symm.trans hfound')
      exact hd'.2 hmatch.1
    · exact hnot addr hfound
  · intro i t addr k world st' ht hrest hexec u hu
    obtain ⟨hcount, hexec⟩ := ite_none_right_eq_some.1 hexec
    obtain ⟨session, hsession, _, _⟩ := ServiceState.onSession_eq_some hexec
    rw [hsession] at hcount
    -- the count is that of all references, so no thread has one
    have hmark : s.shared.store.marks[addr]? = some (session.refcount, session.torn) := by
      rw [marks, List.getElem?_map, hsession]
      rfl
    have hzero : ((s.threads.map heldBy).flatMap Held.refs).count addr = 0 :=
      (hok.book.refcount addr _ hmark).symm.trans (some.inj hcount)
    have hnone : (heldBy u).refs.count addr = 0 := by
      refine List.count_eq_zero.2 fun hmem => List.count_eq_zero.1 hzero ?_
      exact List.mem_flatMap.2 ⟨heldBy u, List.mem_map.2 ⟨u, hu, rfl⟩, hmem⟩
    rw [hs.refs_history u hu addr, hnone, Nat.add_zero]
  · intro t ht addr k hrest
    have hmay : addr ∈ (heldBy t).refs := by
      have := hwp t ht
      rw [hrest] at this
      exact this.1
    have hmem : addr ∈ (s.threads.map heldBy).flatMap Held.refs :=
      List.mem_flatMap.2 ⟨heldBy t, List.mem_map.2 ⟨t, ht, rfl⟩, hmay⟩
    obtain ⟨m, hm, htorn⟩ := hok.book.untorn addr (.inr hmem)
    rw [marks, List.getElem?_map] at hm
    obtain ⟨session, hsession, rfl⟩ := map_eq_some_iff.1 hm
    exact ⟨session, hsession, htorn⟩
  · intro session hsession
    exact hok.book.once (session.refcount, session.torn) (List.mem_map.2 ⟨session, hsession, rfl⟩)

/-- A world in which everything works. -/
def calmWorld (chunks : List χ) : ServiceWorld χ where
  nowMs := 5
  connect := true
  timedOut := false
  runtimeConnection := true
  sql := .ok 1
  requestsInFlight := false
  add := ⟨5, true, true, true, .ok (), true, true, true, CStr.t, CStr.h⟩
  fetch := ⟨5, true, .ok (), .ok 0, true, .ok 0⟩
  append := fun _ => ⟨chunks, chunks.length, .ok ()⟩
  commit := ⟨.ok (), .ok (), .ok ()⟩
  copied := true
  replied := true

/-- A service with room for one pooled connection. -/
def smallConfig : ServiceConfig := ⟨0, 0, 0, 1000, 0, 1, 2048, .sharedSerialized⟩

/-- A query session is opened, and a stop is about to wait for its last reference. -/
def openThenStop : List (Event (ServiceCall Unit) (ServiceWorld Unit)) :=
  .start ⟨.queryOpen (.ok ⟨none, 0, 0, none, [()]⟩), none, 0⟩ :: .start ⟨.stop, none, 0⟩ ::
    (List.replicate 9 (.act 0 (calmWorld [])) ++ List.replicate 3 (.act 1 (calmWorld [])))

theorem sessionLifetimes_openThenStop :
    ∃ s : ServiceSystem Unit, smallConfig.Reaches s ∧ s.shared.store.heap.length = 1 ∧
      s.shared.store.detachedAt 0 ∧ ∀ session ∈ s.shared.store.heap, session.torn ≤ 1 := by
  refine ⟨_, ⟨openThenStop, rfl⟩, rfl, ⟨by decide, by decide⟩, ?_⟩
  exact (sessionLifetimes smallConfig _ ⟨openThenStop, rfl⟩).2.2.2

end

end Ducknng
