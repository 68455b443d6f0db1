import Ducknng.Service.Handlers
import Ducknng.Service.SessionTable
import Mathlib.Data.List.Perm.Basic

namespace Ducknng

open Option List

/-!
# What an action does to the sessions

An action has nothing to do with sessions, registers, finds or detaches one, or is a section of
one. A session object stays where it is: a lookup counts a reference, a session that leaves the
table is closing from then on, and a section changes what the section says.

* `StoreEffect`, `serviceExec_effect` — what an action does to the table.
* `SessionChange`, `StoreEffect.session` — what it does to one session.
* `ServiceOp.leaves_touch`, `ServiceOp.leaves_marks` — when a section touches or marks it.
* `StoreEffect.length`, `StoreEffect.created` — which actions make session objects.
-/

section
variable {χ : Type}

/-! ### The effects -/

/-- The session whose section an action is. -/
def ServiceOp.session : {α : Type} → ServiceOp χ α → Option Nat
  | _, .isUpload addr => some addr
  | _, .batchNo addr => some addr
  | _, .resultHandle addr => some addr
  | _, .fetch addr => some addr
  | _, .append addr _ => some addr
  | _, .commit addr => some addr
  | _, .cancel addr => some addr
  | _, .release addr => some addr
  | _, .beginDestroy addr => some addr
  | _, .awaitUnused addr => some addr
  | _, .teardown addr => some addr
  | _, _ => none

/-- What the section leaves of the session. -/
def ServiceOp.leaves (world : ServiceWorld χ) (s : Session χ) :
    {α : Type} → ServiceOp χ α → Session χ
  | _, .fetch _ => { s with work := (fetchSection s.work world.fetch).2 }
  | _, .append _ batch =>
    { s with work := (uploadAppendSection s.isUpload world.append batch world.nowMs s.work).2 }
  | _, .commit _ => { s with work := (uploadCommitSection s.work world.commit).2 }
  | _, .cancel _ => { s with work := cancelSection s.work }
  | _, .release _ => s.release
  | _, .beginDestroy _ => s.markClosing
  | _, .awaitUnused _ => { s with torn := s.torn + 1 }
  | _, .teardown _ => { s with poolIndex := none, work := s.work.teardown }
  | _, _ => s

/-- What an action has registered. -/
def ServiceOp.adds : {α : Type} → ServiceOp χ α → α → Option (NewSession χ × AddedSession)
  | _, .addSession new, .ok added => some (new, added)
  | _, _, _ => none

/-- The action has nothing to do with a session, or has found none. -/
def ServiceOp.aside : {α : Type} → ServiceOp χ α → α → Prop
  | _, .addSession _, _ => False
  | _, .acquireSession _ _ _, .found _ => False
  | _, .removeSession _ _ _, .found _ => False
  | _, .pruneIdle _ _, some _ => False
  | _, .shutDown, _ => False
  | _, .detachAll, _ => False
  | _, op, _ => op.session = none

/-- What an action does to the table, by its answer. -/
inductive StoreEffect (store : SessionStore χ) (world : ServiceWorld χ) :
    {α : Type} → ServiceOp χ α → α → SessionStore χ → Prop
  | aside {α : Type} {op : ServiceOp χ α} {b : α} (h : op.aside b) :
    StoreEffect store world op b store
  | shutDown : StoreEffect store world .shutDown () { store with shuttingDown := true }
  | added {new : NewSession χ} {answer : Except (Int × String) AddedSession}
    {store' : SessionStore χ} (h : AddOutcome store new world.add (answer, store')) :
    StoreEffect store world (.addSession new) answer store'
  | acquired {sessionId addr : Nat} {token identity : Option CStr}
    (h : Matches store sessionId token identity addr) :
    StoreEffect store world (.acquireSession sessionId token identity) (.found addr)
      (store.modify addr fun s => { s with refcount := s.refcount + 1 })
  | removed {sessionId addr : Nat} {token identity : Option CStr} {store' : SessionStore χ}
    (h : Matches store sessionId token identity addr) (hd : store.Detached addr store') :
    StoreEffect store world (.removeSession sessionId token identity) (.found addr) store'
  | pruned {nowMs j addr next : Nat} {store' : SessionStore χ} (hd : store.Detached addr store') :
    StoreEffect store world (.pruneIdle nowMs j) (some (addr, next)) store'
  | detachedAll : StoreEffect store world .detachAll (detachAll store).1 (detachAll store).2
  | inside {α : Type} {op : ServiceOp χ α} {b : α} {addr : Nat} {s : Session χ}
    (hop : op.session = some addr) (hs : store.heap[addr]? = some s) :
    StoreEffect store world op b (store.modify addr (op.leaves world))

variable {addr : Nat} {store : SessionStore χ} {α : Type}

section
variable {st st' : ServiceState χ} {i : Nat} {world : ServiceWorld χ} {α : Type}
  {op : ServiceOp χ α} {b : α}

theorem ServiceState.onSession_eq_some {body : Session χ → α × Session χ}
    (hexec : st.onSession addr body = some (b, st')) :
    ∃ s, st.store.heap[addr]? = some s ∧ b = (body s).1 ∧
      st' = { st with store := st.store.modify addr fun s => (body s).2 } := by
  unfold ServiceState.onSession at hexec
  split at hexec
  · cases hexec
  · next s hs =>
    cases hexec
    exact ⟨s, hs, rfl, rfl⟩

/-- **What an action does to the table.** -/
theorem serviceExec_effect (htable : TableOk st.store)
    (hexec : serviceExec i st world op = some (b, st')) :
    StoreEffect st.store world op b st'.store := by
  cases op with
  | acquireConnection =>
    obtain ⟨_, _, heq⟩ := map_eq_some_iff.1 hexec
    cases heq
    exact .aside rfl
  | markFree _ | setPoolMax _ | sql _ _ | executionModel | unlockRuntimeLane
  | runtimeConnection | unlockServiceLane | laneConnection | pinLane _ | now | reply =>
    cases hexec
    exact .aside rfl
  | lockRuntimeLane | lockServiceLane | takeLane =>
    obtain ⟨_, heq⟩ := ite_none_right_eq_some.1 hexec
    cases heq
    exact .aside rfl
  | setExecutionModel model =>
    simp only [serviceExec] at hexec
    repeat' split at hexec
    all_goals cases hexec <;> exact .aside rfl
  | shutDown => cases hexec; exact .shutDown
  | detachAll => cases hexec; exact .detachedAll
  | addSession new => cases hexec; exact .added (htable.addSession new world.add).2
  -- the lookups find a session that has the credentials, or change nothing
  | acquireSession sessionId token identity =>
    simp only [serviceExec] at hexec
    obtain ⟨rfl, rfl⟩ := Prod.mk.inj (some.inj hexec)
    rcases htable.acquireSession_spec sessionId token identity with
      ⟨addr, _, hfound, hmatch, _, _, hst⟩ | ⟨hnot, hsame⟩
    · rw [hfound, hst]
      exact .acquired hmatch
    · rw [hsame]
      refine .aside ?_
      cases hlookup : (acquireSession st.store sessionId token identity).1 with
      | found addr => exact absurd hlookup (hnot addr)
      | _ => rfl
  | removeSession sessionId token identity =>
    simp only [serviceExec] at hexec
    obtain ⟨rfl, rfl⟩ := Prod.mk.inj (some.inj hexec)
    rcases htable.removeSession_spec sessionId token identity with
      ⟨addr, hfound, hmatch, hd⟩ | ⟨hnot, hsame⟩
    · rw [hfound]
      exact .removed hmatch hd
    · rw [hsame]
      refine .aside ?_
      cases hlookup : (removeSession st.store sessionId token identity).1 with
      | found addr => exact absurd hlookup (hnot addr)
      | _ => rfl
  | pruneIdle nowMs j =>
    simp only [serviceExec] at hexec
    obtain ⟨rfl, rfl⟩ := Prod.mk.inj (some.inj hexec)
    rcases htable.pruneIdle_spec nowMs j with ⟨addr, _, _, hfound, _, _, hd⟩ | ⟨hnone, hsame⟩
    · rw [hfound]
      exact .pruned hd
    · rw [hnone, hsame]
      exact .aside rfl
  | isUpload _ | batchNo _ | resultHandle _ | fetch _ | append _ _ | commit _ | cancel _
  | release _ | beginDestroy _ | teardown _ =>
    obtain ⟨s, hs, _, rfl⟩ := ServiceState.onSession_eq_some hexec
    exact .inside rfl hs
  | awaitUnused addr =>
    obtain ⟨_, hexec⟩ := ite_none_right_eq_some.1 hexec
    obtain ⟨s, hs, _, rfl⟩ := ServiceState.onSession_eq_some hexec
    exact .inside rfl hs

end

/-! ### One session -/

/-- What an action does to the session at an address. -/
inductive SessionChange (a : Nat) (store' : SessionStore χ) (world : ServiceWorld χ) {α : Type}
    (op : ServiceOp χ α) (s : Session χ) : Session χ → Prop
  | same : op.session ≠ some a → SessionChange a store' world op s s
  | acquired : op.session = none →
    SessionChange a store' world op s { s with refcount := s.refcount + 1 }
  | detached : op.session = none → a ∉ store'.stored →
    SessionChange a store' world op s s.markClosing
  | inside : op.session = some a → SessionChange a store' world op s (op.leaves world s)

theorem ServiceOp.aside.session {op : ServiceOp χ α} {b : α} (h : op.aside b) :
    op.session = none := by
  cases op <;> first | exact h | rfl

theorem SessionStore.getElem?_modify {a : Nat} {s : Session χ} (hs : store.heap[a]? = some s)
    (addr : Nat) (f : Session χ → Session χ) :
    (store.modify addr f).heap[a]? = some (if addr = a then f s else s) := by
  show (store.heap.modify addr f)[a]? = _
  rw [List.getElem?_modify, hs]
  split <;> rfl

section
variable {store store' : SessionStore χ} {a : Nat} {s : Session χ} {world : ServiceWorld χ}
  {α : Type} {op : ServiceOp χ α} {b : α}

theorem SessionChange.outside (h : op.session = none) : SessionChange a store' world op s s :=
  .same (by rw [h]; exact some_ne_none a |>.symm)

theorem SessionStore.Detached.not_mem (htable : TableOk store) (hd : store.Detached addr store') :
    addr ∉ store'.stored := by
  obtain ⟨j, hj, hcount, rfl⟩ := hd
  obtain ⟨hlt, rfl⟩ := List.getElem?_eq_some_iff.1 hj
  show store.stored[j] ∉ (store.dropCell j).stored
  rw [(htable.stores.dropCell hlt).stored]
  intro hmem
  have hall : (store.stored[j] :: store.stored.eraseIdx j).Nodup :=
    (getElem_cons_eraseIdx_perm hlt).nodup_iff.2 htable.nodup
  exact (nodup_cons.1 hall).1 hmem

theorem SessionChange.of_detached (htable : TableOk store) (hs : store.heap[a]? = some s)
    (hd : store.Detached addr store') (hop : op.session = none) :
    ∃ s', store'.heap[a]? = some s' ∧ SessionChange a store' world op s s' := by
  have hnot := hd.not_mem htable
  obtain ⟨j, _, _, rfl⟩ := hd
  refine ⟨_, @SessionStore.getElem?_modify χ (store.dropCell j) _ _ hs addr _, ?_⟩
  split
  next heq => exact .detached hop (heq ▸ hnot)
  next => exact .outside hop

/-- **What an action does to a session.** -/
theorem StoreEffect.session (h : StoreEffect store world op b store') (htable : TableOk store)
    (hs : store.heap[a]? = some s) :
    ∃ s', store'.heap[a]? = some s' ∧ SessionChange a store' world op s s' := by
  cases h with
  | aside h => exact ⟨s, hs, .outside h.session⟩
  | shutDown => exact ⟨s, hs, .outside rfl⟩
  | @added _ answer _ h =>
    refine ⟨s, ?_, .outside rfl⟩
    cases answer with
    | error e => exact h.heap ▸ hs
    | ok added => rw [h.1, List.getElem?_append_left (List.getElem?_eq_some_iff.1 hs).1, hs]
  | acquired h =>
    refine ⟨_, SessionStore.getElem?_modify hs _ _, ?_⟩
    split
    · exact .acquired rfl
    · exact .outside rfl
  | removed _ hd => exact SessionChange.of_detached htable hs hd rfl
  | pruned hd => exact SessionChange.of_detached htable hs hd rfl
  | detachedAll =>
    have hnot : a ∉ (detachAll store).2.stored := by simp [detachAll_stored]
    -- the loop marks what is stored and nothing else
    have hmarked : (detachAll store).2.heap[a]? = some s ∨
        (detachAll store).2.heap[a]? = some s.markClosing := by
      refine detachAll_rule (P := fun store' => store'.heap[a]? = some s ∨
        store'.heap[a]? = some s.markClosing) (.inl hs) fun store' addr h => ?_
      rcases h with h | h
      all_goals
        rw [SessionStore.getElem?_modify h]
        split
        · exact .inr rfl
        · simp
    rcases hmarked with h | h
    · exact ⟨s, h, .outside rfl⟩
    · exact ⟨_, h, .detached rfl hnot⟩
  | inside hop _ =>
    refine ⟨_, SessionStore.getElem?_modify hs _ _, ?_⟩
    split
    next heq => exact .inside (heq ▸ hop)
    next hne => exact .same fun h => hne (some.inj (hop.symm.trans h))

end

/-- When a section touches its session. -/
def ServiceOp.touch (world : ServiceWorld χ) : {α : Type} → ServiceOp χ α → Option Nat
  | _, .fetch _ => some world.fetch.nowMs
  | _, .append _ _ => some world.nowMs
  | _, _ => none

/-- The actions that mark a session as one that is going. -/
def ServiceOp.marks : {α : Type} → ServiceOp χ α → Prop
  | _, .cancel _ => True
  | _, .beginDestroy _ => True
  | _, _ => False

theorem fetchSection_marks (w : SessionWork χ) (world : FetchWorld) :
    (fetchSection w world).2.lastTouchMs = world.nowMs ∧
      (fetchSection w world).2.cancelled = w.cancelled := by
  unfold fetchSection
  dsimp only
  split
  · exact ⟨rfl, rfl⟩
  split
  · exact ⟨rfl, rfl⟩
  next w' hdrive =>
    obtain ⟨_, _, _, _, hbatch⟩ := w'.nextBatch_frame world
    rw [hbatch]
    unfold SessionWork.drive at hdrive
    repeat' split at hdrive
    all_goals cases hdrive
    all_goals exact ⟨rfl, rfl⟩

theorem uploadAppendSection_marks (isUpload : Bool) (append : List UInt8 → AppendResult χ)
    (batch : List UInt8) (nowMs : Nat) (w : SessionWork χ) :
    (uploadAppendSection isUpload append batch nowMs w).2.lastTouchMs = nowMs ∧
      (uploadAppendSection isUpload append batch nowMs w).2.cancelled = w.cancelled := by
  unfold uploadAppendSection
  dsimp only
  repeat' split
  all_goals exact ⟨rfl, rfl⟩

theorem uploadCommitSection_marks (w : SessionWork χ) (world : CommitWorld) :
    (uploadCommitSection w world).2.lastTouchMs = w.lastTouchMs ∧
      (uploadCommitSection w world).2.cancelled = w.cancelled := by
  unfold uploadCommitSection SessionWork.closeAppender
  split
  next h =>
    split at h
    all_goals
      obtain ⟨_, rfl⟩ := Prod.mk.inj h
      exact ⟨rfl, rfl⟩
  next h =>
    split at h
    all_goals
      obtain ⟨_, rfl⟩ := Prod.mk.inj h
      repeat' split
      all_goals exact ⟨rfl, rfl⟩

theorem ServiceOp.leaves_touch (op : ServiceOp χ α) (world : ServiceWorld χ) (s : Session χ) :
    (op.leaves world s).work.lastTouchMs = (op.touch world).getD s.work.lastTouchMs := by
  cases op with
  | fetch _ => exact (fetchSection_marks s.work world.fetch).1
  | append _ batch => exact (uploadAppendSection_marks _ _ batch _ s.work).1
  | commit _ => exact (uploadCommitSection_marks s.work world.commit).1
  | _ => rfl

theorem ServiceOp.leaves_marks {op : ServiceOp χ α} (hop : ¬ op.marks) (world : ServiceWorld χ)
    (s : Session χ) :
    (op.leaves world s).closing = s.closing ∧
      (op.leaves world s).work.cancelled = s.work.cancelled := by
  cases op with
  | fetch _ => exact ⟨rfl, (fetchSection_marks s.work world.fetch).2⟩
  | append _ batch => exact ⟨rfl, (uploadAppendSection_marks _ _ batch _ s.work).2⟩
  | commit _ => exact ⟨rfl, (uploadCommitSection_marks s.work world.commit).2⟩
  | cancel _ => exact absurd trivial hop
  | beginDestroy _ => exact absurd trivial hop
  | _ => exact ⟨rfl, rfl⟩

/-! ### New sessions -/

section
variable {store store' : SessionStore χ} {world : ServiceWorld χ} {α : Type}
  {op : ServiceOp χ α} {b : α}

theorem SessionStore.Detached.length (hd : store.Detached addr store') :
    store'.heap.length = store.heap.length := by
  obtain ⟨j, _, _, rfl⟩ := hd
  exact length_modify _ _ _

section
variable (h : StoreEffect store world op b store')
include h

/-- Only a registration makes a session object. -/
theorem StoreEffect.length (hadds : op.adds b = none) :
    store'.heap.length = store.heap.length := by
  cases h with
  | aside => rfl
  | shutDown => rfl
  | @added _ answer _ h =>
    cases answer with
    | error e => exact congrArg length h.heap
    | ok added => cases hadds
  | acquired => exact length_modify _ _ _
  | removed _ hd => exact hd.length
  | pruned hd => exact hd.length
  | detachedAll =>
    exact detachAll_rule (P := fun store' => store'.heap.length = store.heap.length) rfl
      fun _ _ h => (length_modify _ _ _).trans h
  | inside => exact length_modify _ _ _

/-- A registration makes one. -/
theorem StoreEffect.adds {new : NewSession χ} {added : AddedSession}
    (hadds : op.adds b = some (new, added)) :
    added.addr = store.heap.length ∧
      store'.heap = store.heap ++ [new.toSession added.sessionId world.add] := by
  cases h with
  | @added _ answer _ h =>
    cases answer with
    | error e => cases hadds
    | ok added' =>
      cases hadds
      exact ⟨h.2.2.1, h.1⟩
  | aside h =>
    cases op with
    | addSession _ => exact h.elim
    | _ => cases hadds
  | inside hop _ =>
    cases op with
    | addSession _ => cases hop
    | _ => cases hadds
  | _ => cases hadds

/-- A session that was not there before is one that the action has registered. -/
theorem StoreEffect.created {a : Nat} {s' : Session χ}
    (hold : store.heap[a]? = none) (hs' : store'.heap[a]? = some s') :
    ∃ new added, op.adds b = some (new, added) ∧ added.addr = a ∧
      s' = new.toSession added.sessionId world.add := by
  have hlt := (List.getElem?_eq_some_iff.1 hs').1
  have hge := List.getElem?_eq_none_iff.1 hold
  cases hadds : op.adds b with
  | none =>
    rw [h.length hadds] at hlt
    exact absurd hlt (Nat.not_lt.2 hge)
  | some registered =>
    obtain ⟨new, added⟩ := registered
    obtain ⟨haddr, hheap⟩ := h.adds hadds
    rw [hheap, length_append, length_singleton] at hlt
    rw [hheap, getElem?_append_right hge, show a - store.heap.length = 0 by omega] at hs'
    exact ⟨new, added, rfl, by omega, (some.inj hs').symm⟩

end

end

end

end Ducknng
