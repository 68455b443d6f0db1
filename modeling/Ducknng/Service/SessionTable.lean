import Ducknng.Lib.Runs
import Ducknng.Service.Sessions
import Mathlib.Data.List.Nodup

namespace Ducknng

open List SessionStore

/-!
# The session table over a run

Every section that runs under the service mutex keeps the table in order, whatever happens
inside the session objects in between.

* `TableOk.addSession`, `TableOk.removeSession_spec`, `TableOk.acquireSession_spec`,
  `TableOk.pruneIdle_spec`, `TableOk.detachAll` — what each section does to a table in order.
* `TableEffect`, `TableOk.effect` — what a step does; `TableEffect.ok`, `TableEffect.extends`,
  `TableEffect.frame` — what it keeps.
* `sessionTable_ok` — the invariant of the table over every run.
-/

/-! ### The invariant -/

variable {addr : Nat}

section
variable {χ : Type} {st st' : SessionStore χ} {f : Session χ → Session χ} {s : Session χ}

/-- What never changes in a session object: its id and its owner. -/
def SessionStore.keys (st : SessionStore χ) : List (Nat × Option CStr) :=
  st.heap.map fun s => (s.sessionId, s.ownerIdentity)

/-- The keys know the owner of each object. -/
theorem SessionStore.owner_of_keys (st : SessionStore χ) (addr : Nat) :
    (st.keys[addr]?.bind fun key => key.2) = st.heap[addr]?.bind fun s => s.ownerIdentity := by
  rw [SessionStore.keys, getElem?_map, Option.bind_map]
  rfl

/-- The stored sessions of an identity. -/
def SessionStore.storedOf (st : SessionStore χ) (identity : CStr) : List Nat :=
  st.stored.filter fun addr => (st.keys[addr]?.bind fun key => key.2) = some identity

/-- The table is in order: it holds what its counters say, each session once, within the
    limits, and ids have been handed out in increasing order, one for each object. -/
structure TableOk (st : SessionStore χ) : Prop where
  stores : st.Stores st.stored
  visible : st.sessionCountVisible = st.sessionCount
  nodup : st.stored.Nodup
  inHeap : ∀ addr ∈ st.stored, addr < st.heap.length
  increasing : (st.keys.map Prod.fst).Pairwise (· < ·)
  bounds : ∀ key ∈ st.keys, 0 < key.1 ∧ key.1 < st.nextSessionId
  next : st.nextSessionId = st.keys.length + 1
  maxOpen : st.maxOpenSessions > 0 → st.sessionCount ≤ st.maxOpenSessions
  perPeer : st.maxSessionsPerPeerIdentity > 0 →
    ∀ identity, (st.storedOf identity).length ≤ st.maxSessionsPerPeerIdentity

theorem tableOk_init (maxOpen maxPerPeer maxRate idleMs : Nat) :
    TableOk (init maxOpen maxPerPeer maxRate idleMs : SessionStore χ) where
  stores := ⟨rfl, 0, rfl⟩
  visible := rfl
  nodup := nodup_nil
  inHeap := forall_mem_nil _
  increasing := Pairwise.nil
  bounds := forall_mem_nil _
  next := rfl
  maxOpen := fun _ => Nat.zero_le _
  perPeer := fun _ _ => Nat.zero_le _

/-- A change inside a session object that keeps its key. -/
def KeepsKey (f : Session χ → Session χ) : Prop :=
  ∀ s, (f s).sessionId = s.sessionId ∧ (f s).ownerIdentity = s.ownerIdentity

/-- What is read off the objects after one of them has changed. -/
theorem SessionStore.map_modify {β : Type} {g : Session χ → β}
    {g' : β → β} (hf : ∀ s, g (f s) = g' (g s)) (addr : Nat) :
    (st.modify addr f).heap.map g = (st.heap.map g).modify addr g' := by
  apply ext_getElem?
  intro i
  simp only [modify, getElem?_map, getElem?_modify]
  cases st.heap[i]? with
  | none => rfl
  | some s =>
    by_cases hi : addr = i
    · simp [hi, hf s]
    · simp [hi]

theorem SessionStore.map_modify_same {β : Type} {g : Session χ → β}
    (hf : ∀ s, g (f s) = g s) (addr : Nat) : (st.modify addr f).heap.map g = st.heap.map g :=
  (@map_modify χ st f β g id hf addr).trans (modify_id ..)

theorem SessionStore.keys_modify (hf : KeepsKey f) (addr : Nat) :
    (st.modify addr f).keys = st.keys :=
  map_modify_same (fun s => Prod.ext (hf s).1 (hf s).2) addr

section
variable (h : TableOk st)
include h

theorem TableOk.modify (hf : KeepsKey f) (addr : Nat) : TableOk (st.modify addr f) := by
  have hkeys := @keys_modify χ st f hf addr
  have hof : ∀ identity, (st.modify addr f).storedOf identity = st.storedOf identity := by
    intro identity
    rw [SessionStore.storedOf, SessionStore.storedOf, hkeys, modify_stored]
  exact {
    stores := h.stores
    visible := h.visible
    nodup := h.nodup
    inHeap := by
      intro a ha
      show a < (st.heap.modify addr f).length
      rw [length_modify]
      exact h.inHeap a ha
    increasing := hkeys ▸ h.increasing
    bounds := hkeys ▸ h.bounds
    next := hkeys ▸ h.next
    maxOpen := h.maxOpen
    perPeer := fun hmax identity => hof identity ▸ h.perPeer hmax identity }

variable {i : Nat}

/-- Dropping a cell drops its address from the table. -/
theorem TableOk.dropCell (hi : i < st.stored.length) :
    TableOk (st.dropCell i) := by
  have hstores := h.stores.dropCell hi
  have hstored := hstores.stored
  have hsub : (st.stored.eraseIdx i).Sublist st.stored := eraseIdx_sublist _ _
  exact {
    stores := hstored ▸ hstores
    visible := rfl
    nodup := hstored ▸ h.nodup.sublist hsub
    inHeap := fun a ha => h.inHeap a (hsub.subset (hstored ▸ ha))
    increasing := h.increasing
    bounds := h.bounds
    next := h.next
    maxOpen := by
      intro hmax
      show st.sessionCount - 1 ≤ _
      exact Nat.le_trans (Nat.sub_le _ _) (h.maxOpen hmax)
    perPeer := by
      intro hmax identity
      refine Nat.le_trans ?_ (h.perPeer hmax identity)
      rw [SessionStore.storedOf, hstored]
      exact (hsub.filter _).length_le }

omit h in
theorem keepsKey_markClosing : KeepsKey (Session.markClosing : Session χ → Session χ) :=
  fun _ => ⟨rfl, rfl⟩

omit h in
theorem keepsKey_acquire :
    KeepsKey (fun s : Session χ => { s with refcount := s.refcount + 1 }) :=
  fun _ => ⟨rfl, rfl⟩

theorem TableOk.detach (hi : i < st.sessionCount) :
    ∃ addr, st.stored[i]? = some addr ∧
      st.detach i = (some addr, (st.dropCell i).modify addr Session.markClosing) ∧
      TableOk ((st.dropCell i).modify addr Session.markClosing) := by
  have hlen : i < st.stored.length := h.stores.1 ▸ hi
  exact ⟨st.stored[i], getElem?_eq_getElem hlen, h.stores.detach hlen,
    (h.dropCell hlen).modify keepsKey_markClosing _⟩

/-- The loop of the per-identity limit counts the stored sessions of the identity. -/
theorem TableOk.ownedBy (identity : CStr) :
    st.ownedBy identity st.sessionCount = (st.storedOf identity).length := by
  have hsessions : (range st.sessionCount).map st.sessionAt =
      st.stored.map fun addr => st.heap[addr]? := by
    apply ext_getElem
    · simp [h.stores.1]
    · intro i hi _
      have hlen : i < st.stored.length := by simpa [h.stores.1] using hi
      simp [h.stores.sessionAt hlen]
  have hcount := congrArg (countP fun s : Option (Session χ) =>
    decide ((s.bind fun s => s.ownerIdentity) = some identity)) hsessions
  rw [countP_map, countP_map] at hcount
  rw [SessionStore.ownedBy, SessionStore.storedOf, ← countP_eq_length_filter,
    ← countP_eq_length_filter]
  refine hcount.trans (countP_congr fun addr _ => ?_)
  simp [owner_of_keys]

/-- A store that differs in capacity and peer entries only. -/
theorem TableOk.of_same (hstores : st'.Stores st.stored)
    (hheap : st'.heap = st.heap) (hvisible : st'.sessionCountVisible = st'.sessionCount)
    (hnext : st'.nextSessionId = st.nextSessionId)
    (hmaxOpen : st'.maxOpenSessions = st.maxOpenSessions)
    (hmaxPeer : st'.maxSessionsPerPeerIdentity = st.maxSessionsPerPeerIdentity) :
    TableOk st' := by
  have hstored := hstores.stored
  have hkeys : st'.keys = st.keys := by rw [SessionStore.keys, hheap, SessionStore.keys]
  exact {
    stores := hstored.symm ▸ hstores
    visible := hvisible
    nodup := hstored.symm ▸ h.nodup
    inHeap := by rw [hstored, hheap]; exact h.inHeap
    increasing := hkeys.symm ▸ h.increasing
    bounds := by rw [hkeys, hnext]; exact h.bounds
    next := by rw [hkeys, hnext]; exact h.next
    maxOpen := by
      rw [hmaxOpen, hstores.1, ← h.stores.1]
      exact h.maxOpen
    perPeer := by
      intro hmax identity
      rw [SessionStore.storedOf, hstored, hkeys, hmaxPeer]
      exact h.perPeer (hmaxPeer ▸ hmax) identity }

omit h in
theorem SessionStore.keys_insert (new : NewSession χ) (world : AddWorld) :
    (st.insert new world).2.keys = st.keys ++ [(st.nextSessionId, CStr.present new.identity)] :=
  map_append

/-- A new session counts for its owner only. -/
theorem TableOk.storedOf_insert (hroom : st.sessionCount < st.cells.length)
    (new : NewSession χ) (world : AddWorld) (identity : CStr) :
    ((st.insert new world).2.storedOf identity).length =
      (st.storedOf identity).length +
        if CStr.present new.identity = some identity then 1 else 0 := by
  have hlen : st.keys.length = st.heap.length := length_map _
  have hold : st.stored.filter (fun addr =>
      ((st.insert new world).2.keys[addr]?.bind fun key => key.2) = some identity) =
      st.storedOf identity := by
    refine filter_congr fun addr haddr => ?_
    rw [keys_insert, List.getElem?_append_left (hlen ▸ h.inHeap addr haddr)]
  rw [SessionStore.storedOf, (h.stores.insert hroom new world).stored, filter_append, hold,
    keys_insert, ← hlen]
  by_cases howner : CStr.present new.identity = some identity <;> simp [howner]

/-- A session within the limits is added: its id is above all ids there have been. -/
theorem TableOk.insert (hroom : st.sessionCount < st.cells.length)
    (new : NewSession χ) (world : AddWorld)
    (hopen : st.maxOpenSessions > 0 → st.sessionCount < st.maxOpenSessions)
    (hpeer : st.maxSessionsPerPeerIdentity > 0 → ∀ identity,
      CStr.present new.identity = some identity →
      (st.storedOf identity).length < st.maxSessionsPerPeerIdentity) :
    TableOk (st.insert new world).2 := by
  have hstores := h.stores.insert hroom new world
  have hstored := hstores.stored
  have hkeys := @keys_insert χ st new world
  have hnext : (st.insert new world).2.nextSessionId = st.nextSessionId + 1 := rfl
  -- a new session has a new address, behind all that are stored
  have hfresh : st.heap.length ∉ st.stored := fun hmem => Nat.lt_irrefl _ (h.inHeap _ hmem)
  exact {
    stores := hstored.symm ▸ hstores
    visible := rfl
    nodup := by
      rw [hstored]
      refine nodup_append.2 ⟨h.nodup, pairwise_singleton _ _, ?_⟩
      rintro a ha b hb rfl
      exact hfresh (mem_singleton.1 hb ▸ ha)
    inHeap := by
      intro a ha
      show a < (st.heap ++ [_]).length
      rw [length_append]
      rcases mem_append.1 (hstored ▸ ha) with ha | ha
      · exact Nat.lt_succ_of_lt (h.inHeap a ha)
      · exact Nat.lt_succ_of_le (Nat.le_of_eq (mem_singleton.1 ha))
    increasing := by
      rw [hkeys, map_append, pairwise_append]
      refine ⟨h.increasing, pairwise_singleton _ _, ?_⟩
      intro id hid new hnew
      -- ids are given out in order and never again
      obtain ⟨key, hkey, rfl⟩ := mem_map.1 hid
      rw [mem_singleton.1 hnew]
      exact (h.bounds key hkey).2
    bounds := by
      rw [hkeys]
      refine forall_mem_append.2 ⟨fun key hkey => ?_, forall_mem_singleton.2 ?_⟩
      · exact ⟨(h.bounds key hkey).1, Nat.lt_succ_of_lt (h.bounds key hkey).2⟩
      · exact ⟨h.next ▸ Nat.succ_pos _, Nat.lt_succ_self _⟩
    next := by rw [hkeys, hnext, h.next, length_append, length_singleton]
    maxOpen := hopen
    perPeer := by
      intro hmax identity
      show _ ≤ st.maxSessionsPerPeerIdentity
      rw [h.storedOf_insert hroom]
      split
      · next howner => exact hpeer hmax identity howner
      · exact h.perPeer hmax identity }

/-! ### The steps -/

/-- The same sessions in the table, with the same counters, and the same objects. -/
structure SameTable (st st' : SessionStore χ) : Prop where
  heap : st'.heap = st.heap
  stored : st'.stored = st.stored
  count : st'.sessionCount = st.sessionCount
  visible : st'.sessionCountVisible = st.sessionCountVisible
  next : st'.nextSessionId = st.nextSessionId

theorem TableOk.growCells : TableOk st.growCells ∧ SameTable st st.growCells := by
  have hstores := h.stores.growCells
  unfold SessionStore.growCells at hstores ⊢
  split at hstores
  · next hfull =>
    rw [if_pos hfull]
    exact ⟨h.of_same hstores rfl h.visible rfl rfl rfl, rfl, hstores.stored, rfl, rfl, rfl⟩
  · next hfull =>
    rw [if_neg hfull]
    exact ⟨h, rfl, rfl, rfl, rfl, rfl⟩

/-- The answer of an addition: a refusal changes nothing in the table, and an added session is
    the newest object, with the id the counter had. -/
def AddOutcome (st : SessionStore χ) (new : NewSession χ) (world : AddWorld) :
    Except (Int × String) AddedSession × SessionStore χ → Prop
  | (.error _, st') => SameTable st st'
  | (.ok added, st') =>
    st'.heap = st.heap ++ [new.toSession added.sessionId world] ∧
    st'.stored = st.stored ++ [added.addr] ∧ added.addr = st.heap.length ∧
    added.sessionId = st.nextSessionId ∧ added.ownerToken = world.ownerToken

omit h in
theorem AddOutcome.of_same {new : NewSession χ} {world : AddWorld}
    {r : Except (Int × String) AddedSession × SessionStore χ} (h : SameTable st st')
    (hr : AddOutcome st' new world r) : AddOutcome st new world r := by
  obtain ⟨answer, st''⟩ := r
  cases answer with
  | error e =>
    exact ⟨hr.heap.trans h.heap, hr.stored.trans h.stored, hr.count.trans h.count,
      hr.visible.trans h.visible, hr.next.trans h.next⟩
  | ok added =>
    obtain ⟨hheap, hstored, haddr, hid, htoken⟩ := hr
    exact ⟨h.heap ▸ hheap, h.stored ▸ hstored, h.heap ▸ haddr, h.next ▸ hid, htoken⟩

theorem TableOk.create (new : NewSession χ) (world : AddWorld)
    (hopen : st.maxOpenSessions > 0 → st.sessionCount < st.maxOpenSessions)
    (hpeer : st.maxSessionsPerPeerIdentity > 0 → ∀ identity,
      CStr.present new.identity = some identity →
      (st.storedOf identity).length < st.maxSessionsPerPeerIdentity) :
    TableOk (st.create new world).2 ∧ AddOutcome st new world (st.create new world) := by
  have hgrow := h.growCells
  have hroom := growCells_room h.stores
  have hlimits : st.growCells.maxOpenSessions = st.maxOpenSessions ∧
      st.growCells.maxSessionsPerPeerIdentity = st.maxSessionsPerPeerIdentity := by
    unfold SessionStore.growCells
    split <;> exact ⟨rfl, rfl⟩
  have hkeys : st.growCells.keys = st.keys := by
    rw [SessionStore.keys, hgrow.2.heap, SessionStore.keys]
  have hof : ∀ identity, st.growCells.storedOf identity = st.storedOf identity := fun identity => by
    rw [SessionStore.storedOf, hgrow.2.stored, hkeys, SessionStore.storedOf]
  unfold SessionStore.create
  split
  · exact ⟨h, rfl, rfl, rfl, rfl, rfl⟩
  · -- every failure from here on leaves the array grown, and nothing else
    split
    · exact hgrow
    · split
      · exact hgrow
      · split
        · exact hgrow
        · split
          · exact hgrow
          · refine ⟨hgrow.1.insert hroom new world ?_ ?_, ?_⟩
            · rw [hlimits.1, hgrow.2.count]
              exact hopen
            · intro hmax identity howner
              rw [hof, hlimits.2]
              exact hpeer (hlimits.2 ▸ hmax) identity howner
            · refine ⟨?_, ?_, congrArg length hgrow.2.heap, hgrow.2.next, rfl⟩
              · show st.growCells.heap ++ [_] = st.heap ++ [_]
                rw [hgrow.2.heap]
              · show (st.growCells.insert new world).2.stored = _
                rw [(hgrow.1.stores.insert hroom new world).stored, hgrow.2.stored]

theorem TableOk.addSession (new : NewSession χ) (world : AddWorld) :
    TableOk (addSession st new world).2 ∧ AddOutcome st new world (addSession st new world) := by
  unfold Ducknng.addSession
  split
  · exact ⟨h, rfl, rfl, rfl, rfl, rfl⟩
  · next hlimits =>
    have hopen : st.maxOpenSessions > 0 → st.sessionCount < st.maxOpenSessions := by
      intro hmax
      by_contra hge
      rw [limitRefusal] at hlimits
      split at hlimits
      · cases hlimits
      · rw [if_pos ⟨hmax, Nat.le_of_not_lt hge⟩] at hlimits
        cases hlimits
    have hpeer : st.maxSessionsPerPeerIdentity > 0 → ∀ identity,
        CStr.present new.identity = some identity →
        (st.storedOf identity).length < st.maxSessionsPerPeerIdentity := by
      intro hmax identity howner
      by_contra hge
      rw [limitRefusal, howner] at hlimits
      simp only [h.ownedBy, hmax, Nat.le_of_not_lt hge, ge_iff_le, and_self, if_true] at hlimits
      split at hlimits
      · cases hlimits
      · split at hlimits <;> cases hlimits
    split
    · exact ⟨h.of_same h.stores rfl h.visible rfl rfl rfl, rfl, rfl, rfl, rfl, rfl⟩
    · next peers _ =>
      have hsame : TableOk { st with peers := peers } :=
        h.of_same h.stores rfl h.visible rfl rfl rfl
      obtain ⟨hok, hout⟩ := hsame.create new world hopen hpeer
      have htable : SameTable st { st with peers := peers } := ⟨rfl, rfl, rfl, rfl, rfl⟩
      exact ⟨hok, AddOutcome.of_same htable hout⟩

/-- A cell of the table that a scan found. -/
theorem TableOk.at_cell (hi : i < st.sessionCount) (hs : st.sessionAt i = some s) :
    ∃ addr, st.stored[i]? = some addr ∧ st.cell i = some addr ∧ st.heap[addr]? = some s := by
  have hlen : i < st.stored.length := h.stores.1 ▸ hi
  rw [h.stores.sessionAt hlen] at hs
  exact ⟨st.stored[i], getElem?_eq_getElem hlen, h.stores.cell hlen, hs⟩

/-- The store without the session at a place of the table, which is closing from now on. -/
def SessionStore.Detached (st : SessionStore χ) (addr : Nat) (st' : SessionStore χ) : Prop :=
  ∃ i, st.stored[i]? = some addr ∧ i < st.sessionCount ∧
    st' = (st.dropCell i).modify addr Session.markClosing

/-- A lookup by id and credentials finds a stored session that has them. -/
def Matches (st : SessionStore χ) (sessionId : Nat) (token identity : Option CStr) (addr : Nat) :
    Prop :=
  addr ∈ st.stored ∧ ∃ s, st.heap[addr]? = some s ∧ s.sessionId = sessionId ∧
    s.ownerAuth token identity = .ok

theorem TableOk.removeSession_spec (sessionId : Nat)
    (token identity : Option CStr) :
    (∃ addr, (removeSession st sessionId token identity).1 = .found addr ∧
      Matches st sessionId token identity addr ∧
      st.Detached addr (removeSession st sessionId token identity).2) ∨
    ((∀ addr, (removeSession st sessionId token identity).1 ≠ .found addr) ∧
      (removeSession st sessionId token identity).2 = st) := by
  unfold removeSession
  split
  · exact .inr ⟨fun _ => by simp, rfl⟩
  · split
    · exact .inr ⟨fun _ => by simp, rfl⟩
    · next i hfind =>
      obtain ⟨_, hi, s, hs, hid⟩ := findSession_spec hfind
      rw [Nat.zero_add] at hi
      obtain ⟨addr, hstored, hcell, hheap⟩ := h.at_cell hi hs
      rw [hs]
      dsimp only
      split
      · exact .inr ⟨fun _ => by simp, rfl⟩
      · next hauth =>
        obtain ⟨addr', hstored', hdetach, _⟩ := h.detach hi
        obtain rfl : addr = addr' := Option.some.inj (hstored.symm.trans hstored')
        rw [hdetach]
        exact .inl ⟨addr, rfl, ⟨mem_of_getElem? hstored, s, hheap, hid, not_not.1 hauth⟩,
          i, hstored, hi, rfl⟩

theorem TableOk.acquireSession_spec (sessionId : Nat)
    (token identity : Option CStr) :
    (∃ addr s, (acquireSession st sessionId token identity).1 = .found addr ∧
      Matches st sessionId token identity addr ∧ st.heap[addr]? = some s ∧ s.closing = false ∧
      (acquireSession st sessionId token identity).2 =
        st.modify addr fun s => { s with refcount := s.refcount + 1 }) ∨
    ((∀ addr, (acquireSession st sessionId token identity).1 ≠ .found addr) ∧
      (acquireSession st sessionId token identity).2 = st) := by
  unfold acquireSession
  split
  · exact .inr ⟨fun _ => by simp, rfl⟩
  · split
    · exact .inr ⟨fun _ => by simp, rfl⟩
    · next i hfind =>
      obtain ⟨_, hi, s, hs, hid⟩ := findSession_spec hfind
      rw [Nat.zero_add] at hi
      obtain ⟨addr, hstored, hcell, hheap⟩ := h.at_cell hi hs
      rw [hs, hcell]
      dsimp only
      split
      · exact .inr ⟨fun _ => by simp, rfl⟩
      · next hauth =>
        split
        · exact .inr ⟨fun _ => by simp, rfl⟩
        · next hclosing =>
          exact .inl ⟨addr, s, rfl, ⟨mem_of_getElem? hstored, s, hheap, hid,
            not_not.1 hauth⟩, hheap, eq_false_of_ne_true hclosing, rfl⟩

theorem TableOk.pruneIdle_spec (nowMs i : Nat) :
    (∃ addr j s, (pruneIdle st nowMs i).1 = some (addr, j) ∧ st.heap[addr]? = some s ∧
      s.idle st.sessionIdleMs nowMs = true ∧ st.Detached addr (pruneIdle st nowMs i).2) ∨
    ((pruneIdle st nowMs i).1 = none ∧ (pruneIdle st nowMs i).2 = st) := by
  unfold pruneIdle
  split
  · exact .inr ⟨rfl, rfl⟩
  · split
    · exact .inr ⟨rfl, rfl⟩
    · next j hfind =>
      obtain ⟨hle, hlt, s, hs, hidle⟩ := findIdle_spec hfind
      have hj : j < st.sessionCount := by omega
      obtain ⟨addr, hstored, hcell, hheap⟩ := h.at_cell hj hs
      obtain ⟨addr', hstored', hdetach, _⟩ := h.detach hj
      obtain rfl : addr = addr' := Option.some.inj (hstored.symm.trans hstored')
      rw [hdetach]
      exact .inl ⟨addr, j, s, rfl, hheap, hidle, j, hstored, hj, rfl⟩

theorem TableOk.detached (hd : st.Detached addr st') :
    TableOk st' := by
  obtain ⟨i, hstored, hi, rfl⟩ := hd
  obtain ⟨addr', hstored', _, hok⟩ := h.detach hi
  obtain rfl : addr = addr' := Option.some.inj (hstored.symm.trans hstored')
  exact hok

end

/-- What holds of the emptied table, and still holds when a session is marked, holds when all
    sessions have been detached. -/
theorem detachAll_rule {P : SessionStore χ → Prop}
    (hempty : P { st with cells := [], sessionCount := 0, sessionCountVisible := 0 })
    (hmark : ∀ st addr, P st → P (st.modify addr Session.markClosing)) : P (detachAll st).2 :=
  foldlRecOn st.stored _ hempty fun st h addr _ => hmark st addr h

theorem detachAll_stored : (detachAll st).2.stored = [] :=
  detachAll_rule (P := fun st' => st'.stored = []) rfl fun _ _ h => h

theorem TableOk.detachAll (h : TableOk st) : TableOk (detachAll st).2 := by
  have hempty : TableOk { st with cells := [], sessionCount := 0, sessionCountVisible := 0 } := {
    stores := ⟨rfl, 0, rfl⟩
    visible := rfl
    nodup := nodup_nil
    inHeap := forall_mem_nil _
    increasing := h.increasing
    bounds := h.bounds
    next := h.next
    maxOpen := fun _ => Nat.zero_le _
    perPeer := fun _ _ => Nat.zero_le _ }
  exact detachAll_rule hempty fun _ addr h => h.modify keepsKey_markClosing addr

end

/-! ### Runs -/

section
variable {χ : Type} {st st' : SessionStore χ} {f : Session χ → Session χ} {s : Session χ}

/-- One section under the service mutex, or something that happens inside a session object. -/
inductive TableOp (χ : Type) where
  | add (new : NewSession χ) (world : AddWorld)
  | remove (sessionId : Nat) (token identity : Option CStr)
  | acquire (sessionId : Nat) (token identity : Option CStr)
  | prune (nowMs i : Nat)
  | detachAll
  | shutDown
  | inside (addr : Nat) (poolIndex : Option Nat) (closing : Bool) (refcount torn : Nat)
      (work : SessionWork χ)

/-- A step of the table: none of them ever blocks. -/
def tableStep (st : SessionStore χ) : TableOp χ → Option (SessionStore χ)
  | .add new world => some (addSession st new world).2
  | .remove sessionId token identity => some (removeSession st sessionId token identity).2
  | .acquire sessionId token identity => some (acquireSession st sessionId token identity).2
  | .prune nowMs i => some (pruneIdle st nowMs i).2
  | .detachAll => some (detachAll st).2
  | .shutDown => some { st with shuttingDown := true }
  | .inside addr poolIndex closing refcount torn work =>
    some (st.modify addr fun s =>
      { s with
        poolIndex := poolIndex
        closing := closing
        refcount := refcount
        torn := torn
        work := work })

/-! ### What a step does -/

/-- The same session, whatever has happened inside it. -/
structure SameSession (s s' : Session χ) : Prop where
  sessionId : s'.sessionId = s.sessionId
  ownerToken : s'.ownerToken = s.ownerToken
  ownerIdentity : s'.ownerIdentity = s.ownerIdentity
  isUpload : s'.isUpload = s.isUpload

theorem SameSession.refl (s : Session χ) : SameSession s s := ⟨rfl, rfl, rfl, rfl⟩

/-- The ids an operation hands out. -/
def TableOp.handsOut (st : SessionStore χ) : TableOp χ → List Nat
  | .add new world =>
    match (addSession st new world).1 with
    | .ok added => [added.sessionId]
    | .error _ => []
  | _ => []

/-- What a step does to the table, with the ids that it hands out. -/
inductive TableEffect (st : SessionStore χ) : List Nat → SessionStore χ → Prop
  | added (new : NewSession χ) (world : AddWorld) :
    TableEffect st ((TableOp.add new world).handsOut st) (addSession st new world).2
  | detached {addr : Nat} {st' : SessionStore χ} (hd : st.Detached addr st') : TableEffect st [] st'
  | modified (addr : Nat) {f : Session χ → Session χ} (hf : ∀ s, SameSession s (f s)) :
    TableEffect st [] (st.modify addr f)
  | detachedAll : TableEffect st [] (detachAll st).2
  | same (shuttingDown : Bool) : TableEffect st [] { st with shuttingDown := shuttingDown }

theorem TableOk.effect {op : TableOp χ} (h : TableOk st) (hstep : tableStep st op = some st') :
    TableEffect st (op.handsOut st) st' := by
  cases op with
  | add new world =>
    cases hstep
    exact .added new world
  | remove sessionId token identity =>
    cases hstep
    rcases h.removeSession_spec sessionId token identity with ⟨addr, _, _, hd⟩ | ⟨_, hsame⟩
    · exact .detached hd
    · rw [hsame]
      exact .same st.shuttingDown
  | acquire sessionId token identity =>
    cases hstep
    rcases h.acquireSession_spec sessionId token identity with
      ⟨addr, s, _, _, _, _, hst⟩ | ⟨_, hsame⟩
    · rw [hst]
      exact .modified addr fun _ => ⟨rfl, rfl, rfl, rfl⟩
    · rw [hsame]
      exact .same st.shuttingDown
  | prune nowMs i =>
    cases hstep
    rcases h.pruneIdle_spec nowMs i with ⟨addr, j, s, _, _, _, hd⟩ | ⟨_, hsame⟩
    · exact .detached hd
    · rw [hsame]
      exact .same st.shuttingDown
  | detachAll =>
    cases hstep
    exact .detachedAll
  | shutDown =>
    cases hstep
    exact .same true
  | inside addr poolIndex closing refcount torn work =>
    cases hstep
    exact .modified addr fun _ => ⟨rfl, rfl, rfl, rfl⟩

section
variable {ids : List Nat}

theorem keepsKey_of_same (hf : ∀ s, SameSession s (f s)) : KeepsKey f :=
  fun s => ⟨(hf s).sessionId, (hf s).ownerIdentity⟩

/-- A step keeps the table in order. -/
theorem TableEffect.ok (he : TableEffect st ids st') (h : TableOk st) : TableOk st' := by
  cases he with
  | added new world => exact (h.addSession new world).1
  | detached hd => exact h.detached hd
  | modified addr hf => exact h.modify (keepsKey_of_same hf) addr
  | detachedAll => exact h.detachAll
  | same => exact h.of_same h.stores rfl h.visible rfl rfl rfl

/-! ### What stays as it is -/

theorem SameSession.trans {s' s'' : Session χ} (h : SameSession s s') (h' : SameSession s' s'') :
    SameSession s s'' :=
  ⟨h'.sessionId.trans h.sessionId, h'.ownerToken.trans h.ownerToken,
    h'.ownerIdentity.trans h.ownerIdentity, h'.isUpload.trans h.isUpload⟩

namespace SessionStore

/-- Every session of the first store is one of the second, at the same address. -/
def Extends (st' st : SessionStore χ) : Prop :=
  ∀ (addr : Nat) (s : Session χ), st.heap[addr]? = some s →
    ∃ s', st'.heap[addr]? = some s' ∧ SameSession s s'

theorem Extends.of_heap (hheap : st'.heap = st.heap) : st'.Extends st :=
  fun _ s hs => ⟨s, hheap ▸ hs, .refl s⟩

theorem Extends.trans {st'' : SessionStore χ} (h : st''.Extends st')
    (h' : st'.Extends st) : st''.Extends st := by
  intro addr s hs
  obtain ⟨s', hs', hsame⟩ := h' addr s hs
  obtain ⟨s'', hs'', hsame'⟩ := h addr s' hs'
  exact ⟨s'', hs'', hsame.trans hsame'⟩

theorem Extends.length (h : st'.Extends st) : st.heap.length ≤ st'.heap.length := by
  by_contra hlt
  obtain ⟨s', hs', _⟩ := h st'.heap.length _ (getElem?_eq_getElem (Nat.lt_of_not_le hlt))
  exact Nat.lt_irrefl _ (List.getElem?_eq_some_iff.1 hs').1

theorem extends_modify (hf : ∀ s, SameSession s (f s))
    (addr : Nat) : (st.modify addr f).Extends st := by
  intro a s hs
  refine ⟨if addr = a then f s else s, ?_, ?_⟩
  · show (st.heap.modify addr f)[a]? = _
    rw [getElem?_modify, hs]
    split <;> rfl
  · split
    · exact hf s
    · exact .refl s

end SessionStore

theorem sameSession_markClosing (s : Session χ) : SameSession s s.markClosing :=
  ⟨rfl, rfl, rfl, rfl⟩

theorem SessionStore.Detached.extends (h : st.Detached addr st') :
    st'.Extends st := by
  obtain ⟨i, _, _, rfl⟩ := h
  have hmodify : ((st.dropCell i).modify addr Session.markClosing).Extends (st.dropCell i) :=
    extends_modify sameSession_markClosing addr
  exact hmodify

theorem SessionStore.Detached.stored (hok : TableOk st) (h : st.Detached addr st') :
    ∀ a ∈ st'.stored, a ∈ st.stored := by
  obtain ⟨i, _, hi, rfl⟩ := h
  intro a ha
  have hstored := (hok.stores.dropCell (hok.stores.1 ▸ hi)).stored
  have hmem : a ∈ st.stored.eraseIdx i := hstored ▸ ha
  exact (eraseIdx_sublist _ _).subset hmem

/-- No step forgets a session, changes what it is, or puts a detached one back. -/
theorem TableEffect.extends (he : TableEffect st ids st') (h : TableOk st) :
    st'.Extends st ∧ ∀ addr ∈ st'.stored, addr < st.heap.length → addr ∈ st.stored := by
  cases he with
  | added new world =>
    have hout := (h.addSession new world).2
    cases hadd : Ducknng.addSession st new world with
    | mk answer st' =>
      rw [hadd] at hout
      cases answer with
      | error e => exact ⟨.of_heap hout.heap, fun addr haddr _ => hout.stored ▸ haddr⟩
      | ok added =>
        obtain ⟨hheap, hstored, haddr, _⟩ := hout
        refine ⟨fun a s hs => ⟨s, ?_, .refl s⟩, fun a ha hlt => ?_⟩
        · rw [hheap, List.getElem?_append_left (List.getElem?_eq_some_iff.1 hs).1, hs]
        · rw [hstored] at ha
          rcases mem_append.1 ha with ha | ha
          · exact ha
          · rw [mem_singleton.1 ha, haddr] at hlt
            exact absurd hlt (Nat.lt_irrefl _)
  | detached hd => exact ⟨hd.extends, fun a ha _ => hd.stored h a ha⟩
  | modified addr hf => exact ⟨extends_modify hf addr, fun a ha _ => ha⟩
  | detachedAll =>
    refine ⟨detachAll_rule (P := fun st' => st'.Extends st) (.of_heap rfl) fun _ addr h =>
      (extends_modify sameSession_markClosing addr).trans h, fun a ha _ => ?_⟩
    rw [detachAll_stored] at ha
    cases ha
  | same => exact ⟨.of_heap rfl, fun a ha _ => ha⟩

/-! ### What the invariant says about the sessions in the table -/

/-- The sessions in the table. -/
def SessionStore.sessions (st : SessionStore χ) : List (Session χ) :=
  st.stored.filterMap fun addr => st.heap[addr]?

namespace TableOk

section
variable (h : TableOk st)
include h

/-- Every address in the table is one of a session. -/
theorem map_sessions :
    st.sessions.map some = st.stored.map fun addr => st.heap[addr]? := by
  have hall : ∀ addrs : List Nat, (∀ addr ∈ addrs, addr < st.heap.length) →
      (addrs.filterMap fun addr => st.heap[addr]?).map some =
        addrs.map fun addr => st.heap[addr]? := by
    intro addrs
    induction addrs with
    | nil => exact fun _ => rfl
    | cons addr addrs ih =>
      intro hlt
      have hget := getElem?_eq_getElem (hlt addr mem_cons_self)
      rw [filterMap_cons_some hget, map_cons, map_cons,
        ih fun a ha => hlt a (mem_cons_of_mem _ ha), hget]
  exact hall st.stored h.inHeap

theorem sessions_length : st.sessions.length = st.sessionCount := by
  have hlen := congrArg length h.map_sessions
  rw [length_map, length_map] at hlen
  rw [hlen, h.stores.1]

theorem cells_length :
    (st.cells.filterMap id).length = st.sessionCount := by
  obtain ⟨hcount, k, hcells⟩ := h.stores
  rw [hcount, hcells]
  simp

theorem sessions_owned (identity : CStr) :
    (st.sessions.filter fun s => s.ownerIdentity = some identity).length =
      (st.storedOf identity).length := by
  have hcount := congrArg (countP fun s : Option (Session χ) =>
    decide ((s.bind fun s => s.ownerIdentity) = some identity)) h.map_sessions
  rw [countP_map, countP_map] at hcount
  rw [SessionStore.storedOf, ← countP_eq_length_filter, ← countP_eq_length_filter]
  refine Eq.trans ?_ (hcount.trans (countP_congr fun addr _ => ?_))
  · exact countP_congr fun s _ => by simp
  · simp [owner_of_keys]

/-- Ids determine objects. -/
theorem addr_of_id {a b : Nat} {t : Session χ}
    (hs : st.heap[a]? = some s) (ht : st.heap[b]? = some t) (hid : s.sessionId = t.sessionId) :
    a = b := by
  have hget : ∀ {i : Nat} {s : Session χ}, st.heap[i]? = some s →
      (st.keys.map Prod.fst)[i]? = some s.sessionId := by
    intro i s hs
    simp [SessionStore.keys, hs]
  have hnodup : (st.keys.map Prod.fst).Nodup := h.increasing.imp Nat.ne_of_lt
  obtain ⟨ha, hsa⟩ := List.getElem?_eq_some_iff.1 (hget hs)
  obtain ⟨hb, htb⟩ := List.getElem?_eq_some_iff.1 (hget ht)
  exact (Nodup.getElem_inj_iff hnodup).1 (hsa.trans (hid.trans htb.symm))

theorem sessions_ids :
    (st.sessions.map fun s => s.sessionId).Nodup := by
  rw [sessions, map_filterMap]
  refine h.nodup.filterMap ?_
  intro a b id ha hb
  obtain ⟨s, hs, rfl⟩ := Option.map_eq_some_iff.1 ha
  obtain ⟨t, ht, hid⟩ := Option.map_eq_some_iff.1 hb
  exact h.addr_of_id hs ht hid.symm

theorem id_bounds (hs : s ∈ st.heap) :
    0 < s.sessionId ∧ s.sessionId < st.nextSessionId :=
  h.bounds (s.sessionId, s.ownerIdentity) (mem_map.2 ⟨s, hs, rfl⟩)

/-- A lookup by the id of a stored session finds it. -/
theorem acquireSession_stored (hstored : addr ∈ st.stored)
    (hs : st.heap[addr]? = some s) (token identity : Option CStr) :
    acquireSession st s.sessionId token identity =
      if s.ownerAuth token identity ≠ .ok then (.unauthorized (s.ownerAuth token identity), st)
      else if s.closing then (.notFound, st)
      else (.found addr, st.modify addr fun s => { s with refcount := s.refcount + 1 }) := by
  obtain ⟨j, hj, rfl⟩ := getElem_of_mem hstored
  have hat : st.sessionAt j = some s := (h.stores.sessionAt hj).trans hs
  have hin : j < 0 + st.sessionCount := by
    rw [Nat.zero_add, h.stores.1]
    exact hj
  have hid : ((st.sessionAt j).map fun s => s.sessionId) = some s.sessionId := by
    rw [hat]
    rfl
  obtain ⟨k, hk⟩ : ∃ k, st.findSession s.sessionId st.sessionCount 0 = some k := by
    rw [findSession_eq]
    refine Option.isSome_iff_exists.1 (find?_isSome.2 ⟨j, ?_, decide_eq_true hid⟩)
    exact mem_range'_1.2 ⟨Nat.zero_le j, hin⟩
  obtain ⟨-, hlt, t, ht, hid⟩ := findSession_spec hk
  rw [Nat.zero_add] at hlt
  obtain ⟨addr, -, hcell, hheap⟩ := h.at_cell hlt ht
  -- ids determine sessions
  obtain rfl : addr = st.stored[j] := h.addr_of_id hheap hs hid
  obtain rfl : s = t := Option.some.inj (hs.symm.trans hheap)
  have hpos : s.sessionId ≠ 0 := Nat.ne_of_gt (h.id_bounds (mem_of_getElem? hs)).1
  unfold acquireSession
  rw [if_neg hpos, hk]
  dsimp only
  rw [hcell, ht]

end

end TableOk

/-- The configured limits. -/
def SessionStore.limits (st : SessionStore χ) : Nat × Nat :=
  (st.maxOpenSessions, st.maxSessionsPerPeerIdentity)

/-- The limits and the time after which a session is idle. -/
def SessionStore.settings (st : SessionStore χ) : (Nat × Nat) × Nat :=
  (st.limits, st.sessionIdleMs)

/-! ### Ids handed out -/

/-- The ids handed out in a run, in order. -/
def handedOut (st : SessionStore χ) : List (TableOp χ) → List Nat
  | [] => []
  | op :: ops => op.handsOut st ++ ((tableStep st op).map fun st' => handedOut st' ops).getD []

namespace SessionStore

theorem Detached.frame (h : st.Detached addr st') :
    st'.settings = st.settings ∧ st'.keys = st.keys := by
  obtain ⟨i, _, _, rfl⟩ := h
  exact ⟨rfl, keys_modify keepsKey_markClosing addr⟩

end SessionStore

theorem addSession_settings (new : NewSession χ) (world : AddWorld) :
    (addSession st new world).2.settings = st.settings := by
  unfold addSession
  split
  · rfl
  · split
    · rfl
    · have hgrown : ∀ st : SessionStore χ, st.growCells.settings = st.settings := fun st => by
        unfold growCells
        split <;> rfl
      unfold create
      split
      · rfl
      · -- whatever fails, the array has been grown and nothing else has changed
        repeat' split
        all_goals exact hgrown _

/-- A step that creates no object hands out no id. -/
theorem keepsIds (hsettings : st'.settings = st.settings) (hkeys : st'.keys = st.keys) :
    st'.settings = st.settings ∧ st'.keys.map Prod.fst = st.keys.map Prod.fst ++ [] :=
  ⟨hsettings, by rw [hkeys, append_nil]⟩

/-- A step keeps the settings, and the objects there have been grow by the one it hands out. -/
theorem TableEffect.frame (he : TableEffect st ids st') (h : TableOk st) :
    st'.settings = st.settings ∧ st'.keys.map Prod.fst = st.keys.map Prod.fst ++ ids := by
  cases he with
  | added new world =>
    refine ⟨addSession_settings new world, ?_⟩
    have hout := (h.addSession new world).2
    rw [TableOp.handsOut]
    cases hadd : Ducknng.addSession st new world with
    | mk answer st' =>
      rw [hadd] at hout
      cases answer with
      | error e => simp [SessionStore.keys, hout.heap]
      | ok added => simp [SessionStore.keys, hout.1, NewSession.toSession]
  | detached hd => exact keepsIds hd.frame.1 hd.frame.2
  | modified addr hf => exact keepsIds rfl (keys_modify (keepsKey_of_same hf) addr)
  | detachedAll =>
    have hkeys : (detachAll st).2.keys = st.keys := detachAll_rule (P := fun st' =>
      st'.keys = st.keys) rfl fun _ addr h => (keys_modify keepsKey_markClosing addr).trans h
    exact keepsIds (detachAll_rule (P := fun st' => st'.settings = st.settings) rfl fun _ _ h => h)
      hkeys
  | same => exact keepsIds rfl rfl

end

/-- A whole run keeps the table in order. -/
theorem TableOk.run {ops : List (TableOp χ)} (h : TableOk st)
    (hrun : Runs.run tableStep st ops = some st') :
    TableOk st' ∧ st'.limits = st.limits ∧
      st'.keys.map Prod.fst = st.keys.map Prod.fst ++ handedOut st ops := by
  induction ops generalizing st with
  | nil =>
    cases hrun
    exact ⟨h, rfl, (append_nil _).symm⟩
  | cons op ops ih =>
    obtain ⟨t, hstep, hrest⟩ := Runs.run_cons_eq_some.1 hrun
    have heffect := h.effect hstep
    obtain ⟨hsettings, hkeys⟩ := heffect.frame h
    obtain ⟨hok, hlimits', hkeys'⟩ := ih (heffect.ok h) hrest
    refine ⟨hok, hlimits'.trans (congrArg Prod.fst hsettings), ?_⟩
    rw [hkeys', hkeys, handedOut, hstep, Option.map_some, Option.getD_some, append_assoc]

/-- **The session table over every run.** From a created service on, with fixed limits: the
    ids in the table are not zero and pairwise different, ids are handed out in increasing
    order, the counters agree with the array, the limits are kept, and a refused addition
    leaves the table as it was. The next id, a `uint64_t` in the source, does not wrap before
    2^64 - 1 sessions have been opened. -/
theorem sessionTable_ok (maxOpen maxPerPeer maxRate idleMs : Nat) (ops : List (TableOp χ))
    (st : SessionStore χ)
    (hrun : Runs.run tableStep (init maxOpen maxPerPeer maxRate idleMs) ops =
      some st) :
    (∀ s ∈ st.sessions, s.sessionId ≠ 0) ∧
    (st.sessions.map fun s => s.sessionId).Nodup ∧
    (handedOut (init maxOpen maxPerPeer maxRate idleMs) ops).Pairwise (· < ·) ∧
    (∀ s ∈ st.sessions, s.sessionId ∈
      handedOut (init maxOpen maxPerPeer maxRate idleMs) ops) ∧
    ((handedOut (init maxOpen maxPerPeer maxRate idleMs) ops).length < 2 ^ 64 - 1 →
      st.nextSessionId < 2 ^ 64) ∧
    st.sessionCount = st.sessionCountVisible ∧
    st.sessionCount = st.sessions.length ∧
    st.sessionCount = (st.cells.filterMap id).length ∧
    (maxOpen > 0 → st.sessionCount ≤ maxOpen) ∧
    (maxPerPeer > 0 → ∀ identity,
      (st.sessions.filter fun s => s.ownerIdentity = some identity).length ≤ maxPerPeer) ∧
    ∀ new world refusal st', addSession st new world = (.error refusal, st') →
      SameTable st st' := by
  obtain ⟨hok, hlimits, hkeys⟩ := (tableOk_init maxOpen maxPerPeer maxRate idleMs).run hrun
  obtain ⟨rfl, rfl⟩ : st.maxOpenSessions = maxOpen ∧ st.maxSessionsPerPeerIdentity = maxPerPeer :=
    ⟨congrArg Prod.fst hlimits, congrArg Prod.snd hlimits⟩
  have hheap : ∀ s ∈ st.sessions, s ∈ st.heap := by
    intro s hs
    obtain ⟨addr, _, haddr⟩ := mem_filterMap.1 hs
    exact mem_of_getElem? haddr
  -- the keys of the heap are the ids in the order they were handed out
  have hids : st.keys.map Prod.fst = handedOut
      (init st.maxOpenSessions st.maxSessionsPerPeerIdentity maxRate idleMs) ops :=
    hkeys
  refine ⟨fun s hs => Nat.ne_of_gt (hok.id_bounds (hheap s hs)).1, hok.sessions_ids,
    hids ▸ hok.increasing, ?_, ?_, hok.visible.symm, hok.sessions_length.symm,
    hok.cells_length.symm, hok.maxOpen, ?_, ?_⟩
  · intro s hs
    rw [← hids, SessionStore.keys, map_map]
    exact mem_map.2 ⟨s, hheap s hs, rfl⟩
  · intro hopens
    rw [← hids, length_map] at hopens
    rw [hok.next]
    omega
  · intro hmax identity
    rw [hok.sessions_owned]
    exact hok.perPeer hmax identity
  · intro new world refusal st' hadd
    have hout := (hok.addSession new world).2
    rw [hadd] at hout
    exact hout

/-- Three sessions are asked for by one identity, which may have two; one is closed again. -/
def openTwoCloseOne : List (TableOp Unit) :=
  let token := CStr.t
  let alice := CStr.a
  let world : AddWorld := ⟨10, true, true, true, .ok (), true, true, true, token, token⟩
  [.add ⟨some alice, false, none, .query 10 [()] 1 false⟩ world,
    .add ⟨some alice, true, none, .upload 20⟩ world,
    .add ⟨some alice, false, none, .query 30 [] 1 false⟩ world,
    .remove 1 (some token) (some alice)]

theorem sessionTable_ok_openTwoCloseOne :
    ∃ st, Runs.run tableStep (init 5 2 0 0) openTwoCloseOne = some st ∧
      (st.sessions.map fun s => s.sessionId) = [2] ∧
      (handedOut (init 5 2 0 0) openTwoCloseOne) = [1, 2] ∧
      (5 > 0 → st.sessionCount ≤ 5) := by
  refine ⟨_, rfl, by decide, by decide, ?_⟩
  exact (sessionTable_ok 5 2 0 0 openTwoCloseOne _ rfl).2.2.2.2.2.2.2.2.1

end

end Ducknng
