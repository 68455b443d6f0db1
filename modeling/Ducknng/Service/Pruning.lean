import Ducknng.Service.Lifetimes

namespace Ducknng

open List

/-!
# What a prune removes

The dispatcher prunes idle sessions before it looks at a request: those that nobody holds,
that are neither cancelled nor exhausted, and that were not used for longer than the limit.

* `pruneIdleSessions_ends` — what a prune removes.
-/

section
variable {χ : Type}

/-! ### What a prune removes -/

/-- Whether a prune removes the session at an address. -/
def SessionStore.idleAt (st : SessionStore χ) (nowMs addr : Nat) : Bool :=
  (st.heap[addr]?.map fun s => s.idle st.sessionIdleMs nowMs) = some true

section
variable {st : SessionStore χ} {nowMs n i j : Nat}

/-- A round over the rest of the table: it finds nothing, or the first idle session. -/
theorem TableOk.pruneIdle_round (h : TableOk st) (hidle : st.sessionIdleMs ≠ 0)
    {front back : List Nat} (hstored : st.stored = front ++ back) (nowMs : Nat) :
    ((pruneIdle st nowMs front.length) = (none, st) ∧ ∀ a ∈ back, st.idleAt nowMs a = false) ∨
      ∃ mid addr rest, back = mid ++ addr :: rest ∧ (∀ a ∈ mid, st.idleAt nowMs a = false) ∧
        st.idleAt nowMs addr = true ∧
        ∃ st', pruneIdle st nowMs front.length = (some (addr, (front ++ mid).length), st') ∧
          TableOk st' ∧ st'.stored = (front ++ mid) ++ rest ∧
          st'.sessionIdleMs = st.sessionIdleMs ∧
          st'.heap = st.heap.modify addr Session.markClosing := by
  have hlen : front.length + back.length = st.sessionCount := by
    rw [h.stores.1, hstored, length_append]
  -- what the cells behind `front` hold
  have hat : ∀ k, (hk : k < back.length) → st.sessionAt (front.length + k) = st.heap[back[k]]? := by
    intro k hk
    have hlt : front.length + k < st.stored.length := by
      rw [hstored, length_append]
      omega
    rw [h.stores.sessionAt hlt]
    congr 1
    simp [hstored]
  have hpass : ∀ k, (hk : k < back.length) →
      ((st.sessionAt (front.length + k)).map fun s => s.idle st.sessionIdleMs nowMs) ≠ some true →
      st.idleAt nowMs back[k] = false := by
    intro k hk hne
    rw [hat k hk] at hne
    exact decide_eq_false hne
  unfold pruneIdle
  rw [if_neg hidle]
  cases hfind : st.findIdle nowMs (st.sessionCount - front.length) front.length with
  -- no cell is idle
  | none =>
    refine .inl ⟨rfl, fun a ha => ?_⟩
    obtain ⟨k, hk, rfl⟩ := getElem_of_mem ha
    rw [SessionStore.findIdle_eq, find?_range'_eq_none] at hfind
    exact hpass k hk (by simpa using hfind (front.length + k) (by omega) (by omega))
  -- the first idle cell splits `back`
  | some j =>
    obtain ⟨hle, hlt, s, hs, hsidle⟩ := SessionStore.findIdle_spec hfind
    obtain ⟨k, rfl⟩ := Nat.exists_eq_add_of_le hle
    have hk : k < back.length := by omega
    have hsplit : back = back.take k ++ back[k] :: back.drop (k + 1) := by
      rw [getElem_cons_drop, take_append_drop]
    have hmid : (front ++ back.take k).length = front.length + k := by
      rw [length_append, length_take_of_le (Nat.le_of_lt hk)]
    obtain ⟨addr, haddr, hdetach, hok⟩ :=
      h.detach (show front.length + k < st.sessionCount by omega)
    obtain rfl : back[k] = addr := by
      rw [hstored] at haddr
      simpa [hk] using haddr
    refine .inr ⟨back.take k, back[k], back.drop (k + 1), hsplit, ?_, ?_,
      (st.dropCell (front.length + k)).modify back[k] Session.markClosing, ?_, hok, ?_, rfl, rfl⟩
    -- the scan has passed the cells in front of it
    · intro a ha
      obtain ⟨m, hm, rfl⟩ := getElem_of_mem ha
      rw [length_take] at hm
      rw [getElem_take]
      rw [SessionStore.findIdle_eq, find?_range'_eq_some] at hfind
      exact hpass m (by omega) (by simpa using hfind.2.2 (front.length + m) (by omega) (by omega))
    · rw [hat k hk] at hs
      refine decide_eq_true ?_
      rw [hs]
      exact congrArg some hsidle
    · dsimp only
      rw [hdetach, hmid]
    · have hdrop := (h.stores.dropCell (show front.length + k < st.stored.length by
        rw [← h.stores.1]; omega)).stored
      refine hdrop.trans ?_
      rw [hstored, eraseIdx_append_of_length_le (Nat.le_add_right _ _), Nat.add_sub_cancel_left,
        append_assoc, eraseIdx_eq_take_drop_succ]

end

variable {st : ServiceState χ}

/-- An action that can be taken in every world. -/
theorem ends_perform {α ρ : Type} {op : ServiceOp χ α} {k : α → ServiceProg χ ρ}
    {Q : ρ → ServiceState χ → Prop} {thread : Nat}
    (h : ∀ world, ∃ a st', serviceExec thread st world op = some (a, st') ∧
      serviceMachine.ends thread (k a) Q st') :
    serviceMachine.ends thread (Prog.perform op >>= k) Q st := by
  constructor
  · obtain ⟨a, st', hexec, -⟩ := h (calmWorld [])
    exact ⟨calmWorld [], (a, st'), hexec⟩
  · intro world answer hanswer
    obtain ⟨a, st', hexec, hrest⟩ := h world
    obtain rfl := Option.some.inj (hexec.symm.trans hanswer)
    exact hrest

/-- A section on a session that is there. -/
theorem ends_onSession {α ρ : Type} {op : ServiceOp χ α} {k : α → ServiceProg χ ρ}
    {Q : ρ → ServiceState χ → Prop} {thread addr : Nat} {s : Session χ}
    {f : Session χ → α × Session χ} (hs : st.store.heap[addr]? = some s)
    (hop : ∀ world, serviceExec thread st world op = st.onSession addr f)
    (hrest : serviceMachine.ends thread (k (f s).1) Q
      { st with store := st.store.modify addr fun s => (f s).2 }) :
    serviceMachine.ends thread (Prog.perform op >>= k) Q st := by
  refine ends_perform fun world => ⟨(f s).1, _, ?_, hrest⟩
  rw [hop]
  unfold ServiceState.onSession
  rw [hs]

theorem SessionStore.heap_modify {st : SessionStore χ} {addr : Nat} {s : Session χ}
    (hs : st.heap[addr]? = some s) (f : Session χ → Session χ) :
    (st.modify addr f).heap[addr]? = some (f s) := by
  show (st.heap.modify addr f)[addr]? = some (f s)
  rw [getElem?_modify_eq, hs]
  rfl

theorem SessionStore.modify_modify (st : SessionStore χ) (addr : Nat) (f g : Session χ →
    Session χ) : (st.modify addr f).modify addr g = st.modify addr (g ∘ f) := by
  unfold SessionStore.modify
  congr 1
  exact modify_modify_eq ..

/-- `ducknng_session_destroy` of a session that nobody holds changes this session only. -/
theorem destroySession_ends {addr : Nat} {s : Session χ}
    (hs : st.store.heap[addr]? = some s) (hfree : s.refcount = 0) (thread : Nat) :
    serviceMachine.ends thread (destroySession addr)
      (fun _ st' => ∃ f, KeepsKey f ∧ st'.store = st.store.modify addr f) st := by
  refine ends_onSession hs (fun _ => rfl) ?_
  have hs₁ := SessionStore.heap_modify hs Session.markClosing
  refine ends_onSession (f := fun s => ((), { s with torn := s.torn + 1 })) hs₁ (fun _ => ?_) ?_
  · refine if_pos ?_
    show ((st.store.modify addr Session.markClosing).heap[addr]?.map fun s => s.refcount) = some 0
    rw [hs₁]
    exact congrArg some hfree
  refine ends_onSession (SessionStore.heap_modify hs₁ _) (fun _ => rfl) ?_
  have hdone : ∃ f, KeepsKey f ∧ ((st.store.modify addr Session.markClosing).modify addr
      (fun s => { s with torn := s.torn + 1 })).modify addr
      (fun s => { s with poolIndex := none, work := s.work.teardown }) =
        st.store.modify addr f := by
    rw [SessionStore.modify_modify, SessionStore.modify_modify]
    refine ⟨_, ?_, rfl⟩
    exact fun _ => ⟨rfl, rfl⟩
  show serviceMachine.ends thread (releaseIfHeld s.poolIndex) _ _
  cases s.poolIndex with
  | none => exact hdone
  | some slot =>
    show serviceMachine.ends thread (Prog.perform (.sql (.pooled slot) .reset) >>= fun _ =>
      Prog.perform (.markFree slot) >>= pure) _ _
    exact ends_perform fun world => ⟨_, _, rfl, ends_perform fun world => ⟨_, _, rfl, hdone⟩⟩

/-- **What a prune removes**, when it runs uninterrupted: from a place in the table on, all idle
    sessions and no others. -/
theorem pruneIdleSessions_ends (htable : TableOk st.store) (hidle : st.store.sessionIdleMs ≠ 0)
    {front back : List Nat} (hstored : st.store.stored = front ++ back) (nowMs rounds thread : Nat)
    (hrounds : back.length < rounds) :
    serviceMachine.ends thread (pruneIdleSessions nowMs rounds front.length)
      (fun _ st' => st'.store.stored =
        front ++ back.filter fun addr => !st.store.idleAt nowMs addr) st := by
  induction rounds generalizing st front back with
  | zero => omega
  | succ rounds ih =>
    have hexec : ∀ {answer store}, pruneIdle st.store nowMs front.length = (answer, store) →
        ∀ world, serviceExec thread st world (.pruneIdle nowMs front.length) =
          some (answer, { st with store := store }) := by
      intro answer store h world
      obtain ⟨rfl, rfl⟩ := Prod.mk.inj h
      rfl
    rcases htable.pruneIdle_round hidle hstored nowMs with
      ⟨hnone, hall⟩ | ⟨mid, addr, rest, rfl, hmid, haddr, store, hsome, hok, hrest, hlimit, hheap⟩
    · refine ends_perform fun world => ⟨_, _, hexec hnone world, ?_⟩
      have hfilter : (back.filter fun addr => !st.store.idleAt nowMs addr) = back := by
        refine filter_eq_self.2 fun a ha => ?_
        rw [hall a ha]
        rfl
      show st.store.stored = _
      rw [hfilter, hstored]
    · -- the session is destroyed before the scan goes on behind its place
      refine ends_perform fun world => ⟨_, _, hexec hsome world, Machine.ends_bind ?_⟩
      obtain ⟨s, hs, hsidle⟩ := Option.map_eq_some_iff.1 (of_decide_eq_true haddr)
      have hs' : store.heap[addr]? = some s.markClosing := by
        rw [hheap, getElem?_modify_eq, hs]
        rfl
      have hfree : s.markClosing.refcount = 0 := by
        simp only [Session.idle, Bool.and_eq_true, decide_eq_true_eq] at hsidle
        exact hsidle.1.1.1.1.2
      refine Machine.ends_mono ?_
        (@destroySession_ends _ { st with store := store } _ _ hs' hfree thread)
      rintro - st₂ ⟨f, hf, hstore⟩
      have hstored₂ : st₂.store.stored = (front ++ mid) ++ rest := hstore ▸ hrest
      have hgo := ih (hstore ▸ hok.modify hf addr) (hstore ▸ hlimit ▸ hidle) hstored₂
        (by rw [length_append, length_cons] at hrounds; omega)
      refine Machine.ends_mono ?_ hgo
      rintro - st₃ hst₃
      have hnodup : addr ∉ rest := by
        have hall := htable.nodup
        rw [hstored] at hall
        have hback := (nodup_append.1 (nodup_append.1 hall).2.1).2.1
        exact (nodup_cons.1 hback).1
      have hsame : ∀ a ∈ rest, st₂.store.idleAt nowMs a = st.store.idleAt nowMs a := by
        intro a ha
        have hne : addr ≠ a := fun heq => hnodup (heq ▸ ha)
        have hcell : (store.heap.modify addr f)[a]? = st.store.heap[a]? := by
          rw [hheap, getElem?_modify, getElem?_modify]
          simp [hne]
        unfold SessionStore.idleAt
        rw [hstore, ← hlimit, ← hcell]
        rfl
      have hmidfilter : (mid.filter fun a => !st.store.idleAt nowMs a) = mid := by
        refine filter_eq_self.2 fun a ha => ?_
        rw [hmid a ha]
        rfl
      have hrestfilter : (rest.filter fun a => !st₂.store.idleAt nowMs a) =
          rest.filter fun a => !st.store.idleAt nowMs a :=
        filter_congr fun a ha => congrArg not (hsame a ha)
      rw [hst₃, filter_append, hmidfilter, hrestfilter, filter_cons, haddr, append_assoc]
      rfl

end

end Ducknng
