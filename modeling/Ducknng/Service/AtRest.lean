import Ducknng.Service.Connections

namespace Ducknng

open Option List SessionStore Discipline

/-!
# Nothing is lost on a service

A thread that tears a session down holds it until the connection has been given back. When the
calls have returned, what they have not given back is in the table of sessions or with the lane.

* `serviceLosesNothing` — what is left when all have returned.
-/

section
variable {χ : Type} {st st' : ServiceState χ} {h : Held} {i addr : Nat} {α : Type} {a : α}
  {op : ServiceOp χ α} {world : ServiceWorld χ} {P : NewSession χ → Prop}

/-- The sessions whose wait a thread has passed, after an action. -/
def ServiceOp.passes (passed : List Nat) : {α : Type} → ServiceOp χ α → List Nat
  | _, .awaitUnused addr => addr :: passed
  | _, .teardown addr => passed.erase addr
  | _, _ => passed

theorem passed_after (h : Held) (op : ServiceOp χ α) (a : α) :
    (ownershipAfter h op a).passed = op.passes h.passed := by
  cases op with
  | acquireConnection | laneConnection | takeLane | addSession _ | acquireSession _ _ _
  | removeSession _ _ _ | pruneIdle _ _ | teardown _ => cases a <;> rfl
  | setExecutionModel model => rcases a with _ | _ | _ <;> rfl
  | _ => rfl

/-- A session that is torn down has no connection, or its thread has still to take it away. -/
theorem SessionChange.pending {store' : SessionStore χ} {s s' : Session χ} {passed rest : List Nat}
    (hchange : SessionChange addr store' world op s s')
    (hold : s.torn ≠ 0 → s.poolIndex = none ∨ addr ∈ passed ∨ addr ∈ rest) (htorn : s'.torn ≠ 0) :
    s'.poolIndex = none ∨ addr ∈ op.passes passed ∨ addr ∈ rest := by
  cases op with
  | awaitUnused waited =>
    cases hchange with
    | inside hop =>
      cases hop
      exact .inr (.inl mem_cons_self)
    | _ => exact (hold htorn).imp_right (.imp_left (mem_cons_of_mem _))
  | teardown torn =>
    cases hchange with
    | inside => exact .inl rfl
    | same hne =>
      have hother : addr ≠ torn := fun heq => hne (heq ▸ rfl)
      exact (hold htorn).imp_right (.imp_left (mem_erase_of_ne hother).2)
    | acquired hop | detached hop => cases hop
  | _ => cases hchange <;> exact hold htorn

/-- What is torn down has no connection, or is a session whose wait a thread has passed. -/
structure PassedOk (st : ServiceState χ) (hs : List Held) : Prop where
  table : TableOk st.store
  pending : ∀ (addr : Nat) s, st.store.heap[addr]? = some s → s.torn ≠ 0 →
    s.poolIndex = none ∨ addr ∈ hs.flatMap Held.passed

theorem PassedOk.act {hs : List Held} (hok : PassedOk st hs) (hi : hs[i]? = some h)
    (hexec : serviceExec i st world op = some (a, st')) :
    PassedOk st' (hs.set i (ownershipAfter h op a)) := by
  obtain ⟨htable, hpending⟩ := hok
  simp only [(perm_others hi).mem_iff, mem_append] at hpending
  obtain ⟨htable', -, -⟩ := serviceExec_extends htable hexec
  have heffect := serviceExec_effect htable hexec
  refine ⟨htable', fun addr s' hs' htorn => ?_⟩
  rw [(perm_others_set hi _).mem_iff, mem_append, passed_after]
  cases hs : st.store.heap[addr]? with
  | none =>
    obtain ⟨new, added, -, -, rfl⟩ := heffect.created hs hs'
    exact absurd rfl htorn
  | some s =>
    obtain ⟨_, hfound, hchange⟩ := heffect.session htable hs
    obtain rfl := some.inj (hfound.symm.trans hs')
    exact hchange.pending (hpending addr s hs) htorn

variable {config : ServiceConfig} {s : ServiceSystem χ}

theorem ServiceConfig.Reaches.passed (hs : config.Reaches s) :
    PassedOk s.shared (s.threads.map heldBy) := by
  refine (Discipline.invariant _ _ _ PassedOk config.entry_keeps ?_ ?_ ?_ hs).1
  · intro st held call hok
    exact ⟨hok.table, by simpa [Held.nothing] using hok.pending⟩
  · intro α st held i h op world a st' hok hi _ hexec
    exact hok.act hi hexec
  · exact ⟨config.tableOk_start, fun _ _ h => (by cases h)⟩

/-- A call that has returned has nothing. -/
theorem ServiceConfig.Reaches.nothing_of_ret {reply : HandlerReply χ}
    {t : Thread (ServiceCall χ) (ServiceOp χ) (HandlerReply χ)} (hs : config.Reaches s)
    (ht : t ∈ s.threads) (hret : t.rest = .ret reply) : heldBy t = Held.nothing := by
  have hwp := hs.lifetimes.2 t ht
  rwa [hret] at hwp

/-- **Nothing is lost.** When every call has returned, in whatever order their threads have acted,
    every session that was ever registered is in the table, or has been torn down, exactly once,
    and has no connection any more; and the connections that are not free are those of the
    sessions in the table and of the lane. -/
theorem serviceLosesNothing (config : ServiceConfig) (s : ServiceSystem χ) (hs : config.Reaches s)
    (hdone : ∀ t ∈ s.threads, ∃ reply, t.rest = .ret reply) :
    (∀ (addr : Nat) session, s.shared.store.heap[addr]? = some session →
      if addr ∈ s.shared.store.stored then session.torn = 0
      else session.torn = 1 ∧ session.poolIndex = none) ∧
    ∀ slot, s.shared.pool.busy[slot]? = some true ↔ slot ∈ s.shared.slots := by
  have hnone : ∀ f : Held → List Nat, f Held.nothing = [] →
      (s.threads.map heldBy).flatMap f = [] := by
    intro f hf
    refine flatMap_eq_nil_iff.2 fun h hh => ?_
    obtain ⟨t, ht, rfl⟩ := mem_map.1 hh
    obtain ⟨reply, hret⟩ := hdone t ht
    rw [hs.nothing_of_ret ht hret, hf]
  have hbook := hs.lifetimes.1.book
  have hslots := hs.connections.1.book
  have hpassed := hs.passed.pending
  rw [hnone Held.owned rfl] at hbook
  rw [hnone Held.slots rfl] at hslots
  rw [hnone Held.passed rfl] at hpassed
  refine ⟨fun addr session hsession => ?_, fun slot => ⟨hslots.held slot, hslots.busy slot⟩⟩
  have hmark : s.shared.store.marks[addr]? = some (session.refcount, session.torn) := by
    rw [marks, List.getElem?_map, hsession]
    rfl
  split
  · next hmem =>
    obtain ⟨m, hm, htorn⟩ := hbook.untorn addr (.inl (mem_append_left _ hmem))
    cases hmark.symm.trans hm
    exact htorn
  · next hnot =>
    have htorn : session.torn ≠ 0 := fun hzero =>
      hnot (by simpa using hbook.kept addr _ hmark hzero)
    have honce : session.torn ≤ 1 := hbook.once _ (mem_of_getElem? hmark)
    exact ⟨by omega, (hpassed addr session hsession htorn).resolve_right not_mem_nil⟩

theorem serviceLosesNothing_openThenDestroy :
    ∃ s : ServiceSystem Unit, smallConfig.Reaches s ∧ s.shared.store.heap.length = 1 ∧
      ∀ slot, s.shared.pool.busy[slot]? = some true ↔ slot ∈ s.shared.slots := by
  refine ⟨_, ⟨openThenDestroy, rfl⟩, rfl, ?_⟩
  refine (serviceLosesNothing smallConfig _ ⟨openThenDestroy, rfl⟩ ?_).2
  exact forall_mem_cons.2 ⟨⟨_, rfl⟩, forall_mem_singleton.2 ⟨_, rfl⟩⟩

end

end Ducknng
