import Ducknng.Client.StreamTokens

namespace Ducknng

open Option List StreamRuntime

/-!
# Sections on streaming HTTP responses

Every section of a thread and of a callback keeps the books of the runtime.

* `SameLife` — what does not touch the life of a stream; `StreamEntry.release`,
  `StreamEntry.unregister`, `StreamEntry.reserve`, `StreamEntry.collect` — what does.
* `Drives` — the thread that brings an operation to its end; `RuntimeOk.recvOver`,
  `RuntimeOk.openOver` — that it has come to its end.
* `RuntimeOk.resume` — the next section of a thread; `RuntimeOk.clientAioCb` — a callback.
-/

open Ledger (held held_set held_concat count_le_held exists_of_held_pos)

/-! ### What happens to a stream -/

/-- Nothing that decides how long a stream lives has changed. -/
structure SameLife (s s' : HttpClientStream) : Prop where
  refcount : s'.refcount = s.refcount
  registered : s'.registered = s.registered
  closing : s'.closing = s.closing
  collected : s'.collected = s.collected
  destroyed : s'.destroyed = s.destroyed

section
variable {s s' : HttpClientStream} {r r' o o' c c' : Nat}

namespace SameLife

theorem refl : SameLife s s :=
  ⟨rfl, rfl, rfl, rfl, rfl⟩

theorem openAdvance (s : HttpClientStream) (rv : AioResult) (rc : Advance) :
    SameLife s (s.openAdvance rv rc).2 ∧ (s.openAdvance rv rc).2.recvAioId = s.recvAioId := by
  unfold HttpClientStream.openAdvance
  repeat' split
  all_goals exact ⟨⟨rfl, rfl, rfl, rfl, rfl⟩, rfl⟩

theorem recvAdvance (s : HttpClientStream) (rv : AioResult) (rc : Advance) :
    SameLife s (s.recvAdvance rv rc).2 ∧ (s.recvAdvance rv rc).2.recvAioId = s.recvAioId := by
  unfold HttpClientStream.recvAdvance
  split
  all_goals exact ⟨⟨rfl, rfl, rfl, rfl, rfl⟩, rfl⟩

theorem recvBegin (s : HttpClientStream) (rc : Advance) :
    SameLife s (s.recvBegin rc).2 := by
  unfold HttpClientStream.recvBegin
  split
  all_goals exact ⟨rfl, rfl, rfl, rfl, rfl⟩

theorem unmark (h : SameLife s s') (mark : RecvMark) : SameLife s (s'.unmark mark) := by
  unfold HttpClientStream.unmark
  split
  · exact { h with }
  · exact h

theorem evolve (h : SameLife s s') {streams : List HttpClientStream} {sid : Nat}
    (hs : streams[sid]? = some s) : StreamsEvolve streams (streams.set sid s') :=
  .set hs h.collected.trans h.closing.trans

end SameLife

namespace StreamEntry

section
variable (h : StreamEntry s r o c)
include h

/-- At most one receive runs on a stream. -/
theorem receiver_le_one : c ≤ 1 := by
  have hreceiver := h.receiver
  split at hreceiver <;> omega

/-- A destroyed stream is out of the table, and nobody holds it. -/
theorem of_destroyed (hdestroyed : 0 < s.destroyed) :
    s.registered = false ∧ r = 0 ∧ o = 0 := by
  have hrefs := h.refs
  have hfreed := h.freed
  have hopener := h.opener
  split at hfreed
  · have hreg : s.registered = false := by
      rw [← Bool.toNat_eq_zero]
      omega
    rw [hreg, Bool.toNat_false, ite_self] at hopener
    exact ⟨hreg, by omega, hopener⟩
  · omega

/-- A stream that is not destroyed is in the table, or someone holds it. -/
theorem of_not_destroyed (hdestroyed : s.destroyed = 0) :
    s.registered = true ∨ 0 < r := by
  have hrefs := h.refs
  have hfreed := h.freed
  cases hreg : s.registered with
  | true => exact .inl rfl
  | false =>
    rw [hreg, Bool.toNat_false] at hrefs
    split at hfreed
    · omega
    · exact .inr (by omega)

/-- The count stays, and with it all but the receive. -/
theorem keep (hlife : SameLife s s')
    (hreceiver : c' ≤ if s'.recvAioId = .free then 0 else 1) : StreamEntry s' r o c' where
  refs := by rw [hlife.refcount, hlife.registered, h.refs]
  freed := by rw [hlife.destroyed, hlife.refcount, h.freed]
  opener := by rw [hlife.collected, hlife.registered, h.opener]
  receiver := hreceiver
  closed := by
    rw [hlife.collected, hlife.registered, hlife.closing]
    exact h.closed

/-- A reference is given back. -/
theorem release (hr : r' + 1 = r) :
    StreamEntry s.release r' o c where
  refs := by
    have := h.refs
    show s.refcount - 1 = s.registered.toNat + r'
    omega
  freed := by
    have hrefs := h.refs
    have hfreed := h.freed
    have hpos : s.refcount ≠ 0 := by omega
    rw [if_neg hpos] at hfreed
    show (if s.refcount - 1 = 0 then s.destroyed + 1 else s.destroyed) = _
    rw [hfreed]
    rfl
  opener := h.opener
  receiver := h.receiver
  closed := h.closed

/-- The table's reference goes to the thread that has removed the stream: with the open
    operation, or in a close. -/
theorem unregister (hreg : s.registered = true)
    (hr : r' = r + 1) (ho : o' + 1 = o ∨ o' = o ∧ s.collected = true ∧ s.closing = true) :
    StreamEntry { s with registered := false } r' o' c where
  refs := by
    have hrefs := h.refs
    rw [hreg] at hrefs
    show s.refcount = 0 + r'
    rw [hrefs, hr]
    exact (Nat.add_comm 1 r).trans (Nat.zero_add _).symm
  freed := h.freed
  opener := by
    have hopener := h.opener
    rw [hreg] at hopener
    show o' = if s.collected = true then 0 else 0
    rw [ite_self]
    split at hopener
    · rcases ho with ho | ⟨ho, -⟩ <;> omega
    · next hnot =>
      rcases ho with ho | ⟨-, hcollected, -⟩
      · exact Nat.succ.inj (ho.trans hopener)
      · exact absurd hcollected hnot
  receiver := h.receiver
  closed := by
    intro hcollected _
    rcases ho with ho | ⟨-, -, hclosing⟩
    · -- a collected stream has no open operation left to give up
      have hopener := h.opener
      rw [if_pos hcollected] at hopener
      omega
    · exact hclosing

/-- A receive reserves the stream and takes a reference. -/
theorem reserve (hfree : s.recvAioId = .free)
    (hreg : s.registered = true) (hr : r' = r + 1) (hc : c' = c + 1) :
    StreamEntry { s with recvAioId := .reserved, refcount := s.refcount + 1 } r' o c' where
  refs := by
    have := h.refs
    show s.refcount + 1 = s.registered.toNat + r'
    omega
  freed := by
    have hrefs := h.refs
    have hfreed := h.freed
    rw [hreg] at hrefs
    have hpos : s.refcount ≠ 0 := by
      rw [hrefs]
      exact Nat.ne_of_gt (Nat.lt_of_lt_of_le Nat.zero_lt_one (Nat.le_add_right 1 r))
    rw [if_neg hpos] at hfreed
    exact hfreed
  opener := h.opener
  receiver := by
    have hreceiver := h.receiver
    rw [if_pos hfree] at hreceiver
    show c' ≤ 1
    omega
  closed := h.closed

/-- A collect hands the stream out; its open operation gives up its claim. -/
theorem collect (hreg : s.registered = true)
    (ho : o' + 1 = o) : StreamEntry { s with collected := true } r o' c where
  refs := h.refs
  freed := h.freed
  opener := by
    have hopener := h.opener
    rw [hreg] at hopener
    show o' = 0
    split at hopener
    · omega
    · exact Nat.succ.inj (ho.trans hopener)
  receiver := h.receiver
  closed := by
    intro _ hunreg
    exact absurd (hreg.symm.trans hunreg) (by decide)

end

end StreamEntry

end

/-! ### What a thread or a token tells -/

section
variable {w w' : StreamRuntime} {s s' : HttpClientStream} {slot slot' : ClientAio} {t : AioTask}
  {tasks' : List AioTask} {i sid a : Nat}

namespace StreamRuntime

theorem findStream_eq_some :
    w.findStream sid = some s ↔ w.streams[sid]? = some s ∧ s.registered = true := by
  simp [findStream]

theorem findAio_eq_some :
    w.findAio a = some slot ↔ w.slots[a]? = some slot ∧ slot.live = true := by
  simp [findAio]

end StreamRuntime

/-- The operation that a thread drives is pending and not with nng. -/
theorem RuntimeOk.driven (h : RuntimeOk w) (hi : w.tasks[i]? = some t)
    (htok : t.tokens = [.driver a]) (ha : w.slots[a]? = some slot) :
    slot.live = true ∧ slot.state = .pending ∧ slot.inFlight = false := by
  have hcount : t.tokens.count (.driver a) ≤ held AioTask.tokens w.tasks (.driver a) :=
    count_le_held hi _
  rw [htok, count_singleton_self] at hcount
  obtain ⟨hlive, hpending, hone⟩ := (h.aios.entry a slot ha).pending (by omega)
  refine ⟨hlive, hpending, ?_⟩
  cases hflight : slot.inFlight with
  | false => rfl
  | true =>
    rw [hflight, Bool.toNat_true] at hone
    omega

/-- The stream of an open operation that has not been collected is registered. -/
theorem RuntimeOk.opened (h : RuntimeOk w) (hheld : 0 < tokensHeld w.tasks w.slots (.opener sid)) :
    ∃ s, w.findStream sid = some s := by
  have hlt : sid < w.streams.length := by
    by_contra hge
    have := (h.streams.fresh sid (Nat.not_lt.1 hge)).2.1
    omega
  have hs := getElem?_eq_getElem hlt
  refine ⟨_, findStream_eq_some.2 ⟨hs, ?_⟩⟩
  have hopener := (h.streams.entry sid _ hs).opener
  by_contra hreg
  rw [Bool.not_eq_true] at hreg
  rw [hreg, Bool.toNat_false, ite_self] at hopener
  omega

/-- The tokens of a thread are held. -/
theorem tokensHeld_of_task (hi : w.tasks[i]? = some t) (tok : AioToken) :
    t.tokens.count tok ≤ tokensHeld w.tasks w.slots tok :=
  Nat.le_trans (count_le_held hi tok) (Nat.le_add_right ..)

/-- The tokens of an operation are held. -/
theorem tokensHeld_of_aio (ha : w.slots[a]? = some slot) (tok : AioToken) :
    slot.tokens.count tok ≤ tokensHeld w.tasks w.slots tok :=
  Nat.le_trans (count_le_held ha tok) (Nat.le_add_left ..)

end

/-- The thread that brings an operation to its end: the one that drives it, or its callback. -/
def Drives (t : AioTask) (slot : ClientAio) (a : Nat) : Prop :=
  t.tokens = [.driver a] ∨ t = .done ∧ slot.inFlight = true

section
variable {w : StreamRuntime} {slot : ClientAio} {t : AioTask} {a i d d' : Nat}

theorem Drives.about (h : Drives t slot a) (sid : Nat) : ∀ tok ∈ t.tokens, tok.About sid := by
  rcases h with h | ⟨rfl, -⟩
  · simp [h, AioToken.About]
  · simp

/-- No thread is left to drive the operation. -/
theorem Drives.last (h : Drives t slot a) (he : AioEntry slot d)
    (hd : d' + t.tokens.count (.driver a) = d) : d' = 0 := by
  rcases h with h | ⟨rfl, hflight⟩
  · rw [h, count_singleton_self] at hd
    obtain ⟨-, -, hone⟩ := he.pending (by omega)
    omega
  · obtain ⟨-, -, hone⟩ := he.pending (by rw [hflight]; exact Nat.succ_pos _)
    rw [hflight, Bool.toNat_true] at hone
    omega

/-- It drives no other operation, and holds nothing of a stream. -/
theorem Drives.count_eq_zero (h : Drives t slot a) {tok : AioToken} (htok : tok ≠ .driver a) :
    t.tokens.count tok = 0 := by
  rcases h with h | ⟨rfl, -⟩
  · rw [h]
    exact List.count_eq_zero.2 (by simpa using htok)
  · rfl

end

/-! ### Sections of a thread -/

namespace RuntimeOk
variable {w w' : StreamRuntime} {s s' : HttpClientStream} {slot slot' : ClientAio} {t : AioTask}
  {tasks' : List AioTask} {i sid a : Nat} {rv : AioResult} {rc : Advance}

section
variable (h : RuntimeOk w)
include h

/-- A thread removes a stream: with the open operation it has, or at the end of a close. -/
theorem removeStream (hi : w.tasks[i]? = some t)
    (ht : t.tokens = [.opener sid] ∨ t = .closing sid) : RuntimeOk (w.removeStream i sid) := by
  unfold StreamRuntime.removeStream
  split
  · next hfind =>
    rcases ht with ht | rfl
    · have hheld := tokensHeld_of_task hi (.opener sid)
      rw [ht, count_singleton_self] at hheld
      obtain ⟨s, hs⟩ := h.opened hheld
      rw [hfind] at hs
      cases hs
    · exact h.task (.set hi _) rfl trivial
  · next s hfind =>
    obtain ⟨hs, hreg⟩ := findStream_eq_some.1 hfind
    refine h.stream (.set hi (.release sid)) hs ?_ (by simp [AioToken.About]) ?_ (.set hs id id)
      ?_ trivial
    · rcases ht with ht | rfl
      · simp [ht, AioToken.About]
      · simp
    · rcases ht with ht | rfl
      · simp [ht]
      · simp
    · intro r o c r' o' c' he hr ho hc
      rcases ht with ht | rfl
      · simp [ht] at hr ho hc
        rw [hc]
        exact he.unregister hreg hr (.inl ho)
      · simp at hr ho hc
        rw [hc]
        -- the thread knows that the stream is collected and closing
        obtain ⟨s₀, hs₀, hcollected, hclosing⟩ := h.fits _ (mem_of_getElem? hi)
        cases hs.symm.trans hs₀
        exact he.unregister hreg hr (.inr ⟨ho, hcollected, hclosing⟩)

/-- A thread releases a stream. -/
theorem releaseStream (hi : w.tasks[i]? = some (.release sid))
    (hw : w.releaseStream i sid .done = some w') : RuntimeOk w' := by
  obtain ⟨s, hs, hw⟩ := bind_eq_some_iff.1 hw
  cases hw
  refine h.stream (.set hi .done) hs (by simp [AioToken.About]) (by simp) (by simp)
    (.set hs id id) ?_ trivial
  intro r o c r' o' c' he hr ho hc
  simp at hr ho hc
  rw [ho, hc]
  exact he.release hr

/-- A thread removes an operation: one that it drives, or a complete one. -/
theorem removeAio (hi : w.tasks[i]? = some t)
    (ht : (∃ sid, t = .openSubmitting sid a) ∨ t = .dropping a) : RuntimeOk (w.removeAio i a) := by
  have hfit := h.fits t (mem_of_getElem? hi)
  unfold StreamRuntime.removeAio
  split
  · next hfind =>
    rcases ht with ⟨sid, rfl⟩ | rfl
    · obtain ⟨slot, ha, -⟩ := hfit
      simp [findAio, ha, (h.driven hi rfl ha).1] at hfind
    · exact h.task (.set hi _) rfl trivial
  · next slot hfind =>
    obtain ⟨ha, hlive⟩ := findAio_eq_some.1 hfind
    have hentry := h.aios.entry a slot ha
    -- no receive is removed while it is pending
    have hover : slot.kind = .ncurlStreamOpen ∨ slot.state ≠ .pending := by
      rcases ht with ⟨sid, rfl⟩ | rfl
      · obtain ⟨slot₀, ha₀, hkind, -⟩ := hfit
        cases ha.symm.trans ha₀
        exact .inl hkind
      · obtain ⟨slot₀, ha₀, hstate⟩ := hfit
        cases ha.symm.trans ha₀
        exact .inr hstate
    have howned : slot.tokens = slot.owned := by
      rcases hover with hkind | hstate
      · simp [ClientAio.tokens, hlive, hkind]
      · simp [ClientAio.tokens, hlive, hstate]
    have href : slot.httpStreamRef = none := by
      cases hkind : slot.kind with
      | ncurlStreamOpen => exact hentry.openRef hkind
      | ncurlStreamRecv =>
        rcases hover with hopen | hstate
        · rw [hkind] at hopen
          cases hopen
        · rw [hentry.recvRef hkind hlive, if_neg hstate]
    refine h.aio (.set hi (.destroyAio slot)) ha ?_ ?_ ?_ rfl rfl id id href
    · intro sid tok htok
      rw [ClientAio.tokens_of_dead rfl, howned, append_nil, count_append]
      have hzero : t.tokens.count tok = 0 := by
        rcases ht with ⟨sid', rfl⟩ | rfl
        · apply List.count_eq_zero.2
          rintro hmem
          cases mem_singleton.1 hmem
          simp at htok
        · rfl
      rw [hzero, Nat.zero_add]
      rfl
    · intro b hb
      rcases ht with ⟨sid, rfl⟩ | rfl
      · simp [hb.symm]
      · simp
    · intro d d' he hd
      have hdriver : d' = 0 ∧ slot.inFlight = false := by
        rcases ht with ⟨sid, rfl⟩ | rfl
        · have hdriven := h.driven hi rfl ha
          obtain ⟨-, -, hone⟩ := he.pending (by simp at hd; omega)
          simp [hdriven.2.2] at hd hone ⊢
          omega
        · obtain ⟨slot₀, ha₀, hstate⟩ := hfit
          cases ha.symm.trans ha₀
          obtain ⟨hzero, hflight⟩ := he.undriven (.inr hstate)
          simp at hd
          exact ⟨hd.trans hzero, hflight⟩
      exact {
        driver := by simp [hdriver.1, hdriver.2]
        recvRef := fun _ hlive => (by cases hlive)
        openRef := he.openRef
        claimed := he.claimed }

/-- The operation is handed to nng. -/
theorem submitted (hi : w.tasks[i]? = some t) (ht : t.tokens = [.driver a])
    (hw : w.submitted i a = some w') : RuntimeOk w' := by
  obtain ⟨slot, ha, hw⟩ := bind_eq_some_iff.1 hw
  cases hw
  obtain ⟨hlive, hpending, -⟩ := h.driven hi ht ha
  have hdrives : Drives t slot a := .inl ht
  refine h.aio (.set hi .done) ha ?_ ?_ ?_ rfl rfl id id trivial
  · intro sid tok htok
    have hne : tok ≠ .driver a := by
      rintro rfl
      simp at htok
    rw [count_append, count_append, hdrives.count_eq_zero hne]
    rfl
  · intro b hb
    rw [hdrives.count_eq_zero (by simpa using hb)]
    rfl
  · intro d d' he hd
    have hzero : d' = 0 := hdrives.last he hd
    exact {
      driver := by simp [hzero, hlive, hpending]
      recvRef := he.recvRef
      openRef := he.openRef
      claimed := he.claimed }

/-- A receive comes to its end, and its reference goes to the thread. -/
theorem recvOver (hs : w.streams[sid]? = some s) (ha : w.slots[a]? = some slot)
    (hkind : slot.kind = .ncurlStreamRecv) (hid : slot.httpStreamId = sid)
    (hlive : slot.live = true) (hpending : slot.state = .pending) (hdrives : Drives t slot a)
    (hmoves : TaskMoves w.tasks tasks' t (.release sid)) (hlife : SameLife s s') {state : AioState}
    (hstate : state ≠ .pending)
    (hslot : slot' = { slot with state := state, httpStreamRef := none, inFlight := false }) :
    RuntimeOk
      { w with
        streams := w.streams.set sid s', slots := w.slots.set a slot', tasks := tasks' } := by
  have href : slot.httpStreamRef = some sid := by
    rw [(h.aios.entry a slot ha).recvRef hkind hlive, if_pos hpending, hid]
  have hold : slot.tokens = [.ref sid, .receiver sid] :=
    ClientAio.tokens_of_recv hkind hlive hpending href hid
  have hnew : slot'.tokens = [] := by
    simp [hslot, ClientAio.tokens, ClientAio.owned, hkind, hstate]
  have hclaimed := (h.aios.entry a slot ha).unclaimed (by rw [hpending]; decide)
  have hnone : ∀ tok, (∀ b, tok ≠ .driver b) → t.tokens.count tok = 0 := fun tok htok =>
    hdrives.count_eq_zero (htok a)
  refine h.both hmoves hs ha ?_ ?_ (hlife.evolve hs) ?_ ?_ ?_ (by rw [hslot]) (by rw [hslot])
    (fun _ => by rw [hslot]; exact hstate) (fun hc => .inl (by rwa [hslot] at hc)) trivial
  · refine forall_mem_append.2 ⟨hdrives.about sid, ?_⟩
    simp [hold, AioToken.About]
  · simp [hnew, AioToken.About]
  · intro r o c r' o' c' he hr ho hc
    simp [hold, hnew, hnone] at hr ho hc
    subst hr ho
    refine he.keep hlife ?_
    -- the one receive was this one
    have hone := he.receiver_le_one
    have hzero : c' = 0 := by omega
    rw [hzero]
    exact Nat.zero_le _
  · intro b hb
    rw [hdrives.count_eq_zero (by simpa using hb)]
    simp
  · intro d d' he hd
    have hzero : d' = 0 := hdrives.last he (by simpa using hd)
    subst hslot
    exact {
      driver := by simp [hzero]
      recvRef := fun _ _ => by rw [if_neg hstate]
      openRef := fun _ => rfl
      claimed := fun hc => (by cases hclaimed.symm.trans hc) }

/-- An open comes to its end; what it brought stays with it. -/
theorem openOver (hs : w.streams[sid]? = some s) (ha : w.slots[a]? = some slot)
    (hkind : slot.kind = .ncurlStreamOpen) (hid : slot.httpStreamId = sid)
    (hpending : slot.state = .pending) (hdrives : Drives t slot a)
    (hmoves : TaskMoves w.tasks tasks' t .done) (hlife : SameLife s s')
    (hrecv : s'.recvAioId = s.recvAioId) {state : AioState} (hstate : state ≠ .pending)
    (hslot : slot' = { slot with state := state, inFlight := false }) :
    RuntimeOk
      { w with
        streams := w.streams.set sid s', slots := w.slots.set a slot', tasks := tasks' } := by
  have hentry := h.aios.entry a slot ha
  have hclaimed := hentry.unclaimed (by rw [hpending]; decide)
  -- the open keeps its claim on the stream until it is collected
  have htok : slot'.tokens = slot.tokens := by
    simp [hslot, ClientAio.tokens, ClientAio.owned, hkind]
  have habout : ∀ tok ∈ slot.tokens, tok.About sid := by
    simp [ClientAio.tokens, ClientAio.owned, hkind, hentry.openRef hkind, hclaimed, hid]
    exact fun _ => rfl
  refine h.both hmoves hs ha ?_ ?_ (hlife.evolve hs) ?_ ?_ ?_ (by rw [hslot]) (by rw [hslot])
    (fun _ => by rw [hslot]; exact hstate) (fun hc => .inl (by rwa [hslot] at hc)) trivial
  · exact forall_mem_append.2 ⟨hdrives.about sid, habout⟩
  · simpa [htok] using habout
  · intro r o c r' o' c' he hr ho hc
    simp [htok, hdrives.count_eq_zero] at hr ho hc
    subst hr ho hc
    exact he.keep hlife (hrecv ▸ he.receiver)
  · intro b hb
    rw [hdrives.count_eq_zero (by simpa using hb)]
    simp
  · intro d d' he hd
    have hzero : d' = 0 := hdrives.last he (by simpa using hd)
    subst hslot
    exact {
      driver := by simp [hzero]
      recvRef := fun hk => by rw [hkind] at hk; cases hk
      openRef := he.openRef
      claimed := fun hc => (by cases hclaimed.symm.trans hc) }

/-- The section of a receive after its registration. -/
theorem recvSection (hi : w.tasks[i]? = some (.recvRegistered sid a))
    (hw : w.recvSection i sid a rc = some w') :
    RuntimeOk w' := by
  have hfit := h.fits _ (mem_of_getElem? hi)
  have hunregister : RuntimeOk (w.setTask i (.recvUnregister sid a)) :=
    h.task (.set hi (.recvUnregister sid a)) rfl hfit
  obtain ⟨slot, ha, hw⟩ := bind_eq_some_iff.1 hw
  obtain ⟨hlive, hpending, hflight⟩ := h.driven hi rfl ha
  obtain ⟨slot₀, ha₀, hkind, hid⟩ := hfit
  cases ha.symm.trans ha₀
  split at hw
  -- the stream was closed in the meantime
  · cases hw
    exact hunregister
  · next s hfind =>
    have hs := (findStream_eq_some.1 hfind).1
    -- nothing in the receive itself changes how long the stream lives
    have hlife := SameLife.recvBegin s rc
    split at hw
    · cases hw
      exact hunregister
    · split at hw
      -- the operation goes to NNG and takes the stream's one receive
      · next s' hbegin =>
        cases hw
        rw [hbegin] at hlife
        have htaken : SameLife s { s' with recvAioId := .taken a } := { hlife with }
        refine h.stream (.set hi (.recvSubmitting sid a)) hs (by simp [AioToken.About])
          (by simp [AioToken.About]) (by simp) (htaken.evolve hs) ?_ ⟨slot, ha, hkind, hid⟩
        intro r o c r' o' c' he hr ho hc
        subst hr ho hc
        exact he.keep htaken he.receiver_le_one
      -- the receive is answered from what was buffered, or has failed
      · next rc' s' _ hbegin =>
        cases hw
        rw [hbegin] at hlife
        have hstate : (if rc' = .complete then AioState.ready else .error) ≠ .pending := by
          split <;> decide
        exact h.recvOver hs ha hkind hid hlive hpending (.inl rfl) (.set hi _) { hlife with } hstate
          (by rw [← hflight])

/-- The sections that end a receive whose read could not be submitted. -/
theorem submitFailed (hi : w.tasks[i]? = some (.recvSubmitting sid a))
    (hw : w.submitFailed i sid a = some w') : RuntimeOk w' := by
  obtain ⟨s, hs, hw⟩ := bind_eq_some_iff.1 hw
  obtain ⟨slot, ha, hw⟩ := bind_eq_some_iff.1 hw
  cases hw
  obtain ⟨hlive, hpending, hflight⟩ := h.driven hi rfl ha
  obtain ⟨slot₀, ha₀, hkind, hid⟩ := h.fits _ (mem_of_getElem? hi)
  cases ha.symm.trans ha₀
  have hstate : AioState.error ≠ .pending := by decide
  exact h.recvOver hs ha hkind hid hlive hpending (.inl rfl) (.set hi _) (SameLife.refl.unmark _)
    hstate (by rw [← hflight])

theorem recvResubmitFailed (hi : w.tasks[i]? = some (.recvResubmit sid a))
    (hw : w.recvResubmitFailed i sid a = some w') : RuntimeOk w' := by
  obtain ⟨s, hs, hw⟩ := bind_eq_some_iff.1 hw
  obtain ⟨slot, ha, hw⟩ := bind_eq_some_iff.1 hw
  obtain ⟨hlive, hpending, hflight⟩ := h.driven hi rfl ha
  obtain ⟨slot₀, ha₀, hkind, hid⟩ := h.fits _ (mem_of_getElem? hi)
  cases ha.symm.trans ha₀
  rw [if_pos hpending] at hw
  cases hw
  have hlife : SameLife s (s.unmark (.taken a)) := SameLife.refl.unmark _
  have hstate : AioState.error ≠ .pending := by decide
  exact h.recvOver hs ha hkind hid hlive hpending (.inl rfl) (.set hi _) { hlife with } hstate
    (by rw [← hflight])

/-- The section that ends an open whose next action could not be submitted. -/
theorem openResubmitFailed (hi : w.tasks[i]? = some (.openResubmit sid a))
    (hw : w.openResubmitFailed i sid a = some w') : RuntimeOk w' := by
  obtain ⟨s, hs, hw⟩ := bind_eq_some_iff.1 hw
  obtain ⟨slot, ha, hw⟩ := bind_eq_some_iff.1 hw
  obtain ⟨-, hpending, hflight⟩ := h.driven hi rfl ha
  obtain ⟨slot₀, ha₀, hkind, hid⟩ := h.fits _ (mem_of_getElem? hi)
  cases ha.symm.trans ha₀
  rw [if_pos hpending] at hw
  cases hw
  have hstate : AioState.error ≠ .pending := by decide
  exact h.openOver hs ha hkind hid hpending (.inl rfl) (.set hi .done)
    ⟨rfl, rfl, rfl, rfl, rfl⟩ rfl hstate (by rw [← hflight])

/-- A receive takes its operation back. -/
theorem recvUnregister (hi : w.tasks[i]? = some (.recvUnregister sid a))
    (ha : w.slots[a]? = some slot) :
    RuntimeOk ((w.setAio a { slot with live := false, httpStreamRef := none }).setTask i
      (.recvReset sid)) := by
  obtain ⟨hlive, hpending, hflight⟩ := h.driven hi rfl ha
  obtain ⟨slot₀, ha₀, hkind, hid⟩ := h.fits _ (mem_of_getElem? hi)
  cases ha.symm.trans ha₀
  have hdrives : Drives (.recvUnregister sid a) slot a := .inl rfl
  have href : slot.httpStreamRef = some sid := by
    rw [(h.aios.entry a slot ha).recvRef hkind hlive, if_pos hpending, hid]
  have hold : slot.tokens = [.ref sid, .receiver sid] :=
    ClientAio.tokens_of_recv hkind hlive hpending href hid
  refine h.aio (.set hi (.recvReset sid)) ha ?_ ?_ ?_ rfl rfl id id trivial
  -- the tokens of the operation pass to the thread
  · intro x tok htok
    have hne : tok ≠ .driver a := by
      rintro rfl
      simp at htok
    rw [ClientAio.tokens_of_dead rfl, hold, count_append, count_append,
      hdrives.count_eq_zero hne, count_nil, Nat.zero_add]
    rfl
  · intro b hb
    simp [hb.symm]
  · intro d d' he hd
    have hzero : d' = 0 := hdrives.last he (by simpa using hd)
    exact {
      driver := by simp [hzero, hflight]
      recvRef := fun _ hlive => (by cases hlive)
      openRef := fun _ => rfl
      claimed := he.claimed }

/-- A receive takes its reservation back. -/
theorem recvReset (hi : w.tasks[i]? = some (.recvReset sid))
    (hs : w.streams[sid]? = some s) :
    RuntimeOk ((w.setStream sid (s.unmark .reserved)).setTask i (.release sid)) := by
  have hlife : SameLife s (s.unmark .reserved) := SameLife.refl.unmark _
  refine h.stream (.set hi (.release sid)) hs (by simp [AioToken.About]) (by simp [AioToken.About])
    (by simp) (hlife.evolve hs) ?_ trivial
  intro r o c r' o' c' he hr ho hc
  simp at hr ho hc
  subst hr ho
  refine he.keep hlife ?_
  have hone := he.receiver_le_one
  have hzero : c' = 0 := by omega
  rw [hzero]
  exact Nat.zero_le _

/-- An operation that is in no table is destroyed. -/
theorem destroyAio (hi : w.tasks[i]? = some (.destroyAio slot))
    (hw : w.resume i rc (.destroyAio slot) = some w') : RuntimeOk w' := by
  have href : slot.httpStreamRef = none := h.fits _ (mem_of_getElem? hi)
  simp only [resume, href] at hw
  split at hw
  · next hopen =>
    cases hw
    refine h.removeStream hi (.inl ?_)
    simp at hopen
    simp [ClientAio.owned, href, hopen]
  · next hother =>
    cases hw
    refine h.task (.set hi .done) ?_ trivial
    simpa [ClientAio.owned, href] using hother

/-- The next section of a thread. -/
theorem resume (hi : w.tasks[i]? = some t) (hw : w.resume i rc t = some w') :
    RuntimeOk w' := by
  have hfit := h.fits t (mem_of_getElem? hi)
  cases t with
  | openPrepared sid =>
    simp only [resume] at hw
    split at hw
    · cases hw
      exact h.task (.set hi (.discard sid)) rfl trivial
    · cases hw
      refine h.add (.set hi (.openSubmitting sid w.slots.length)) rfl ?_ (by simp) ?_ rfl ?_
      · exact ClientAio.tokens_of_open rfl rfl rfl rfl
      · constructor <;> simp
      · exact ⟨_, getElem?_concat_length, rfl, rfl⟩
  -- NNG refuses the submit or has taken the operation
  | openSubmitting sid a =>
    simp only [resume] at hw
    split at hw
    · cases hw
      exact h.removeAio hi (.inl ⟨sid, rfl⟩)
    · exact h.submitted hi rfl hw
  | openResubmit sid a =>
    simp only [resume] at hw
    split at hw
    · exact h.openResubmitFailed hi hw
    · exact h.submitted hi rfl hw
  | recvReserved sid =>
    simp only [resume] at hw
    split at hw
    · cases hw
      exact h.task (.set hi (.recvReset sid)) rfl trivial
    · cases hw
      refine h.add (.set hi (.recvRegistered sid w.slots.length)) rfl ?_ (by simp) ?_ rfl ?_
      · exact ClientAio.tokens_of_recv rfl rfl rfl rfl rfl
      · constructor <;> simp
      · exact ⟨_, getElem?_concat_length, rfl, rfl⟩
  | recvRegistered sid a => exact h.recvSection hi hw
  | recvSubmitting sid a =>
    simp only [resume] at hw
    split at hw
    · exact h.submitFailed hi hw
    · exact h.submitted hi rfl hw
  | recvResubmit sid a =>
    simp only [resume] at hw
    split at hw
    · exact h.recvResubmitFailed hi hw
    · exact h.submitted hi rfl hw
  -- the operation is still live: this thread drives it
  | recvUnregister sid a =>
    simp only [resume] at hw
    obtain ⟨slot, ha, -⟩ := hfit
    have hlive := (h.driven hi rfl ha).1
    rw [findAio_eq_some.2 ⟨ha, hlive⟩] at hw
    cases hw
    exact h.recvUnregister hi ha
  | recvReset sid =>
    simp only [resume] at hw
    obtain ⟨s, hs, hw⟩ := bind_eq_some_iff.1 hw
    cases hw
    exact h.recvReset hi hs
  | closing sid =>
    cases hw
    exact h.removeStream hi (.inr rfl)
  | dropping a =>
    cases hw
    exact h.removeAio hi (.inr rfl)
  | destroyAio slot => exact h.destroyAio hi hw
  | discard sid =>
    cases hw
    exact h.removeStream hi (.inl rfl)
  | release sid => exact h.releaseStream hi hw
  | done => cases hw

/-! ### Callbacks -/

/-- A callback goes on to submit the next action: it drives the operation in nng's place. -/
theorem resubmit (t' : AioTask) (hs : w.streams[sid]? = some s)
    (ha : w.slots[a]? = some slot) (hflight : slot.inFlight = true)
    (habout : ∀ tok ∈ slot.tokens, tok.About sid) (hlife : SameLife s s')
    (hrecv : s'.recvAioId = s.recvAioId) (ht' : t'.tokens = [.driver a])
    (hfit : t'.Fits (w.streams.set sid s') (w.slots.set a { slot with inFlight := false })) :
    RuntimeOk (((w.setStream sid s').setAio a { slot with inFlight := false }).spawn t') := by
  refine h.both (.spawn t') hs ha (by simpa using habout) ?_ (hlife.evolve hs) ?_ ?_ ?_ rfl rfl id
    .inl hfit
  · refine forall_mem_append.2 ⟨?_, habout⟩
    rw [ht']
    exact forall_mem_singleton.2 trivial
  · intro r o c r' o' c' he hr ho hc
    have htok : ({ slot with inFlight := false } : ClientAio).tokens = slot.tokens := rfl
    simp [ht', htok] at hr ho hc
    subst hr ho hc
    exact he.keep hlife (hrecv ▸ he.receiver)
  · intro b hb
    simp [ht', hb.symm]
  -- from NNG the operation passes to a new thread
  · intro d d' he hd
    obtain ⟨hlive, hpending, hone⟩ := he.pending (by rw [hflight]; exact Nat.succ_pos _)
    rw [hflight, Bool.toNat_true] at hone
    simp [ht'] at hd
    have hzero : d' = 1 := by omega
    exact {
      driver := by simp [hzero, hlive, hpending]
      recvRef := he.recvRef
      openRef := he.openRef
      claimed := he.claimed }

omit h in
theorem failedState_ne_pending (canceled : Bool) :
    failedState canceled ≠ .pending := by
  cases canceled <;> decide

/-- The callback of an open. -/
theorem openCallback (ha : w.slots[a]? = some slot)
    (hflight : slot.inFlight = true) (hkind : slot.kind = .ncurlStreamOpen) :
    RuntimeOk (w.openCallback a { slot with inFlight := false } rv rc) := by
  have hentry := h.aios.entry a slot ha
  obtain ⟨hlive, hpending, -⟩ := hentry.pending (by rw [hflight]; exact Nat.succ_pos _)
  have hdrives : Drives .done slot a := .inr ⟨rfl, hflight⟩
  have hclaimed := hentry.unclaimed (by rw [hpending]; decide)
  have htok : slot.tokens = [.opener slot.httpStreamId] :=
    ClientAio.tokens_of_open hkind hlive (hentry.openRef hkind) hclaimed
  have hheld := tokensHeld_of_aio ha (.opener slot.httpStreamId)
  rw [htok, count_singleton_self] at hheld
  -- an open that is pending finds its stream
  obtain ⟨s, hfind⟩ := h.opened hheld
  have hs := (findStream_eq_some.1 hfind).1
  obtain ⟨hlife, hrecv⟩ := SameLife.openAdvance s rv rc
  unfold StreamRuntime.openCallback
  simp only [hfind]
  split
  · next s' hadvance =>
    rw [hadvance] at hlife hrecv
    refine h.resubmit (.openResubmit slot.httpStreamId a) hs ha hflight ?_ hlife hrecv rfl
      ⟨_, List.getElem?_set_self (List.getElem?_eq_some_iff.1 ha).1, hkind, rfl⟩
    simp [htok, AioToken.About]
  · next s' hadvance =>
    rw [hadvance] at hlife hrecv
    have hready : AioState.ready ≠ .pending := by decide
    exact h.openOver hs ha hkind rfl hpending hdrives .stay hlife hrecv hready rfl
  · next s' hadvance =>
    rw [hadvance] at hlife hrecv
    exact h.openOver hs ha hkind rfl hpending hdrives .stay hlife hrecv
      (failedState_ne_pending _) rfl

/-- The callback of a receive. -/
theorem recvCallback (ha : w.slots[a]? = some slot)
    (hflight : slot.inFlight = true) (hkind : slot.kind = .ncurlStreamRecv)
    (hw : w.recvCallback a { slot with inFlight := false } rv rc = some w') : RuntimeOk w' := by
  have hentry := h.aios.entry a slot ha
  obtain ⟨hlive, hpending, -⟩ := hentry.pending (by rw [hflight]; exact Nat.succ_pos _)
  have hdrives : Drives .done slot a := .inr ⟨rfl, hflight⟩
  -- a pending receive refers to its stream, so the stream is there
  have href : slot.httpStreamRef = some slot.httpStreamId := by
    rw [hentry.recvRef hkind hlive, if_pos hpending]
  unfold StreamRuntime.recvCallback at hw
  split at hw
  · next hnone => exact absurd (href.symm.trans hnone) (by simp)
  · next sid hsome =>
    obtain rfl : slot.httpStreamId = sid := some.inj (href.symm.trans hsome)
    obtain ⟨s, hs, hw⟩ := bind_eq_some_iff.1 hw
    obtain ⟨hlife, hrecv⟩ := SameLife.recvAdvance s rv rc
    split at hw
    -- more bytes are needed: the operation is submitted again
    · next s' hadvance =>
      cases hw
      rw [hadvance] at hlife hrecv
      refine h.resubmit (.recvResubmit slot.httpStreamId a) hs ha hflight ?_ hlife hrecv rfl
        ⟨_, List.getElem?_set_self (List.getElem?_eq_some_iff.1 ha).1, hkind, rfl⟩
      rw [ClientAio.tokens_of_recv hkind hlive hpending href rfl]
      simp [AioToken.About]
    · next s' hadvance =>
      cases hw
      rw [hadvance] at hlife
      have hready : AioState.ready ≠ .pending := by decide
      exact h.recvOver hs ha hkind rfl hlive hpending hdrives (.spawn _) (hlife.unmark _) hready rfl
    · next s' hadvance =>
      cases hw
      rw [hadvance] at hlife
      exact h.recvOver hs ha hkind rfl hlive hpending hdrives (.spawn _) (hlife.unmark _)
        (failedState_ne_pending _) rfl

/-- The callback of an operation. -/
theorem clientAioCb (ha : w.slots[a]? = some slot)
    (hflight : slot.inFlight = true)
    (hw : w.clientAioCb a { slot with inFlight := false } rv rc = some w') : RuntimeOk w' := by
  obtain ⟨-, hpending, -⟩ := (h.aios.entry a slot ha).pending
    (by rw [hflight]; exact Nat.succ_pos _)
  unfold StreamRuntime.clientAioCb at hw
  rw [if_neg (not_not.2 hpending)] at hw
  split at hw
  · next hkind =>
    cases hw
    exact h.openCallback ha hflight hkind
  · next hkind => exact h.recvCallback ha hflight hkind hw

end

end RuntimeOk

end Ducknng
