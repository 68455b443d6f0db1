import Ducknng.Client.StreamSections

namespace Ducknng

open List ClientAio StreamRuntime

/-!
# The lifetime of a streaming HTTP response

In every interleaving of calls and callbacks in which a close names a collected stream, a stream
is destroyed once, when no open and no receive can come back to it.

* `RuntimeOk.step` — every step keeps the books of the runtime.
* `StreamsAlive` — what the books say about opens, receives and closes.
* `streamLifetime` — it holds after every run; `open_stream_closed` — a close by the id of a
  stream whose open is pending destroys the stream under the open.
-/

open Ledger (held held_set held_concat count_le_held countP_le_held exists_of_held_pos)

/-! ### Calls -/

namespace RuntimeOk
variable {w w' : StreamRuntime} {sid a : Nat}

section
variable (h : RuntimeOk w)
include h

theorem ncurlStreamOpenAio : RuntimeOk w.ncurlStreamOpenAio := by
  have hmoves : TaskMoves w.tasks (w.tasks ++ [.openPrepared w.streams.length]) .done
    (.openPrepared w.streams.length) := .spawn _
  refine h.assemble hmoves (h.streams.concat fun tok => ?_) (h.aios.congr fun a => ?_)
    (h.claims.evolve .concat) .concat .refl trivial
  · have := hmoves.held tok
    simp only [AioTask.tokens, count_nil] at this
    simp only [tokensHeld]
    omega
  · simp

theorem ncurlStreamRecvAio : RuntimeOk (w.ncurlStreamRecvAio sid) := by
  unfold StreamRuntime.ncurlStreamRecvAio
  split
  · exact h
  · next s hfind =>
    obtain ⟨hs, hreg⟩ := findStream_eq_some.1 hfind
    split
    · next hreadable =>
      have hfree : s.recvAioId = .free := by
        simp [HttpClientStream.readable] at hreadable
        exact hreadable.2
      refine h.stream (.spawn (.recvReserved sid)) hs (by simp) (by simp [AioToken.About])
        (by simp) (.set hs id id) ?_ trivial
      intro r o c r' o' c' he hr ho hc
      simp at hr ho hc
      rw [ho]
      exact he.reserve hfree hreg hr hc
    · exact h

/-- What is complete has been collected. -/
theorem collected {slot : ClientAio} (ha : w.slots[a]? = some slot)
    (hpending : slot.state ≠ .pending) :
    RuntimeOk (w.setAio a { slot with state := .collected }) := by
  refine h.aio .stay ha ?_ (fun _ _ => rfl) ?_ rfl rfl (fun _ => by simp) id trivial
  · intro sid tok _
    simp [tokens, owned, hpending]
  · intro d d' he hd
    obtain ⟨hzero, hflight⟩ := he.undriven (.inr hpending)
    simp at hd
    exact {
      driver := by simp [hd, hzero, hflight]
      recvRef := fun hk hl => by simpa [hpending] using he.recvRef hk hl
      openRef := he.openRef
      claimed := fun _ => rfl }

theorem collectRecv : RuntimeOk (w.collectRecv a) := by
  unfold StreamRuntime.collectRecv
  split
  · exact h
  · next slot hfind =>
    split
    · next hcollect => exact h.collected (findAio_eq_some.1 hfind).1 hcollect.2.1
    · exact h

theorem collectOpen : RuntimeOk (w.collectOpen a) := by
  unfold StreamRuntime.collectOpen
  split
  · exact h
  · next slot hfind =>
    obtain ⟨ha, hlive⟩ := findAio_eq_some.1 hfind
    have hentry := h.aios.entry a slot ha
    split
    · next hcollect =>
      obtain ⟨hkind, hpending, hstate⟩ := hcollect
      split
      · exact h.collected ha hpending
      · next s hsome =>
        have hfound : w.findStream slot.httpStreamId = some s := by
          split at hsome
          · exact hsome
          · cases hsome
        obtain ⟨hs, hreg⟩ := findStream_eq_some.1 hfound
        have hold : slot.tokens = [.opener slot.httpStreamId] :=
          tokens_of_open hkind hlive (hentry.openRef hkind) (hentry.unclaimed hstate)
        have hnew : ({ slot with httpStreamClaimed := true, state := .collected } :
            ClientAio).tokens = [] := by
          simp [tokens, owned, hentry.openRef hkind]
        -- the opener's token ends here: the stream is the caller's now
        refine h.both .stay hs ha (by simp [hold, AioToken.About]) (by simp [hnew])
          (.set hs (fun _ => rfl) id) ?_ (fun _ _ => rfl) ?_ rfl rfl (fun _ => by simp)
            (fun _ => .inr ⟨rfl, rfl⟩) trivial
        · intro r o c r' o' c' he hr ho hc
          simp [hold, hnew] at hr ho hc
          subst hr hc
          exact he.collect hreg ho
        · intro d d' he hd
          obtain ⟨hzero, hflight⟩ := he.undriven (.inr hpending)
          simp at hd
          exact {
            driver := by simp [hd, hzero, hflight]
            recvRef := fun hk => by rw [hkind] at hk; cases hk
            openRef := he.openRef
            claimed := fun _ => rfl }
    · exact h

theorem aioDrop : RuntimeOk (w.aioDrop a) := by
  unfold StreamRuntime.aioDrop
  split
  · exact h
  · next slot hfind =>
    have ha := (findAio_eq_some.1 hfind).1
    split
    · exact h
    · next hstate => exact h.task (.spawn (.dropping a)) rfl ⟨slot, ha, hstate⟩

/-- A close of a collected stream. -/
theorem ncurlStreamClose (hcollected : ∀ s, w.findStream sid = some s → s.collected = true) :
    RuntimeOk (w.ncurlStreamClose sid) := by
  unfold StreamRuntime.ncurlStreamClose
  split
  · exact h
  · next s hfind =>
    have hs := (findStream_eq_some.1 hfind).1
    split
    · exact h
    · refine h.stream (.spawn (.closing sid)) hs (by simp) (by simp) (by simp)
        (.set hs id fun _ => rfl) ?_
        ⟨_, List.getElem?_set_self (List.getElem?_eq_some_iff.1 hs).1, hcollected s hfind, rfl⟩
      intro r o c r' o' c' he hr ho hc
      subst hr ho hc
      exact { he with closed := fun _ _ => rfl }

end

end RuntimeOk

/-- If a close names a registered stream, that stream has been collected. -/
def ClosesCollected (w : StreamRuntime) : StreamEvent → Prop
  | .close sid => ∀ s, w.findStream sid = some s → s.collected = true
  | _ => True

section
variable {w w' : StreamRuntime} {s : HttpClientStream} {sid : Nat} {e : StreamEvent}

/-- Every step but the end of the runtime keeps the books. -/
theorem RuntimeOk.step (h : RuntimeOk w) (hclose : ClosesCollected w e) (he : e ≠ .runtimeDestroy)
    (hw : w.step e = some w') : RuntimeOk w' := by
  unfold StreamRuntime.step at hw
  split at hw
  · cases hw
  · cases e with
    | openAio =>
      cases hw
      exact h.ncurlStreamOpenAio
    | recvAio sid =>
      cases hw
      exact h.ncurlStreamRecvAio
    | callback a rv rc =>
      obtain ⟨slot, ha, hw⟩ := Option.bind_eq_some_iff.1 hw
      split at hw
      · next hflight => exact h.clientAioCb ha hflight hw
      · cases hw
    | collectOpen a =>
      cases hw
      exact h.collectOpen
    | collectRecv a =>
      cases hw
      exact h.collectRecv
    | cancel a =>
      cases hw
      exact h
    | drop a =>
      cases hw
      exact h.aioDrop
    | close sid =>
      cases hw
      exact h.ncurlStreamClose hclose
    | resume i rc =>
      obtain ⟨t, hi, hw⟩ := Option.bind_eq_some_iff.1 hw
      exact h.resume hi hw
    | runtimeDestroy => exact absurd rfl he

/-! ### What the books say -/

/-- An operation of the table that opens the stream. -/
def ClientAio.opens (slot : ClientAio) (sid : Nat) : Bool :=
  slot.live && slot.kind == .ncurlStreamOpen && slot.httpStreamId == sid

/-- An operation of the table that receives from the stream, not yet at its end. -/
def ClientAio.receives (slot : ClientAio) (sid : Nat) : Bool :=
  slot.live && slot.kind == .ncurlStreamRecv && slot.state == .pending && slot.httpStreamId == sid

/-- The open of the stream is still there: being launched, or as an operation. -/
def StreamRuntime.HasOpen (w : StreamRuntime) (sid : Nat) : Prop :=
  .openPrepared sid ∈ w.tasks ∨ ∃ slot ∈ w.slots, slot.opens sid

/-- The open of the stream has not come to its end. -/
def StreamRuntime.Opening (w : StreamRuntime) (sid : Nat) : Prop :=
  .openPrepared sid ∈ w.tasks ∨ ∃ slot ∈ w.slots, slot.opens sid ∧ slot.state = .pending

/-- The number of receives on the stream that have not come to their end: pending operations,
    and launches without one. -/
def StreamRuntime.pendingReceives (w : StreamRuntime) (sid : Nat) : Nat :=
  w.tasks.countP (fun t => t == .recvReserved sid || t == .recvReset sid) +
    w.slots.countP (·.receives sid)

/-- A thread that is about to remove or to release the stream. -/
def AioTask.retires (sid : Nat) : AioTask → Bool
  | .release x | .discard x => x == sid
  | .destroyAio slot =>
    slot.kind == .ncurlStreamOpen && !slot.httpStreamClaimed && slot.httpStreamId == sid
  | _ => false

/-- The lifetimes of all streams:

    * a stream is destroyed at most once, and not while an open or a receive on it has not come
      to its end;
    * at most one receive is pending on it;
    * as long as it has not been collected, it is not destroyed before its open operation, and
      when that is gone, it is destroyed, or about to be once a last receive has come to its end;
    * once it has been collected, it is destroyed by a close or by the end of the runtime. -/
structure StreamsAlive (w : StreamRuntime) : Prop where
  once : ∀ s ∈ w.streams, s.destroyed ≤ 1
  unused : ∀ (sid : Nat) (s : HttpClientStream), w.streams[sid]? = some s → 0 < s.destroyed →
    ¬ w.Opening sid ∧ w.pendingReceives sid = 0
  receive : ∀ sid, w.pendingReceives sid ≤ 1
  uncollected : ∀ (sid : Nat) (s : HttpClientStream), w.streams[sid]? = some s →
    s.collected = false → if 0 < s.destroyed then ¬ w.HasOpen sid
      else w.HasOpen sid ∨ 0 < w.pendingReceives sid ∨ ∃ t ∈ w.tasks, t.retires sid
  collected : ∀ s ∈ w.streams, s.collected = true → 0 < s.destroyed →
    s.closing = true ∨ w.down = true

/-- The receives that count are those that hold the token. -/
theorem pendingReceives_le : w.pendingReceives sid ≤
    tokensHeld w.tasks w.slots (.receiver sid) := by
  refine Nat.add_le_add (countP_le_held ?_) (countP_le_held ?_)
  · intro t _ ht
    simp at ht
    rcases ht with rfl | rfl <;> simp
  · intro slot _ hslot
    simp [receives] at hslot
    obtain ⟨⟨⟨hlive, hkind⟩, hstate⟩, hid⟩ := hslot
    simp [tokens, hlive, hkind, hstate, hid]

/-- A receive that has not come to its end holds a reference. -/
theorem RuntimeOk.pendingReceives_le_refs (h : RuntimeOk w) :
    w.pendingReceives sid ≤ tokensHeld w.tasks w.slots (.ref sid) := by
  refine Nat.add_le_add (countP_le_held ?_) (countP_le_held ?_)
  · intro t _ ht
    simp at ht
    rcases ht with rfl | rfl <;> simp
  · intro slot hmem hslot
    simp [receives] at hslot
    obtain ⟨⟨⟨hlive, hkind⟩, hstate⟩, rfl⟩ := hslot
    obtain ⟨a, ha⟩ := getElem?_of_mem hmem
    have href : slot.httpStreamRef = some slot.httpStreamId := by
      rw [(h.aios.entry a slot ha).recvRef hkind hlive, if_pos hstate]
    rw [tokens_of_recv hkind hlive hstate href rfl]
    simp

/-- An open that has not been claimed holds its stream. -/
theorem RuntimeOk.opener_held (h : RuntimeOk w) (hopen : .openPrepared sid ∈ w.tasks ∨
    ∃ slot ∈ w.slots, slot.opens sid ∧ slot.httpStreamClaimed = false) :
    0 < tokensHeld w.tasks w.slots (.opener sid) := by
  rcases hopen with htask | ⟨slot, hmem, hslot, hunclaimed⟩
  · obtain ⟨i, hi⟩ := getElem?_of_mem htask
    have hcount := tokensHeld_of_task hi (.opener sid)
    rwa [AioTask.tokens, count_singleton_self] at hcount
  · simp [opens] at hslot
    obtain ⟨⟨hlive, hkind⟩, rfl⟩ := hslot
    obtain ⟨a, ha⟩ := getElem?_of_mem hmem
    have hcount := tokensHeld_of_aio ha (.opener slot.httpStreamId)
    rwa [tokens_of_open hkind hlive ((h.aios.entry a slot ha).openRef hkind) hunclaimed,
      count_singleton_self] at hcount

/-- So does an open that has not come to its end. -/
theorem RuntimeOk.opener_of_opening (h : RuntimeOk w) (hopen : w.Opening sid) :
    0 < tokensHeld w.tasks w.slots (.opener sid) := by
  refine h.opener_held (hopen.imp_right ?_)
  rintro ⟨slot, hmem, hslot, hpending⟩
  obtain ⟨a, ha⟩ := getElem?_of_mem hmem
  exact ⟨slot, hmem, hslot, (h.aios.entry a slot ha).unclaimed (by rw [hpending]; decide)⟩

/-- And the open of a stream that has not been collected. -/
theorem RuntimeOk.opener_of_hasOpen (h : RuntimeOk w) (hs : w.streams[sid]? = some s)
    (hcollected : s.collected = false) (hopen : w.HasOpen sid) :
    0 < tokensHeld w.tasks w.slots (.opener sid) := by
  refine h.opener_held (hopen.imp_right ?_)
  rintro ⟨slot, hmem, hslot⟩
  refine ⟨slot, hmem, hslot, ?_⟩
  by_contra hclaimed
  rw [Bool.not_eq_false] at hclaimed
  obtain ⟨s₀, hs₀, hcollected₀⟩ := h.claims slot hmem hclaimed
  simp [opens] at hslot
  rw [hslot.2] at hs₀
  cases hs.symm.trans hs₀
  exact Bool.noConfusion (hcollected.symm.trans hcollected₀)

/-- Whoever has the open of a stream is the open, or about to remove the stream. -/
theorem hasOpen_of_opener (hheld : 0 < tokensHeld w.tasks w.slots (.opener sid)) :
    w.HasOpen sid ∨ ∃ t ∈ w.tasks, t.retires sid := by
  rcases Nat.add_pos_iff_pos_or_pos.1 hheld with htask | hslot
  · obtain ⟨t, hmem, hcount⟩ := exists_of_held_pos htask
    have htok := count_pos_iff.1 hcount
    cases t with
    | openPrepared x =>
      simp at htok
      subst htok
      exact .inl (.inl hmem)
    | discard x =>
      simp at htok
      exact .inr ⟨_, hmem, by simp [AioTask.retires, htok]⟩
    | destroyAio slot =>
      refine .inr ⟨_, hmem, ?_⟩
      simp [owned] at htok
      simp [AioTask.retires, htok]
    | openSubmitting | openResubmit | recvReserved | recvRegistered | recvSubmitting
    | recvResubmit | recvUnregister | recvReset | closing | dropping | release | done =>
      simp at htok
  · obtain ⟨slot, hmem, hcount⟩ := exists_of_held_pos hslot
    have htok := count_pos_iff.1 hcount
    simp [tokens, owned] at htok
    exact .inl (.inr ⟨slot, hmem, by simp [opens, htok]⟩)

/-- Whoever has a reference is a receive, or about to release the stream. -/
theorem RuntimeOk.receives_of_ref (h : RuntimeOk w)
    (hheld : 0 < tokensHeld w.tasks w.slots (.ref sid)) :
    0 < w.pendingReceives sid ∨ ∃ t ∈ w.tasks, t.retires sid := by
  rcases Nat.add_pos_iff_pos_or_pos.1 hheld with htask | hslot
  -- a thread holds the reference
  · obtain ⟨t, hmem, hcount⟩ := exists_of_held_pos htask
    have htok := count_pos_iff.1 hcount
    cases t with
    | recvReserved x | recvReset x =>
      simp at htok
      subst htok
      refine .inl (Nat.add_pos_left (countP_pos_iff.2 ⟨_, hmem, by simp⟩) _)
    | release x =>
      simp at htok
      exact .inr ⟨_, hmem, by simp [AioTask.retires, htok]⟩
    | destroyAio slot =>
      have href : slot.httpStreamRef = none := h.fits _ hmem
      simp [owned, href] at htok
    | openPrepared | openSubmitting | openResubmit | recvRegistered | recvSubmitting
    | recvResubmit | recvUnregister | closing | dropping | discard | done =>
      simp at htok
  -- a live operation holds it, which only a receive does
  · obtain ⟨slot, hmem, hcount⟩ := exists_of_held_pos hslot
    obtain ⟨a, ha⟩ := getElem?_of_mem hmem
    have hentry := h.aios.entry a slot ha
    have htok := count_pos_iff.1 hcount
    simp [tokens, owned] at htok
    obtain ⟨hlive, href⟩ := htok
    have hkind : slot.kind = .ncurlStreamRecv := by
      cases hkind : slot.kind with
      | ncurlStreamOpen =>
        rw [hentry.openRef hkind] at href
        cases href
      | ncurlStreamRecv => rfl
    have hrecv := hentry.recvRef hkind hlive
    rw [href] at hrecv
    split at hrecv
    · next hstate =>
      refine .inl (Nat.add_pos_right _ (countP_pos_iff.2 ⟨slot, hmem, ?_⟩))
      simp [receives, hlive, hkind, hstate, Option.some.inj hrecv]
    · cases hrecv

/-- What the books say. -/
theorem RuntimeOk.alive (h : RuntimeOk w) : StreamsAlive w where
  once s hmem := by
    obtain ⟨sid, hs⟩ := getElem?_of_mem hmem
    rw [(h.streams.entry sid s hs).freed]
    split <;> omega
  unused sid s hs hdestroyed := by
    obtain ⟨-, hrefs, hopeners⟩ := (h.streams.entry sid s hs).of_destroyed hdestroyed
    constructor
    · intro hopen
      have := h.opener_of_opening hopen
      omega
    · have hle : w.pendingReceives sid ≤ _ := h.pendingReceives_le_refs
      omega
  receive sid := by
    refine Nat.le_trans pendingReceives_le ?_
    rcases Nat.lt_or_ge sid w.streams.length with hlt | hge
    · exact (h.streams.entry sid _ (getElem?_eq_getElem hlt)).receiver_le_one
    · rw [(h.streams.fresh sid hge).2.2]
      exact Nat.zero_le _
  uncollected sid s hs hcollected := by
    have he := h.streams.entry sid s hs
    split
    · next hdestroyed =>
      intro hopen
      have hpos := h.opener_of_hasOpen hs hcollected hopen
      obtain ⟨-, -, hopeners⟩ := he.of_destroyed hdestroyed
      omega
    · next hdestroyed =>
      -- the table or a reference keeps the stream
      rcases he.of_not_destroyed (by omega) with hreg | hrefs
      · have hopener := he.opener
        rw [hcollected, hreg] at hopener
        have hone : 0 < tokensHeld w.tasks w.slots (.opener sid) := by
          rw [hopener]
          exact Nat.one_pos
        exact (hasOpen_of_opener hone).imp_right .inr
      · exact .inr (h.receives_of_ref hrefs)
  collected s hmem hcollected hdestroyed := by
    obtain ⟨sid, hs⟩ := getElem?_of_mem hmem
    have he := h.streams.entry sid s hs
    exact .inl (he.closed hcollected (he.of_destroyed hdestroyed).1)

/-- Threads that are done and operations that are gone hold nothing. -/
theorem tokensHeld_of_quiet (htasks : ∀ t ∈ w.tasks, t = .done)
    (hslots : ∀ slot ∈ w.slots, slot.live = false) (tok : AioToken) :
    tokensHeld w.tasks w.slots tok = 0 := by
  by_contra hpos
  rcases Nat.add_pos_iff_pos_or_pos.1 (Nat.pos_of_ne_zero hpos) with htask | hslot
  · obtain ⟨t, hmem, hcount⟩ := exists_of_held_pos htask
    rw [htasks t hmem] at hcount
    simp at hcount
  · obtain ⟨slot, hmem, hcount⟩ := exists_of_held_pos hslot
    rw [tokens_of_dead (hslots slot hmem)] at hcount
    simp at hcount

/-- At the end of the runtime every stream is destroyed, and nothing else is left. -/
theorem RuntimeOk.runtimeDestroy (h : RuntimeOk w) (hw : w.runtimeDestroy = some w') :
    w'.down = true ∧ StreamsAlive w' := by
  unfold StreamRuntime.runtimeDestroy at hw
  split at hw
  · next hquiet =>
    cases hw
    simp at hquiet
    obtain ⟨htasks, hslots⟩ := hquiet
    have hzero := tokensHeld_of_quiet htasks hslots
    have hopen : ∀ sid, ¬ w.HasOpen sid := by
      rintro sid (htask | ⟨slot, hmem, hslot⟩)
      · cases htasks _ htask
      · simp [opens, hslots slot hmem] at hslot
    have hreceives : ∀ sid, w.pendingReceives sid = 0 := fun sid =>
      Nat.le_zero.1 ((hzero (.receiver sid)) ▸ pendingReceives_le)
    -- the only reference left is the table's own
    have hdestroyed : ∀ s ∈ w.streams,
        (if s.registered then { s with registered := false, destroyed := s.destroyed + 1 }
          else s).destroyed = 1 := by
      intro s hmem
      obtain ⟨sid, hs⟩ := getElem?_of_mem hmem
      have he := h.streams.entry sid s hs
      have hrefs := he.refs
      have hfreed := he.freed
      rw [hzero] at hrefs
      split
      · next hreg =>
        rw [hreg] at hrefs
        rw [hrefs] at hfreed
        exact congrArg Nat.succ hfreed
      · next hreg =>
        rw [Bool.not_eq_true] at hreg
        rw [hreg] at hrefs
        rw [hrefs] at hfreed
        exact hfreed
    have hall : ∀ s' ∈ w.streams.map fun s =>
        if s.registered then { s with registered := false, destroyed := s.destroyed + 1 } else s,
        s'.destroyed = 1 := forall_mem_map.2 hdestroyed
    refine ⟨rfl, ?_⟩
    exact {
      once := fun s hmem => Nat.le_of_eq (hall s hmem)
      unused := fun sid s _ _ =>
        ⟨fun hopening => hopen sid (hopening.imp_right fun ⟨slot, hmem, hslot, _⟩ =>
          ⟨slot, hmem, hslot⟩), hreceives sid⟩
      receive := fun sid => Nat.le_trans (Nat.le_of_eq (hreceives sid)) (Nat.zero_le _)
      uncollected := by
        intro sid s hs _
        rw [if_pos (hall s (mem_of_getElem? hs) ▸ Nat.one_pos)]
        exact hopen sid
      collected := fun _ _ _ _ => .inr rfl }
  · cases hw

end

/-! ### Every interleaving -/

theorem RuntimeOk.empty : RuntimeOk {} where
  streams := ⟨fun _ _ => ⟨rfl, rfl, rfl⟩, nofun⟩
  aios := ⟨fun _ _ => rfl, nofun⟩
  claims := nofun
  fits := nofun

/-- **Lifetimes.** In every interleaving of opens, receives, callbacks, collects, cancels, drops
    and closes, with every section under the mutex as one step, in which a close names a
    collected stream, streams live as they should. -/
theorem streamLifetime {es : List StreamEvent} {w : StreamRuntime}
    (hclose : Runs.Along StreamRuntime.step ClosesCollected {} es)
    (hrun : Runs.run StreamRuntime.step {} es = some w) : StreamsAlive w := by
  have hinv : RuntimeOk w ∨ w.down = true ∧ StreamsAlive w := by
    refine Runs.run_induction (fun _ w => RuntimeOk w ∨ w.down = true ∧ StreamsAlive w)
      ?_ (.inl .empty) hclose hrun
    intro past w e w' hinv hallowed hstep
    rcases hinv with hok | ⟨hdown, -⟩
    · by_cases he : e = .runtimeDestroy
      · subst he
        unfold StreamRuntime.step at hstep
        split at hstep
        · cases hstep
        · exact .inr (hok.runtimeDestroy hstep)
      · exact .inl (hok.step hallowed he hstep)
    · -- nothing happens after the end of the runtime
      simp [StreamRuntime.step, hdown] at hstep
  rcases hinv with hok | ⟨-, halive⟩
  · exact hok.alive
  · exact halive

/-- A run in which a stream is opened, collected, read from and closed while its second receive
    is with nng. -/
def readAndClosed : List StreamEvent :=
  -- the open, its three callbacks and the collect
  [.openAio, .resume 0 .more, .resume 0 .more,
    .callback 0 .ok .more, .resume 1 .more, .callback 0 .ok .more, .resume 2 .more,
    .callback 0 .ok .complete, .collectOpen 0,
  -- a receive that is complete at once
    .recvAio 0, .resume 3 .more, .resume 3 .complete, .resume 3 .more, .collectRecv 1,
  -- a receive that waits, and the close
    .recvAio 0, .resume 4 .more, .resume 4 .more, .resume 4 .more, .close 0,
    .resume 5 .more, .callback 2 .failed .error, .resume 5 .more, .resume 6 .more, .drop 2,
    .resume 7 .more, .resume 7 .more]

/-- Its one close names the stream that has been collected. -/
theorem readAndClosed_closesCollected :
    Runs.Along StreamRuntime.step ClosesCollected {} readAndClosed := by
  refine Runs.Along.of_along (p := fun w e => match e with
    | .close sid => (w.findStream sid).all (·.collected)
    | _ => true) (fun w e he => ?_) (by decide +kernel)
  cases e with
  | close sid =>
    intro s hs
    simpa [hs] using he
  | openAio | recvAio | callback | collectOpen | collectRecv | cancel | drop | resume
  | runtimeDestroy => trivial

theorem streamLifetime_readAndClosed : ∃ w,
    Runs.run StreamRuntime.step {} readAndClosed = some w ∧ StreamsAlive w ∧
      w.streams.map (·.destroyed) = [1] := by
  obtain ⟨w, hrun, hdestroyed⟩ : ∃ w, Runs.run StreamRuntime.step {} readAndClosed = some w ∧
      w.streams.map (·.destroyed) = [1] := ⟨_, rfl, rfl⟩
  exact ⟨w, hrun, streamLifetime readAndClosed_closesCollected hrun, hdestroyed⟩

/-- A close by the id of a stream whose open is still connecting: the open has no reference, so
    the stream is destroyed while nng has its operation. -/
theorem open_stream_closed : ∃ es w, Runs.run StreamRuntime.step {} es = some w ∧
    w.streams.map (·.destroyed) = [1] ∧ w.Opening 0 ∧ ¬ StreamsAlive w := by
  refine ⟨[.openAio, .resume 0 .more, .resume 0 .more, .close 0, .resume 1 .more,
    .resume 1 .more], _, rfl, rfl, .inr ⟨_, mem_singleton_self _, rfl, rfl⟩, fun halive => ?_⟩
  exact (halive.unused 0 _ rfl Nat.one_pos).1 (.inr ⟨_, mem_singleton_self _, rfl, rfl⟩)

end Ducknng
