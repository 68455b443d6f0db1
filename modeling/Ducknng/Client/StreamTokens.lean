import Ducknng.Client.StreamHandles
import Ducknng.Lib.Ledger

namespace Ducknng

open List AioTask

/-!
# What keeps a stream alive

Threads and operations hold tokens of the streams: a reference each that the stream's count has
to show, the one open operation that brought it, the one receive that may run on it. Sections
under the mutex only move tokens, so that the count of a stream tells whether anyone can still
come back to it.

* `StreamBook`, `AioBook` — the books of streams and of operations; `StreamBook.set`,
  `AioBook.set` — one stream or one operation changes.
* `RuntimeOk` — both books, with what the threads know; `RuntimeOk.task`, `RuntimeOk.stream`,
  `RuntimeOk.aio`, `RuntimeOk.both` — the sections by what they touch.
-/

open Ledger (held held_set held_concat count_le_held exists_of_held_pos getElem?_set_cases
  getElem?_concat_cases)

/-! ### Tokens -/

/-- What threads and operations hold of the streams. A driver is the one that may bring a
    pending operation to its end. -/
inductive AioToken
  | ref (sid : Nat)
  | opener (sid : Nat)
  | receiver (sid : Nat)
  | driver (a : Nat)
  deriving DecidableEq, Repr

/-- A token that is about no other stream. -/
def AioToken.About (sid : Nat) : AioToken → Prop
  | .ref x | .opener x | .receiver x => x = sid
  | .driver _ => True

/-- What destroying the operation gives back. -/
def ClientAio.owned (slot : ClientAio) : List AioToken :=
  slot.httpStreamRef.toList.map .ref ++
    if slot.kind = .ncurlStreamOpen ∧ slot.httpStreamClaimed = false then
      [.opener slot.httpStreamId]
    else []

/-- The tokens of an operation in the table. -/
def ClientAio.tokens (slot : ClientAio) : List AioToken :=
  if slot.live then
    slot.owned ++
      if slot.kind = .ncurlStreamRecv ∧ slot.state = .pending then [.receiver slot.httpStreamId]
      else []
  else []

@[simp] theorem ClientAio.count_driver_owned (slot : ClientAio) (a : Nat) :
    slot.owned.count (.driver a) = 0 := by
  apply count_eq_zero.2
  unfold ClientAio.owned
  split <;> simp

/-- The tokens of a thread. -/
def AioTask.tokens : AioTask → List AioToken
  | .openPrepared sid | .discard sid => [.opener sid]
  | .recvReserved sid | .recvReset sid => [.ref sid, .receiver sid]
  | .openSubmitting _ a | .openResubmit _ a | .recvRegistered _ a | .recvSubmitting _ a
  | .recvResubmit _ a | .recvUnregister _ a => [.driver a]
  | .destroyAio slot => slot.owned
  | .release sid => [.ref sid]
  | .closing _ | .dropping _ | .done => []

namespace AioTask
attribute [simp] tokens.eq_1 tokens.eq_2 tokens.eq_3 tokens.eq_4 tokens.eq_5 tokens.eq_6
  tokens.eq_7 tokens.eq_8 tokens.eq_9 tokens.eq_10 tokens.eq_11 tokens.eq_12 tokens.eq_13
  tokens.eq_14 tokens.eq_15
end AioTask

/-- How often a token is held. -/
def tokensHeld (tasks : List AioTask) (slots : List ClientAio) (tok : AioToken) : Nat :=
  held tokens tasks tok + held ClientAio.tokens slots tok

/-! ### The book of streams -/

/-- A stream and the tokens about it: the count is the number of references, the table's own
    included, and it is destroyed when there are none. Its open operation exists as long as it
    is registered, until it is collected; from then on only a close takes it out. -/
structure StreamEntry (s : HttpClientStream) (refs openers receivers : Nat) : Prop where
  refs : s.refcount = s.registered.toNat + refs
  freed : s.destroyed = if s.refcount = 0 then 1 else 0
  opener : openers = if s.collected then 0 else s.registered.toNat
  receiver : receivers ≤ if s.recvAioId = .free then 0 else 1
  closed : s.collected = true → s.registered = false → s.closing = true

/-- Every stream has its entry, and nobody holds anything of a stream there is not. -/
structure StreamBook (streams : List HttpClientStream) (hold : AioToken → Nat) : Prop where
  fresh : ∀ sid, streams.length ≤ sid →
    hold (.ref sid) = 0 ∧ hold (.opener sid) = 0 ∧ hold (.receiver sid) = 0
  entry : ∀ sid s, streams[sid]? = some s →
    StreamEntry s (hold (.ref sid)) (hold (.opener sid)) (hold (.receiver sid))

section
variable {streams : List HttpClientStream} {hold hold' : AioToken → Nat}
  {s s' : HttpClientStream} {sid : Nat} {gone come : List AioToken}

/-- Tokens about one stream are not about another. -/
theorem count_of_about {l : List AioToken} {x : Nat} (hl : ∀ tok ∈ l, tok.About sid)
    (hx : x ≠ sid) :
    l.count (.ref x) = 0 ∧ l.count (.opener x) = 0 ∧ l.count (.receiver x) = 0 := by
  refine ⟨count_eq_zero.2 ?_, count_eq_zero.2 ?_, count_eq_zero.2 ?_⟩
  all_goals exact fun hmem => hx (hl _ hmem)

/-- What is held of a stream does not change. -/
theorem StreamBook.congr (h : StreamBook streams hold)
    (hhold : ∀ sid, hold' (.ref sid) = hold (.ref sid) ∧ hold' (.opener sid) = hold (.opener sid) ∧
      hold' (.receiver sid) = hold (.receiver sid)) : StreamBook streams hold' where
  fresh sid hsid := by
    obtain ⟨hr, ho, hc⟩ := hhold sid
    rw [hr, ho, hc]
    exact h.fresh sid hsid
  entry sid s hs := by
    obtain ⟨hr, ho, hc⟩ := hhold sid
    rw [hr, ho, hc]
    exact h.entry sid s hs

/-- One stream changes, with the tokens about it. -/
theorem StreamBook.set (h : StreamBook streams hold) (hs : streams[sid]? = some s)
    (hmove : ∀ tok, hold' tok + gone.count tok = hold tok + come.count tok)
    (hgone : ∀ tok ∈ gone, tok.About sid) (hcome : ∀ tok ∈ come, tok.About sid)
    (hentry : ∀ {r o c r' o' c'}, StreamEntry s r o c →
      r' + gone.count (.ref sid) = r + come.count (.ref sid) →
      o' + gone.count (.opener sid) = o + come.count (.opener sid) →
      c' + gone.count (.receiver sid) = c + come.count (.receiver sid) →
      StreamEntry s' r' o' c') : StreamBook (streams.set sid s') hold' := by
  have hlt := (List.getElem?_eq_some_iff.1 hs).1
  -- what is held of the other streams is untouched
  have hother : ∀ x, x ≠ sid → hold' (.ref x) = hold (.ref x) ∧
      hold' (.opener x) = hold (.opener x) ∧ hold' (.receiver x) = hold (.receiver x) := by
    intro x hx
    obtain ⟨hgr, hgo, hgc⟩ := count_of_about hgone hx
    obtain ⟨hcr, hco, hcc⟩ := count_of_about hcome hx
    have hr := hmove (.ref x)
    have ho := hmove (.opener x)
    have hc := hmove (.receiver x)
    omega
  constructor
  · intro x hx
    rw [length_set] at hx
    have hne : x ≠ sid := by omega
    obtain ⟨hr, ho, hc⟩ := hother x hne
    rw [hr, ho, hc]
    exact h.fresh x hx
  · intro x t ht
    rcases getElem?_set_cases ht with ⟨rfl, rfl⟩ | ⟨hx, ht⟩
    · exact hentry (h.entry x s hs) (hmove _) (hmove _) (hmove _)
    · obtain ⟨hr, ho, hc⟩ := hother x hx
      rw [hr, ho, hc]
      exact h.entry x t ht

/-- A stream is registered with its open operation. -/
theorem StreamBook.concat (h : StreamBook streams hold)
    (hmove : ∀ tok, hold' tok = hold tok + [AioToken.opener streams.length].count tok) :
    StreamBook (streams ++ [HttpClientStream.prepared]) hold' := by
  have habout : ∀ tok ∈ [AioToken.opener streams.length], tok.About streams.length := by
    intro tok htok
    rw [mem_singleton.1 htok]
    rfl
  have hother : ∀ x, x ≠ streams.length → hold' (.ref x) = hold (.ref x) ∧
      hold' (.opener x) = hold (.opener x) ∧ hold' (.receiver x) = hold (.receiver x) := by
    intro x hx
    obtain ⟨hr, ho, hc⟩ := count_of_about habout hx
    rw [hmove, hmove, hmove, ho]
    exact ⟨rfl, rfl, rfl⟩
  constructor
  · intro x hx
    rw [length_append, length_singleton] at hx
    obtain ⟨hr, ho, hc⟩ := hother x (by omega)
    rw [hr, ho, hc]
    exact h.fresh x (by omega)
  · intro x t ht
    rcases getElem?_concat_cases ht with ⟨rfl, rfl⟩ | ⟨hx, ht⟩
    · obtain ⟨hr, ho, hc⟩ := h.fresh streams.length (Nat.le_refl _)
      rw [hmove, hmove, hmove, hr, ho, hc]
      constructor <;> simp [HttpClientStream.prepared]
    · obtain ⟨hr, ho, hc⟩ := hother x hx
      rw [hr, ho, hc]
      exact h.entry x t ht

end

/-! ### The book of operations -/

/-- An operation and the threads that drive it: it has at most one driver, nng or a thread, and
    only while it is pending in the table. A pending receive holds its stream. -/
structure AioEntry (slot : ClientAio) (drivers : Nat) : Prop where
  driver : drivers + slot.inFlight.toNat ≤ if slot.live = true ∧ slot.state = .pending then 1 else 0
  recvRef : slot.kind = .ncurlStreamRecv → slot.live = true →
    slot.httpStreamRef = if slot.state = .pending then some slot.httpStreamId else none
  openRef : slot.kind = .ncurlStreamOpen → slot.httpStreamRef = none
  claimed : slot.httpStreamClaimed = true → slot.state = .collected

/-- Every operation has its entry, and nobody drives one there is not. -/
structure AioBook (slots : List ClientAio) (hold : AioToken → Nat) : Prop where
  fresh : ∀ a, slots.length ≤ a → hold (.driver a) = 0
  entry : ∀ a slot, slots[a]? = some slot → AioEntry slot (hold (.driver a))

section
variable {slots : List ClientAio} {slot slot' : ClientAio} {hold hold' : AioToken → Nat}
  {a sid : Nat}

theorem AioBook.congr (h : AioBook slots hold)
    (hhold : ∀ a, hold' (.driver a) = hold (.driver a)) : AioBook slots hold' where
  fresh a ha := (hhold a).trans (h.fresh a ha)
  entry a slot hslot := (hhold a).symm ▸ h.entry a slot hslot

/-- One operation changes, with its drivers. -/
theorem AioBook.set (h : AioBook slots hold) (ha : slots[a]? = some slot)
    (hother : ∀ b, b ≠ a → hold' (.driver b) = hold (.driver b))
    (hentry : AioEntry slot (hold (.driver a)) → AioEntry slot' (hold' (.driver a))) :
    AioBook (slots.set a slot') hold' := by
  have hlt := (List.getElem?_eq_some_iff.1 ha).1
  constructor
  · intro b hb
    rw [length_set] at hb
    rw [hother b (by omega)]
    exact h.fresh b hb
  · intro b t ht
    rcases getElem?_set_cases ht with ⟨rfl, rfl⟩ | ⟨hb, ht⟩
    · exact hentry (h.entry b slot ha)
    · rw [hother b hb]
      exact h.entry b t ht

/-- An operation is registered by the thread that drives it. -/
theorem AioBook.concat (h : AioBook slots hold)
    (hother : ∀ b, b ≠ slots.length → hold' (.driver b) = hold (.driver b))
    (hentry : AioEntry slot (hold' (.driver slots.length))) :
    AioBook (slots ++ [slot]) hold' := by
  constructor
  · intro b hb
    rw [length_append, length_singleton] at hb
    rw [hother b (by omega)]
    exact h.fresh b (by omega)
  · intro b t ht
    rcases getElem?_concat_cases ht with ⟨rfl, rfl⟩ | ⟨hb, ht⟩
    · exact hentry
    · rw [hother b hb]
      exact h.entry b t ht

/-! ### Tokens of an operation -/

namespace ClientAio

theorem tokens_of_dead (hlive : slot.live = false) : slot.tokens = [] := by
  simp [tokens, hlive]

theorem tokens_of_recv (hkind : slot.kind = .ncurlStreamRecv) (hlive : slot.live = true)
    (hstate : slot.state = .pending) (href : slot.httpStreamRef = some sid)
    (hid : slot.httpStreamId = sid) : slot.tokens = [.ref sid, .receiver sid] := by
  simp [tokens, owned, hkind, hlive, hstate, href, hid]

theorem tokens_of_open (hkind : slot.kind = .ncurlStreamOpen) (hlive : slot.live = true)
    (href : slot.httpStreamRef = none) (hclaimed : slot.httpStreamClaimed = false) :
    slot.tokens = [.opener slot.httpStreamId] := by
  simp [tokens, owned, hkind, hlive, href, hclaimed]

end ClientAio

variable {drivers : Nat}

/-- What has been claimed has been collected. -/
theorem AioEntry.unclaimed (h : AioEntry slot drivers) (hstate : slot.state ≠ .collected) :
    slot.httpStreamClaimed = false := by
  cases hclaimed : slot.httpStreamClaimed with
  | false => rfl
  | true => exact absurd (h.claimed hclaimed) hstate

/-- An operation that is driven is pending, in the table. -/
theorem AioEntry.pending (h : AioEntry slot drivers) (hpos : 0 < drivers + slot.inFlight.toNat) :
    slot.live = true ∧ slot.state = .pending ∧ drivers + slot.inFlight.toNat = 1 := by
  have hdriver := h.driver
  split at hdriver
  · next hboth => exact ⟨hboth.1, hboth.2, by omega⟩
  · omega

/-- A complete operation or one that has left the table is not driven. -/
theorem AioEntry.undriven (h : AioEntry slot drivers)
    (hover : slot.live = false ∨ slot.state ≠ .pending) :
    drivers = 0 ∧ slot.inFlight = false := by
  have hdriver := h.driver
  have hzero : drivers + slot.inFlight.toNat = 0 := by
    split at hdriver
    · next hboth =>
      rcases hover with hover | hover
      · rw [hboth.1] at hover
        cases hover
      · exact absurd hboth.2 hover
    · omega
  refine ⟨by omega, ?_⟩
  cases hflight : slot.inFlight with
  | false => rfl
  | true =>
    rw [hflight] at hzero
    exact absurd hzero (by simp)

end

/-! ### Threads -/

/-- What a thread knows of the operation or the stream it works on. -/
def AioTask.Fits (streams : List HttpClientStream) (slots : List ClientAio) : AioTask → Prop
  | .openSubmitting sid a | .openResubmit sid a =>
    ∃ slot, slots[a]? = some slot ∧ slot.kind = .ncurlStreamOpen ∧ slot.httpStreamId = sid
  | .recvRegistered sid a | .recvSubmitting sid a | .recvResubmit sid a | .recvUnregister sid a =>
    ∃ slot, slots[a]? = some slot ∧ slot.kind = .ncurlStreamRecv ∧ slot.httpStreamId = sid
  | .dropping a => ∃ slot, slots[a]? = some slot ∧ slot.state ≠ .pending
  | .closing sid => ∃ s, streams[sid]? = some s ∧ s.collected = true ∧ s.closing = true
  | .destroyAio slot => slot.httpStreamRef = none
  | _ => True

/-- Streams stay, and what is collected or closing remains so. -/
def StreamsEvolve (streams streams' : List HttpClientStream) : Prop :=
  ∀ (sid : Nat) (s : HttpClientStream), streams[sid]? = some s →
    ∃ s' : HttpClientStream, streams'[sid]? = some s' ∧
    (s.collected = true → s'.collected = true) ∧ (s.closing = true → s'.closing = true)

/-- Operations stay what they are, and what is complete remains so. -/
def SlotsEvolve (slots slots' : List ClientAio) : Prop :=
  ∀ (a : Nat) (slot : ClientAio), slots[a]? = some slot → ∃ slot' : ClientAio,
    slots'[a]? = some slot' ∧ slot'.kind = slot.kind ∧ slot'.httpStreamId = slot.httpStreamId ∧
    (slot.state ≠ .pending → slot'.state ≠ .pending)

/-- A claimed stream has been collected. -/
def Claims (streams : List HttpClientStream) (slots : List ClientAio) : Prop :=
  ∀ slot ∈ slots, slot.httpStreamClaimed = true →
    ∃ s, streams[slot.httpStreamId]? = some s ∧ s.collected = true

section
variable {streams streams' : List HttpClientStream} {slots slots' : List ClientAio}
  {s s' : HttpClientStream} {slot slot' : ClientAio} {sid a : Nat}

theorem StreamsEvolve.refl : StreamsEvolve streams streams :=
  fun _ s hs => ⟨s, hs, id, id⟩

theorem StreamsEvolve.set (hs : streams[sid]? = some s)
    (hcollected : s.collected = true → s'.collected = true)
    (hclosing : s.closing = true → s'.closing = true) :
    StreamsEvolve streams (streams.set sid s') := by
  intro x t ht
  by_cases hx : x = sid
  · subst hx
    cases hs.symm.trans ht
    exact ⟨s', List.getElem?_set_self (List.getElem?_eq_some_iff.1 hs).1, hcollected, hclosing⟩
  · exact ⟨t, by rw [List.getElem?_set_ne (Ne.symm hx), ht], id, id⟩

theorem StreamsEvolve.concat : StreamsEvolve streams (streams ++ [s]) :=
  fun _ t ht => ⟨t, by rw [List.getElem?_append_left (List.getElem?_eq_some_iff.1 ht).1, ht],
    id, id⟩

theorem SlotsEvolve.refl : SlotsEvolve slots slots :=
  fun _ slot hslot => ⟨slot, hslot, rfl, rfl, id⟩

theorem SlotsEvolve.set (ha : slots[a]? = some slot) (hkind : slot'.kind = slot.kind)
    (hid : slot'.httpStreamId = slot.httpStreamId)
    (hstate : slot.state ≠ .pending → slot'.state ≠ .pending) :
    SlotsEvolve slots (slots.set a slot') := by
  intro b t ht
  by_cases hb : b = a
  · subst hb
    cases ha.symm.trans ht
    exact ⟨slot', List.getElem?_set_self (List.getElem?_eq_some_iff.1 ha).1, hkind, hid, hstate⟩
  · exact ⟨t, by rw [List.getElem?_set_ne (Ne.symm hb), ht], rfl, rfl, id⟩

theorem SlotsEvolve.concat : SlotsEvolve slots (slots ++ [slot]) :=
  fun _ t ht =>
    ⟨t, by rw [List.getElem?_append_left (List.getElem?_eq_some_iff.1 ht).1, ht], rfl, rfl, id⟩

theorem Claims.evolve (h : Claims streams slots) (hstreams : StreamsEvolve streams streams') :
    Claims streams' slots := by
  intro slot hslot hclaimed
  obtain ⟨s, hs, hcollected⟩ := h slot hslot hclaimed
  obtain ⟨s', hs', hcollected', -⟩ := hstreams _ s hs
  exact ⟨s', hs', hcollected' hcollected⟩

theorem Claims.set (h : Claims streams slots) (hslot : slot'.httpStreamClaimed = true →
    ∃ s, streams[slot'.httpStreamId]? = some s ∧ s.collected = true) :
    Claims streams (slots.set a slot') := by
  intro x hx
  rcases mem_or_eq_of_mem_set hx with hx | rfl
  · exact h x hx
  · exact hslot

theorem Claims.concat (h : Claims streams slots) (hslot : slot.httpStreamClaimed = false) :
    Claims streams (slots ++ [slot]) := by
  refine forall_mem_append.2 ⟨h, forall_mem_singleton.2 fun hclaimed => ?_⟩
  rw [hslot] at hclaimed
  cases hclaimed

/-- What a thread knows stays true. -/
theorem AioTask.Fits.evolve {t : AioTask} (h : t.Fits streams slots)
    (hstreams : StreamsEvolve streams streams') (hslots : SlotsEvolve slots slots') :
    t.Fits streams' slots' := by
  cases t with
  | openSubmitting sid a | openResubmit sid a | recvRegistered sid a | recvSubmitting sid a
  | recvResubmit sid a | recvUnregister sid a =>
    obtain ⟨slot, ha, hkind, hid⟩ := h
    obtain ⟨slot', ha', hkind', hid', -⟩ := hslots a slot ha
    exact ⟨slot', ha', hkind'.trans hkind, hid'.trans hid⟩
  | dropping a =>
    obtain ⟨slot, ha, hstate⟩ := h
    obtain ⟨slot', ha', -, -, hstate'⟩ := hslots a slot ha
    exact ⟨slot', ha', hstate' hstate⟩
  | closing sid =>
    obtain ⟨s, hs, hcollected, hclosing⟩ := h
    obtain ⟨s', hs', hcollected', hclosing'⟩ := hstreams sid s hs
    exact ⟨s', hs', hcollected' hcollected, hclosing' hclosing⟩
  | destroyAio slot => exact h
  | openPrepared | recvReserved | recvReset | discard | release | done => trivial

end

/-- A thread goes from one task to another; a new thread comes from nothing. -/
inductive TaskMoves (tasks : List AioTask) : List AioTask → AioTask → AioTask → Prop
  | set {i : Nat} {t : AioTask} (hi : tasks[i]? = some t) (t' : AioTask) :
    TaskMoves tasks (tasks.set i t') t t'
  | spawn (t' : AioTask) : TaskMoves tasks (tasks ++ [t']) .done t'
  | stay : TaskMoves tasks tasks .done .done

section
variable {tasks tasks' : List AioTask} {t t' : AioTask}

theorem TaskMoves.held (h : TaskMoves tasks tasks' t t') (tok : AioToken) :
    held tokens tasks' tok + t.tokens.count tok =
      held tokens tasks tok + t'.tokens.count tok := by
  cases h with
  | set hi => exact held_set hi t' tok
  | spawn => exact held_concat
  | stay => rfl

theorem TaskMoves.mem (h : TaskMoves tasks tasks' t t') {x : AioTask} (hx : x ∈ tasks') :
    x ∈ tasks ∨ x = t' := by
  cases h with
  | set hi => exact mem_or_eq_of_mem_set hx
  | spawn => simpa using hx
  | stay => exact .inl hx

end

/-- The books are in order, and every thread knows what it works on. -/
structure RuntimeOk (w : StreamRuntime) : Prop where
  streams : StreamBook w.streams (tokensHeld w.tasks w.slots)
  aios : AioBook w.slots (held tokens w.tasks)
  claims : Claims w.streams w.slots
  fits : ∀ t ∈ w.tasks, t.Fits w.streams w.slots

/-! ### Sections by what they touch -/

namespace RuntimeOk
variable {w : StreamRuntime} {streams' : List HttpClientStream} {slots' : List ClientAio}
  {tasks' : List AioTask} {s s' : HttpClientStream} {slot slot' : ClientAio} {t t' : AioTask}
  {sid a : Nat}

section
variable (h : RuntimeOk w) (hmoves : TaskMoves w.tasks tasks' t t')
include h hmoves

/-- The parts of the runtime after a section of one thread. -/
theorem assemble
    (hstreams : StreamBook streams' (tokensHeld tasks' slots'))
    (haios : AioBook slots' (held tokens tasks')) (hclaims : Claims streams' slots')
    (hstream : StreamsEvolve w.streams streams') (hslot : SlotsEvolve w.slots slots')
    (hfit : t'.Fits streams' slots') :
    RuntimeOk { w with streams := streams', slots := slots', tasks := tasks' } where
  streams := hstreams
  aios := haios
  claims := hclaims
  fits x hx := by
    rcases hmoves.mem hx with hold | rfl
    · exact (h.fits x hold).evolve hstream hslot
    · exact hfit

omit h in
/-- Tokens move between a thread and an operation. -/
theorem tokensHeld_move (ha : w.slots[a]? = some slot) (tok : AioToken) :
    tokensHeld tasks' (w.slots.set a slot') tok + (t.tokens ++ slot.tokens).count tok =
      tokensHeld w.tasks w.slots tok + (t'.tokens ++ slot'.tokens).count tok := by
  have htask := hmoves.held tok
  have hslot := held_set (f := ClientAio.tokens) ha slot' tok
  simp only [tokensHeld, count_append]
  omega

/-- A thread goes on with the tokens it has. -/
theorem task (htok : t'.tokens = t.tokens) (hfit : t'.Fits w.streams w.slots) :
    RuntimeOk { w with tasks := tasks' } := by
  have hheld : held tokens tasks' = held tokens w.tasks := by
    funext tok
    have := hmoves.held tok
    rw [htok] at this
    omega
  refine h.assemble hmoves ?_ ?_ h.claims .refl .refl hfit
  · refine h.streams.congr fun sid => ?_
    simp only [tokensHeld, hheld, and_self]
  · rw [hheld]
    exact h.aios

/-- A section on one stream. -/
theorem stream (hs : w.streams[sid]? = some s) (hgone : ∀ tok ∈ t.tokens, tok.About sid)
    (hcome : ∀ tok ∈ t'.tokens, tok.About sid)
    (hdriver : ∀ a, t'.tokens.count (.driver a) = t.tokens.count (.driver a))
    (hevolve : StreamsEvolve w.streams (w.streams.set sid s'))
    (hentry : ∀ {r o c r' o' c'}, StreamEntry s r o c →
      r' + t.tokens.count (.ref sid) = r + t'.tokens.count (.ref sid) →
      o' + t.tokens.count (.opener sid) = o + t'.tokens.count (.opener sid) →
      c' + t.tokens.count (.receiver sid) = c + t'.tokens.count (.receiver sid) →
      StreamEntry s' r' o' c') (hfit : t'.Fits (w.streams.set sid s') w.slots) :
    RuntimeOk { w with streams := w.streams.set sid s', tasks := tasks' } := by
  refine h.assemble hmoves ?_ ?_ (h.claims.evolve hevolve) hevolve .refl hfit
  · refine h.streams.set hs (fun tok => ?_) hgone hcome hentry
    have := hmoves.held tok
    simp only [tokensHeld]
    omega
  · refine h.aios.congr fun a => ?_
    have := hmoves.held (.driver a)
    rw [hdriver] at this
    omega

/-- The operation's part of a section: its drivers change with the thread. -/
theorem aios_set (ha : w.slots[a]? = some slot)
    (hother : ∀ b, b ≠ a → t'.tokens.count (.driver b) = t.tokens.count (.driver b))
    (hentry : ∀ {d d'}, AioEntry slot d →
      d' + t.tokens.count (.driver a) = d + t'.tokens.count (.driver a) → AioEntry slot' d') :
    AioBook (w.slots.set a slot') (held tokens tasks') := by
  refine h.aios.set ha (fun b hb => ?_) fun he => hentry he (hmoves.held _)
  have := hmoves.held (.driver b)
  rw [hother b hb] at this
  omega

/-- A section on one operation that keeps what is held of the streams. -/
theorem aio (ha : w.slots[a]? = some slot)
    (htok : ∀ sid, ∀ tok ∈ [AioToken.ref sid, .opener sid, .receiver sid],
      (t'.tokens ++ slot'.tokens).count tok = (t.tokens ++ slot.tokens).count tok)
    (hother : ∀ b, b ≠ a → t'.tokens.count (.driver b) = t.tokens.count (.driver b))
    (hentry : ∀ {d d'}, AioEntry slot d →
      d' + t.tokens.count (.driver a) = d + t'.tokens.count (.driver a) → AioEntry slot' d')
    (hkind : slot'.kind = slot.kind) (hid : slot'.httpStreamId = slot.httpStreamId)
    (hstate : slot.state ≠ .pending → slot'.state ≠ .pending)
    (hclaim : slot'.httpStreamClaimed = true → slot.httpStreamClaimed = true)
    (hfit : t'.Fits w.streams (w.slots.set a slot')) :
    RuntimeOk { w with slots := w.slots.set a slot', tasks := tasks' } := by
  have hsame : ∀ sid, ∀ tok ∈ [AioToken.ref sid, .opener sid, .receiver sid],
      tokensHeld tasks' (w.slots.set a slot') tok = tokensHeld w.tasks w.slots tok := by
    intro sid tok hmem
    have hmove : tokensHeld tasks' (w.slots.set a slot') tok + _ = _ :=
      tokensHeld_move hmoves ha tok
    rw [htok sid tok hmem] at hmove
    omega
  have hclaims : Claims w.streams (w.slots.set a slot') := h.claims.set fun hclaimed => by
    rw [hid]
    exact h.claims slot (mem_of_getElem? ha) (hclaim hclaimed)
  refine h.assemble hmoves ?_ (h.aios_set hmoves ha hother hentry) hclaims .refl
    (.set ha hkind hid hstate) hfit
  exact h.streams.congr fun sid =>
    ⟨hsame sid _ (by simp), hsame sid _ (by simp), hsame sid _ (by simp)⟩

/-- A section on one operation and its stream. -/
theorem both (hs : w.streams[sid]? = some s) (ha : w.slots[a]? = some slot)
    (hgone : ∀ tok ∈ t.tokens ++ slot.tokens, tok.About sid)
    (hcome : ∀ tok ∈ t'.tokens ++ slot'.tokens, tok.About sid)
    (hevolve : StreamsEvolve w.streams (w.streams.set sid s'))
    (hentry : ∀ {r o c r' o' c'}, StreamEntry s r o c →
      r' + (t.tokens ++ slot.tokens).count (.ref sid) =
        r + (t'.tokens ++ slot'.tokens).count (.ref sid) →
      o' + (t.tokens ++ slot.tokens).count (.opener sid) =
        o + (t'.tokens ++ slot'.tokens).count (.opener sid) →
      c' + (t.tokens ++ slot.tokens).count (.receiver sid) =
        c + (t'.tokens ++ slot'.tokens).count (.receiver sid) → StreamEntry s' r' o' c')
    (hother : ∀ b, b ≠ a → t'.tokens.count (.driver b) = t.tokens.count (.driver b))
    (haio : ∀ {d d'}, AioEntry slot d →
      d' + t.tokens.count (.driver a) = d + t'.tokens.count (.driver a) → AioEntry slot' d')
    (hkind : slot'.kind = slot.kind) (hid : slot'.httpStreamId = slot.httpStreamId)
    (hstate : slot.state ≠ .pending → slot'.state ≠ .pending)
    (hclaim : slot'.httpStreamClaimed = true → slot.httpStreamClaimed = true ∨
      slot.httpStreamId = sid ∧ s'.collected = true)
    (hfit : t'.Fits (w.streams.set sid s') (w.slots.set a slot')) :
    RuntimeOk
      { w with
        streams := w.streams.set sid s', slots := w.slots.set a slot', tasks := tasks' } := by
  have hclaims : Claims (w.streams.set sid s') (w.slots.set a slot') := by
    refine (h.claims.evolve hevolve).set fun hclaimed => ?_
    rw [hid]
    rcases hclaim hclaimed with hold | ⟨rfl, hnew⟩
    · exact h.claims.evolve hevolve slot (mem_of_getElem? ha) hold
    · exact ⟨s', List.getElem?_set_self (List.getElem?_eq_some_iff.1 hs).1, hnew⟩
  exact h.assemble hmoves (h.streams.set hs (tokensHeld_move hmoves ha) hgone hcome hentry)
    (h.aios_set hmoves ha hother haio) hclaims hevolve (.set ha hkind hid hstate) hfit

/-- A thread registers an operation to which it hands its tokens, and drives it. -/
theorem add (htok : t'.tokens = [.driver w.slots.length]) (hslot : slot.tokens = t.tokens)
    (hnone : ∀ b, t.tokens.count (.driver b) = 0) (hentry : AioEntry slot 1)
    (hclaimed : slot.httpStreamClaimed = false)
    (hfit : t'.Fits w.streams (w.slots ++ [slot])) :
    RuntimeOk { w with slots := w.slots ++ [slot], tasks := tasks' } := by
  have hdriver : ∀ b, held tokens tasks' (.driver b) =
      held tokens w.tasks (.driver b) +
        [AioToken.driver w.slots.length].count (.driver b) := by
    intro b
    have := hmoves.held (.driver b)
    rw [hnone b, htok] at this
    exact this
  refine h.assemble hmoves ?_ ?_ (h.claims.concat hclaimed) .refl .concat hfit
  · refine h.streams.congr fun sid => ?_
    have hsame : ∀ tok ∈ [AioToken.ref sid, .opener sid, .receiver sid],
        tokensHeld tasks' (w.slots ++ [slot]) tok = tokensHeld w.tasks w.slots tok := by
      intro tok hmem
      have hheld := hmoves.held tok
      have hzero : [AioToken.driver w.slots.length].count tok = 0 := by
        apply count_eq_zero.2
        intro hin
        rw [mem_singleton.1 hin] at hmem
        simp at hmem
      rw [htok] at hheld
      simp only [tokensHeld, held_concat, hslot]
      omega
    exact ⟨hsame _ (by simp), hsame _ (by simp), hsame _ (by simp)⟩
  · refine h.aios.concat (fun b hb => ?_) ?_
    · rw [hdriver b, count_eq_zero.2 (by simpa using hb), Nat.add_zero]
    · rw [hdriver, h.aios.fresh _ (Nat.le_refl _), count_singleton_self]
      exact hentry

end

end RuntimeOk

end Ducknng
