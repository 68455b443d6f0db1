import Ducknng.Checked
import Ducknng.Lib.SlidingWindow

namespace Ducknng

open List SlidingWindow

/-!
# Peer identities and the session-open rate

A service keeps one entry for every peer identity it has met. The entry has the
counters of the in-flight limits and, in a buffer that is compacted in place, the times
of the session opens of the last second.

* `checkAndRecordSessionOpen_spec` — it is a sliding-window limiter for its identity and
  leaves the others alone.
* `sessionOpenRate` — the rate limit over a sequence of attempts.
-/

/-! ### The table of peer identities -/

/-- `ducknng_peer_identity_state`; the capacity of the buffer is its length. -/
structure PeerIdentityState where
  identity : CStr
  inflightCount : Nat
  cumulativeReplyBytes : Nat
  sessionOpenTimes : List Nat
  sessionOpenHead : Nat
  sessionOpenCount : Nat

open PeerIdentityState

/-- A zeroed entry for an identity. -/
def PeerIdentityState.new (identity : CStr) : PeerIdentityState := ⟨identity, 0, 0, [], 0, 0⟩

/-- Whether an identity text is there: neither `NULL` nor empty. -/
def CStr.present : Option CStr → Option CStr
  | some text => if text.bytes = [] then none else some text
  | none => none

theorem CStr.eq_of_present {text : Option CStr} {t : CStr} (h : CStr.present text = some t) :
    text = some t := by
  cases text with
  | none => cases h
  | some text => exact congrArg some (Option.some.inj (Option.ite_none_left_eq_some.1 h).2)

/-- Where an identity is in the table. -/
def findPeerIdentity (peers : List PeerIdentityState) (identity : CStr) : Option Nat :=
  peers.findIdx? fun p => p.identity = identity

/-- `ducknng_service_find_or_create_peer_identity_locked`: the table and the index of the
    entry, `none` when an allocation fails. -/
def findOrCreatePeerIdentity (peers : List PeerIdentityState) (identity : CStr) (alloc : Bool) :
    Option (List PeerIdentityState × Nat) :=
  match findPeerIdentity peers identity with
  | some i => some (peers, i)
  | none => if alloc then some (peers ++ [.new identity], peers.length) else none

/-! ### Opening sessions -/

/-- The loop of `ducknng_service_check_and_record_session_open_locked` that keeps the
    entries of the last second: `n` rounds from round `i` on, with `valid` entries kept.
    Sums of times are 64-bit sums. -/
def expireLoop (nowMs head : Nat) : Nat → Nat → Nat → List Nat → List Nat × Nat
  | 0, _, valid, times => (times, valid)
  | n + 1, i, valid, times =>
    let idx := (head + i) % (if times.length = 0 then 1 else times.length)
    let time := times.getD idx 0
    if (time + 1000) % 2 ^ 64 > nowMs then
      expireLoop nowMs head n (i + 1) (valid + 1) (times.set valid time)
    else expireLoop nowMs head n (i + 1) valid times

variable (p : PeerIdentityState)

/-- The entry after the loop. -/
def PeerIdentityState.expire (nowMs : Nat) : PeerIdentityState :=
  let (times, valid) :=
    expireLoop nowMs p.sessionOpenHead p.sessionOpenCount 0 0 p.sessionOpenTimes
  { p with sessionOpenTimes := times, sessionOpenCount := valid, sessionOpenHead := 0 }

/-- The buffer with room for one more entry. What a fresh buffer holds behind the copied
    entries is never read. -/
def PeerIdentityState.grow : PeerIdentityState :=
  if p.sessionOpenCount = p.sessionOpenTimes.length then
    let newCap := if p.sessionOpenTimes.length = 0 then 8 else p.sessionOpenTimes.length * 2
    { p with sessionOpenTimes := p.sessionOpenTimes.take p.sessionOpenCount ++
        replicate (newCap - p.sessionOpenCount) 0 }
  else p

/-- Recording an open. -/
def PeerIdentityState.record (nowMs : Nat) : PeerIdentityState :=
  { p with
    sessionOpenTimes := p.sessionOpenTimes.set p.sessionOpenCount nowMs
    sessionOpenCount := p.sessionOpenCount + 1 }

/-- An attempt to open a session: who, when, and whether the two allocations it may make
    succeed. -/
structure OpenAttempt where
  identity : Option CStr
  nowMs : Nat
  allocPeer : Bool
  allocTimes : Bool
  deriving DecidableEq

/-- `ducknng_service_check_and_record_session_open_locked`. -/
def checkAndRecordSessionOpen (maxRate : Nat) (peers : List PeerIdentityState) (a : OpenAttempt) :
    Except String Unit × List PeerIdentityState :=
  match CStr.present a.identity with
  | none => (.ok (), peers)
  | some identity =>
    if maxRate = 0 then (.ok (), peers)
    else
      match findOrCreatePeerIdentity peers identity a.allocPeer with
      | none => (.ok (), peers)
      | some (peers, i) =>
        let p := (peers.getD i (.new identity)).expire a.nowMs
        if p.sessionOpenCount ≥ maxRate then
          (.error "ducknng: session open rate per peer identity exceeded", peers.set i p)
        else if p.sessionOpenCount = p.sessionOpenTimes.length ∧ !a.allocTimes then
          (.ok (), peers.set i p)
        else (.ok (), peers.set i (p.grow.record a.nowMs))

/-- A sequence of attempts, each with whether it was admitted. -/
def openHistory (maxRate : Nat) : List PeerIdentityState → List OpenAttempt →
    List (OpenAttempt × Bool)
  | _, [] => []
  | peers, a :: rest =>
    let (outcome, peers) := checkAndRecordSessionOpen maxRate peers a
    (a, outcome.isOk) :: openHistory maxRate peers rest

/-! ### The buffer as a list of times -/

/-- The recorded times of an entry, oldest first. -/
def PeerIdentityState.openTimes : List Nat :=
  p.sessionOpenTimes.take p.sessionOpenCount

/-- The buffer starts at its beginning and its times can be compared. -/
structure PeerIdentityState.Sound (p : PeerIdentityState) : Prop where
  head : p.sessionOpenHead = 0
  count_le : p.sessionOpenCount ≤ p.sessionOpenTimes.length
  times_lt : ∀ x ∈ p.openTimes, x + 1000 < 2 ^ 64

theorem PeerIdentityState.sound_new (identity : CStr) : (new identity).Sound :=
  ⟨rfl, Nat.le_refl _, forall_mem_nil _⟩

/-- **The compaction loop.** What was kept before it stays, and the live ones among the
    entries it visits are moved behind it. -/
theorem expireLoop_spec {nowMs n i valid : Nat} {times : List Nat} (hvalid : valid ≤ i)
    (hn : i + n ≤ times.length) (htimes : ∀ x ∈ (times.drop i).take n, x + 1000 < 2 ^ 64) :
    (expireLoop nowMs 0 n i valid times).1.length = times.length ∧
    (expireLoop nowMs 0 n i valid times).2 ≤ i + n ∧
    (expireLoop nowMs 0 n i valid times).1.take (expireLoop nowMs 0 n i valid times).2 =
      times.take valid ++ live 1000 ((times.drop i).take n) nowMs := by
  induction n generalizing i valid times with
  | zero => simp [expireLoop, live, hvalid]
  | succ n ih =>
    have hi : i < times.length := by omega
    have hidx : (0 + i) % (if times.length = 0 then 1 else times.length) = i := by
      rw [if_neg (by omega), Nat.zero_add, Nat.mod_eq_of_lt hi]
    have hvisit : (times.drop i).take (n + 1) = times[i] :: (times.drop (i + 1)).take n := by
      rw [drop_eq_getElem_cons hi, take_succ_cons]
    rw [hvisit] at htimes ⊢
    have htime : (times[i] + 1000) % 2 ^ 64 = times[i] + 1000 :=
      Nat.mod_eq_of_lt (htimes _ mem_cons_self)
    have hget : times.getD i 0 = times[i] := by
      rw [getD_eq_getElem?_getD, getElem?_eq_getElem hi, Option.getD_some]
    rw [expireLoop]
    simp only [hidx, hget, htime]
    by_cases hlive : times[i] + 1000 > nowMs
    · -- The entry moves to position `valid`, which the loop has already passed.
      have hdrop : (times.set valid times[i]).drop (i + 1) = times.drop (i + 1) :=
        drop_set_of_lt (by omega)
      have htake : (times.set valid times[i]).take (valid + 1) = times.take valid ++
        [times[i]] := by
        rw [take_add_one, take_set_of_le (Nat.le_refl valid), getElem?_set_self (by omega),
          Option.toList_some]
      have hrest := @ih (i + 1) (valid + 1) (times.set valid times[i])
        (by omega) (by rw [length_set]; omega)
        (fun x hx => htimes x (mem_cons_of_mem _ (hdrop ▸ hx)))
      rw [hdrop, htake, length_set] at hrest
      simp only [hlive, if_true]
      refine ⟨hrest.1, by omega, ?_⟩
      rw [hrest.2.2]
      simp [live, hlive]
    · have hrest := @ih (i + 1) valid times (by omega) (by omega)
        (fun x hx => htimes x (mem_cons_of_mem _ hx))
      simp only [hlive, if_false]
      refine ⟨hrest.1, by omega, ?_⟩
      rw [hrest.2.2]
      simp [live, hlive]

section
variable {p : PeerIdentityState} {nowMs : Nat}

theorem PeerIdentityState.Sound.length_openTimes (h : p.Sound) :
    p.openTimes.length = p.sessionOpenCount := by
  rw [openTimes, length_take, Nat.min_eq_left h.count_le]

/-- The compaction keeps the live times. -/
theorem PeerIdentityState.Sound.expire (h : p.Sound) (nowMs : Nat) :
    (p.expire nowMs).Sound ∧
      (p.expire nowMs).openTimes = live 1000 p.openTimes nowMs := by
  have hloop := @expireLoop_spec nowMs p.sessionOpenCount 0 0 p.sessionOpenTimes (Nat.le_refl 0)
    (by rw [Nat.zero_add]; exact h.count_le) (by rw [drop_zero]; exact h.times_lt)
  rw [take_zero, Nat.zero_add] at hloop
  have htimes : (p.expire nowMs).openTimes = live 1000 p.openTimes nowMs := by
    rw [PeerIdentityState.expire]
    simp only [h.head]
    exact hloop.2.2
  refine ⟨⟨rfl, ?_, ?_⟩, htimes⟩
  · rw [PeerIdentityState.expire]
    simp only [h.head]
    rw [hloop.1]
    exact Nat.le_trans hloop.2.1 h.count_le
  · intro x hx
    rw [htimes] at hx
    exact h.times_lt x (mem_of_mem_filter hx)

theorem PeerIdentityState.grow_openTimes (p : PeerIdentityState) :
    p.grow.openTimes = p.openTimes := by
  unfold grow
  split
  · next hfull => simp [openTimes, hfull]
  · rfl

theorem PeerIdentityState.grow_count (p : PeerIdentityState) :
    p.grow.sessionOpenCount = p.sessionOpenCount := by
  unfold grow
  split <;> rfl

/-- After growing there is room. -/
theorem PeerIdentityState.Sound.count_lt_grow (h : p.Sound) :
    p.sessionOpenCount < p.grow.sessionOpenTimes.length := by
  have hle := h.count_le
  unfold grow
  by_cases hfull : p.sessionOpenCount = p.sessionOpenTimes.length
  · rw [if_pos hfull]
    by_cases hzero : p.sessionOpenTimes.length = 0
    · simp [hzero, hfull]
    · simp only [hzero, if_false, length_append, length_take, length_replicate]
      omega
  · rw [if_neg hfull]
    omega

/-- Recording adds the time at the end. -/
theorem PeerIdentityState.Sound.record (h : p.Sound) (hnow : nowMs + 1000 < 2 ^ 64) :
    (p.grow.record nowMs).Sound ∧ (p.grow.record nowMs).openTimes = p.openTimes ++ [nowMs] := by
  have hroom := h.count_lt_grow
  have htimes : (p.grow.record nowMs).openTimes = p.openTimes ++ [nowMs] := by
    rw [openTimes, PeerIdentityState.record]
    simp only [grow_count]
    rw [take_add_one, take_set_of_le (Nat.le_refl _), getElem?_set_self hroom,
      Option.toList_some, ← grow_openTimes p, openTimes, grow_count]
  have hhead : p.grow.sessionOpenHead = 0 := by
    unfold grow
    split <;> exact h.head
  refine ⟨⟨hhead, ?_, ?_⟩, htimes⟩
  · rw [PeerIdentityState.record]
    simp only [grow_count, length_set]
    omega
  · intro x hx
    rw [htimes, mem_append, mem_singleton] at hx
    rcases hx with hx | rfl
    · exact h.times_lt x hx
    · exact hnow

end

/-! ### The table as one limiter an identity -/

/-- The recorded times of an identity. -/
def openTimesOf (peers : List PeerIdentityState) (identity : CStr) : List Nat :=
  match peers.find? fun p => p.identity = identity with
  | some p => p.openTimes
  | none => []

variable {a : OpenAttempt}

section
variable {peers : List PeerIdentityState} {identity : CStr} {p : PeerIdentityState} {i : Nat}

/-- The entry found for an identity is its first, and replacing it changes no other. -/
theorem find?_set_findPeerIdentity (hfind : findPeerIdentity peers identity = some i)
    (hp : p.identity = identity) :
    peers.find? (fun q => q.identity = identity) = some (peers.getD i (.new identity)) ∧
    ∀ other, (peers.set i p).find? (fun q => q.identity = other) =
      if other = identity then some p else peers.find? (fun q => q.identity = other) := by
  unfold findPeerIdentity at hfind
  induction peers generalizing i with
  | nil => cases hfind
  | cons q peers ih =>
    rw [findIdx?_cons] at hfind
    by_cases hq : q.identity = identity
    · simp only [hq, decide_true, if_true, Option.some.injEq] at hfind
      subst hfind
      refine ⟨by simp [hq], fun other => ?_⟩
      rw [set_cons_zero, find?_cons, find?_cons, hp, hq]
      by_cases hother : other = identity
      · simp [hother]
      · simp [hother, Ne.symm hother]
    · simp only [hq, decide_false, Bool.false_eq_true, if_false, Option.map_eq_some_iff] at hfind
      obtain ⟨j, hj, rfl⟩ := hfind
      obtain ⟨hfirst, hrest⟩ := ih hj
      refine ⟨?_, fun other => ?_⟩
      · simpa [hq] using hfirst
      · rw [set_cons_succ, find?_cons, find?_cons, hrest other]
        by_cases hother : other = identity
        · simp [hother, hq]
        · simp [hother]

/-- Looking an identity up may add an entry but records nothing. -/
theorem findOrCreatePeerIdentity_spec (peers : List PeerIdentityState) (identity : CStr) :
    ∃ peers' i, findOrCreatePeerIdentity peers identity true = some (peers', i) ∧
      findPeerIdentity peers' identity = some i ∧
      (∀ other, openTimesOf peers' other = openTimesOf peers other) ∧
      ((∀ p ∈ peers, p.Sound) → ∀ p ∈ peers', p.Sound) := by
  unfold findOrCreatePeerIdentity
  cases hfind : findPeerIdentity peers identity with
  | some i => exact ⟨peers, i, rfl, hfind, fun _ => rfl, id⟩
  | none =>
    refine ⟨_, _, rfl, ?_, fun other => ?_, fun hsound p hp => ?_⟩
    · unfold findPeerIdentity at hfind ⊢
      rw [findIdx?_append, hfind]
      simp [new]
    · -- The new entry has no times, as an identity without an entry has none.
      unfold openTimesOf
      rw [find?_append]
      cases peers.find? fun p => p.identity = other with
      | some p => rfl
      | none =>
        rw [find?_singleton]
        by_cases hother : (new identity).identity = other
        · simp only [hother]
          rfl
        · simp [hother]
    · rw [mem_append, mem_singleton] at hp
      rcases hp with hp | rfl
      · exact hsound p hp
      · exact sound_new identity

theorem record_identity (p : PeerIdentityState) (nowMs : Nat) :
    (p.grow.record nowMs).identity = p.identity := by
  show p.grow.identity = p.identity
  unfold grow
  split <;> rfl

/-- Replacing the entry of an identity replaces its times and no others. -/
theorem openTimesOf_set (hfind : findPeerIdentity peers identity = some i)
    (hp : p.identity = identity) (other : CStr) :
    openTimesOf (peers.set i p) other =
      if other = identity then p.openTimes else openTimesOf peers other := by
  unfold openTimesOf
  rw [(find?_set_findPeerIdentity hfind hp).2 other]
  by_cases hother : other = identity
  · simp [hother]
  · simp [hother]

/-- An attempt without an identity is admitted and recorded nowhere. -/
theorem checkAndRecordSessionOpen_anonymous {maxRate : Nat} (ha : CStr.present a.identity = none) :
    checkAndRecordSessionOpen maxRate peers a = (.ok (), peers) := by
  unfold checkAndRecordSessionOpen
  rw [ha]

/-- **One attempt is one attempt of its identity's limiter.** -/
theorem checkAndRecordSessionOpen_spec {maxRate : Nat} (hrate : 0 < maxRate)
    (hsound : ∀ p ∈ peers, p.Sound) (ha : CStr.present a.identity = some identity)
    (hnow : a.nowMs + 1000 < 2 ^ 64) (hpeer : a.allocPeer = true) (htimes : a.allocTimes = true) :
    (checkAndRecordSessionOpen maxRate peers a).1.isOk =
      (attempt maxRate 1000 (openTimesOf peers identity) a.nowMs).1 ∧
    (∀ other, openTimesOf (checkAndRecordSessionOpen maxRate peers a).2 other =
      if other = identity
      then (attempt maxRate 1000 (openTimesOf peers identity) a.nowMs).2
      else openTimesOf peers other) ∧
    ∀ p ∈ (checkAndRecordSessionOpen maxRate peers a).2, p.Sound := by
  obtain ⟨table, i, hcreate, hfind, hsame, hkeep⟩ := findOrCreatePeerIdentity_spec peers identity
  have htable := hkeep hsound
  unfold checkAndRecordSessionOpen
  simp only [ha, Nat.ne_of_gt hrate, if_false, hpeer, hcreate, htimes, Bool.not_true,
    Bool.false_eq_true, and_false]
  -- The entry of the identity, and what compacting it leaves.
  obtain ⟨hfirst, _⟩ := find?_set_findPeerIdentity hfind
    (rfl : (new identity).identity = identity)
  generalize hq : table.getD i (.new identity) = q at hfirst ⊢
  have hqid : q.identity = identity := by simpa using find?_some hfirst
  obtain ⟨hexpire, hlive⟩ := (htable q (mem_of_find?_eq_some hfirst)).expire a.nowMs
  have hcount := hexpire.length_openTimes
  have hold : openTimesOf peers identity = q.openTimes := by
    rw [← hsame, openTimesOf, hfirst]
  rw [hlive] at hcount
  rw [hold]
  unfold attempt
  have hset : ∀ r : PeerIdentityState, r.Sound → ∀ p ∈ table.set i r, p.Sound := by
    intro r hr p hp
    rcases mem_or_eq_of_mem_set hp with hp | rfl
    · exact htable p hp
    · exact hr
  by_cases hfull : (live 1000 q.openTimes a.nowMs).length ≥ maxRate
  · simp only [← hcount, hfull, if_true]
    refine ⟨rfl, fun other => ?_, hset _ hexpire⟩
    have hid : (q.expire a.nowMs).identity = identity := hqid
    rw [openTimesOf_set hfind hid, hlive, hsame]
  · obtain ⟨hrecord, happend⟩ := hexpire.record hnow
    simp only [← hcount, hfull, if_false]
    refine ⟨rfl, fun other => ?_, hset _ hrecord⟩
    have hid : ((q.expire a.nowMs).grow.record a.nowMs).identity = identity :=
      (record_identity _ _).trans hqid
    rw [openTimesOf_set hfind hid, happend, hlive, hsame]

end

/-! ### The rate limit -/

/-- The attempt is one of this identity. -/
def OpenAttempt.isOf (identity : CStr) (a : OpenAttempt) : Bool :=
  CStr.present a.identity = some identity

/-- Times that can be compared, and memory for what is recorded. -/
structure OpenAttempt.Usual (a : OpenAttempt) : Prop where
  nowMs_lt : a.nowMs + 1000 < 2 ^ 64
  allocPeer : a.allocPeer = true
  allocTimes : a.allocTimes = true

section
variable {maxRate : Nat} {peers : List PeerIdentityState} {attempts : List OpenAttempt}

/-- An attempt changes the times of its own identity only. -/
theorem openTimesOf_other {identity : CStr} (hrate : 0 < maxRate) (hsound : ∀ p ∈ peers, p.Sound)
    (ha : a.Usual) (hother : a.isOf identity = false) :
    openTimesOf (checkAndRecordSessionOpen maxRate peers a).2 identity =
        openTimesOf peers identity ∧
      ∀ p ∈ (checkAndRecordSessionOpen maxRate peers a).2, p.Sound := by
  cases hpresent : CStr.present a.identity with
  | none =>
    rw [checkAndRecordSessionOpen_anonymous hpresent]
    exact ⟨rfl, hsound⟩
  | some owner =>
    obtain ⟨_, htimes, hkeep⟩ := checkAndRecordSessionOpen_spec hrate hsound hpresent ha.nowMs_lt
      ha.allocPeer ha.allocTimes
    have hne : identity ≠ owner := by
      rintro rfl
      simp [OpenAttempt.isOf, hpresent] at hother
    rw [htimes, if_neg hne]
    exact ⟨rfl, hkeep⟩

/-- **Each identity has a limiter of its own.** Its attempts see the outcomes of a
    sliding-window limiter that only they drive. -/
theorem openHistory_filter (hrate : 0 < maxRate) (hsound : ∀ p ∈ peers, p.Sound)
    (husual : ∀ a ∈ attempts, a.Usual) (identity : CStr) :
    ((openHistory maxRate peers attempts).filter fun x => x.1.isOf identity).map
        (fun x => (x.1.nowMs, x.2)) =
      outcomes maxRate 1000 (openTimesOf peers identity)
        ((attempts.filter (OpenAttempt.isOf identity)).map OpenAttempt.nowMs) := by
  induction attempts generalizing peers with
  | nil => rfl
  | cons a attempts ih =>
    have ha := husual a mem_cons_self
    have hrest := fun b hb => husual b (mem_cons_of_mem a hb)
    rw [openHistory]
    by_cases hmine : a.isOf identity = true
    · have hpresent : CStr.present a.identity = some identity := of_decide_eq_true hmine
      obtain ⟨hok, htimes, hkeep⟩ := checkAndRecordSessionOpen_spec hrate hsound hpresent
        ha.nowMs_lt ha.allocPeer ha.allocTimes
      have htail := ih hkeep hrest
      rw [htimes, if_pos rfl] at htail
      simp only [filter_cons, hmine, if_true, map_cons, outcomes, hok]
      rw [htail]
    · have hother : a.isOf identity = false := Bool.eq_false_iff.2 hmine
      obtain ⟨hsame, hkeep⟩ := openTimesOf_other hrate hsound ha hother
      have htail := ih hkeep hrest
      rw [hsame] at htail
      simpa only [filter_cons, hother, Bool.false_eq_true, if_false] using htail

/-- Leaving out the attempts of everyone else changes nothing. -/
theorem openHistory_filter_eq {peers' : List PeerIdentityState} (hrate : 0 < maxRate)
    (hsound : ∀ p ∈ peers, p.Sound) (hsound' : ∀ p ∈ peers', p.Sound)
    (husual : ∀ a ∈ attempts, a.Usual) {identity : CStr}
    (hsame : openTimesOf peers identity = openTimesOf peers' identity) :
    (openHistory maxRate peers attempts).filter (fun x => x.1.isOf identity) =
      openHistory maxRate peers' (attempts.filter (OpenAttempt.isOf identity)) := by
  induction attempts generalizing peers peers' with
  | nil => rfl
  | cons a attempts ih =>
    have ha := husual a mem_cons_self
    have hrest := fun b hb => husual b (mem_cons_of_mem a hb)
    rw [openHistory]
    by_cases hmine : a.isOf identity = true
    -- both tables decide by the times of this identity alone
    · have hpresent : CStr.present a.identity = some identity := of_decide_eq_true hmine
      obtain ⟨hok, htimes, hkeep⟩ := checkAndRecordSessionOpen_spec hrate hsound hpresent
        ha.nowMs_lt ha.allocPeer ha.allocTimes
      obtain ⟨hok', htimes', hkeep'⟩ := checkAndRecordSessionOpen_spec hrate hsound' hpresent
        ha.nowMs_lt ha.allocPeer ha.allocTimes
      have hnext : openTimesOf (checkAndRecordSessionOpen maxRate peers a).2 identity =
          openTimesOf (checkAndRecordSessionOpen maxRate peers' a).2 identity := by
        rw [htimes, htimes', hsame]
      simp only [filter_cons, hmine, if_true, openHistory, hok, hok', hsame]
      rw [ih hkeep hkeep' hrest hnext]
    · have hother : a.isOf identity = false := Bool.eq_false_iff.2 hmine
      obtain ⟨hstill, hkeep⟩ := openTimesOf_other hrate hsound ha hother
      have htail := ih hkeep hsound' hrest (hstill.trans hsame)
      simpa only [filter_cons, hother, Bool.false_eq_true, if_false] using htail

/-- The admitted attempts of an identity with a time in the window `(w - 1000, w]`. -/
def admittedInWindow (identity : CStr) (w : Nat) (history : List (OpenAttempt × Bool)) :
    List (OpenAttempt × Bool) :=
  history.filter fun x => x.2 && x.1.isOf identity && (w < x.1.nowMs + 1000 && x.1.nowMs ≤ w)

/-- The same, counted in the history of the identity alone. -/
theorem length_admittedInWindow (identity : CStr) (w : Nat) (history : List (OpenAttempt × Bool)) :
    (admittedInWindow identity w history).length =
      (inWindow 1000 w (admitted
        ((history.filter fun x => x.1.isOf identity).map fun x => (x.1.nowMs, x.2)))).length := by
  unfold admittedInWindow inWindow admitted
  simp only [filter_map, length_map, filter_filter]
  congr 1
  refine filter_congr fun x _ => ?_
  simp only [Function.comp_apply]
  cases x.2 <;> cases x.1.isOf identity <;> simp

/-- Whoever is refused has an identity. -/
theorem openHistory_anonymous {x : OpenAttempt × Bool}
    (hx : x ∈ openHistory maxRate peers attempts) (hnone : CStr.present x.1.identity = none) :
    x.2 = true := by
  induction attempts generalizing peers with
  | nil => cases hx
  | cons a attempts ih =>
    rcases mem_cons.1 hx with rfl | hx
    · have hanon : CStr.present a.identity = none := hnone
      show (checkAndRecordSessionOpen maxRate peers a).1.isOk = true
      rw [checkAndRecordSessionOpen_anonymous hanon]
      rfl
    · exact ih hx

/-- **The session-open rate limit.** With a nondecreasing clock, at most `maxRate` opens of
    one identity are admitted in any window of a second, an open is refused only when that
    many were admitted in the second up to it, and the outcomes of an identity are those it
    would see alone. The table may hold entries already, as long as none has recorded an
    open. -/
theorem sessionOpenRate (hrate : 0 < maxRate) (hfresh : ∀ p ∈ peers, p.sessionOpenHead = 0 ∧
      p.sessionOpenCount = 0)
    (hsorted : (attempts.map OpenAttempt.nowMs).Pairwise (· ≤ ·))
    (husual : ∀ a ∈ attempts, a.Usual) :
    (∀ identity w,
      (admittedInWindow identity w (openHistory maxRate peers attempts)).length ≤ maxRate) ∧
    (∀ before a after, openHistory maxRate peers attempts = before ++ (a, false) :: after →
      ∃ identity, CStr.present a.identity = some identity ∧
        (admittedInWindow identity a.nowMs before).length = maxRate) ∧
    ∀ identity, (openHistory maxRate peers attempts).filter (fun x => x.1.isOf identity) =
      openHistory maxRate peers (attempts.filter (OpenAttempt.isOf identity)) := by
  have hsound : ∀ p ∈ peers, p.Sound := by
    intro p hp
    obtain ⟨hhead, hcount⟩ := hfresh p hp
    refine ⟨hhead, by omega, fun x hx => ?_⟩
    rw [PeerIdentityState.openTimes, hcount] at hx
    exact absurd hx not_mem_nil
  have hempty : ∀ identity, openTimesOf peers identity = [] := by
    intro identity
    unfold openTimesOf
    split
    · next p hp =>
      rw [PeerIdentityState.openTimes, (hfresh p (mem_of_find?_eq_some hp)).2, take_zero]
    · rfl
  -- The times of one identity are nondecreasing too.
  have hmine : ∀ identity, ((attempts.filter (OpenAttempt.isOf identity)).map
      OpenAttempt.nowMs).Pairwise (· ≤ ·) := fun identity =>
    hsorted.sublist (filter_sublist.map OpenAttempt.nowMs)
  have hhistory := fun identity => openHistory_filter hrate hsound husual identity
  refine ⟨fun identity w => ?_, fun before a after heq => ?_, fun identity =>
    openHistory_filter_eq hrate hsound hsound husual rfl⟩
  · rw [length_admittedInWindow, hhistory, hempty]
    exact admitted_in_window_le (by decide) (hmine identity) w
  · cases hpresent : CStr.present a.identity with
    | none =>
      have hmem : (a, false) ∈ openHistory maxRate peers attempts := by
        rw [heq]
        exact mem_append_right before mem_cons_self
      exact absurd (openHistory_anonymous hmem hpresent) Bool.false_ne_true
    | some identity =>
      refine ⟨identity, rfl, ?_⟩
      have hisOf : a.isOf identity = true := decide_eq_true hpresent
      have hsplit := hhistory identity
      rw [heq, filter_append, filter_cons, hisOf, if_pos rfl, map_append, hempty] at hsplit
      rw [length_admittedInWindow]
      exact refused_of_full (by decide) (hmine identity) hsplit.symm

end

/-- Two opens of one peer, five milliseconds apart. -/
def twoOpens : List OpenAttempt :=
  [⟨some CStr.a, 0, true, true⟩, ⟨some CStr.a, 5, true, true⟩]

/-- A limit of one refuses the second. -/
theorem sessionOpenRate_twoOpens :
    (openHistory 1 [] twoOpens).map Prod.snd = [true, false] ∧
      (admittedInWindow ⟨[97], by decide⟩ 5 (openHistory 1 [] twoOpens)).length ≤ 1 := by
  refine ⟨rfl, (sessionOpenRate (by decide) (forall_mem_nil _) (by decide)
    fun a ha => ?_).1 _ _⟩
  simp only [twoOpens, mem_cons, not_mem_nil, or_false] at ha
  rcases ha with rfl | rfl
  · exact ⟨by decide, rfl, rfl⟩
  · exact ⟨by decide, rfl, rfl⟩

/-- The same two opens, without memory for the recorded times. -/
def unrecordedOpens : List OpenAttempt :=
  twoOpens.map fun a => { a with allocTimes := false }

/-- **Without memory the rate is not limited.** An open that cannot be recorded is admitted, and
    so is the next one. -/
theorem sessionOpenRate_exceeded :
    (unrecordedOpens.map OpenAttempt.nowMs).Pairwise (· ≤ ·) ∧
      (∀ a ∈ unrecordedOpens, a.nowMs + 1000 < 2 ^ 64) ∧
      (admittedInWindow CStr.a 5 (openHistory 1 [] unrecordedOpens)).length = 2 := by
  decide

end Ducknng
