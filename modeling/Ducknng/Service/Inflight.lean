import Ducknng.Service.Admittance

namespace Ducknng

open List Discipline

/-!
# The accounting of requests in flight

Every way into a service begins a request and ends it again, on paths that leave it early too.
How far a request is can be read off its past; the counters of the service are compared with
the requests that have begun and not ended.

* `inflightAccounting` — over all interleavings.
-/

variable {callerIdentity : Option CStr} {past : List (Done GateOp)} {h : RequestStage}

/-! ### The past of a request -/

/-- How far a request is, from its past. -/
def requestStage (t : Thread GateCall GateOp GateAnswer) : RequestStage :=
  System.held accounting (fun _ => .waiting) t

/-- A successful begin. -/
def begunUnder (callerIdentity : Option CStr) : Done GateOp :=
  ⟨.beginRequest callerIdentity, .ok ()⟩

/-- An end. -/
def endedUnder (callerIdentity : Option CStr) (replyBytes : Nat) : Done GateOp :=
  ⟨.endRequest callerIdentity replyBytes, ()⟩

/-- Whether an action is a successful begin or an end. -/
def beginsOrEnds : {α : Type} → GateOp α → α → Bool
  | _, .beginRequest _, .ok () => true
  | _, .endRequest _ _, _ => true
  | _, _, _ => false

/-- Actions without a successful begin and without an end. -/
def Quiet (past : List (Done GateOp)) : Prop := ∀ x ∈ past, beginsOrEnds x.op x.answer = false

/-- The begins and ends of a past, for a request that has come so far. -/
def PastOf (past : List (Done GateOp)) : RequestStage → Prop
  | .waiting => Quiet past
  | .inFlight callerIdentity =>
    ∃ before after, past = before ++ begunUnder callerIdentity :: after ∧ Quiet before ∧ Quiet after
  | .ended =>
    ∃ before callerIdentity between replyBytes after,
      past = before ++ begunUnder callerIdentity :: between ++
        endedUnder callerIdentity replyBytes :: after ∧
      Quiet before ∧ Quiet between ∧ Quiet after

theorem Quiet.nil : Quiet [] := forall_mem_nil _

theorem Quiet.snoc {x : Done GateOp} (h : Quiet past) (hx : beginsOrEnds x.op x.answer = false) :
    Quiet (past ++ [x]) := forall_mem_append.2 ⟨h, forall_mem_singleton.2 hx⟩

/-- An action that is neither keeps the shape of the past. -/
theorem PastOf.snoc {x : Done GateOp} (hpast : PastOf past h)
    (hx : beginsOrEnds x.op x.answer = false) :
    PastOf (past ++ [x]) h := by
  cases h with
  | waiting => exact Quiet.snoc hpast hx
  | inFlight callerIdentity =>
    obtain ⟨before, after, rfl, hbefore, hafter⟩ := hpast
    exact ⟨before, after ++ [x], by simp, hbefore, hafter.snoc hx⟩
  | ended =>
    obtain ⟨before, callerIdentity, between, replyBytes, after, rfl, hbefore, hbetween, hafter⟩ :=
      hpast
    exact ⟨before, callerIdentity, between, replyBytes, after ++ [x], by simp, hbefore, hbetween,
      hafter.snoc hx⟩

/-- What a permitted action adds to the past. -/
theorem PastOf.act {α : Type} (op : GateOp α) (answer : α) (hpast : PastOf past h)
    (hmay : stageMay h op) :
    PastOf (past ++ [⟨op, answer⟩]) (stageAfter h op answer) := by
  cases op with
  | beginRequest callerIdentity =>
    have hwaiting : h = .waiting := hmay
    subst hwaiting
    cases answer with
    | ok u => exact ⟨past, [], rfl, hpast, .nil⟩
    | error e => exact hpast.snoc rfl
  | endRequest callerIdentity replyBytes =>
    have hflight : h = .inFlight callerIdentity := hmay
    subst hflight
    obtain ⟨before, after, rfl, hbefore, hafter⟩ := hpast
    exact ⟨before, callerIdentity, after, replyBytes, [], rfl, hbefore, hafter, .nil⟩
  | _ => exact hpast.snoc rfl

/-! ### The counters -/

/-- The counters of the service count the requests in flight, and no limit is exceeded. -/
structure InflightOk (limits : RequestLimits) (st : GateState) (hs : List RequestStage) : Prop where
  limits_eq : st.limits = limits
  total : st.counters.inflightRequestCount = hs.countP RequestStage.isInFlight
  perIdentity : ∀ identity,
    inflightOf st.counters.peers identity = hs.countP (RequestStage.isUnder identity)
  total_le : 0 < limits.maxInflightRequests →
    st.counters.inflightRequestCount ≤ limits.maxInflightRequests
  perIdentity_le : 0 < limits.maxInflightPerPeerIdentity → ∀ identity,
    inflightOf st.counters.peers identity ≤ limits.maxInflightPerPeerIdentity

section
variable {limits : RequestLimits} {st st' : GateState} {hs : List RequestStage} {i : Nat}
  {h h' : RequestStage}

theorem gateExec_beginRequest {world : GateWorld} {answer : Except String Unit}
    (h : gateExec st world (.beginRequest callerIdentity) = some (answer, st')) :
    ∃ c', beginRequest st.limits st.config.shuttingDown world.allocPeer callerIdentity
      st.counters = (answer, c') ∧ st' = { st with counters := c' } := by
  have hanswer : some ((beginRequest st.limits st.config.shuttingDown world.allocPeer
    callerIdentity st.counters).1, { st with counters :=
      (beginRequest st.limits st.config.shuttingDown world.allocPeer callerIdentity
        st.counters).2 }) = some (answer, st') := h
  obtain ⟨rfl, rfl⟩ := Prod.mk.inj (Option.some.inj hanswer)
  exact ⟨_, rfl, rfl⟩

/-- A count after one of the requests has come further. -/
theorem countP_set_stage (h' : RequestStage) (p : RequestStage → Bool) (hi : hs[i]? = some h) :
    (hs.set i h').countP p + (if p h then 1 else 0) = hs.countP p + if p h' then 1 else 0 := by
  obtain ⟨hlt, rfl⟩ := List.getElem?_eq_some_iff.1 hi
  rw [List.countP_set hlt]
  have hpos : p hs[i] = true → 0 < hs.countP p := fun hp =>
    countP_pos_iff.2 ⟨_, getElem_mem hlt, hp⟩
  by_cases hp : p hs[i] = true
  · have := hpos hp
    simp only [hp, if_true]
    omega
  · simp [hp]

/-- An action that leaves the counters alone. -/
theorem InflightOk.same (hok : InflightOk limits st hs) (hi : hs[i]? = some h)
    (hlimits : st'.limits = st.limits)
    (htotal : st'.counters.inflightRequestCount = st.counters.inflightRequestCount)
    (hpeers : ∀ identity,
      inflightOf st'.counters.peers identity = inflightOf st.counters.peers identity) :
    InflightOk limits st' (hs.set i h) := by
  obtain ⟨hlt, rfl⟩ := List.getElem?_eq_some_iff.1 hi
  rw [List.set_getElem_self]
  refine ⟨hlimits.trans hok.limits_eq, htotal.trans hok.total, fun identity => ?_, fun hpos => ?_,
    fun hpos identity => ?_⟩
  · rw [hpeers, hok.perIdentity]
  · rw [htotal]
    exact hok.total_le hpos
  · rw [hpeers]
    exact hok.perIdentity_le hpos identity

/-- A request begins. -/
theorem InflightOk.begin {shuttingDown : Bool} {c' : InflightCounters}
    (hok : InflightOk limits st hs) (hi : hs[i]? = some .waiting)
    (hbegin : beginRequest st.limits shuttingDown true callerIdentity st.counters = (.ok (), c')) :
    InflightOk limits { st with counters := c' } (hs.set i (.inFlight callerIdentity)) := by
  obtain ⟨htotal, hpeers, hle, hpeerLe⟩ := beginRequest_ok hbegin
  rw [hok.limits_eq] at hle hpeerLe
  refine ⟨hok.limits_eq, ?_, fun identity => ?_, hle, fun hpos identity => ?_⟩
  · have hset := countP_set_stage (.inFlight callerIdentity) RequestStage.isInFlight hi
    simp only [RequestStage.isInFlight, if_true, Bool.false_eq_true, if_false] at hset
    show c'.inflightRequestCount = _
    rw [htotal, hok.total]
    omega
  · have hset := countP_set_stage (.inFlight callerIdentity)
      (RequestStage.isUnder identity) hi
    simp only [RequestStage.isUnder, decide_eq_true_eq, Bool.false_eq_true, if_false] at hset
    show inflightOf c'.peers identity = _
    rw [hpeers, hok.perIdentity]
    omega
  · show inflightOf c'.peers identity ≤ _
    by_cases hsame : CStr.present callerIdentity = some identity
    · exact hpeerLe identity hsame hpos
    · rw [hpeers, if_neg hsame]
      exact hok.perIdentity_le hpos identity

/-- A request ends. -/
theorem InflightOk.end (replyBytes : Nat) (hok : InflightOk limits st hs)
    (hi : hs[i]? = some (.inFlight callerIdentity)) :
    InflightOk limits { st with counters := endRequest callerIdentity replyBytes st.counters }
      (hs.set i .ended) := by
  obtain ⟨htotal, hpeers⟩ := endRequest_spec callerIdentity replyBytes st.counters
  refine ⟨hok.limits_eq, ?_, fun identity => ?_, fun hpos => ?_, fun hpos identity => ?_⟩
  · have hset := countP_set_stage .ended RequestStage.isInFlight hi
    simp only [RequestStage.isInFlight, if_true, Bool.false_eq_true, if_false] at hset
    show (endRequest callerIdentity replyBytes st.counters).inflightRequestCount = _
    rw [htotal, hok.total]
    omega
  · have hset := countP_set_stage .ended (RequestStage.isUnder identity) hi
    simp only [RequestStage.isUnder, decide_eq_true_eq, Bool.false_eq_true, if_false] at hset
    show inflightOf (endRequest callerIdentity replyBytes st.counters).peers identity = _
    rw [hpeers, hok.perIdentity]
    omega
  · show (endRequest callerIdentity replyBytes st.counters).inflightRequestCount ≤ _
    rw [htotal]
    exact Nat.le_trans (Nat.sub_le _ _) (hok.total_le hpos)
  · show inflightOf (endRequest callerIdentity replyBytes st.counters).peers identity ≤ _
    rw [hpeers]
    exact Nat.le_trans (Nat.sub_le _ _) (hok.perIdentity_le hpos identity)

/-- Every permitted action keeps the counters right. -/
theorem InflightOk.act {α : Type} {op : GateOp α} {world : GateWorld} {answer : α}
    (hok : InflightOk limits st hs) (hi : hs[i]? = some h) (hmay : stageMay h op)
    (hroom : world.allocPeer = true) (hexec : gateExec st world op = some (answer, st')) :
    InflightOk limits st' (hs.set i (stageAfter h op answer)) := by
  cases op with
  | beginRequest callerIdentity =>
    have hwaiting : h = .waiting := hmay
    subst hwaiting
    obtain ⟨c', hbegin, rfl⟩ := gateExec_beginRequest hexec
    rw [hroom] at hbegin
    cases answer with
    | ok u => exact hok.begin hi hbegin
    | error e =>
      obtain ⟨htotal, hpeers⟩ := beginRequest_refused hbegin
      exact hok.same hi rfl htotal hpeers
  | endRequest callerIdentity replyBytes =>
    have hflight : h = .inFlight callerIdentity := hmay
    subst hflight
    cases hexec
    exact hok.end replyBytes hi
  | recordSessionOpen maxRate attempt =>
    cases hexec
    exact hok.same hi rfl rfl (inflightOf_checkAndRecordSessionOpen maxRate
      st.counters.peers attempt)
  | _ =>
    cases hexec
    exact hok.same hi rfl rfl fun _ => rfl

end

/-! ### All interleavings -/

/-- A service without requests. -/
def GateState.init (config : GateConfig) (limits : RequestLimits) : GateState :=
  ⟨config, limits, ⟨0, []⟩⟩

/-- The states of a service and its requests, when there is memory for the entries of the
    identities. -/
def GateReaches (config : GateConfig) (limits : RequestLimits)
    (s : System GateState GateCall GateOp GateAnswer) : Prop :=
  System.Reachable (gateMachine.within fun world => world.allocPeer = true) gateEntry
    (.init config limits) s

/-- **In-flight accounting.** In every state that requests through all ways into the service
    can reach, whatever they are answered: the counter of the service is the number of requests
    between their begin and their end, the counter of an identity the number of those under it,
    and both keep to their limits; every begin that succeeded is followed by one end, which has
    happened when the request has returned; and a begin that is refused changes no counter. -/
theorem inflightAccounting {config : GateConfig} {limits : RequestLimits}
    {s : System GateState GateCall GateOp GateAnswer} (hs : GateReaches config limits s) :
    s.shared.counters.inflightRequestCount =
      s.threads.countP (fun t => (requestStage t).isInFlight) ∧
    (∀ identity, inflightOf s.shared.counters.peers identity =
      s.threads.countP fun t => (requestStage t).isUnder identity) ∧
    (0 < limits.maxInflightRequests →
      s.shared.counters.inflightRequestCount ≤ limits.maxInflightRequests) ∧
    (0 < limits.maxInflightPerPeerIdentity → ∀ identity,
      inflightOf s.shared.counters.peers identity ≤ limits.maxInflightPerPeerIdentity) ∧
    (∀ t ∈ s.threads, PastOf t.past (requestStage t) ∧
      ∀ answer, t.rest = .ret answer → (requestStage t).isInFlight = false) ∧
    ∀ world callerIdentity e st',
      gateExec s.shared world (.beginRequest callerIdentity) = some (.error e, st') →
      st'.counters.inflightRequestCount = s.shared.counters.inflightRequestCount ∧
      ∀ identity, inflightOf st'.counters.peers identity =
        inflightOf s.shared.counters.peers identity := by
  -- no request is in flight at the start
  have hempty : InflightOk limits (.init config limits) [] :=
    ⟨rfl, rfl, fun _ => rfl, fun _ => Nat.zero_le _, fun _ _ => Nat.zero_le _⟩
  obtain ⟨hok, hwp⟩ := accounting.invariant (fun _ => .waiting) Settled (InflightOk limits)
    gateEntry_balanced
    (fun st stages _ hok => ⟨hok.limits_eq, by simpa [RequestStage.isInFlight] using hok.total,
      fun identity => by simpa [RequestStage.isUnder] using hok.perIdentity identity,
      hok.total_le, hok.perIdentity_le⟩)
    (fun st stages i h op world answer st' hok hi hmay hexec =>
      hok.act hi hmay world.2 hexec)
    hempty hs
  have hpast := accounting.history (fun _ => .waiting) Settled (fun _ past h => PastOf past h)
    gateEntry_balanced (fun _ => Quiet.nil)
    (fun _ _ _ op answer hpast hmay => hpast.act op answer hmay) hs
  refine ⟨?_, fun identity => ?_, hok.total_le, hok.perIdentity_le, fun t ht => ?_, ?_⟩
  · rw [hok.total, countP_map]
    rfl
  · rw [hok.perIdentity, countP_map]
    rfl
  · refine ⟨hpast t ht, fun answer hret => ?_⟩
    -- a request returns before it has begun or after it has ended
    have hsettled := hwp t ht
    rw [hret] at hsettled
    rcases hsettled with hstage | hstage
    · show (System.held accounting _ t).isInFlight = false
      rw [hstage]
      rfl
    · show (System.held accounting _ t).isInFlight = false
      rw [hstage]
      rfl
  · intro world callerIdentity e st' hexec
    obtain ⟨c', hbegin, rfl⟩ := gateExec_beginRequest hexec
    exact beginRequest_refused hbegin

/-- Two requests under the identity `a`, of which the limit of one lets only the first begin. -/
def twoUnderOne : List (Event GateCall {world : GateWorld // world.allocPeer = true}) :=
  .start (.requestWithIdentity manifestBody (some CStr.a)) ::
    .start (.requestWithIdentity manifestBody (some CStr.a)) ::
    (replicate 4 (.act 0 ⟨.calm, rfl⟩) ++ replicate 4 (.act 1 ⟨.calm, rfl⟩))

theorem inflightAccounting_twoUnderOne :
    ∃ s, GateReaches .open ⟨0, 1, 0⟩ s ∧
      (s.threads.map fun t => (requestStage t).isInFlight) = [true, false] ∧
      inflightOf s.shared.counters.peers ⟨[0x61], by decide⟩ = 1 ∧
      s.shared.counters.inflightRequestCount =
        s.threads.countP fun t => (requestStage t).isInFlight := by
  refine ⟨_, ⟨twoUnderOne, rfl⟩, rfl, rfl, ?_⟩
  exact (@inflightAccounting .open ⟨0, 1, 0⟩ _ ⟨twoUnderOne, rfl⟩).1

end Ducknng
