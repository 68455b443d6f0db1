import Ducknng.Service.Peers

namespace Ducknng

open PeerIdentityState

/-!
# Network admission and the in-flight limits

What a service asks of a request before it does anything for it: who sends it and from where,
and how many requests are on their way already.

* `beginRequest`, `endRequest` — the counters of the requests in flight.
* `beginRequest_ok`, `beginRequest_refused`, `endRequest_spec` — what they count.
-/

/-! ### The allowlists -/

/-- The address families an allowlist knows. -/
inductive IpFamily where
  | inet | inet6
  deriving DecidableEq, Repr

/-- `nng_sockaddr`, as far as an allowlist reads it. -/
inductive SockAddr where
  | inet (addr : Vector UInt8 4)
  | inet6 (addr : Vector UInt8 16)
  | other
  deriving DecidableEq, Repr

/-- `ducknng_ip_allow_rule`; an IPv4 rule uses the first four bytes. -/
structure IpAllowRule where
  family : IpFamily
  addr : Vector UInt8 16
  prefixBits : Nat
  deriving DecidableEq, Repr

/-- `ducknng_ip_rule_matches_bytes`. -/
def ipRuleMatchesBytes (rule : IpAllowRule) (ip : List UInt8) : Bool :=
  let full := rule.prefixBits / 8
  let rem := rule.prefixBits % 8
  if rule.addr.toList.take full ≠ ip.take full then false
  else if rem = 0 then true
  else
    let mask : UInt8 := 0xff <<< UInt8.ofNat (8 - rem)
    rule.addr.toList.getD full 0 &&& mask = ip.getD full 0 &&& mask

/-- The family and the 16 bytes that are compared; `none` for a family without an IP. -/
def SockAddr.ip : SockAddr → Option (IpFamily × List UInt8)
  | .inet addr => some (.inet, addr.toList ++ List.replicate 12 0)
  | .inet6 addr => some (.inet6, addr.toList)
  | .other => none

/-- What the admission checks read of a service. -/
structure AdmissionPolicy where
  tlsEnabled : Bool
  authMode : Int
  peerAllowlistActive : Bool
  peerAllowlist : List CStr
  ipAllowlistActive : Bool
  ipAllowlist : List IpAllowRule

/-- `ducknng_service_requires_peer_identity`. -/
def AdmissionPolicy.requiresPeerIdentity (policy : AdmissionPolicy) : Bool :=
  policy.tlsEnabled && policy.authMode = 2

/-- `ducknng_tls_opts_peer_allowed`. -/
def AdmissionPolicy.tlsOptsPeerAllowed (policy : AdmissionPolicy) (identity : Option CStr) : Bool :=
  if !policy.peerAllowlistActive then true
  else match CStr.present identity with
    | none => false
    | some identity => identity ∈ policy.peerAllowlist

/-- `ducknng_remote_addr_matches_ip_allowlist`. -/
def AdmissionPolicy.remoteAddrMatchesIpAllowlist (policy : AdmissionPolicy)
    (remote : Option SockAddr) : Bool :=
  if !policy.ipAllowlistActive then true
  else match remote.bind SockAddr.ip with
    | none => false
    | some (family, ip) =>
      policy.ipAllowlist.any fun rule => rule.family = family && ipRuleMatchesBytes rule ip

/-! ### Requests in flight -/

/-- The limits of a service that are checked for every request; zero is no limit. -/
structure RequestLimits where
  maxInflightRequests : Nat
  maxInflightPerPeerIdentity : Nat
  maxReplyBytesPerPeerIdentity : Nat
  deriving DecidableEq, Repr

/-- The counters of a service. -/
structure InflightCounters where
  inflightRequestCount : Nat
  peers : List PeerIdentityState

/-- `ducknng_service_begin_request`. When there is no memory for the entry of the identity,
    the request is let in without one. -/
def beginRequest (limits : RequestLimits) (shuttingDown alloc : Bool) (callerIdentity : Option CStr)
    (c : InflightCounters) : Except String Unit × InflightCounters :=
  if shuttingDown then (.error "ducknng: service is shutting down", c)
  else if limits.maxInflightRequests > 0 ∧ c.inflightRequestCount ≥ limits.maxInflightRequests then
    (.error "ducknng: max inflight requests exceeded", c)
  else
    let counted := { c with inflightRequestCount := c.inflightRequestCount + 1 }
    match CStr.present callerIdentity with
    | none => (.ok (), counted)
    | some identity =>
      match findOrCreatePeerIdentity c.peers identity alloc with
      | none => (.ok (), counted)
      | some (peers, i) =>
        let ps := peers.getD i (.new identity)
        if limits.maxInflightPerPeerIdentity > 0 ∧
            ps.inflightCount ≥ limits.maxInflightPerPeerIdentity then
          (.error "ducknng: max inflight requests per peer identity exceeded", { c with peers })
        else if limits.maxReplyBytesPerPeerIdentity > 0 ∧
            ps.cumulativeReplyBytes ≥ limits.maxReplyBytesPerPeerIdentity then
          (.error "ducknng: reply byte quota for peer identity exceeded", { c with peers })
        else
          (.ok (), { counted with
            peers := peers.set i { ps with inflightCount := ps.inflightCount + 1 } })

/-- `ducknng_service_end_request`. -/
def endRequest (callerIdentity : Option CStr) (replyBytes : Nat) (c : InflightCounters) :
    InflightCounters :=
  let counted := { c with inflightRequestCount := c.inflightRequestCount - 1 }
  match CStr.present callerIdentity with
  | none => counted
  | some identity =>
    match findPeerIdentity c.peers identity with
    | none => counted
    | some i =>
      let ps := c.peers.getD i (.new identity)
      { counted with
        peers := c.peers.set i { ps with
          inflightCount := ps.inflightCount - 1
          cumulativeReplyBytes := (ps.cumulativeReplyBytes + replyBytes) % 2 ^ 64 } }

/-! ### The entry of an identity -/

/-- The entry of an identity, a fresh one if it has none. -/
def peerEntry (peers : List PeerIdentityState) (identity : CStr) : PeerIdentityState :=
  (peers.find? fun p => p.identity = identity).getD (.new identity)

/-- The in-flight counter of an identity. -/
def inflightOf (peers : List PeerIdentityState) (identity : CStr) : Nat :=
  (peerEntry peers identity).inflightCount

section
variable {peers peers' : List PeerIdentityState} {identity : CStr} {i : Nat} {alloc : Bool}

section
variable (h : findOrCreatePeerIdentity peers identity alloc = some (peers', i))
include h

theorem findPeerIdentity_of_findOrCreate :
    findPeerIdentity peers' identity = some i := by
  unfold findOrCreatePeerIdentity at h
  split at h
  · next j hj =>
    cases h
    exact hj
  · next hnone =>
    split at h
    · cases h
      unfold findPeerIdentity at hnone ⊢
      rw [List.findIdx?_append, hnone]
      simp [new]
    · cases h

/-- A new entry says what the missing one said. -/
theorem peerEntry_of_findOrCreate (other : CStr) :
    peerEntry peers' other = peerEntry peers other := by
  unfold findOrCreatePeerIdentity at h
  split at h
  · cases h
    rfl
  · split at h
    · cases h
      unfold peerEntry
      rw [List.find?_append]
      cases peers.find? fun p => p.identity = other with
      | some p => rfl
      | none =>
        by_cases hother : (new identity).identity = other
        · have hsame : identity = other := hother
          simp [hsame, new]
        · simp [hother]
    · cases h

theorem inflightOf_of_findOrCreate (other : CStr) :
    inflightOf peers' other = inflightOf peers other :=
  congrArg inflightCount (peerEntry_of_findOrCreate h other)

end

section
variable (hfind : findPeerIdentity peers identity = some i)
include hfind

theorem peerEntry_of_findPeerIdentity :
    peers.getD i (.new identity) = peerEntry peers identity := by
  have hfound := (find?_set_findPeerIdentity (p := .new identity) hfind rfl).1
  unfold peerEntry
  rw [hfound, Option.getD_some]

/-- Replacing the entry of an identity changes no other. -/
theorem inflightOf_set {p : PeerIdentityState} (hp : p.identity = identity) (other : CStr) :
    inflightOf (peers.set i p) other =
      if other = identity then p.inflightCount else inflightOf peers other := by
  unfold inflightOf peerEntry
  rw [(find?_set_findPeerIdentity hfind hp).2 other]
  split
  · rfl
  · rfl

end

/-- An identity without an entry has nothing in flight. -/
theorem inflightOf_of_missing (h : findPeerIdentity peers identity = none) :
    inflightOf peers identity = 0 := by
  have hfind : peers.find? (fun p => p.identity = identity) = none := by
    rw [List.find?_eq_none]
    intro p hp hsame
    have hnot := List.findIdx?_eq_none_iff.1 h p hp
    rw [hnot] at hsame
    cases hsame
  unfold inflightOf peerEntry
  rw [hfind]
  rfl

theorem peerEntry_identity (peers : List PeerIdentityState) (identity : CStr) :
    (peerEntry peers identity).identity = identity := by
  unfold peerEntry
  cases hfind : peers.find? fun p => p.identity = identity with
  | none => rfl
  | some p =>
    have hp := List.find?_some hfind
    exact of_decide_eq_true hp

end

/-! ### What is counted -/

section
variable {limits : RequestLimits} {shuttingDown alloc : Bool} {callerIdentity : Option CStr}
  {c c' : InflightCounters}

/-- A refused request changes no counter. -/
theorem beginRequest_refused {e : String}
    (h : beginRequest limits shuttingDown alloc callerIdentity c = (.error e, c')) :
    c'.inflightRequestCount = c.inflightRequestCount ∧
      ∀ other, inflightOf c'.peers other = inflightOf c.peers other := by
  unfold beginRequest at h
  split at h
  · cases h
    exact ⟨rfl, fun _ => rfl⟩
  split at h
  · cases h
    exact ⟨rfl, fun _ => rfl⟩
  simp only at h
  split at h
  · cases h
  split at h
  · cases h
  next peers i hfound =>
  -- the entry may be new, but its counter is the zero that a missing one counts as
  have hentry := inflightOf_of_findOrCreate hfound
  split at h
  · cases h
    exact ⟨rfl, hentry⟩
  split at h
  · cases h
    exact ⟨rfl, hentry⟩
  · cases h

/-- An accepted request is counted for the service and for its identity, within the limits. -/
theorem beginRequest_ok
    (h : beginRequest limits shuttingDown true callerIdentity c = (.ok (), c')) :
    c'.inflightRequestCount = c.inflightRequestCount + 1 ∧
    (∀ other, inflightOf c'.peers other =
      inflightOf c.peers other + if CStr.present callerIdentity = some other then 1 else 0) ∧
    (0 < limits.maxInflightRequests → c'.inflightRequestCount ≤ limits.maxInflightRequests) ∧
    ∀ identity, CStr.present callerIdentity = some identity →
      0 < limits.maxInflightPerPeerIdentity →
      inflightOf c'.peers identity ≤ limits.maxInflightPerPeerIdentity := by
  unfold beginRequest at h
  split at h
  · cases h
  split at h
  · cases h
  next hroom =>
  -- the global limit was checked before anything is counted
  have hlimit : 0 < limits.maxInflightRequests →
      c.inflightRequestCount + 1 ≤ limits.maxInflightRequests := by
    intro hpos
    by_contra hfull
    exact hroom ⟨hpos, by omega⟩
  split at h
  -- a caller without an identity is not counted by peer
  · next hnone =>
    cases h
    exact ⟨rfl, fun _ => by simp [hnone], hlimit,
      fun _ hsome => absurd (hnone.symm.trans hsome) nofun⟩
  next identity hidentity =>
  obtain ⟨⟨peers, i⟩, hfound⟩ :
      ∃ found, findOrCreatePeerIdentity c.peers identity true = some found := by
    unfold findOrCreatePeerIdentity
    split <;> exact ⟨_, rfl⟩
  simp only [hfound] at h
  split at h
  · cases h
  next hpeer =>
  split at h
  · cases h
  cases h
  have hfind := findPeerIdentity_of_findOrCreate hfound
  -- a new entry counts nothing, so the entry is the one from before
  have hget : peers.getD i (.new identity) = peerEntry c.peers identity := by
    rw [peerEntry_of_findPeerIdentity hfind, peerEntry_of_findOrCreate hfound]
  rw [hget] at hpeer
  have hset : ∀ other, inflightOf (peers.set i { peers.getD i (.new identity) with
      inflightCount := (peers.getD i (.new identity)).inflightCount + 1 }) other =
      if other = identity then (peers.getD i (.new identity)).inflightCount + 1
      else inflightOf peers other :=
    inflightOf_set hfind (by rw [hget]; exact peerEntry_identity c.peers identity)
  have hcount : ∀ other, inflightOf (peers.set i { peers.getD i (.new identity) with
      inflightCount := (peers.getD i (.new identity)).inflightCount + 1 }) other =
      inflightOf c.peers other + if some identity = some other then 1 else 0 := by
    intro other
    rw [hset, hget, inflightOf_of_findOrCreate hfound]
    by_cases hother : other = identity
    · subst hother
      simp [inflightOf]
    · simp [hother, Ne.symm hother]
  refine ⟨rfl, fun other => ?_, hlimit, fun other hother hpos => ?_⟩
  · rw [hidentity]
    exact hcount other
  · cases hidentity.symm.trans hother
    have hbelow : inflightOf c.peers identity < limits.maxInflightPerPeerIdentity := by
      by_contra hfull
      exact hpeer ⟨hpos, Nat.le_of_not_lt hfull⟩
    rw [hcount identity, if_pos rfl]
    exact hbelow

/-- The end of a request takes it off both counters. -/
theorem endRequest_spec (callerIdentity : Option CStr) (replyBytes : Nat) (c : InflightCounters) :
    (endRequest callerIdentity replyBytes c).inflightRequestCount = c.inflightRequestCount - 1 ∧
    ∀ other, inflightOf (endRequest callerIdentity replyBytes c).peers other =
      inflightOf c.peers other - if CStr.present callerIdentity = some other then 1 else 0 := by
  unfold endRequest
  split
  · next hnone => exact ⟨rfl, fun _ => by simp [hnone]⟩
  next identity hidentity =>
  rw [hidentity]
  split
  · next hmissing =>
    refine ⟨rfl, fun other => ?_⟩
    by_cases hother : identity = other
    · subst hother
      rw [inflightOf_of_missing hmissing, Nat.zero_sub]
    · simp [hother]
  · next i hfind =>
    refine ⟨rfl, fun other => ?_⟩
    have hget := peerEntry_of_findPeerIdentity hfind
    have hset := inflightOf_set (p := { c.peers.getD i (.new identity) with
      inflightCount := (c.peers.getD i (.new identity)).inflightCount - 1
      cumulativeReplyBytes :=
        ((c.peers.getD i (.new identity)).cumulativeReplyBytes + replyBytes) % 2 ^ 64 })
      hfind (by rw [hget]; exact peerEntry_identity c.peers identity) other
    refine hset.trans ?_
    rw [hget]
    by_cases hother : other = identity
    · subst hother
      simp [inflightOf]
    · simp [hother, Ne.symm hother]

end

/-- Recording a session open leaves the in-flight counters alone. -/
theorem inflightOf_checkAndRecordSessionOpen (maxRate : Nat) (peers : List PeerIdentityState)
    (a : OpenAttempt) (other : CStr) :
    inflightOf (checkAndRecordSessionOpen maxRate peers a).2 other = inflightOf peers other := by
  unfold checkAndRecordSessionOpen
  split
  · rfl
  next identity _ =>
  split
  · rfl
  split
  · rfl
  next peers' i hfound =>
  have hfind := findPeerIdentity_of_findOrCreate hfound
  have hget : peers'.getD i (.new identity) = peerEntry peers identity := by
    rw [peerEntry_of_findPeerIdentity hfind, peerEntry_of_findOrCreate hfound]
  -- whatever is written back is the entry with another buffer
  have hset : ∀ p : PeerIdentityState, p.identity = identity →
      p.inflightCount = inflightOf peers identity →
      inflightOf (peers'.set i p) other = inflightOf peers other := by
    intro p hp hcount
    rw [inflightOf_set hfind hp, inflightOf_of_findOrCreate hfound]
    by_cases hother : other = identity
    · subst hother
      rw [if_pos rfl]
      exact hcount
    · rw [if_neg hother]
  have hexpire : ((peerEntry peers identity).expire a.nowMs).identity = identity :=
    peerEntry_identity peers identity
  have hgrow : ((peerEntry peers identity).expire a.nowMs).grow.identity = identity := by
    unfold grow
    split
    · exact hexpire
    · exact hexpire
  have hgrowCount : ((peerEntry peers identity).expire a.nowMs).grow.inflightCount =
      inflightOf peers identity := by
    unfold grow
    split
    · rfl
    · rfl
  rw [hget]
  simp only
  split
  · exact hset _ hexpire rfl
  split
  · exact hset _ hexpire rfl
  · exact hset _ hgrow hgrowCount

end Ducknng
