import Ducknng.Service.Inflight

namespace Ducknng

open List Discipline

/-!
# The request gate

What the past of a request says: when the handler of a method has run, everything the gate asks
for has been answered in favour of the request before; and a request that has returned without a
handler has returned a refusal.

* `requestGate` — the three ways in for frames, over all interleavings.
-/

/-! ### The past of a request -/

/-- What has happened before the handler of a method runs for a call. -/
structure Admitted (call : GateCall) (before : List (Done GateOp)) (method : MethodDescriptor) :
    Prop where
  identityChecked : ∃ required, ⟨.requiresPeerIdentity, required⟩ ∈ before
  peerChecked : ∃ answer, ⟨.peerAllowlist call.checks.callerIdentity, answer⟩ ∈ before
  ipChecked : ∃ answer, ⟨.ipAllowlist call.checks.remoteAddr, answer⟩ ∈ before
  noneFailed : ∀ x ∈ before, checkFails call.checks.callerIdentity x.op x.answer = false
  begun : ⟨.beginRequest call.checks.callerIdentity, .ok ()⟩ ∈ before
  authorized : ⟨.copyAuthorizerSql, none⟩ ∈ before ∨
    ∃ sql ctx r, ⟨.copyAuthorizerSql, some (some sql)⟩ ∈ before ∧
      ⟨.runAuthorizer sql ctx, .result r⟩ ∈ before ∧ ctx.frame = call.checks.frame ∧
      ctx.callerIdentity = call.checks.callerIdentity ∧
      ctx.remoteAddr = call.checks.remoteAddr ∧ r.Allows
  dispatched : ∃ frame, call.checks.frame = some frame ∧
    ⟨.findMethod frame.methodName, some method⟩ ∈ before ∧
    MethodOpen method frame call.checks.callerIdentity

/-- The address that the IP allowlist is asked about. -/
def consults : {α : Type} → GateOp α → Option (Option SockAddr)
  | _, .ipAllowlist remoteAddr => some remoteAddr
  | _, _ => none

/-- The past of a call backs what it has found out. -/
structure Recorded (call : GateCall) (past : List (Done GateOp)) (h : GateChecks) : Prop where
  callerIdentity : h.callerIdentity = call.checks.callerIdentity
  remoteAddr : h.remoteAddr = call.checks.remoteAddr
  frame : h.frame = call.checks.frame
  identityChecked : h.identityChecked = true → ∃ required, ⟨.requiresPeerIdentity, required⟩ ∈ past
  peerChecked : h.peerChecked = true →
    ∃ answer, ⟨.peerAllowlist call.checks.callerIdentity, answer⟩ ∈ past
  ipChecked : h.ipChecked = true → ∃ answer, ⟨.ipAllowlist call.checks.remoteAddr, answer⟩ ∈ past
  noneFailed : h.failed = false →
    ∀ x ∈ past, checkFails call.checks.callerIdentity x.op x.answer = false
  begun : h.begun = true → ⟨.beginRequest call.checks.callerIdentity, .ok ()⟩ ∈ past
  sql : ∀ sql, h.sql = some sql → ⟨.copyAuthorizerSql, some (some sql)⟩ ∈ past
  authorized : h.authorized = true → ⟨.copyAuthorizerSql, none⟩ ∈ past ∨
    ∃ sql ctx r, ⟨.copyAuthorizerSql, some (some sql)⟩ ∈ past ∧
      ⟨.runAuthorizer sql ctx, .result r⟩ ∈ past ∧ ctx.frame = call.checks.frame ∧
      ctx.callerIdentity = call.checks.callerIdentity ∧
      ctx.remoteAddr = call.checks.remoteAddr ∧ r.Allows
  denial : ∀ status, h.denial = some status → ∃ x ∈ past, deniedWith x.op x.answer = some status
  method : ∀ method, h.method = some method → ∃ frame, call.checks.frame = some frame ∧
    ⟨.findMethod frame.methodName, some method⟩ ∈ past
  handled : h.handled = true → ∃ x ∈ past, handlerOf x.op ≠ none
  fair : (∀ x ∈ past, unfair x.op x.answer = false) → h.fair = true
  consulted : ∀ x ∈ past, ∀ addr, consults x.op = some addr → addr = call.checks.remoteAddr
  admitted : ∀ before x after method, past = before ++ x :: after →
    handlerOf x.op = some method → Admitted call before method

theorem Recorded.start (call : GateCall) : Recorded call [] call.checks := by
  cases call <;>
    exact ⟨rfl, rfl, rfl, nofun, nofun, nofun, fun _ => forall_mem_nil _, nofun, nofun,
      nofun, nofun, nofun, nofun, fun _ => rfl, forall_mem_nil _, fun before _ _ _ hpast =>
        absurd hpast.symm (append_ne_nil_of_right_ne_nil _ (cons_ne_nil _ _))⟩

variable {α : Type} {op : GateOp α} {answer : α}

section
variable {call : GateCall} {past : List (Done GateOp)} {h : GateChecks}

/-- Where an action stands in a past that has grown by one. -/
theorem snoc_eq_append_cons {xs before after : List (Done GateOp)} {x y : Done GateOp}
    (heq : xs ++ [y] = before ++ x :: after) :
    (xs = before ∧ y = x ∧ after = []) ∨ ∃ after', xs = before ++ x :: after' := by
  rcases eq_nil_or_concat' after with rfl | ⟨after', z, rfl⟩
  · obtain ⟨hxs, hy⟩ := append_inj' heq rfl
    exact .inl ⟨hxs, singleton_inj.1 hy, rfl⟩
  · rw [← cons_append, ← append_assoc] at heq
    exact .inr ⟨after', (append_inj' heq rfl).1⟩

/-- What a request has found out stays backed when its past grows. -/
theorem Recorded.grow (op : GateOp α) (answer : α) (hrec : Recorded call past h)
    (haddr : ∀ addr, consults op = some addr → addr = call.checks.remoteAddr)
    (hop : ∀ method, handlerOf op = some method → Admitted call past method) :
    Recorded call (past ++ [⟨op, answer⟩]) { h with
      failed := h.failed || checkFails h.callerIdentity op answer
      fair := h.fair && !unfair op answer } := by
  have hmem : ∀ {x}, x ∈ past → x ∈ past ++ [⟨op, answer⟩] := fun hx => mem_append_left _ hx
  -- whatever the past has backed, the longer past still backs
  refine ⟨hrec.callerIdentity, hrec.remoteAddr, hrec.frame, ?_, ?_, ?_, ?_, ?_, ?_, ?_, ?_, ?_, ?_,
    ?_, ?_, ?_⟩
  · intro hchecked
    obtain ⟨required, hrequired⟩ := hrec.identityChecked hchecked
    exact ⟨required, hmem hrequired⟩
  · intro hchecked
    obtain ⟨a, ha⟩ := hrec.peerChecked hchecked
    exact ⟨a, hmem ha⟩
  · intro hchecked
    obtain ⟨a, ha⟩ := hrec.ipChecked hchecked
    exact ⟨a, hmem ha⟩
  · intro hfailed
    obtain ⟨hbefore, hnow⟩ := Bool.or_eq_false_iff.1 hfailed
    rw [hrec.callerIdentity] at hnow
    exact forall_mem_append.2 ⟨hrec.noneFailed hbefore, forall_mem_singleton.2 hnow⟩
  · exact fun hbegun => hmem (hrec.begun hbegun)
  · exact fun sql hsql => hmem (hrec.sql sql hsql)
  · intro hauthorized
    rcases hrec.authorized hauthorized with hnone | ⟨sql, ctx, r, hsql, hrun, hctx⟩
    · exact .inl (hmem hnone)
    · exact .inr ⟨sql, ctx, r, hmem hsql, hmem hrun, hctx⟩
  · intro status hstatus
    obtain ⟨x, hx, hdenied⟩ := hrec.denial status hstatus
    exact ⟨x, hmem hx, hdenied⟩
  · intro method hmethod
    obtain ⟨frame, hframe, hfind⟩ := hrec.method method hmethod
    exact ⟨frame, hframe, hmem hfind⟩
  · intro hhandled
    obtain ⟨x, hx, hhandler⟩ := hrec.handled hhandled
    exact ⟨x, hmem hx, hhandler⟩
  · intro hfair
    have hbefore := hrec.fair fun x hx => hfair x (hmem hx)
    have hnow := hfair _ (mem_append_right past (mem_singleton_self _))
    show (h.fair && !unfair op answer) = true
    rw [hbefore, hnow]
    rfl
  · exact forall_mem_append.2 ⟨hrec.consulted, forall_mem_singleton.2 haddr⟩
  · intro before x after method hpast hhandler
    -- the new action is the handler, or the handler ran earlier
    rcases snoc_eq_append_cons hpast with ⟨rfl, rfl, -⟩ | ⟨after', hpast'⟩
    · exact hop method hhandler
    · exact hrec.admitted before x after' method hpast' hhandler

/-- A request that may run a handler has everything the gate asks for in its past. -/
theorem Recorded.admits {method : MethodDescriptor} {frame : Frame} (hrec : Recorded call past h)
    (hpassed : h.Passed method frame) : Admitted call past method := by
  obtain ⟨frame', hframe', hfind⟩ := hrec.method method hpassed.method
  have hframe : frame' = frame :=
    Option.some.inj (hframe'.symm.trans (hrec.frame.symm.trans hpassed.frame_eq))
  subst hframe
  exact ⟨hrec.identityChecked hpassed.identityChecked, hrec.peerChecked hpassed.peerChecked,
    hrec.ipChecked hpassed.ipChecked, hrec.noneFailed hpassed.failed, hrec.begun hpassed.begun,
    hrec.authorized hpassed.authorized,
    ⟨frame', hframe', hfind, hrec.callerIdentity ▸ hpassed.methodOpen⟩⟩

theorem Recorded.plain (op : GateOp α) (answer : α) (hrec : Recorded call past h)
    (haddr : consults op = none) (hop : handlerOf op = none) :
    Recorded call (past ++ [⟨op, answer⟩]) { h with
      failed := h.failed || checkFails h.callerIdentity op answer
      fair := h.fair && !unfair op answer } :=
  hrec.grow op answer (fun _ hconsults => absurd (haddr.symm.trans hconsults) nofun)
    fun _ hhandler => absurd (hop.symm.trans hhandler) nofun

/-- Every permitted action keeps what has been found out backed by the past. -/
theorem Recorded.act (op : GateOp α) (answer : α) (hrec : Recorded call past h)
    (hmay : checksMay h op) :
    Recorded call (past ++ [⟨op, answer⟩]) (gateDiscipline.after h op answer) := by
  have hnew : (⟨op, answer⟩ : Done GateOp) ∈ past ++ [⟨op, answer⟩] :=
    mem_append_right _ (mem_singleton_self _)
  cases op with
  | requiresPeerIdentity =>
    exact { hrec.plain .requiresPeerIdentity answer rfl rfl with
      identityChecked := fun _ => ⟨answer, hnew⟩ }
  -- the check is about the caller of this request
  | peerAllowlist callerIdentity =>
    have hid : callerIdentity = call.checks.callerIdentity := hmay.trans hrec.callerIdentity
    subst hid
    exact { hrec.plain (.peerAllowlist _) answer rfl rfl with
      peerChecked := fun _ => ⟨answer, hnew⟩ }
  | ipAllowlist remoteAddr =>
    have haddr : remoteAddr = call.checks.remoteAddr := hmay.trans hrec.remoteAddr
    subst haddr
    have hgrown := hrec.grow (.ipAllowlist call.checks.remoteAddr) answer
      (fun addr hconsults => (Option.some.inj hconsults).symm)
      fun _ hhandler => absurd hhandler nofun
    exact { hgrown with ipChecked := fun _ => ⟨answer, hnew⟩ }
  | beginRequest callerIdentity =>
    have hid : callerIdentity = call.checks.callerIdentity := hmay.trans hrec.callerIdentity
    subst hid
    cases answer with
    | ok u => exact { hrec.plain (.beginRequest _) (.ok u) rfl rfl with begun := fun _ => hnew }
    | error e => exact hrec.plain _ _ rfl rfl
  | copyAuthorizerSql =>
    match answer with
    | none => exact { hrec.plain .copyAuthorizerSql none rfl rfl with
        authorized := fun _ => .inl hnew }
    | some none => exact hrec.plain _ _ rfl rfl
    | some (some sql) =>
      refine { hrec.plain .copyAuthorizerSql (some (some sql)) rfl rfl with
        sql := fun sql' hsql => ?_ }
      cases hsql
      exact hnew
  | runAuthorizer sql ctx =>
    obtain ⟨hsql, hframe, hidentity, hremote⟩ := hmay
    have hgrown := hrec.plain (.runAuthorizer sql ctx) answer rfl rfl
    match answer with
    | .notEntered e => exact hgrown
    | .failed detail => exact hgrown
    | .result r =>
      -- the row allows, denies or is malformed
      show Recorded call _ { h.sawRun (.result r) with failed := _, fair := _ }
      rw [GateChecks.sawRun]
      split
      · next hallows =>
        exact { hgrown with authorized := fun _ => .inr ⟨sql, ctx, r,
          mem_append_left _ (hrec.sql sql hsql), hnew, hframe.trans hrec.frame,
          hidentity.trans hrec.callerIdentity, hremote.trans hrec.remoteAddr, hallows⟩ }
      split
      · next hdenies =>
        refine { hgrown with denial := fun status hstatus => ⟨_, hnew, ?_⟩ }
        cases hstatus
        exact if_pos hdenies
      · exact hgrown
  | findMethod name =>
    obtain ⟨frame, hframe, rfl⟩ := hmay
    refine { hrec.plain (.findMethod _) answer rfl rfl with method := fun method hmethod => ?_ }
    cases hmethod
    exact ⟨frame, hrec.frame.symm.trans hframe, hnew⟩
  -- all that was found out admits the handler
  | handler method frame callerIdentity decision =>
    have hgrown := hrec.grow (.handler method frame callerIdentity decision) answer
      (fun _ hconsults => absurd hconsults nofun)
      fun found hfound => Option.some.inj hfound ▸ hrec.admits hmay.2
    exact { hgrown with handled := fun _ => ⟨_, hnew, nofun⟩ }
  | _ => exact hrec.plain _ _ rfl rfl

end

/-! ### What the machine answers -/

/-- What is true of every answer of the machine: an allowlist answers by a policy, a copy is a
    copy of its text, a begin is refused with a text, and a method has the name it was looked up
    under. -/
def Truthful : {α : Type} → GateOp α → α → Prop
  | _, .ipAllowlist remoteAddr, (active, allowed) => ∃ policy : AdmissionPolicy,
      active = policy.ipAllowlistActive ∧ allowed = policy.remoteAddrMatchesIpAllowlist remoteAddr
  | _, .strdup text, copy => copy = none ∨ copy = some text
  | _, .beginRequest _, .error text => Sendable text
  | _, .findMethod name, some method => method.name.bytes = name
  | _, _, _ => True

theorem gateExec_truthful {st st' : GateState} {world : GateWorld}
    (hexec : gateExec st world op = some (answer, st')) : Truthful op answer := by
  cases op with
  | ipAllowlist remoteAddr =>
    cases hexec
    exact ⟨st.config.policy, rfl, rfl⟩
  | strdup text =>
    cases hexec
    show (if world.strdup then some text else none) = none ∨ _
    split
    · exact .inr rfl
    · exact .inl rfl
  | beginRequest callerIdentity =>
    obtain ⟨c', hbegin, -⟩ := gateExec_beginRequest hexec
    cases answer with
    | ok u => trivial
    | error text =>
      show Sendable text
      unfold beginRequest at hbegin
      simp only at hbegin
      repeat' split at hbegin
      all_goals cases hbegin
      all_goals decide
  | findMethod name =>
    cases hexec
    cases hfind : methodRegistryFind st.config.registry name with
    | none => trivial
    | some method =>
      have hname := find?_some hfind
      show method.name.bytes = name
      exact of_decide_eq_true hname
  | _ => trivial

/-- With memory, an answer of the machine is a fair one. -/
theorem fair_of_truthful (htrue : Truthful op answer) (hroom : noRoom op answer = false) :
    unfair op answer = false := by
  cases op with
  | strdup text =>
    rcases htrue with rfl | rfl
    · cases hroom
    · simp [unfair]
  | allocMessage => exact hroom
  | beginRequest callerIdentity =>
    cases answer with
    | ok u => rfl
    | error text =>
      have htext : Sendable text := htrue
      simp [unfair, htext]
  | findMethod name =>
    cases answer with
    | none => rfl
    | some method =>
      have hname : method.name.bytes = name := htrue
      simp [unfair, hname]
  | _ => rfl

/-! ### All interleavings -/

/-- A call with a frame. -/
def GateCall.isFramed : GateCall → Bool
  | .request _ _ _ => true
  | .requestWithIdentity _ _ => true
  | .httpFrame _ _ _ _ => true
  | _ => false

/-- Whether the IP allowlist was consulted and active. -/
def ipActive : {α : Type} → GateOp α → α → Bool
  | _, .ipAllowlist _, (active, _) => active
  | _, _, _ => false

/-- With an address that it cannot read, an allowlist that did not refuse was not active. -/
theorem ipActive_of_no_ip {call : GateCall} (haddr : call.checks.remoteAddr.bind SockAddr.ip = none)
    (htrue : Truthful op answer)
    (hown : ∀ addr, consults op = some addr → addr = call.checks.remoteAddr)
    (hpassed : checkFails call.checks.callerIdentity op answer = false) :
    ipActive op answer = false := by
  cases op with
  | ipAllowlist remoteAddr =>
    obtain ⟨active, allowed⟩ := answer
    obtain ⟨policy, rfl, rfl⟩ := htrue
    cases hown remoteAddr rfl
    by_contra hactive
    have hactive' : policy.ipAllowlistActive = true := Bool.eq_true_of_not_eq_false hactive
    have hmatch : policy.remoteAddrMatchesIpAllowlist call.checks.remoteAddr = false := by
      simp [AdmissionPolicy.remoteAddrMatchesIpAllowlist, hactive', haddr]
    have hfails : (policy.ipAllowlistActive &&
      !policy.remoteAddrMatchesIpAllowlist call.checks.remoteAddr) = false := hpassed
    rw [hactive', hmatch] at hfails
    cases hfails
  | _ => rfl

/-- The kind of answer that a call with a frame gets. -/
def FramedAnswer (call : GateCall) (answer : GateAnswer) : Prop :=
  call.isFramed = true → (∃ reply, answer = .frame reply) ∨ ∃ http, answer = .http http

theorem gateEntry_framedAnswer (call : GateCall) :
    free.wp (gateEntry call) FramedAnswer call := by
  cases call with
  | request body callerIdentity remoteAddr =>
    exact (wp_bind _ _).2 (free_wp (fun reply _ => .inl ⟨reply, rfl⟩) _)
  | requestWithIdentity body callerIdentity =>
    exact (wp_bind _ _).2 (free_wp (fun reply _ => .inl ⟨reply, rfl⟩) _)
  | httpFrame body callerIdentity remoteAddr carrier =>
    exact (wp_bind _ _).2 (free_wp (fun http _ => .inr ⟨http, rfl⟩) _)
  | route arrival => exact free_wp (fun _ hframed => nomatch hframed) _
  | configure change => exact free_wp (fun _ hframed => nomatch hframed) _
  | openSession maxRate attempt => exact free_wp (fun _ hframed => nomatch hframed) _

/-- A refusal: an error frame, or for HTTP a reason with the status of an error. A row of the
    authorizer that denies the request may ask for a status that is none. -/
def Refusal (past : List (Done GateOp)) : GateAnswer → Prop
  | .frame reply => ∃ frame, reply = some frame ∧ frame.type = .error
  | .http answer => (∃ frame, answer.reply = some frame ∧ frame.type = .error) ∨
      answer.reply = none ∧ Told answer.error ∧
        (400 ≤ answer.status ∧ answer.status ≤ 599 ∨
          (∃ x ∈ past, deniedWith x.op x.answer = some (answer.status : Int)) ∧
            100 ≤ answer.status ∧ answer.status ≤ 599 ∧ answer.status ≠ 200)
  | _ => False

/-- **The request gate.** A call with a frame, whichever of the three ways it came in, and
    whatever else happens to the service at the same time: when the handler of a method runs,
    the network admission, the in-flight limits, the authorizer and the dispatcher have all
    been asked about this request and none was against it, and an allowlist that was active
    would have refused an address it cannot read; and when the call has returned without a
    handler, and there was memory for its answer, the answer is a refusal. -/
theorem requestGate {config : GateConfig} {limits : RequestLimits}
    {s : System GateState GateCall GateOp GateAnswer}
    (hs : System.Reachable gateMachine gateEntry (.init config limits) s)
    {t : Thread GateCall GateOp GateAnswer} (ht : t ∈ s.threads)
    (hframed : t.request.isFramed = true) :
    (∀ before x after method, t.past = before ++ x :: after → handlerOf x.op = some method →
      Admitted t.request before method ∧
      (t.request.checks.remoteAddr.bind SockAddr.ip = none →
        ∀ y ∈ before, ipActive y.op y.answer = false)) ∧
    ∀ answer, t.rest = .ret answer → (∀ x ∈ t.past, handlerOf x.op = none) →
      (∀ x ∈ t.past, noRoom x.op x.answer = false) → Refusal t.past answer := by
  -- what every thread has found out is backed by its own past
  have hrec := gateDiscipline.history GateCall.checks Answered Recorded gateEntry_checked
    Recorded.start (fun _ _ _ op answer hrec hmay => hrec.act op answer hmay) hs t ht
  have htrue : ∀ x ∈ t.past, Truthful x.op x.answer :=
    System.past_answers Truthful (fun _ _ _ _ _ _ hexec => gateExec_truthful hexec) hs t ht
  refine ⟨fun before x after method hpast hhandler => ?_, fun answer hret hnone hroom => ?_⟩
  · have hadmitted := hrec.admitted before x after method hpast hhandler
    refine ⟨hadmitted, fun haddr y hy => ?_⟩
    have hmem : y ∈ t.past := hpast ▸ mem_append_left _ hy
    exact ipActive_of_no_ip haddr (htrue y hmem) (hrec.consulted y hmem) (hadmitted.noneFailed y hy)
  · have hanswered := (gateDiscipline.invariant GateCall.checks Answered (fun _ _ => True)
      gateEntry_checked (fun _ _ _ _ => trivial) (fun _ _ _ _ _ _ _ _ _ _ _ _ => trivial)
      trivial hs).2 t ht
    rw [hret] at hanswered
    have hfair := hrec.fair fun x hx => fair_of_truthful (htrue x hx) (hroom x hx)
    -- no handler has run, so the answer is a refusal
    have hhandled : (System.held gateDiscipline GateCall.checks t).handled = false := by
      by_contra hhandled
      obtain ⟨x, hx, hhandler⟩ := hrec.handled (Bool.eq_true_of_not_eq_false hhandled)
      exact hhandler (hnone x hx)
    have hkind := (free.invariant id FramedAnswer (fun _ _ => True)
      gateEntry_framedAnswer (fun _ _ _ _ => trivial) (fun _ _ _ _ _ _ _ _ _ _ _ _ => trivial)
      trivial hs).2 t ht
    rw [hret, System.held_free] at hkind
    -- a frame is answered by a reply, over HTTP by a response
    rcases hkind hframed with ⟨reply, rfl⟩ | ⟨http, rfl⟩
    · exact hanswered hhandled hfair
    · rcases hanswered hhandled hfair with herror | ⟨hnoReply, htold, hstatus⟩
      · exact .inl herror
      · refine .inr ⟨hnoReply, htold, ?_⟩
        rcases hstatus with ⟨hlow, hhigh⟩ | ⟨hdenial, hlow, hhigh, hne⟩
        · exact .inl ⟨Int.ofNat_le.1 hlow, Int.ofNat_le.1 hhigh⟩
        · refine .inr ⟨hrec.denial _ hdenial, ?_⟩
          omega

/-- A request for the manifest over HTTP. -/
def manifestOverHttp : GateCall := .httpFrame manifestBody none none ⟨.http, none, none, none⟩

/-- The request on its own. -/
def manifestEvents (steps : Nat) : List (Event GateCall GateWorld) :=
  .start manifestOverHttp :: replicate steps (.act 0 .calm)

/-- It runs the handler when everybody is let in. -/
theorem requestGate_open :
    ∃ (s : System GateState GateCall GateOp GateAnswer) (t : Thread GateCall GateOp GateAnswer),
      System.Reachable gateMachine gateEntry (.init .open ⟨0, 0, 0⟩) s ∧ t ∈ s.threads ∧
      t.request = manifestOverHttp ∧ (t.past.filterMap fun x => handlerOf x.op) = [openMethod] ∧
      ∀ before x after method, t.past = before ++ x :: after → handlerOf x.op = some method →
        Admitted t.request before method := by
  have hrun : ∃ (s : System GateState GateCall GateOp GateAnswer)
      (t : Thread GateCall GateOp GateAnswer),
      System.Reachable gateMachine gateEntry (.init .open ⟨0, 0, 0⟩) s ∧ t ∈ s.threads ∧
      t.request = manifestOverHttp ∧
      (t.past.filterMap fun x => handlerOf x.op) = [openMethod] :=
    ⟨_, _, ⟨manifestEvents 17, rfl⟩, mem_singleton_self _, rfl, rfl⟩
  obtain ⟨s, t, hs, ht, hrequest, hhandlers⟩ := hrun
  have hframed : t.request.isFramed = true := by rw [hrequest]; rfl
  refine ⟨s, t, hs, ht, hrequest, hhandlers, ?_⟩
  intro before x after method hpast hhandler
  exact ((requestGate hs ht hframed).1 before x after method hpast hhandler).1

/-- A service with an authorizer. -/
def authorizedConfig : GateConfig := { GateConfig.open with
  authorizerSql := some ⟨[0x31], by decide⟩ }

/-- An authorizer that denies with the status 204 is taken at its word: the caller gets no frame
    and no error status. -/
theorem denial_with_204 :
    ∃ (s : System GateState GateCall GateOp GateAnswer)
      (t : Thread GateCall GateOp GateAnswer) (http : HttpFrameAnswer),
      System.Reachable gateMachine gateEntry (.init authorizedConfig ⟨0, 0, 0⟩) s ∧
      t ∈ s.threads ∧ t.request = manifestOverHttp ∧ t.rest = .ret (.http http) ∧
      (∀ x ∈ t.past, handlerOf x.op = none ∧ noRoom x.op x.answer = false) ∧
      http.reply = none ∧ http.status = 204 := by
  refine ⟨_, _, _, ⟨manifestEvents 13, rfl⟩, mem_singleton_self _, rfl, rfl, ?_, rfl, rfl⟩
  decide

end Ducknng
