import Ducknng.Service.Gate
import Ducknng.Wire.RoundTrip

namespace Ducknng

open Discipline

/-!
# What has been checked when a handler runs

The three ways in for frames run a method's handler at one place. What a request has found out
about itself is kept along its program; the handler may only be run by a request that has found
out everything the gate asks for, and a request that returns without it returns a refusal.

* `GateChecks`, `gateDiscipline` — what a request has found out, and when the handler may run.
* `RequestStage`, `accounting` — how far a request is; it begins once and ends once.
* `gateEntry_checked`, `gateEntry_balanced` — every way in keeps to both, by one walk along it.
-/

/-! ### What a request has found out -/

/-- What a request has found out about itself. -/
structure GateChecks where
  callerIdentity : Option CStr
  remoteAddr : Option SockAddr
  frame : Option Frame
  identityChecked : Bool := false
  peerChecked : Bool := false
  ipChecked : Bool := false
  failed : Bool := false
  begun : Bool := false
  sql : Option CStr := none
  authorized : Bool := false
  denial : Option Int := none
  method : Option MethodDescriptor := none
  handled : Bool := false
  fair : Bool := true

/-- Whether an admission check has come out against the request. -/
def checkFails (callerIdentity : Option CStr) : {α : Type} → GateOp α → α → Bool
  | _, .requiresPeerIdentity, required => required && (CStr.present callerIdentity).isNone
  | _, .peerAllowlist _, (active, allowed) => active && !allowed
  | _, .ipAllowlist _, (active, allowed) => active && !allowed
  | _, _, _ => false

/-- Whether an allocation has failed. -/
def noRoom : {α : Type} → GateOp α → α → Bool
  | _, .strdup _, copy => copy.isNone
  | _, .allocMessage, alloc => !alloc
  | _, _, _ => false

/-- A text that fits into an error frame. -/
def Sendable (text : String) : Prop := text.utf8ByteSize ≠ 0 ∧ text.utf8ByteSize ≤ u32Max

instance (text : String) : Decidable (Sendable text) :=
  inferInstanceAs (Decidable (_ ∧ _))

/-- What no machine with enough memory answers: a failed allocation, a copy of another text, a
    refusal without a text, or a method of another name. -/
def unfair : {α : Type} → GateOp α → α → Bool
  | _, .beginRequest _, .error text => ¬Sendable text
  | _, .strdup text, copy => copy ≠ some text
  | _, .allocMessage, alloc => !alloc
  | _, .findMethod name, some method => method.name.bytes ≠ name
  | _, _, _ => false

/-- The method whose handler an action runs. -/
def handlerOf : {α : Type} → GateOp α → Option MethodDescriptor
  | _, .handler method _ _ _ => some method
  | _, _ => none

/-- The status of an authorizer's row that denies the request. -/
def deniedWith : {α : Type} → GateOp α → α → Option Int
  | _, .runAuthorizer _ _, .result r => if r.Denies then some r.status else none
  | _, _, _ => none

/-- What the dispatcher asks of a method for a frame. -/
structure MethodOpen (method : MethodDescriptor) (frame : Frame) (callerIdentity : Option CStr) :
    Prop where
  enabled : method.disabled = false
  flags : frame.flags &&& ~~~method.acceptedRequestFlags = 0
  size : method.maxRequestBytes > 0 → frame.payload.bytes.length ≤ method.maxRequestBytes
  identity : method.requiresAuth = true → CStr.present callerIdentity ≠ none

/-- A request that may run the handler of a method. -/
structure GateChecks.Passed (h : GateChecks) (found : MethodDescriptor) (frame : Frame) : Prop where
  frame_eq : h.frame = some frame
  identityChecked : h.identityChecked = true
  peerChecked : h.peerChecked = true
  ipChecked : h.ipChecked = true
  failed : h.failed = false
  begun : h.begun = true
  authorized : h.authorized = true
  method : h.method = some found
  methodOpen : MethodOpen found frame h.callerIdentity

/-- The actions that are open to a request: the checks are made for the request itself. -/
def checksMay (h : GateChecks) : {α : Type} → GateOp α → Prop
  | _, .peerAllowlist callerIdentity => callerIdentity = h.callerIdentity
  | _, .ipAllowlist remoteAddr => remoteAddr = h.remoteAddr
  | _, .beginRequest callerIdentity => callerIdentity = h.callerIdentity
  | _, .runAuthorizer sql ctx => h.sql = some sql ∧ ctx.frame = h.frame ∧
      ctx.callerIdentity = h.callerIdentity ∧ ctx.remoteAddr = h.remoteAddr
  | _, .findMethod name => ∃ frame, h.frame = some frame ∧ name = frame.methodName
  | _, .handler method frame callerIdentity _ =>
    callerIdentity = h.callerIdentity ∧ h.Passed method frame
  | _, _ => True

/-- What the authorizer's answer says. -/
def GateChecks.sawRun (h : GateChecks) : AuthorizerRun → GateChecks
  | .result r =>
    if r.Allows then { h with authorized := true }
    else if r.Denies then { h with denial := some r.status } else h
  | _ => h

/-- What an answer adds to what the request knows. -/
def checksLearn (h : GateChecks) : {α : Type} → GateOp α → α → GateChecks
  | _, .requiresPeerIdentity, _ => { h with identityChecked := true }
  | _, .peerAllowlist _, _ => { h with peerChecked := true }
  | _, .ipAllowlist _, _ => { h with ipChecked := true }
  | _, .beginRequest _, .ok () => { h with begun := true }
  | _, .copyAuthorizerSql, none => { h with authorized := true }
  | _, .copyAuthorizerSql, some (some sql) => { h with sql := some sql }
  | _, .runAuthorizer _ _, run => h.sawRun run
  | _, .findMethod _, method => { h with method := method }
  | _, .handler _ _ _ _, _ => { h with handled := true }
  | _, _, _ => h

/-- The discipline of the gate. -/
def gateDiscipline : Discipline GateOp GateChecks where
  may h op := checksMay h op
  after h op answer :=
    { checksLearn h op answer with
      failed := h.failed || checkFails h.callerIdentity op answer
      fair := h.fair && !unfair op answer }

/-! ### How far a request is -/

/-- A request before its begin, between begin and end under an identity, and behind its end. -/
inductive RequestStage where
  | waiting
  | inFlight (callerIdentity : Option CStr)
  | ended

/-- Whether the request is in flight. -/
def RequestStage.isInFlight : RequestStage → Bool
  | .inFlight _ => true
  | _ => false

/-- Whether the request is in flight under the identity. -/
def RequestStage.isUnder (identity : CStr) : RequestStage → Bool
  | .inFlight callerIdentity => CStr.present callerIdentity = some identity
  | _ => false

/-- A request begins once, and it ends once under the identity it began with. -/
def stageMay (h : RequestStage) : {α : Type} → GateOp α → Prop
  | _, .beginRequest _ => h = .waiting
  | _, .endRequest callerIdentity _ => h = .inFlight callerIdentity
  | _, _ => True

/-- How far it is when an action has been answered. -/
def stageAfter (h : RequestStage) : {α : Type} → GateOp α → α → RequestStage
  | _, .beginRequest callerIdentity, .ok () => .inFlight callerIdentity
  | _, .endRequest _ _, _ => .ended
  | _, _, _ => h

/-- The discipline of begin and end. -/
def accounting : Discipline GateOp RequestStage where
  may h op := stageMay h op
  after h op answer := stageAfter h op answer

/-- The action begins or ends a request. -/
def GateOp.counted : {α : Type} → GateOp α → Bool
  | _, .beginRequest _ => true
  | _, .endRequest _ _ => true
  | _, _ => false

theorem GateOp.neutral {α : Type} {op : GateOp α} (h : op.counted = false) (s : RequestStage) :
    stageMay s op ∧ ∀ a, stageAfter s op a = s := by
  cases op with
  | beginRequest _ | endRequest _ _ => cases h
  | _ => exact ⟨trivial, fun _ => rfl⟩

/-- The discipline of the gate for programs that neither begin nor end a request. -/
def gateInside : Discipline GateOp GateChecks where
  may h op := op.counted = false ∧ checksMay h op
  after h op answer := gateDiscipline.after h op answer

/-- The discipline of the gate and that of begin and end. -/
def gateWalk : Discipline GateOp (GateChecks × RequestStage) := gateDiscipline.prod accounting

/-! ### Texts that can be sent -/

/-- There is a text, and it can be sent. -/
def Told (text : Option String) : Prop := ∃ t, text = some t ∧ Sendable t

theorem Told.getD {text : Option String} {fallback : String} (h : Told text) :
    Sendable (text.getD fallback) := by
  obtain ⟨t, rfl, ht⟩ := h
  exact ht

theorem Told.sendable {text : Option String} (h : Told text) {t : String} (ht : text = some t) :
    Sendable t := by
  obtain ⟨t', ht', hsendable⟩ := h
  cases ht'.symm.trans ht
  exact hsendable

/-! ### What a program of the gate leaves alone -/

/-- What a request keeps of what it has found out. -/
structure GateChecks.Keeps (h h' : GateChecks) : Prop where
  callerIdentity : h'.callerIdentity = h.callerIdentity
  remoteAddr : h'.remoteAddr = h.remoteAddr
  frame : h'.frame = h.frame
  begun : h.begun = true → h'.begun = true
  handled : h'.handled = h.handled
  fair : h'.fair = true → h.fair = true
  authorized : h.authorized = true → h'.authorized = true
  identityChecked : h.identityChecked = true → h'.identityChecked = true
  peerChecked : h.peerChecked = true → h'.peerChecked = true
  ipChecked : h.ipChecked = true → h'.ipChecked = true

theorem GateChecks.Keeps.refl (h : GateChecks) : h.Keeps h :=
  ⟨rfl, rfl, rfl, id, rfl, id, id, id, id, id⟩

variable {h₁ h₂ : GateChecks}

theorem GateChecks.Keeps.trans {h₃ : GateChecks} (h : h₁.Keeps h₂) (h' : h₂.Keeps h₃) :
    h₁.Keeps h₃ :=
  ⟨h'.callerIdentity.trans h.callerIdentity, h'.remoteAddr.trans h.remoteAddr,
    h'.frame.trans h.frame, h'.begun ∘ h.begun, h'.handled.trans h.handled, h.fair ∘ h'.fair,
    h'.authorized ∘ h.authorized, h'.identityChecked ∘ h.identityChecked,
    h'.peerChecked ∘ h.peerChecked, h'.ipChecked ∘ h.ipChecked⟩

theorem GateChecks.sawRun_keeps (h : GateChecks) (run : AuthorizerRun) :
    h.Keeps (h.sawRun run) := by
  unfold GateChecks.sawRun
  split
  · split
    · exact { Keeps.refl h with authorized := fun _ => rfl }
    split
    · exact { Keeps.refl h with }
    · exact .refl h
  · exact .refl h

/-- Only the handler's action changes more. -/
theorem keeps_after {α : Type} {op : GateOp α} (h : GateChecks) (answer : α)
    (hop : handlerOf op = none) : h.Keeps (gateDiscipline.after h op answer) := by
  suffices hlearn : h.Keeps (checksLearn h op answer) from
    { hlearn with fair := fun hfair => (Bool.and_eq_true_iff.1 hfair).1 }
  have hrefl := GateChecks.Keeps.refl h
  cases op with
  | requiresPeerIdentity => exact { hrefl with identityChecked := fun _ => rfl }
  | peerAllowlist _ => exact { hrefl with peerChecked := fun _ => rfl }
  | ipAllowlist _ => exact { hrefl with ipChecked := fun _ => rfl }
  | beginRequest _ =>
    cases answer with
    | ok u => exact { hrefl with begun := fun _ => rfl }
    | error e => exact hrefl
  | copyAuthorizerSql =>
    match answer with
    | none => exact { hrefl with authorized := fun _ => rfl }
    | some none => exact hrefl
    | some (some sql) => exact { hrefl with }
  | runAuthorizer _ _ => exact h.sawRun_keeps answer
  | handler _ _ _ _ => cases hop
  | findMethod _ => exact { hrefl with }
  | _ => exact hrefl

section
open Prog (perform)

variable {τ : Type} {h : GateChecks} {Q : GateChecks → τ → Prop}

variable {ρ : Type} {p : GateProg ρ} {f : ρ → GateProg τ} {R : GateChecks → ρ → Prop}

/-- One program after another, by what the first has established. -/
theorem wp_then (hp : gateInside.wp p R h) (hf : ∀ h' r, R h' r → gateInside.wp (f r) Q h') :
    gateInside.wp (p >>= f) Q h :=
  (wp_bind p f).2 (wp_mono hf hp)

/-- A copy of a text is the text, if the machine is fair. -/
theorem strdup_checked (text : String) :
    gateInside.wp (perform (.strdup text))
      (fun h' copy => h.Keeps h' ∧ h'.failed = h.failed ∧ h'.denial = h.denial ∧
        (h'.fair = true → copy = some text)) h := by
  refine ⟨⟨rfl, trivial⟩, fun copy => ⟨keeps_after h copy rfl, Bool.or_false _, rfl,
    fun hfair => ?_⟩⟩
  have hsame := (Bool.and_eq_true_iff.1 hfair).2
  simpa [unfair] using hsame

/-- A program that leaves what is known alone and has a text to tell. -/
structure Tells (h h' : GateChecks) (copy : Option String) : Prop where
  keeps : h.Keeps h'
  failed : h'.failed = h.failed
  denial : h'.denial = h.denial
  told : h'.fair = true → Told copy

theorem strdup_tells {text : String} (htext : h.fair = true → Sendable text) :
    gateInside.wp (perform (.strdup text)) (Tells h) h := by
  apply wp_mono _ (strdup_checked text)
  rintro h' copy ⟨hkeeps, hfailed, hdenial, hcopy⟩
  exact ⟨hkeeps, hfailed, hdenial,
    fun hfair => ⟨text, hcopy hfair, htext (hkeeps.fair hfair)⟩⟩

theorem strdup_told {text : String} (htext : Sendable text) :
    gateInside.wp (perform (.strdup text)) (Tells h) h := strdup_tells fun _ => htext

/-- A check that has not come out against the request. -/
theorem and_not_eq_false {active allowed : Bool} (h : ¬(active = true ∧ allowed = false)) :
    (active && !allowed) = false := by
  cases active with
  | false => rfl
  | true => cases allowed <;> simp_all

/-- What the peer admission has established: it has checked and nothing was against the
    request, or it has a text to tell. -/
def PeerAdmitted (h h' : GateChecks) : Except (Option String) Unit → Prop
  | .ok () => h.Keeps h' ∧ h'.failed = h.failed ∧ h'.denial = h.denial ∧
      h'.identityChecked = true ∧ h'.peerChecked = true
  | .error e => h.Keeps h' ∧ (h'.fair = true → Told e)

theorem peerAdmissionCheck_checked :
    gateInside.wp (peerAdmissionCheck h.callerIdentity) (PeerAdmitted h) h := by
  refine ⟨⟨rfl, trivial⟩, fun required => ⟨⟨rfl, rfl⟩, fun (active, allowed) => ?_⟩⟩
  show gateInside.wp (ite _ _ _) _ _
  have hstart := (@keeps_after _ .requiresPeerIdentity h required rfl).trans
    (@keeps_after _ (.peerAllowlist h.callerIdentity) _ (active, allowed) rfl)
  split
  · refine wp_then (strdup_told (by decide)) fun h' e hpost => ?_
    exact ⟨hstart.trans hpost.keeps, hpost.told⟩
  next hidentity =>
  split
  · refine wp_then (strdup_told (by decide)) fun h' e hpost => ?_
    exact ⟨hstart.trans hpost.keeps, hpost.told⟩
  next hallowed =>
  refine ⟨hstart, ?_, rfl, rfl, rfl⟩
  -- neither of the two checks came out against the request
  have hrequired : (required && (CStr.present h.callerIdentity).isNone) = false := by
    cases required with
    | false => rfl
    | true =>
      cases hpresent : CStr.present h.callerIdentity with
      | none => exact absurd ⟨rfl, hpresent⟩ hidentity
      | some identity => rfl
  show (h.failed || (required && (CStr.present h.callerIdentity).isNone) || (active && !allowed)) =
    h.failed
  rw [hrequired, and_not_eq_false hallowed, Bool.or_false, Bool.or_false]

/-- What the network admission has established. -/
def NetworkAdmitted (h h' : GateChecks) : Except (Option String) Unit → Prop
  | .ok () => PeerAdmitted h h' (.ok ()) ∧ h'.ipChecked = true
  | .error e => h.Keeps h' ∧ (h'.fair = true → Told e)

theorem networkAdmissionCheck_checked :
    gateInside.wp (networkAdmissionCheck h.callerIdentity h.remoteAddr) (NetworkAdmitted h) h := by
  refine wp_then peerAdmissionCheck_checked fun h₁ admission hpeer => ?_
  cases admission with
  | error e => exact hpeer
  | ok u =>
    obtain ⟨hkeeps, hfailed, hdenial, hidentityChecked, hpeerChecked⟩ := hpeer
    refine ⟨⟨rfl, hkeeps.remoteAddr.symm⟩, fun (active, allowed) => ?_⟩
    show gateInside.wp (ite _ _ _) _ _
    have hstart := hkeeps.trans
      (@keeps_after _ (.ipAllowlist h.remoteAddr) h₁ (active, allowed) rfl)
    split
    · refine wp_then (strdup_told (by decide)) fun h' e hpost => ?_
      exact ⟨hstart.trans hpost.keeps, hpost.told⟩
    next hallowed =>
    refine ⟨⟨hstart, ?_, hdenial, hidentityChecked, hpeerChecked⟩, rfl⟩
    show (h₁.failed || (active && !allowed)) = h.failed
    rw [and_not_eq_false hallowed, Bool.or_false, hfailed]

/-- What a begin has established: it has begun, or it has a text to tell. -/
def Begun (h h' : GateChecks) : Except (Option String) Unit → Prop
  | .ok () => h.Keeps h' ∧ h'.failed = h.failed ∧ h'.begun = true
  | .error e => h.Keeps h' ∧ (h'.fair = true → Told e)

variable {callerIdentity : Option CStr} {reason : Option String} {frame : Frame}

/-! ### The authorizer's verdict -/

/-- The status of a refusal: one of an error, or the one that the authorizer's row asks for. -/
def DeniedWith (h : GateChecks) (status : Int) : Prop :=
  400 ≤ status ∧ status ≤ 599 ∨
    h.denial = some status ∧ 100 ≤ status ∧ status ≤ 599 ∧ status ≠ 200

theorem varchar_short {r : AuthorizerResult} {name text : String}
    (h : r.varchar name = some text) : text.utf8ByteSize ≤ u32Max := by
  obtain ⟨col, -, hcol⟩ := Option.bind_eq_some_iff.1 h
  obtain ⟨sqlText, -, rfl⟩ := Option.map_eq_some_iff.1 hcol
  exact sqlText.short

theorem denialReason_told (hshort : ∀ text, reason = some text → text.utf8ByteSize ≤ u32Max) :
    gateInside.wp (denialReason reason) (Tells h) h := by
  unfold denialReason
  split
  · exact strdup_told (by decide)
  next htext =>
  cases reason with
  | none => exact absurd rfl htext
  | some text =>
    refine ⟨.refl h, rfl, rfl, fun _ => ⟨text, rfl, ?_, hshort text rfl⟩⟩
    have hne : text ≠ "" := by simpa [noText] using htext
    exact fun hzero => hne (String.utf8ByteSize_eq_zero_iff.1 hzero)

/-- What the row says: it allows the request, it denies it with a reason, or it is malformed and
    there is a text that says so. -/
def Parsed (h h' : GateChecks) (r : AuthorizerResult) (before : AuthorizerDecision) :
    Verdict → Prop
  | (true, _, _) => h.Keeps h' ∧ h'.failed = h.failed ∧ h'.denial = h.denial ∧ r.Allows
  | (false, err, decision) => h.Keeps h' ∧ h'.denial = h.denial ∧ (h'.fair = true →
      err = none ∧ r.Denies ∧ decision.httpStatus = r.status ∧ Told decision.reason ∨
      Told err ∧ decision = before)

theorem parseAuthorizerResult_checked (r : AuthorizerResult) (decision : AuthorizerDecision) :
    gateInside.wp (parseAuthorizerResult r decision)
      (fun h' verdict => Parsed h h' r decision verdict) h := by
  have hmalformed : ∀ text, Sendable text → gateInside.wp (do
      let err ← perform (.strdup text)
      pure ((false, err, decision) : Verdict))
      (fun h' verdict => Parsed h h' r decision verdict) h := by
    intro text htext
    refine wp_then (strdup_told htext) fun h' err hpost => ?_
    exact ⟨hpost.keeps, hpost.denial, fun hfair => .inr ⟨hpost.told hfair, rfl⟩⟩
  unfold parseAuthorizerResult
  split
  · exact hmalformed _ (by decide)
  next hrows =>
  split
  · exact hmalformed _ (by decide)
  next hextra =>
  split
  · exact hmalformed _ (by decide)
  next col hcol =>
  split
  · exact hmalformed _ (by decide)
  next htype =>
  split
  · next hallow =>
    refine ⟨.refl h, rfl, rfl, not_not.1 hrows, Nat.eq_zero_of_not_pos hextra, col, hcol,
      not_not.1 htype, ?_⟩
    cases hvalue : col.boolValue with
    | none => rw [hvalue] at hallow; cases hallow
    | some value => rw [hvalue] at hallow; exact congrArg some hallow
  · next hdeny =>
    refine wp_then (denialReason_told fun text => varchar_short) fun h' reason hpost => ?_
    refine ⟨hpost.keeps, hpost.denial, fun hfair => .inl ⟨rfl, ?_, rfl, hpost.told hfair⟩⟩
    refine ⟨not_not.1 hrows, Nat.eq_zero_of_not_pos hextra, col, hcol, not_not.1 htype, ?_⟩
    intro hvalue
    exact hdeny (by rw [hvalue]; rfl)

theorem strdupText_checked (text : Option String) :
    gateInside.wp (strdupText text)
      (fun h' copy => h.Keeps h' ∧ (h'.fair = true → copy = text)) h := by
  cases text with
  | none => exact ⟨.refl h, fun _ => rfl⟩
  | some t =>
    apply wp_mono _ (strdup_checked t)
    rintro h' copy ⟨hkeeps, -, -, hcopy⟩
    exact ⟨hkeeps, hcopy⟩

/-- A text is told when it is there to be told, or its substitute is. -/
theorem textOrStrdup_told {text : Option String} {fallback : String}
    (htext : h.fair = true → ∀ t, text = some t → Sendable t) (hfallback : Sendable fallback) :
    gateInside.wp (textOrStrdup text fallback) (Tells h) h := by
  unfold textOrStrdup
  split
  · exact strdup_told hfallback
  · next hsome =>
    obtain ⟨t, rfl⟩ := Option.ne_none_iff_exists'.1 hsome
    exact ⟨.refl h, rfl, rfl, fun hfair => ⟨t, rfl, htext hfair t rfl⟩⟩

/-- What a run of the authorizer has established. A denial that asks for the status 200 is
    given another one later. -/
def Ran (h h' : GateChecks) : Verdict → Prop
  | (true, _, _) => h.Keeps h' ∧ h'.failed = h.failed ∧ h'.authorized = true
  | (false, err, decision) => h.Keeps h' ∧ (h'.fair = true → Told err ∧
      (decision.httpStatus = 200 ∨ DeniedWith h' decision.httpStatus) ∧
      ∀ reason, decision.reason = some reason → Sendable reason)

/-- An internal error with its texts. -/
theorem ran_internal {h' : GateChecks} {err : Option String} {decision : AuthorizerDecision}
    (hkeeps : h.Keeps h') (herr : h'.fair = true → Told err)
    (hreason : h'.fair = true → ∀ text, reason = some text → Sendable text) :
    Ran h h' (false, err, { decision with allow := false, httpStatus := 500, reason }) :=
  ⟨hkeeps, fun hfair => ⟨herr hfair, .inr (.inl
    ⟨(by decide : (400 : Int) ≤ 500), (by decide : (500 : Int) ≤ 599)⟩), hreason hfair⟩⟩

/-- What is known when the row has been read. -/
theorem GateChecks.sawRun_result (h : GateChecks) (r : AuthorizerResult) :
    (r.Allows → (h.sawRun (.result r)).authorized = true) ∧
    (r.Denies → (h.sawRun (.result r)).denial = some r.status) := by
  unfold GateChecks.sawRun
  constructor
  · intro hallows
    simp only [if_pos hallows]
  · intro hdenies
    have hnot : ¬r.Allows := by
      rintro ⟨-, -, col, hcol, -, hvalue⟩
      obtain ⟨col', hcol', -, hvalue'⟩ := hdenies.allow
      cases hcol.symm.trans hcol'
      exact hvalue' hvalue
    simp only [if_neg hnot, if_pos hdenies]

theorem runSqlAuthorizer_checked {sql : CStr} {ctx : AuthorizerContext}
    (hsql : h.sql = some sql) (hframe : ctx.frame = h.frame)
    (hidentity : ctx.callerIdentity = h.callerIdentity) (hremote : ctx.remoteAddr = h.remoteAddr) :
    gateInside.wp (runSqlAuthorizer sql ctx .init) (Ran h) h := by
  refine wp_act ⟨rfl, hsql, hframe, hidentity, hremote⟩ fun run => ?_
  have hkeeps := @keeps_after _ (.runAuthorizer sql ctx) h run rfl
  cases run with
  | notEntered e =>
    have htext : Sendable e.text := by cases e <;> decide
    refine wp_then (strdup_told htext) fun h₁ err herr => ?_
    refine wp_then (strdup_checked _) fun h₂ reason hreason => ?_
    have htold : h₂.fair = true → Told err := fun hfair => herr.told (hreason.1.fair hfair)
    refine ran_internal (hkeeps.trans (herr.keeps.trans hreason.1)) htold fun hfair text htext => ?_
    cases (hreason.2.2.2 hfair).symm.trans htext
    exact (htold hfair).getD
  | failed detail =>
    have hdetail : ∀ t, (detail.map fun d => "ducknng: SQL authorizer error: " ++ d.text) = some t →
        Sendable t := by
      intro t ht
      obtain ⟨d, -, rfl⟩ := Option.map_eq_some_iff.1 ht
      have hlen : ("ducknng: SQL authorizer error: " ++ d.text).utf8ByteSize =
        "ducknng: SQL authorizer error: ".utf8ByteSize + d.text.utf8ByteSize :=
        String.utf8ByteSize_append
      have hpos : "ducknng: SQL authorizer error: ".utf8ByteSize ≠ 0 := by decide
      refine ⟨?_, ?_⟩
      · omega
      · rw [hlen]
        exact d.short
    refine wp_then (strdupText_checked _) fun h₁ msg hmsg => ?_
    refine wp_then (textOrStrdup_told
      (fun hfair t ht => hdetail t ((hmsg.2 hfair).symm.trans ht)) (by decide))
        fun h₂ msg' hmsg' => ?_
    refine wp_then (strdupText_checked msg') fun h₃ reason hreason => ?_
    have htold : h₃.fair = true → Told msg' := fun hfair => hmsg'.told (hreason.1.fair hfair)
    refine ran_internal (hkeeps.trans (hmsg.1.trans (hmsg'.keeps.trans hreason.1))) htold
      fun hfair text htext => (htold hfair).sendable ((hreason.2 hfair).symm.trans htext)
  | result r =>
    refine wp_then (parseAuthorizerResult_checked r .init) fun h₁ (allowed, parseErr, decision)
      hparsed => ?_
    obtain ⟨hauthorized, hdenial⟩ := h.sawRun_result r
    cases allowed with
    | true =>
      obtain ⟨hkeeps₁, hfailed, -, hallows⟩ := hparsed
      exact ⟨hkeeps.trans hkeeps₁, hfailed.trans (Bool.or_false _),
        hkeeps₁.authorized (hauthorized hallows)⟩
    | false =>
      obtain ⟨hkeeps₁, hdenial₁, hread⟩ := hparsed
      have hstatus : h₁.fair = true →
          (decision.httpStatus = 200 ∨ DeniedWith h₁ decision.httpStatus) ∧
          ∀ reason, decision.reason = some reason → Sendable reason := by
        intro hfair
        rcases hread hfair with ⟨-, hdenies, hstatus, htold⟩ | ⟨-, rfl⟩
        · refine ⟨?_, fun _ => htold.sendable⟩
          by_cases h200 : decision.httpStatus = 200
          · exact .inl h200
          · refine .inr (.inr ⟨?_, ?_⟩)
            · rw [hdenial₁, hstatus]
              exact hdenial hdenies
            · exact ⟨hstatus ▸ r.status_range.1, hstatus ▸ r.status_range.2, h200⟩
        · exact ⟨.inl rfl, nofun⟩
      show gateInside.wp (ite (parseErr = none) _ _) (Ran h) _
      split
      · -- a denial: the reason of the row is also the error text
        next hnone =>
        refine wp_then (strdup_tells fun hfair => ?_) fun h₂ err herr => ?_
        · rcases hread hfair with ⟨-, -, -, htold⟩ | ⟨htold, -⟩
          · exact htold.getD
          · obtain ⟨t, ht, -⟩ := htold
            cases ht.symm.trans hnone
        · refine ⟨hkeeps.trans (hkeeps₁.trans herr.keeps), fun hfair => ?_⟩
          obtain ⟨hst, hrs⟩ := hstatus (herr.keeps.fair hfair)
          refine ⟨herr.told hfair, hst.imp_right (.imp_right fun ⟨hst, hrange⟩ => ?_), hrs⟩
          exact ⟨herr.denial.trans hst, hrange⟩
      · next hsome =>
        refine ⟨hkeeps.trans hkeeps₁, fun hfair => ⟨?_, hstatus hfair⟩⟩
        rcases hread hfair with ⟨hnone, -⟩ | ⟨htold, -⟩
        · exact absurd hnone hsome
        · exact htold

/-- What the authorization has established. -/
def Authorized (h h' : GateChecks) : Bool × AuthorizerDecision → Prop
  | (true, _) => h.Keeps h' ∧ h'.failed = h.failed ∧ h'.identityChecked = true ∧
      h'.peerChecked = true ∧ h'.ipChecked = true ∧ h'.authorized = true
  | (false, decision) => h.Keeps h' ∧ (h'.fair = true →
      Told decision.reason ∧ DeniedWith h' decision.httpStatus)

/-- The reason that is given in the end. -/
theorem reasonOrError_told {err : Option String} (hreason : h.fair = true →
      ∀ text, reason = some text → Sendable text) (herr : h.fair = true → Told err) :
    gateInside.wp (reasonOrError reason err)
      (Tells h) h := by
  unfold reasonOrError
  cases err with
  | none =>
    have hunfair : h.fair = true → False := fun hfair => by
      obtain ⟨t, ht, -⟩ := herr hfair
      cases ht
    rw [Option.isSome_none, Bool.and_false]
    exact ⟨.refl h, rfl, rfl, fun hfair => absurd (hunfair hfair) id⟩
  | some text =>
    split
    · exact strdup_tells fun hfair => (herr hfair).sendable rfl
    · next hthere =>
      cases reason with
      | none => exact absurd rfl hthere
      | some r => exact ⟨.refl h, rfl, rfl, fun hfair => ⟨r, rfl, hreason hfair r rfl⟩⟩

theorem authorizeRequest_checked {ctx : AuthorizerContext} (hframe : ctx.frame = h.frame)
    (hidentity : ctx.callerIdentity = h.callerIdentity) (hremote : ctx.remoteAddr = h.remoteAddr) :
    gateInside.wp (authorizeRequest ctx) (Authorized h) h := by
  unfold authorizeRequest
  rw [hidentity, hremote]
  refine wp_then networkAdmissionCheck_checked fun h₁ admission hadmitted => ?_
  cases admission with
  | error e =>
    obtain ⟨hkeeps, htold⟩ := hadmitted
    refine wp_then (textOrStrdup_told (fun hfair _ => (htold hfair).sendable) (by decide))
      fun h₂ reason hreason => ?_
    exact ⟨hkeeps.trans hreason.keeps, fun hfair => ⟨hreason.told hfair,
      .inl ⟨(by decide : (400 : Int) ≤ 403), (by decide : (403 : Int) ≤ 599)⟩⟩⟩
  | ok u =>
    obtain ⟨⟨hkeeps, hfailed, hdenial, hidentityChecked, hpeerChecked⟩, hipChecked⟩ := hadmitted
    refine wp_act ⟨rfl, trivial⟩ fun copy => ?_
    have hkeeps₁ := @keeps_after _ .copyAuthorizerSql h₁ copy rfl
    match copy with
    -- no authorizer is configured
    | none =>
      exact ⟨hkeeps.trans hkeeps₁, (Bool.or_false _).trans hfailed, hidentityChecked,
        hpeerChecked, hipChecked, rfl⟩
    -- its text could not be copied
    | some none =>
      refine wp_then (strdup_told (by decide)) fun h₂ reason hreason => ?_
      exact ⟨hkeeps.trans (hkeeps₁.trans hreason.keeps), fun hfair => ⟨hreason.told hfair,
        .inl ⟨(by decide : (400 : Int) ≤ 500), (by decide : (500 : Int) ≤ 599)⟩⟩⟩
    | some (some sql) =>
      refine wp_then (runSqlAuthorizer_checked rfl (hframe.trans hkeeps.frame.symm)
        (hidentity.trans hkeeps.callerIdentity.symm) (hremote.trans hkeeps.remoteAddr.symm))
        fun h₂ (allowed, err, decision) hran => ?_
      cases allowed with
      | true =>
        obtain ⟨hkeeps₂, hfailed₂, hauthorized⟩ := hran
        have hkeeps' := hkeeps₁.trans hkeeps₂
        exact ⟨hkeeps.trans hkeeps', (hfailed₂.trans (Bool.or_false _)).trans hfailed,
          hkeeps'.identityChecked hidentityChecked, hkeeps'.peerChecked hpeerChecked,
          hkeeps'.ipChecked hipChecked, hauthorized⟩
      | false =>
        obtain ⟨hkeeps₂, hdenied⟩ := hran
        refine wp_then (reasonOrError_told (fun hfair => (hdenied hfair).2.2)
          (fun hfair => (hdenied hfair).1)) fun h₃ reason hreason => ?_
        refine ⟨hkeeps.trans (hkeeps₁.trans (hkeeps₂.trans hreason.keeps)), fun hfair => ?_⟩
        refine ⟨hreason.told hfair, ?_⟩
        -- a denial that says 200 is sent as 403
        show DeniedWith h₃ (if decision.httpStatus = 200 then 403 else decision.httpStatus)
        rcases (hdenied (hreason.keeps.fair hfair)).2.1 with h200 | hst | ⟨hst, hrange⟩
        · rw [if_pos h200]
          exact .inl ⟨by decide, by decide⟩
        · rw [if_neg (by omega)]
          exact .inl hst
        · rw [if_neg hrange.2.2]
          exact .inr ⟨hreason.denial.trans hst, hrange⟩

/-! ### Dispatch -/

/-- What the dispatcher has found when it lets a method through. -/
theorem dispatchGate_methodOpen {calls : DispatchCalls} {found : MethodDescriptor}
    (hgate : dispatchGate calls (frame.request callerIdentity) = .ok found) :
    MethodOpen found frame callerIdentity := by
  obtain ⟨-, hdisabled, hflags, hsize, hauth⟩ := dispatchGate_eq_ok hgate
  refine ⟨Bool.eq_false_iff.2 hdisabled, not_not.1 hflags, fun hpos => ?_,
    fun hrequired hnone => ?_⟩
  · exact Nat.le_of_not_lt fun hlong => hsize ⟨hpos, hlong⟩
  · exact hauth ⟨hrequired, hnone⟩

/-- A request that has passed all checks in front of the dispatcher. -/
structure GateChecks.Ready (h : GateChecks) (frame : Frame) : Prop where
  frame_eq : h.frame = some frame
  identityChecked : h.identityChecked = true
  peerChecked : h.peerChecked = true
  ipChecked : h.ipChecked = true
  failed : h.failed = false
  begun : h.begun = true
  authorized : h.authorized = true
  name_le : frame.name.bytes.length ≤ maxMethodNameLen

theorem GateChecks.Ready.keeps {h' : GateChecks} (hready : h.Ready frame) (hkeeps : h.Keeps h')
    (hfailed : h'.failed = h.failed) : h'.Ready frame :=
  ⟨hkeeps.frame.trans hready.frame_eq, hkeeps.identityChecked hready.identityChecked,
    hkeeps.peerChecked hready.peerChecked, hkeeps.ipChecked hready.ipChecked,
    hfailed.trans hready.failed, hkeeps.begun hready.begun, hkeeps.authorized hready.authorized,
    hready.name_le⟩

/-- What the dispatcher has established: the handler has run, or there is an error frame. -/
def Dispatched (h h' : GateChecks) (reply : Option ReplyFrame) : Prop :=
  h'.callerIdentity = h.callerIdentity ∧ (h'.handled = false → h'.fair = true →
    ∃ frame, reply = some frame ∧ frame.type = .error)

theorem lookupMethod_checked (hframe : h.frame = some frame) :
    gateInside.wp (lookupMethod frame)
      (fun h' method => h.Keeps h' ∧ h'.failed = h.failed ∧
        (∀ m, method = some m → h'.method = some m) ∧
        (h'.fair = true → ∀ m, method = some m → m.name.bytes = frame.methodName)) h := by
  unfold lookupMethod
  split
  · refine ⟨⟨rfl, frame, hframe, rfl⟩, fun method => ?_⟩
    have hkeeps := @keeps_after _ (.findMethod frame.methodName) h method rfl
    refine ⟨hkeeps, Bool.or_false _, fun m hm => hm, fun hfair m hm => ?_⟩
    subst hm
    have hname := (Bool.and_eq_true_iff.1 hfair).2
    simpa [unfair] using hname
  · exact ⟨.refl h, rfl, nofun, fun _ => nofun⟩

theorem dispatchFound_checked (decision : AuthorizerDecision) (hready : h.Ready frame) :
    gateInside.wp (dispatchFound frame h.callerIdentity decision) (Dispatched h) h := by
  refine wp_then (lookupMethod_checked hready.frame_eq) fun h₁ method hlookup => ?_
  obtain ⟨hkeeps, hfailed, hmethod, hname⟩ := hlookup
  refine wp_act ⟨rfl, trivial⟩ fun errorAlloc => ?_
  have hkeeps' := hkeeps.trans (@keeps_after _ .allocMessage h₁ errorAlloc rfl)
  split
  · next answer hgate =>
    refine ⟨hkeeps'.callerIdentity, fun _ hfair => ?_⟩
    obtain ⟨hfair₁, hroom⟩ := Bool.and_eq_true_iff.1 hfair
    have halloc : errorAlloc = true := by simpa [unfair] using hroom
    subst halloc
    obtain ⟨name, code, message, rfl, hmethod, hmessage⟩ := dispatchGate_refused hgate
    refine errorMsg_isSome code ?_ (hmessage rfl)
    cases name with
    | none => exact Nat.zero_le _
    | some n =>
      obtain ⟨m, hm, rfl⟩ := hmethod n rfl
      show m.name.bytes.length ≤ maxMethodNameLen
      rw [hname hfair₁ m hm]
      unfold Frame.methodName
      split
      · decide
      · exact hready.name_le
  · next found hgate =>
    have hfound : method = some found := (dispatchGate_eq_ok hgate).1
    have hready' := hready.keeps hkeeps' ((Bool.or_false _).trans hfailed)
    refine ⟨⟨rfl, hkeeps'.callerIdentity.symm, ?_⟩, fun _ => ⟨⟨rfl, trivial⟩, fun _ =>
      ⟨⟨rfl, trivial⟩, fun _ => ⟨hkeeps'.callerIdentity, fun hhandled => (by cases hhandled)⟩⟩⟩⟩
    exact { hready' with
      method := hmethod found hfound
      methodOpen := hkeeps'.callerIdentity ▸ dispatchGate_methodOpen hgate }

theorem errorReply_checked {code : Status} {message : String}
    (hmessage : h.fair = true → Sendable message) :
    gateInside.wp (errorReply code message) (Dispatched h) h := by
  refine ⟨⟨rfl, trivial⟩, fun alloc => ⟨rfl, fun _ hfair => ?_⟩⟩
  obtain ⟨hbefore, hroom⟩ := Bool.and_eq_true_iff.1 hfair
  have halloc : alloc = true := by simpa [unfair] using hroom
  subst halloc
  exact errorMsg_isSome code (Nat.zero_le _) (hmessage hbefore)

theorem Dispatched.of_keeps {reply : Option ReplyFrame} (hd : Dispatched h₁ h₂ reply)
    (hkeeps : h.Keeps h₁) : Dispatched h h₂ reply :=
  ⟨hd.1.trans hkeeps.callerIdentity, hd.2⟩

theorem dispatchFrame_checked (decision : AuthorizerDecision) (hready : h.Ready frame)
    (hidentity : callerIdentity = h.callerIdentity) :
    gateInside.wp (dispatchFrame frame callerIdentity decision) (Dispatched h) h := by
  subst hidentity
  refine wp_then peerAdmissionCheck_checked fun h₁ admission hadmitted => ?_
  cases admission with
  | error e =>
    obtain ⟨hkeeps, htold⟩ := hadmitted
    apply wp_mono _ (errorReply_checked fun hfair => (htold hfair).getD)
    intro h₂ reply hdispatched
    exact hdispatched.of_keeps hkeeps
  | ok u =>
    obtain ⟨hkeeps, hfailed, -⟩ := hadmitted
    refine ⟨⟨rfl, trivial⟩, fun _ => ?_⟩
    have hkeeps' := hkeeps.trans (@keeps_after _ .pruneIdleSessions h₁ () rfl)
    have hfound := dispatchFound_checked decision
      (hready.keeps hkeeps' ((Bool.or_false _).trans hfailed))
    rw [hkeeps'.callerIdentity] at hfound
    apply wp_mono _ hfound
    intro h₂ reply hdispatched
    exact hdispatched.of_keeps hkeeps'

/-! ### Begin and end -/

/-- Not begun, or ended. -/
def Settled {ρ : Type} (h : RequestStage) (_ : ρ) : Prop := h = .waiting ∨ h = .ended

variable {s : RequestStage} {W : GateChecks × RequestStage → τ → Prop}

/-- A program that neither begins nor ends leaves the request where it is. -/
theorem wp_inside (hp : gateInside.wp p R h) :
    gateWalk.wp p (fun h' r => R h'.1 r ∧ h'.2 = s) (h, s) :=
  wp_prod_of_stricter (fun hmay => ⟨hmay.2, GateOp.neutral hmay.1 s⟩) hp

theorem wp_inside_then (hp : gateInside.wp p R h)
    (hf : ∀ h' r, R h' r → gateWalk.wp (f r) W (h', s)) : gateWalk.wp (p >>= f) W (h, s) := by
  refine (wp_bind p f).2 (wp_mono ?_ (wp_inside hp))
  rintro ⟨h', _⟩ r ⟨hpost, rfl⟩
  exact hf h' r hpost

/-- A begin is refused, or the request is in flight from there on. -/
theorem wp_begin {f : Except (Option String) Unit → GateProg τ}
    (hidentity : callerIdentity = h.callerIdentity)
    (hrefused : ∀ h' e, Begun h h' (.error e) → gateWalk.wp (f (.error e)) W (h', .waiting))
    (hok : ∀ h', Begun h h' (.ok ()) → gateWalk.wp (f (.ok ())) W (h', .inFlight callerIdentity)) :
    gateWalk.wp (beginRequestOrText callerIdentity >>= f) W (h, .waiting) := by
  refine ⟨⟨hidentity, rfl⟩, fun answer => ?_⟩
  have hkeeps := @keeps_after _ (.beginRequest callerIdentity) h answer rfl
  cases answer with
  | ok u => exact hok _ ⟨hkeeps, Bool.or_false _, rfl⟩
  | error text =>
    refine wp_inside_then (p := perform (.strdup text)) (strdup_tells fun hfair => ?_)
      fun h' e hpost => hrefused h' e ⟨hkeeps.trans hpost.keeps, hpost.told⟩
    have hsendable := (Bool.and_eq_true_iff.1 hfair).2
    simpa [unfair] using hsendable

/-- An end under the identity of the begin. -/
theorem wp_end {f : Unit → GateProg τ} {replyBytes : Nat} (hf : ∀ h', gateWalk.wp (f ()) W
    (h', .ended)) : gateWalk.wp (perform (.endRequest callerIdentity replyBytes) >>= f) W
      (h, .inFlight callerIdentity) :=
  ⟨⟨trivial, rfl⟩, fun _ => hf _⟩

/-! ### The ways in -/

/-- A way in that has returned: its handler has run, or it returns a refusal. -/
def Answered (h : GateChecks) : GateAnswer → Prop
  | .frame reply => h.handled = false → h.fair = true →
      ∃ frame, reply = some frame ∧ frame.type = .error
  | .http answer => h.handled = false → h.fair = true →
      (∃ frame, answer.reply = some frame ∧ frame.type = .error) ∨
        answer.reply = none ∧ Told answer.error ∧ DeniedWith h answer.status
  | _ => True

theorem decodeFrameBytes_name_le {body : Slice} (hdecode : decodeFrameBytes body = some frame) :
    frame.name.bytes.length ≤ maxMethodNameLen := by
  cases body with
  | null len fits => cases hdecode
  | buf region =>
    obtain ⟨haccepted, rfl⟩ := decodeFrameBytes_eq_some.1 hdecode
    refine Nat.le_trans ?_ haccepted.name_le
    exact List.length_take_le _ _

/-- From the authorization to the dispatcher. -/
theorem ready_of_authorized {h₃ : GateChecks} {decision : AuthorizerDecision}
    (hframe : h.frame = some frame) (hstart : h.failed = false)
    (hname : frame.name.bytes.length ≤ maxMethodNameLen) (hadmitted : NetworkAdmitted h h₁ (.ok ()))
    (hbegun : Begun h₁ h₂ (.ok ())) (hauthorized : Authorized h₂ h₃ (true, decision)) :
    h₃.Ready frame := by
  obtain ⟨⟨hkeeps₁, hfailed₁, -⟩, -⟩ := hadmitted
  obtain ⟨hkeeps₂, hfailed₂, hbegun⟩ := hbegun
  obtain ⟨hkeeps₃, hfailed₃, hidentityChecked, hpeerChecked, hipChecked, hauthorized⟩ := hauthorized
  exact ⟨(hkeeps₁.trans (hkeeps₂.trans hkeeps₃)).frame.trans hframe, hidentityChecked, hpeerChecked,
    hipChecked, hfailed₃.trans (hfailed₂.trans (hfailed₁.trans hstart)), hkeeps₃.begun hbegun,
    hauthorized, hname⟩

/-- What a call knows of itself when it starts. -/
def GateCall.checks : GateCall → GateChecks
  | .request body callerIdentity remoteAddr =>
    { callerIdentity, remoteAddr, frame := decodeFrameBytes body }
  | .requestWithIdentity body callerIdentity =>
    { callerIdentity, remoteAddr := none, frame := decodeFrameBytes body }
  | .httpFrame body callerIdentity remoteAddr _ =>
    { callerIdentity, remoteAddr, frame := decodeFrameBytes body }
  | .route arrival =>
    { callerIdentity := arrival.request.callerIdentity, remoteAddr := arrival.remoteAddr,
      frame := none }
  | .configure _ => { callerIdentity := none, remoteAddr := none, frame := none }
  | .openSession _ _ => { callerIdentity := none, remoteAddr := none, frame := none }

theorem handleRequestFrom_checked (body : Slice) (callerIdentity : Option CStr)
    (remoteAddr : Option SockAddr) :
    gateWalk.wp (handleRequestFrom body callerIdentity remoteAddr)
      (fun h' reply => Answered h'.1 (.frame reply) ∧ Settled h'.2 reply)
      ({ callerIdentity, remoteAddr, frame := decodeFrameBytes body }, .waiting) := by
  have hrefusal : ∀ {h : GateChecks} {code message}, (h.fair = true → Sendable message) →
      gateWalk.wp (errorReply code message)
        (fun h' reply => Answered h'.1 (.frame reply) ∧ Settled h'.2 reply) (h, .waiting) :=
    fun hmessage => wp_mono (fun _ _ hpost => ⟨hpost.1.2, .inl hpost.2⟩)
      (wp_inside (errorReply_checked hmessage))
  unfold handleRequestFrom
  split
  · exact hrefusal fun _ => by decide
  next frame hdecode =>
  refine wp_inside_then networkAdmissionCheck_checked fun h₁ admission hadmitted => ?_
  cases admission with
  | error e => exact hrefusal fun hfair => (hadmitted.2 hfair).getD
  | ok u =>
    have hkeeps₁ := hadmitted.1.1
    refine wp_begin hkeeps₁.callerIdentity.symm
      (fun h₂ e hbegun => hrefusal fun hfair => (hbegun.2 hfair).getD) fun h₂ hbegun => ?_
    have hkeeps₂ := hkeeps₁.trans hbegun.1
    refine wp_inside_then (authorizeRequest_checked (hdecode.symm.trans hkeeps₂.frame.symm)
      hkeeps₂.callerIdentity.symm hkeeps₂.remoteAddr.symm)
        fun h₃ (allowed, decision) hauthorized => ?_
    have hend : ∀ {h₄ reply n}, Dispatched h₃ h₄ reply →
        gateWalk.wp (perform (.endRequest callerIdentity n) >>= fun _ => pure reply)
          (fun h' reply => Answered h'.1 (.frame reply) ∧ Settled h'.2 reply)
          (h₄, .inFlight callerIdentity) :=
      fun hdispatched => ⟨⟨trivial, rfl⟩, fun _ => ⟨fun hhandled hfair =>
        hdispatched.2 hhandled (Bool.and_eq_true_iff.1 hfair).1, .inr rfl⟩⟩
    cases allowed with
    | true =>
      have hready := ready_of_authorized hdecode rfl (decodeFrameBytes_name_le hdecode)
        hadmitted hbegun hauthorized
      have hidentity := (hkeeps₂.trans hauthorized.1).callerIdentity.symm
      exact wp_inside_then (dispatchFrame_checked decision hready hidentity) fun h₄ reply => hend
    | false =>
      exact wp_inside_then (errorReply_checked fun hfair => (hauthorized.2 hfair).1.getD)
        fun h₄ reply => hend

theorem denialStatus_cast {status : Int} (hlow : 100 ≤ status) (hhigh : status ≤ 599) :
    ((denialStatus status : Nat) : Int) = status := by
  unfold denialStatus
  rw [if_pos ⟨hlow, hhigh⟩]
  omega

/-- A rejection with a text and the status of an error. -/
theorem answered_rejection {status : Nat} {error : Option String} (hlow : 400 ≤ status)
    (hhigh : status ≤ 599) (htold : h.fair = true → Told error) :
    Answered h (.http ⟨none, status, error⟩) :=
  fun _ hfair => .inr ⟨rfl, htold hfair, .inl ⟨Int.ofNat_le.2 hlow, Int.ofNat_le.2 hhigh⟩⟩

theorem authorizeAndDispatchFrame_checked (body : Slice) (callerIdentity : Option CStr)
    (remoteAddr : Option SockAddr) (carrier : HttpCarrier) :
    gateWalk.wp (authorizeAndDispatchFrame body callerIdentity remoteAddr carrier)
      (fun h' answer => Answered h'.1 (.http answer) ∧ Settled h'.2 answer)
      ({ callerIdentity, remoteAddr, frame := decodeFrameBytes body }, .waiting) := by
  unfold authorizeAndDispatchFrame
  split
  -- a body that is no frame is refused before anything is counted
  · refine wp_inside_then (strdup_told (by decide)) fun h₁ error herror => ?_
    exact ⟨answered_rejection (by decide) (by decide) herror.told, .inl rfl⟩
  next frame hdecode =>
  refine wp_inside_then networkAdmissionCheck_checked fun h₁ admission hadmitted => ?_
  cases admission with
  | error e =>
    refine wp_inside_then (textOrStrdup_told (fun hfair _ => (hadmitted.2 hfair).sendable)
      (by decide)) fun h₂ error herror => ?_
    exact ⟨answered_rejection (by decide) (by decide) herror.told, .inl rfl⟩
  | ok u =>
    have hkeeps₁ := hadmitted.1.1
    -- from here on the request is in flight and has to be ended
    refine wp_begin hkeeps₁.callerIdentity.symm (fun h₂ e hbegun => ?_) fun h₂ hbegun => ?_
    · refine wp_inside_then (textOrStrdup_told (fun hfair _ => (hbegun.2 hfair).sendable)
        (by decide)) fun h₃ error herror => ?_
      exact ⟨answered_rejection (by decide) (by decide) herror.told, .inl rfl⟩
    have hkeeps₂ := hkeeps₁.trans hbegun.1
    refine wp_inside_then (authorizeRequest_checked (hdecode.symm.trans hkeeps₂.frame.symm)
      hkeeps₂.callerIdentity.symm hkeeps₂.remoteAddr.symm)
        fun h₃ (allowed, decision) hauthorized => ?_
    cases allowed with
    | true =>
      have hready := ready_of_authorized hdecode rfl (decodeFrameBytes_name_le hdecode)
        hadmitted hbegun hauthorized
      have hidentity := (hkeeps₂.trans hauthorized.1).callerIdentity.symm
      refine wp_inside_then (dispatchFrame_checked decision hready hidentity)
        fun h₄ reply hdispatched => ?_
      refine ⟨⟨trivial, rfl⟩, fun _ => ?_⟩
      show gateWalk.wp (ite (reply = none) _ _) _ _
      split
      · refine wp_inside_then (strdup_told (by decide)) fun h₅ error herror => ?_
        exact ⟨answered_rejection (by decide) (by decide) herror.told, .inr rfl⟩
      · exact ⟨fun hhandled hfair =>
          .inl (hdispatched.2 hhandled (Bool.and_eq_true_iff.1 hfair).1), .inr rfl⟩
    | false =>
      refine wp_inside_then (strdup_tells fun hfair => (hauthorized.2 hfair).1.getD)
        fun h₄ error herror => ⟨⟨trivial, rfl⟩, fun _ => ⟨fun _ hfair => ?_, .inr rfl⟩⟩
      have hfair₄ := (Bool.and_eq_true_iff.1 hfair).1
      refine .inr ⟨rfl, herror.told hfair₄, ?_⟩
      -- the status is in the range of errors or the authorizer's own
      rcases (hauthorized.2 (herror.keeps.fair hfair₄)).2 with
        ⟨hlow, hhigh⟩ | ⟨hdenial, hlow, hhigh, hne⟩
      · refine .inl ?_
        rw [denialStatus_cast (by omega) hhigh]
        exact ⟨hlow, hhigh⟩
      · refine .inr ?_
        rw [denialStatus_cast hlow hhigh]
        exact ⟨herror.denial.trans hdenial, hlow, hhigh, hne⟩

theorem runRoute_checked (route : HttpRoute) (callerIdentity : Option CStr) (h : GateChecks) :
    gateWalk.wp (runRoute route callerIdentity) (fun h' r => Settled h'.2 r)
      (h, .inFlight callerIdentity) := by
  unfold runRoute
  split
  · -- an event route has ended before its relay starts
    refine ⟨⟨trivial, trivial⟩, fun found => wp_end fun _ => ?_⟩
    match found with
    | .error e => exact .inr rfl
    | .ok false => exact .inr rfl
    | .ok true =>
      refine ⟨⟨trivial, trivial⟩, fun relay => ?_⟩
      cases relay with
      | error e => exact .inr rfl
      | ok u => exact .inr rfl
  · refine ⟨⟨trivial, trivial⟩, fun started => ?_⟩
    cases started with
    | true =>
      exact ⟨⟨trivial, trivial⟩, fun _ => wp_end fun _ => ⟨⟨trivial, trivial⟩, fun _ => .inr rfl⟩⟩
    | false => exact wp_end fun _ => .inr rfl
  · refine ⟨⟨trivial, trivial⟩, fun (result, replyBytes) => wp_end fun _ => ?_⟩
    cases result with
    | error e => exact .inr rfl
    | ok u =>
      refine ⟨⟨trivial, trivial⟩, fun response => ?_⟩
      cases response with
      | error e => exact .inr rfl
      | ok u => exact .inr rfl

/-- A route asks the same checks for itself. -/
theorem httpRouteRequest_checked (a : RouteArrival) :
    gateWalk.wp (httpRouteRequest a) (fun h' r => Settled h'.2 r)
      ({ callerIdentity := a.request.callerIdentity, remoteAddr := a.remoteAddr, frame := none },
        .waiting) := by
  refine ⟨⟨trivial, trivial⟩, fun stopping => ?_⟩
  cases stopping with
  | true => exact .inl rfl
  | false =>
    refine ⟨⟨trivial, trivial⟩, fun mount => ?_⟩
    show gateWalk.wp (ite _ _ _) _ _
    split
    · exact .inl rfl
    refine ⟨⟨trivial, trivial⟩, fun headers => ?_⟩
    cases headers with
    | false => exact .inl rfl
    | true =>
      refine ⟨⟨trivial, trivial⟩, fun found => ?_⟩
      match found with
      | .error e => exact .inl rfl
      | .ok none => exact .inl rfl
      | .ok (some route) =>
        show gateWalk.wp (ite _ _ _) _ _
        split
        · exact .inl rfl
        refine wp_inside_then networkAdmissionCheck_checked fun h₁ admission hadmitted => ?_
        cases admission with
        | error e => exact .inl rfl
        | ok u =>
          have hkeeps₁ := hadmitted.1.1
          refine wp_begin hkeeps₁.callerIdentity.symm (fun h₂ e _ => .inl rfl) fun h₂ hbegun => ?_
          have hkeeps₂ := hkeeps₁.trans hbegun.1
          refine wp_inside_then (authorizeRequest_checked hkeeps₂.frame.symm
            hkeeps₂.callerIdentity.symm hkeeps₂.remoteAddr.symm) fun h₃ (allowed, decision) _ => ?_
          cases allowed with
          | false => exact wp_end fun _ => .inr rfl
          | true =>
            refine ⟨⟨trivial, trivial⟩, fun copied => ?_⟩
            cases copied with
            | false => exact wp_end fun _ => .inr rfl
            | true =>
              refine wp_act ⟨trivial, trivial⟩ fun room => ?_
              split
              · exact wp_end fun _ => .inr rfl
              · exact runRoute_checked route _ _

/-- Every way in keeps to both disciplines. -/
theorem gateEntry_walk (call : GateCall) :
    gateWalk.wp (gateEntry call) (fun h r => Answered h.1 r ∧ Settled h.2 r)
      (call.checks, .waiting) := by
  cases call with
  | request body callerIdentity remoteAddr =>
    exact (wp_bind _ _).2 (handleRequestFrom_checked body callerIdentity remoteAddr)
  | requestWithIdentity body callerIdentity =>
    exact (wp_bind _ _).2 (handleRequestFrom_checked body callerIdentity none)
  | httpFrame body callerIdentity remoteAddr carrier =>
    exact (wp_bind _ _).2
      (authorizeAndDispatchFrame_checked body callerIdentity remoteAddr carrier)
  | route arrival =>
    exact (wp_bind _ _).2
      (wp_mono (fun _ _ hend => ⟨trivial, hend⟩) (httpRouteRequest_checked arrival))
  | configure change => exact ⟨⟨trivial, trivial⟩, fun _ => ⟨trivial, .inl rfl⟩⟩
  | openSession maxRate attempt => exact ⟨⟨trivial, trivial⟩, fun _ => ⟨trivial, .inl rfl⟩⟩

/-- Every way in runs a handler only when the request has passed the checks, and returns a
    refusal when it has run none. -/
theorem gateEntry_checked (call : GateCall) :
    gateDiscipline.wp (gateEntry call) Answered call.checks :=
  (wp_of_prod (gateEntry_walk call)).1

/-- Whatever the answers are, a request begins at most once and has ended when it returns. -/
theorem gateEntry_balanced (call : GateCall) :
    accounting.wp (gateEntry call) Settled .waiting :=
  (wp_of_prod (gateEntry_walk call)).2

end

end Ducknng
