import Ducknng.Service.Lifetimes
import Mathlib.Data.List.GetD

/-!
# Sessions are confined to who opened them

A control names its session by id, with a token and the caller's identity. What a control does
to a session, it does to one that has these credentials and belongs to the control's family.

* `tokenEqual_iff`, `ownerAuth_eq_ok` — what the owner check compares.
* `Access`, `confinement` — the discipline of the controls: which sessions a control has found
  by its credentials (`mine`), and which of these it knows to be of its family (`kin`).
* `serve_confined` — the handling of every request keeps to it.
* `sessionConfinement` — what follows for every interleaving.
-/

namespace Ducknng

open Option List

open Prog (perform)

/-! ### The owner check -/

/-- The difference of two tokens is 0 if nothing was different before and all bytes agree. -/
theorem tokenDiff_eq_zero {a b : List UInt8} {n i : Nat} {diff : UInt8} :
    tokenDiff a b n i diff = 0 ↔ diff = 0 ∧ ∀ j < n, a.getD (i + j) 0 = b.getD (i + j) 0 := by
  induction n generalizing i diff with
  | zero => simp [tokenDiff]
  | succ n ih =>
    rw [tokenDiff, ih, UInt8.or_eq_zero_iff, UInt8.xor_eq_zero_iff, and_assoc]
    refine and_congr_right fun _ => ⟨?_, ?_⟩
    · rintro ⟨hfirst, hrest⟩ j hj
      cases j with
      | zero => exact hfirst
      | succ j =>
        have hnext := hrest j (Nat.lt_of_succ_lt_succ hj)
        rwa [Nat.add_right_comm] at hnext
    · intro h
      refine ⟨h 0 (Nat.succ_pos n), fun j hj => ?_⟩
      rw [Nat.add_right_comm]
      exact h (j + 1) (Nat.succ_lt_succ hj)

/-- A byte of a C string is never the terminator that stands behind its end. -/
theorem CStr.getD_ne_zero (a : CStr) {i : Nat} (hi : i < a.bytes.length) :
    a.bytes.getD i 0 ≠ 0 := by
  rw [getD_eq_getElem?_getD, getElem?_eq_getElem hi]
  exact fun hzero => a.noNul (hzero ▸ getElem_mem hi)

/-- **Tokens are equal byte by byte.** The difference of the lengths is cut to 8 bits, but a
    longer token also has a byte where the shorter one has none. -/
theorem tokenEqual_iff {a b : CStr} : tokenEqual a b = true ↔ a = b := by
  unfold tokenEqual
  rw [decide_eq_true_iff, tokenDiff_eq_zero]
  constructor
  · rintro ⟨_, hbytes⟩
    simp only [Nat.zero_add] at hbytes
    have hlen : a.bytes.length = b.bytes.length := by
      rcases Nat.lt_trichotomy a.bytes.length b.bytes.length with hlt | heq | hgt
      · have hsame := hbytes a.bytes.length (by omega)
        rw [getD_eq_default _ _ (Nat.le_refl _)] at hsame
        exact absurd hsame.symm (b.getD_ne_zero hlt)
      · exact heq
      · have hsame := hbytes b.bytes.length (by omega)
        rw [getD_eq_default b.bytes _ (Nat.le_refl _)] at hsame
        exact absurd hsame (a.getD_ne_zero hgt)
    apply CStr.ext
    refine ext_getElem hlen fun i ha hb => ?_
    have hsame := hbytes i (by omega)
    rwa [getD_eq_getElem _ _ ha, getD_eq_getElem _ _ hb] at hsame
  · rintro rfl
    exact ⟨by rw [Nat.xor_self]; rfl, fun _ _ => rfl⟩

section
variable {χ : Type}

/-- Who may use a session: the token is the owner's, and so is the identity if there is one. -/
def Session.OwnedBy (s : Session χ) (token identity : Option CStr) : Prop :=
  token = some s.ownerToken ∧
    ∀ owner, CStr.present s.ownerIdentity = some owner → identity = some owner

variable {s s' : Session χ} {token identity : Option CStr} {addr addr' : Nat} {α : Type}
  {op : ServiceOp χ α} {store store' : SessionStore χ} {world : ServiceWorld χ} {a : α}
  {named : Prop} {config : ServiceConfig}

/-- **The owner check.** -/
theorem ownerAuth_eq_ok (h : s.ownerAuth token identity = .ok) : s.OwnedBy token identity := by
  unfold Session.ownerAuth at h
  split at h
  next => cases h
  next t ht =>
    have htoken : token = some t := CStr.eq_of_present ht
    split at h
    next => cases h
    next hequal =>
      have heq : s.ownerToken = t := tokenEqual_iff.1 (by simpa using hequal)
      refine ⟨by rw [htoken, heq], ?_⟩
      intro owner howner
      rw [howner] at h
      dsimp only at h
      split at h
      next hid => exact hid
      next => cases h

/-! ### The discipline of the controls -/

/-- What a control names: a session, the caller's credentials for it, and the family that the
    control belongs to. -/
structure Credentials where
  sessionId : Nat
  token : CStr
  identity : Option CStr
  upload : Bool

/-- Whether a control is one of upload sessions. -/
def ControlMethod.upload : ControlMethod → Bool
  | .fetch | .close | .cancel => false
  | .uploadCommit | .uploadAbort => true

/-- What a control has found out: the sessions that its credentials opened to it, those among
    them that it knows to be of its family, and the sessions that it has pruned. -/
structure Access where
  credentials : Option Credentials
  mine : List Nat
  kin : List Nat
  pruned : List Nat

open Access

/-- What a control starts with; a control whose payload cannot be read has no credentials.
    Other calls are not held to anything. -/
def ServiceCall.access (call : ServiceCall χ) : Option Access :=
  match call.request with
  | .control method alloc payload =>
    some ⟨(parseSessionControlRequest method.name alloc payload).toOption.map fun control =>
      ⟨control.sessionId, control.sessionToken, call.identity, method.upload⟩, [], [], []⟩
  | .uploadAppend alloc payload =>
    some ⟨(parseUploadAppend alloc payload).toOption.map fun request =>
      ⟨request.sessionId, request.sessionToken, call.identity, true⟩, [], [], []⟩
  | _ => none

/-- A lookup uses the control's own credentials. -/
def Access.Names (h : Access) (sessionId : Nat) (token identity : Option CStr) : Prop :=
  ∃ c, h.credentials = some c ∧ sessionId = c.sessionId ∧ token = some c.token ∧
    identity = c.identity

/-- Which actions a control may take. -/
def accessMay (h : Access) : {α : Type} → ServiceOp χ α → Prop
  | _, .acquireSession sessionId token identity => h.Names sessionId token identity
  | _, .removeSession sessionId token identity => h.Names sessionId token identity ∧ h.kin ≠ []
  | _, .isUpload addr => addr ∈ h.mine
  | _, .fetch addr => addr ∈ h.kin
  | _, .append addr _ => addr ∈ h.mine ∧ ∃ c, h.credentials = some c ∧ c.upload = true
  | _, .commit addr => addr ∈ h.kin
  | _, .cancel addr => addr ∈ h.kin
  | _, .beginDestroy addr => addr ∈ h.kin ∨ addr ∈ h.pruned
  | _, .awaitUnused addr => addr ∈ h.kin ∨ addr ∈ h.pruned
  | _, .teardown addr => addr ∈ h.kin ∨ addr ∈ h.pruned
  | _, .addSession _ => False
  | _, .shutDown => False
  | _, .detachAll => False
  | _, _ => True

/-- The kind of a session has been read. -/
def Access.learn (h : Access) (addr : Nat) (isUpload : Bool) : Access :=
  if (h.credentials.map fun c => c.upload) = some isUpload then { h with kin := addr :: h.kin }
  else h

/-- What it has found out when an action has been answered. -/
def accessAfter (h : Access) : {α : Type} → ServiceOp χ α → α → Access
  | _, .acquireSession _ _ _, .found addr => { h with mine := addr :: h.mine }
  | _, .removeSession _ _ _, .found addr =>
    { h with mine := addr :: h.mine, kin := addr :: h.kin }
  | _, .isUpload addr, isUpload => h.learn addr isUpload
  | _, .pruneIdle _ _, some (addr, _) => { h with pruned := addr :: h.pruned }
  | _, _, _ => h

/-- The discipline of the controls. -/
def confinement : Discipline (ServiceOp χ) (Option Access) where
  may h op := ∀ access, h = some access → accessMay access op
  after h op answer := h.map fun access => accessAfter access op answer

/-- A program that keeps to the discipline. -/
def Confined {ρ : Type} (p : ServiceProg χ ρ) (h : Access) : Prop :=
  confinement.wp p (fun _ _ => True) (some h)

variable {c : Credentials}

section
variable {ρ τ : Type} {h : Access} {Q : Option Access → τ → Prop}

theorem Access.learn_kin {a : Nat} (hc : h.credentials = some c) :
    h.learn a c.upload = { h with kin := a :: h.kin } :=
  if_pos (by rw [hc]; rfl)

variable {isUpload : Bool} {f : Unit → ServiceProg χ τ} {control : SessionControlRequest}

theorem Access.learn_other (hc : h.credentials = some c) (hkind : c.upload ≠ isUpload) :
    h.learn addr isUpload = h :=
  if_neg (by rw [hc]; exact fun heq => hkind (some.inj heq))

theorem Access.mem_learn (haddr : addr ∈ h.kin) :
    addr ∈ (h.learn addr isUpload).kin := by
  unfold learn
  split
  · exact mem_cons_self
  · exact haddr

/-- One action of a control. -/
theorem wp_confined {f : α → ServiceProg χ τ} (hmay : accessMay h op)
    (hf : ∀ a, confinement.wp (f a) Q (some (accessAfter h op a))) :
    confinement.wp (perform op >>= f) Q (some h) :=
  ⟨fun _ heq => some.inj heq ▸ hmay, hf⟩

theorem confined_pure (r : ρ) : Confined (pure r : ServiceProg χ ρ) h := trivial

/-- The teardown of a session that the control may end. -/
theorem wp_confined_destroySession (haddr : addr ∈ h.kin ∨ addr ∈ h.pruned)
    (hf : confinement.wp (f ()) Q (some h)) :
    confinement.wp (destroySession addr >>= f) Q (some h) := by
  refine wp_confined haddr fun _ => wp_confined haddr fun _ => wp_confined haddr fun slot => ?_
  cases slot with
  | none => exact hf
  | some slot => exact wp_confined trivial fun _ => ⟨fun _ _ => trivial, fun _ => hf⟩

/-- Pruning adds to the pruned sessions and to nothing else. -/
theorem wp_confined_prune (nowMs rounds i : Nat)
    (hf : ∀ pruned, confinement.wp (f ()) Q (some { h with pruned := pruned })) :
    confinement.wp (pruneIdleSessions nowMs rounds i >>= f) Q (some h) := by
  induction rounds generalizing i h with
  | zero => exact hf h.pruned
  | succ rounds ih =>
    rw [Discipline.wp_bind]
    refine wp_confined trivial fun found => ?_
    match found with
    | none => exact hf h.pruned
    | some (addr, next) =>
      refine wp_confined_destroySession (.inr mem_cons_self) ?_
      have hrest := ih (h := { h with pruned := addr :: h.pruned }) next hf
      rwa [Discipline.wp_bind] at hrest

/-- `checkKind` lets a control go on only when it has a session of its family. -/
theorem wp_confined_checkKind (hc : h.credentials = some c)
    {f : Option (HandlerReply χ) → ServiceProg χ τ} (hrefuse : ∀ refusal mine kin,
      confinement.wp (f (some refusal)) Q (some { h with mine := mine, kin := kin }))
    (hok : ∀ mine kin, kin ≠ [] →
      confinement.wp (f none) Q (some { h with mine := mine, kin := kin })) :
    confinement.wp (checkKind c.sessionId (some c.token) c.identity c.upload >>= f) Q (some h) := by
  refine wp_confined ⟨c, hc, rfl, rfl, rfl⟩ fun lookup => ?_
  cases lookup with
  | notFound => exact hrefuse _ h.mine h.kin
  | unauthorized auth => exact hrefuse _ h.mine h.kin
  | found addr =>
    refine wp_confined mem_cons_self fun isUpload => wp_confined trivial fun _ => ?_
    -- the family is known from here on
    have hc' : ({ h with mine := addr :: h.mine } : Access).credentials = some c := hc
    show confinement.wp _ _ (some (learn { h with mine := addr :: h.mine } addr isUpload))
    by_cases hkind : c.upload = isUpload
    · subst hkind
      rw [learn_kin hc', Bool.and_not_self, Bool.not_and_self]
      exact hok _ _ (cons_ne_nil _ _)
    · rw [learn_other hc' hkind]
      cases hu : c.upload <;> cases isUpload
      · exact absurd hu hkind
      · exact hrefuse _ _ h.kin
      · exact hrefuse _ _ h.kin
      · exact absurd hu hkind

/-- A control that ends its session. -/
theorem confined_endSession {missing : String} {finish : Nat → ServiceProg χ (HandlerReply χ)}
    (hc : h.credentials = some c) (hid : c.sessionId = control.sessionId)
    (htoken : c.token = control.sessionToken)
    (hfinish : ∀ addr h', addr ∈ h'.kin → addr ∈ h'.mine → Confined (finish addr) h') :
    Confined (endSession c.upload missing c.identity control finish) h := by
  rw [endSession, ← hid, ← htoken]
  refine wp_confined_checkKind hc (fun _ _ _ => confined_pure _) fun mine kin hkin => ?_
  refine wp_confined ⟨⟨c, hc, rfl, rfl, rfl⟩, hkin⟩ fun lookup => ?_
  cases lookup with
  | notFound => exact confined_pure _
  | unauthorized auth => exact confined_pure _
  | found addr => exact hfinish addr _ mem_cons_self mem_cons_self

theorem confined_replyOr (reply : HandlerReply χ) (failure : String) :
    Confined (replyOr reply failure) h := by
  refine wp_confined trivial fun replied => ?_
  cases replied <;> exact confined_pure _

/-- The teardown at the end of a control. -/
theorem confined_destroySession {p : ServiceProg χ ρ} (haddr : addr ∈ h.kin) (hp : Confined p h) :
    Confined (destroySession addr >>= fun _ => p) h :=
  wp_confined_destroySession (.inl haddr) hp

/-! ### The handlers -/

section
variable (hc : h.credentials = some ⟨control.sessionId, control.sessionToken, identity, false⟩)
include hc

theorem confined_fetch :
    Confined (fetchHandler identity (.ok control) : ServiceProg χ _) h := by
  refine wp_confined ⟨_, hc, rfl, rfl, rfl⟩ fun lookup => ?_
  cases lookup with
  | notFound => exact confined_pure _
  | unauthorized auth => exact confined_pure _
  | found addr =>
    refine wp_confined mem_cons_self fun isUpload => ?_
    cases isUpload with
    | true => exact wp_confined trivial fun _ => confined_pure _
    | false =>
      have hc' : ({ h with mine := addr :: h.mine } : Access).credentials =
        some ⟨control.sessionId, control.sessionToken, identity, false⟩ := hc
      have hlearn := learn_kin (a := addr) hc'
      show confinement.wp _ _ (some (learn { h with mine := addr :: h.mine } addr false))
      rw [hlearn]
      refine wp_confined mem_cons_self fun answer => wp_confined trivial fun _ => ?_
      obtain ⟨answer, handle⟩ := answer
      cases answer with
      | exhausted batchIndex =>
        refine wp_confined trivial fun replied => ?_
        cases replied <;> exact confined_pure _
      | _ => exact confined_pure _

theorem confined_close :
    Confined (closeHandler identity (.ok control) : ServiceProg χ _) h := by
  refine confined_endSession hc rfl rfl fun addr h' hkin _ => ?_
  refine wp_confined trivial fun _ => wp_confined trivial fun _ => ?_
  exact confined_destroySession hkin (confined_replyOr _ _)

theorem confined_cancel :
    Confined (cancelHandler identity (.ok control) : ServiceProg χ _) h := by
  refine confined_endSession hc rfl rfl fun addr h' hkin _ => ?_
  refine wp_confined trivial fun _ => wp_confined trivial fun _ => ?_
  refine wp_confined hkin fun _ => ?_
  exact confined_destroySession hkin (confined_replyOr _ _)

end

theorem confined_append {request : UploadAppendRequest}
    (hc : h.credentials = some ⟨request.sessionId, request.sessionToken, identity, true⟩) :
    Confined (uploadAppendHandler identity (.ok request) : ServiceProg χ _) h := by
  refine wp_confined ⟨_, hc, rfl, rfl, rfl⟩ fun lookup => ?_
  cases lookup with
  | notFound => exact confined_pure _
  | unauthorized auth => exact confined_pure _
  | found addr =>
    refine wp_confined ⟨mem_cons_self, _, hc, rfl⟩ fun answer => wp_confined trivial fun _ => ?_
    match answer with
    | .error (false, _) => exact confined_pure _
    | .error (true, _) => exact confined_pure _
    | .ok rows => exact confined_replyOr _ _

section
variable (hc : h.credentials = some ⟨control.sessionId, control.sessionToken, identity, true⟩)
include hc

theorem confined_commit
    :
    Confined (uploadCommitHandler identity (.ok control) : ServiceProg χ _) h := by
  refine confined_endSession hc rfl rfl fun addr h' hkin hmine => ?_
  refine wp_confined hmine fun isUpload => ?_
  have hkin' : addr ∈ (h'.learn addr isUpload).kin := mem_learn hkin
  show Confined _ (h'.learn addr isUpload)
  cases isUpload with
  | true =>
    refine wp_confined hkin' fun answer => confined_destroySession hkin' ?_
    cases answer with
    | error message => exact confined_pure _
    | ok rows => exact confined_replyOr _ _
  | false => exact confined_destroySession hkin' (confined_pure _)

theorem confined_abort
    :
    Confined (uploadAbortHandler identity (.ok control) : ServiceProg χ _) h := by
  refine confined_endSession hc rfl rfl fun addr h' hkin _ => ?_
  exact confined_destroySession hkin (confined_replyOr _ _)

end

/-- Calls that are no controls may do anything. -/
theorem wp_free (p : ServiceProg χ ρ) : confinement.wp p (fun _ _ => True) none := by
  induction p with
  | ret r => trivial
  | act op k ih => exact ⟨nofun, ih⟩

theorem confined_dispatched {call : ServiceCall χ} {handler : ServiceProg χ (HandlerReply χ)}
    (hhandler : ∀ pruned, Confined handler { h with pruned := pruned }) :
    Confined (dispatched call handler) h :=
  wp_confined trivial fun nowMs => wp_confined_prune nowMs call.pruneRounds 0 hhandler

/-- **Every call keeps to its access.** -/
theorem serve_confined (vectorRows idleMs : Nat) (call : ServiceCall χ) :
    confinement.wp (serve vectorRows idleMs call) (fun _ _ => True) call.access := by
  obtain ⟨request, identity, rounds⟩ := call
  cases request with
  | control method alloc payload =>
    refine confined_dispatched fun pruned => ?_
    cases hdecoded : parseSessionControlRequest method.name alloc payload with
    | error refusal => cases method <;> exact confined_pure _
    | ok control =>
      cases method with
      | fetch => exact confined_fetch rfl
      | close => exact confined_close rfl
      | cancel => exact confined_cancel rfl
      | uploadCommit => exact confined_commit rfl
      | uploadAbort => exact confined_abort rfl
  | uploadAppend alloc payload =>
    refine confined_dispatched fun pruned => ?_
    cases hdecoded : parseUploadAppend alloc payload with
    | error refusal => exact confined_pure _
    | ok control => exact confined_append rfl
  | _ => exact wp_free _

end

/-! ### What a control knows is so -/

/-- The session is the one that the credentials name, and they are its owner's. -/
def Credentials.Carries (c : Credentials) (s : Session χ) : Prop :=
  c.sessionId = s.sessionId ∧ s.OwnedBy (some c.token) c.identity

theorem SameSession.carries (h : SameSession s s') (hc : c.Carries s) : c.Carries s' := by
  refine ⟨hc.1.trans h.sessionId.symm, ?_, ?_⟩
  · rw [h.ownerToken]
    exact hc.2.1
  · rw [h.ownerIdentity]
    exact hc.2.2

/-- What a control has found out is true of the store. -/
structure AccessOk (store : SessionStore χ) (h : Access) : Prop where
  mine : ∀ addr ∈ h.mine, ∃ c s, h.credentials = some c ∧ store.heap[addr]? = some s ∧ c.Carries s
  kin : ∀ addr ∈ h.kin, ∃ c s, h.credentials = some c ∧ store.heap[addr]? = some s ∧
    c.Carries s ∧ s.isUpload = c.upload

variable {st st' : ServiceState χ} {i : Nat} {h : Access}

theorem AccessOk.extends (hok : AccessOk store h) (hext : store'.Extends store) :
    AccessOk store' h := by
  constructor
  · intro addr haddr
    obtain ⟨c, s, hc, hs, hcarries⟩ := hok.mine addr haddr
    obtain ⟨s', hs', hsame⟩ := hext addr s hs
    exact ⟨c, s', hc, hs', hsame.carries hcarries⟩
  · intro addr haddr
    obtain ⟨c, s, hc, hs, hcarries, hkind⟩ := hok.kin addr haddr
    obtain ⟨s', hs', hsame⟩ := hext addr s hs
    exact ⟨c, s', hc, hs', hsame.carries hcarries, hsame.isUpload.trans hkind⟩

theorem AccessOk.found (hok : AccessOk store h) (hc : h.credentials = some c)
    (hs : store.heap[addr]? = some s) (hcarries : c.Carries s) :
    AccessOk store { h with mine := addr :: h.mine } where
  mine := forall_mem_cons.2 ⟨⟨c, s, hc, hs, hcarries⟩, hok.mine⟩
  kin := hok.kin

theorem AccessOk.known (hok : AccessOk store h) (hc : h.credentials = some c)
    (hs : store.heap[addr]? = some s) (hcarries : c.Carries s) (hkind : s.isUpload = c.upload) :
    AccessOk store { h with kin := addr :: h.kin } where
  mine := hok.mine
  kin := forall_mem_cons.2 ⟨⟨c, s, hc, hs, hcarries, hkind⟩, hok.kin⟩

/-- A lookup by the control's own credentials finds a session that they open. -/
theorem carries_of_matches {sessionId : Nat} (hnames : h.Names sessionId token identity)
    (hmatch : Matches store sessionId token identity addr) :
    ∃ c s, h.credentials = some c ∧ store.heap[addr]? = some s ∧ c.Carries s := by
  obtain ⟨c, hc, rfl, rfl, rfl⟩ := hnames
  obtain ⟨_, s, hs, hid, hauth⟩ := hmatch
  exact ⟨c, s, hc, hs, hid.symm, ownerAuth_eq_ok hauth⟩

/-- Ids determine sessions, so that a removed session is the one whose family was checked. -/
theorem AccessOk.kin_of_carries (hok : AccessOk store h) (htable : TableOk store)
    (hkin : h.kin ≠ []) (hc : h.credentials = some c) (hs : store.heap[addr]? = some s)
    (hcarries : c.Carries s) :
    s.isUpload = c.upload := by
  obtain ⟨a, ha⟩ := exists_mem_of_ne_nil _ hkin
  obtain ⟨c', s', hc', hs', hcarries', hkind⟩ := hok.kin a ha
  obtain rfl : c = c' := some.inj (hc.symm.trans hc')
  have hid : s.sessionId = s'.sessionId := hcarries.1.symm.trans hcarries'.1
  obtain rfl : addr = a := htable.addr_of_id hs hs' hid
  obtain rfl : s = s' := some.inj (hs.symm.trans hs')
  exact hkind

/-- What is found out stays true, and what an answer adds is true. -/
theorem AccessOk.act (hok : AccessOk st.store h) (htable : TableOk st.store) (hmay : accessMay h op)
    (hexec : serviceExec i st world op = some (a, st')) :
    AccessOk st'.store (accessAfter h op a) := by
  have hext := (serviceExec_extends htable hexec).2.1
  have hkeep : AccessOk st'.store h := hok.extends hext
  have heffect := serviceExec_effect htable hexec
  generalize st'.store = store' at heffect hext hkeep ⊢
  cases heffect with
  -- the lookup compares the credentials of the request
  | acquired hmatch =>
    obtain ⟨c, s, hc, hs, hcarries⟩ := carries_of_matches hmay hmatch
    obtain ⟨s', hs', hsame⟩ := hext _ s hs
    exact hkeep.found hc hs' (hsame.carries hcarries)
  -- a close removes only what was found to be of its family
  | removed hmatch _ =>
    obtain ⟨c, s, hc, hs, hcarries⟩ := carries_of_matches hmay.1 hmatch
    have hkind := hok.kin_of_carries htable hmay.2 hc hs hcarries
    obtain ⟨s', hs', hsame⟩ := hext _ s hs
    exact (hkeep.found hc hs' (hsame.carries hcarries)).known hc hs' (hsame.carries hcarries)
      (hsame.isUpload.trans hkind)
  | pruned _ => exact ⟨hkeep.mine, hkeep.kin⟩
  | aside ha =>
    cases op with
    | acquireSession _ _ _ | removeSession _ _ _ | pruneIdle _ _ =>
      cases a <;> first | exact ha.elim | exact hkeep
    | isUpload _ => cases ha
    | _ => exact hkeep
  | inside hop hs₀ =>
    cases op with
    | isUpload addr =>
      obtain ⟨c, s, hc, hs, hcarries⟩ := hok.mine addr hmay
      obtain ⟨s', hs', hsame⟩ := hext addr s hs
      obtain ⟨s₀, hs₀, rfl, _⟩ := ServiceState.onSession_eq_some hexec
      obtain rfl : s = s₀ := some.inj (hs.symm.trans hs₀)
      show AccessOk _ (h.learn addr s.isUpload)
      -- the answer tells whether the session is of the family
      by_cases hkind : c.upload = s.isUpload
      · rw [← hkind, learn_kin hc]
        exact hkeep.known hc hs' (hsame.carries hcarries) (hsame.isUpload.trans hkind.symm)
      · rw [learn_other hc hkind]
        exact hkeep
    | acquireSession _ _ _ | removeSession _ _ _ | pruneIdle _ _ => cases hop
    | _ => exact hkeep
  | _ => exact hkeep

/-! ### What an action leaves alone -/

/-- The same but for the time of the last use. -/
def SessionWork.SameProgress (w w' : SessionWork χ) : Prop :=
  w' = { w with lastTouchMs := w'.lastTouchMs }

/-- The session stays in the table and where it is; if `named` is false it is not even
    touched. -/
structure Untouched (store store' : SessionStore χ) (addr : Nat) (s : Session χ) (named : Prop) :
    Prop where
  stored : addr ∈ store.stored → addr ∈ store'.stored
  session : ∃ s', store'.heap[addr]? = some s' ∧ s.work.SameProgress s'.work ∧
    (¬ named → s'.work = s.work)

theorem Untouched.of_work (hstored : addr ∈ store.stored → addr ∈ store'.stored)
    (hs' : store'.heap[addr]? = some s') (hwork : s'.work = s.work) :
    Untouched store store' addr s named := by
  refine ⟨hstored, s', hs', ?_, fun _ => hwork⟩
  rw [SessionWork.SameProgress, hwork]

theorem Untouched.of_same (hs : store.heap[addr]? = some s) : Untouched store store addr s named :=
  .of_work id hs rfl

/-- A change of one session, seen from any session. -/
theorem Untouched.modify {f : Session χ → Session χ} (hs : store.heap[addr]? = some s)
    (hf : addr' = addr → s.work.SameProgress (f s).work ∧ (¬ named → (f s).work = s.work)) :
    Untouched store (store.modify addr' f) addr s named := by
  have hheap := SessionStore.getElem?_modify hs addr' f
  by_cases heq : addr' = addr
  · rw [if_pos heq] at hheap
    exact ⟨id, f s, hheap, hf heq⟩
  · rw [if_neg heq] at hheap
    exact .of_work id hheap rfl

/-- A change that leaves the work of its session alone. -/
theorem Untouched.modify_work {f : Session χ → Session χ} (hs : store.heap[addr]? = some s)
    (hf : (f s).work = s.work) : Untouched store (store.modify addr' f) addr s named := by
  refine .modify hs fun _ => ⟨?_, fun _ => hf⟩
  rw [SessionWork.SameProgress, hf]

/-- Detaching one session leaves the others in the table. -/
theorem SessionStore.Detached.untouched (hd : store.Detached addr' store') (htable : TableOk store)
    (hs : store.heap[addr]? = some s) (hne : addr' ≠ addr) :
    Untouched store store' addr s named := by
  obtain ⟨i, hi, hlt, rfl⟩ := hd
  have hstored := (htable.stores.dropCell (htable.stores.1 ▸ hlt)).stored
  have hheap := @SessionStore.getElem?_modify χ (store.dropCell i) _ _ hs addr' Session.markClosing
  rw [if_neg hne] at hheap
  refine .of_work ?_ hheap rfl
  intro hmem
  show addr ∈ (store.dropCell i).stored
  rw [hstored]
  refine mem_eraseIdx_iff_getElem?.2 ?_
  obtain ⟨j, hj⟩ := getElem?_of_mem hmem
  refine ⟨j, ?_, hj⟩
  rintro rfl
  exact hne (some.inj (hi.symm.trans hj))

/-- The credentials open the session. -/
def Access.Named (h : Access) (s : Session χ) : Prop :=
  ∃ c, h.credentials = some c ∧ c.Carries s

/-- The credentials open the session, and it is of the control's family. -/
def Access.Authorized (h : Access) (s : Session χ) : Prop :=
  ∃ c, h.credentials = some c ∧ c.Carries s ∧ c.upload = s.isUpload

theorem AccessOk.kin_ne (hok : AccessOk store h) (hs : store.heap[addr]? = some s)
    (hnot : ¬ h.Authorized s) :
    ∀ a ∈ h.kin, a ≠ addr := by
  rintro a ha rfl
  obtain ⟨c, s', hc, hs', hcarries, hkind⟩ := hok.kin a ha
  obtain rfl : s = s' := some.inj (hs.symm.trans hs')
  exact hnot ⟨c, hc, hcarries, hkind.symm⟩

/-- **One action of a control** leaves every session alone that its credentials do not open, or
    that is of the other family, unless it prunes it. -/
theorem AccessOk.untouched (hok : AccessOk st.store h) (htable : TableOk st.store)
    (hmay : accessMay h op) (hexec : serviceExec i st world op = some (a, st'))
    (hs : st.store.heap[addr]? = some s) (hnot : ¬ h.Authorized s)
    (hpruned : addr ∉ (accessAfter h op a).pruned) :
    Untouched st.store st'.store addr s (h.Named s) := by
  have hkin := hok.kin_ne hs hnot
  have heffect := serviceExec_effect htable hexec
  generalize st'.store = store' at heffect ⊢
  cases heffect with
  | aside _ => exact .of_same hs
  | shutDown => exact absurd hmay id
  | added _ => exact absurd hmay id
  | detachedAll => exact absurd hmay id
  -- only the reference count of the session that was found changes
  | acquired _ => exact .modify_work hs rfl
  | removed hmatch hd =>
    refine hd.untouched htable hs ?_
    rintro rfl
    obtain ⟨c, s', hc, hs', hcarries⟩ := carries_of_matches hmay.1 hmatch
    obtain rfl : s = s' := some.inj (hs.symm.trans hs')
    exact hnot ⟨c, hc, hcarries, (hok.kin_of_carries htable hmay.2 hc hs hcarries).symm⟩
  | pruned hd =>
    refine hd.untouched htable hs ?_
    rintro rfl
    exact hpruned mem_cons_self
  | inside hop _ =>
    cases op with
    | isUpload _ | batchNo _ | resultHandle _ | release _ | beginDestroy _ | awaitUnused _ =>
      exact .modify_work hs rfl
    | fetch _ | commit _ | cancel _ =>
      cases hop
      exact .modify hs fun heq => absurd heq (hkin _ hmay)
    | append addr' batch =>
      cases hop
      refine .modify hs ?_
      rintro rfl
      obtain ⟨hmine, c, hc, hupload⟩ := hmay
      obtain ⟨c', s', hc', hs', hcarries⟩ := hok.mine _ hmine
      obtain rfl : c = c' := some.inj (hc.symm.trans hc')
      obtain rfl : s = s' := some.inj (hs.symm.trans hs')
      have hquery : s.isUpload = false := by
        refine Bool.eq_false_iff.2 fun htrue => hnot ⟨c, hc, hcarries, ?_⟩
        rw [hupload, htrue]
      refine ⟨?_, fun hunnamed => absurd ⟨c, hc, hcarries⟩ hunnamed⟩
      simp only [ServiceOp.leaves, hquery]
      rfl
    | teardown addr' =>
      cases hop
      refine .modify hs fun heq => absurd heq ?_
      rintro rfl
      exact hmay.elim (fun hmem => hkin _ hmem rfl) hpruned
    | _ => cases hop

/-! ### Every interleaving -/

/-- The session that an action pruned. -/
def prunes : {α : Type} → ServiceOp χ α → α → Option Nat
  | _, .pruneIdle _ _, some (addr, _) => some addr
  | _, _, _ => none

/-- The sessions that were pruned. -/
def prunedIn (past : List (Done (ServiceOp χ))) : List Nat :=
  past.filterMap fun x => prunes x.op x.answer

/-- The sessions that a thread has pruned. -/
def prunedBy (t : Thread (ServiceCall χ) (ServiceOp χ) (HandlerReply χ)) : List Nat :=
  prunedIn t.past

theorem mem_prunedIn_concat {past : List (Done (ServiceOp χ))}
    (hmem : addr ∈ prunedIn past ∨ prunes op a = some addr) :
    addr ∈ prunedIn (past ++ [⟨op, a⟩]) := by
  rw [prunedIn, filterMap_append]
  rcases hmem with hmem | hnew
  · exact mem_append_left _ hmem
  · exact mem_append_right _ (mem_filterMap.2 ⟨⟨op, a⟩, mem_singleton_self _, hnew⟩)

/-- What a thread has found out. -/
def accessOf (t : Thread (ServiceCall χ) (ServiceOp χ) (HandlerReply χ)) : Option Access :=
  System.held confinement ServiceCall.access t

theorem access_after (op : ServiceOp χ α) (a : α) :
    (accessAfter h op a).credentials = h.credentials ∧
      ∀ addr ∈ (accessAfter h op a).pruned, addr ∈ h.pruned ∨ prunes op a = some addr := by
  cases op with
  | acquireSession _ _ _ | removeSession _ _ _ =>
    cases a <;> exact ⟨rfl, fun _ => .inl⟩
  | isUpload addr =>
    show (h.learn addr a).credentials = _ ∧ ∀ b ∈ (h.learn addr a).pruned, _
    unfold learn
    split <;> exact ⟨rfl, fun _ => .inl⟩
  | pruneIdle nowMs i =>
    cases a with
    | none => exact ⟨rfl, fun _ => .inl⟩
    | some found =>
      refine ⟨rfl, fun addr hmem => ?_⟩
      rcases mem_cons.1 hmem with rfl | hmem
      · exact .inr rfl
      · exact .inl hmem
  | _ => exact ⟨rfl, fun _ => .inl⟩

theorem ServiceConfig.Reaches.access_history {s : ServiceSystem χ} (hs : config.Reaches s) :
    ∀ t ∈ s.threads,
      (accessOf t).map credentials = t.request.access.map credentials ∧
      ∀ access, accessOf t = some access → ∀ addr ∈ access.pruned, addr ∈ prunedBy t := by
  refine Discipline.history confinement ServiceCall.access (fun _ _ => True)
    (fun call past h => h.map credentials = call.access.map credentials ∧
      ∀ access, h = some access → ∀ addr ∈ access.pruned, addr ∈ prunedIn past)
    (fun call => serve_confined _ _ call) ?_ ?_ hs
  · intro call
    refine ⟨rfl, fun access haccess addr hmem => ?_⟩
    unfold ServiceCall.access at haccess
    split at haccess <;> cases haccess <;> cases hmem
  · rintro α call past h op a ⟨hcred, hpruned⟩ -
    cases h with
    | none => exact ⟨hcred, nofun⟩
    | some h =>
      obtain ⟨hsame, hafter⟩ := access_after (h := h) op a
      refine ⟨by rw [← hcred]; exact congrArg some hsame, ?_⟩
      intro access haccess addr hmem
      obtain rfl : accessAfter h op a = access := some.inj haccess
      exact mem_prunedIn_concat ((hafter addr hmem).imp_left (hpruned h rfl addr))

/-- What every control has found out is true, and every control keeps to it. -/
theorem ServiceConfig.Reaches.access {s : ServiceSystem χ} (hs : config.Reaches s) :
    (TableOk s.shared.store ∧ ∀ h, some h ∈ s.threads.map accessOf → AccessOk s.shared.store h) ∧
      ∀ t ∈ s.threads, confinement.wp t.rest (fun _ _ => True) (accessOf t) := by
  refine Discipline.invariant confinement ServiceCall.access (fun _ _ => True)
    (fun st hs => TableOk st.store ∧ ∀ h, some h ∈ hs → AccessOk st.store h)
    (fun call => serve_confined _ _ call) ?_ ?_ ⟨config.tableOk_start, nofun⟩ hs
  · rintro st held call ⟨htable, hall⟩
    refine ⟨htable, fun h hmem => ?_⟩
    rcases mem_append.1 hmem with hmem | hmem
    · exact hall h hmem
    · -- a control that starts has found nothing yet
      have haccess : call.access = some h := (mem_singleton.1 hmem).symm
      unfold ServiceCall.access at haccess
      split at haccess <;> cases haccess <;> exact ⟨nofun, nofun⟩
  · rintro α st held i h op world a st' ⟨htable, hall⟩ hi hmay hexec
    obtain ⟨htable', hext, _⟩ := serviceExec_extends htable hexec
    refine ⟨htable', fun g hmem => ?_⟩
    rcases mem_or_eq_of_mem_set hmem with hmem | heq
    · exact (hall g hmem).extends hext
    · cases h with
      | none => cases heq
      | some h =>
        cases heq
        exact (hall h (mem_of_getElem? hi)).act htable (hmay h rfl) hexec

/-- The request carries the id, the token and the identity of the session. -/
def ServiceCall.Carries (call : ServiceCall χ) (s : Session χ) : Prop :=
  ∃ access, call.access = some access ∧ access.Named s

/-- The request carries them and is a control of the session's family. -/
def ServiceCall.Authorized (call : ServiceCall χ) (s : Session χ) : Prop :=
  ∃ access, call.access = some access ∧ access.Authorized s

/-- **Sessions are confined.** In every interleaving: a session is acquired or removed only with
    its id, its token and, if it has one, its owner's identity; an action of a control that does
    not carry all of these leaves the session in the table and its work as it is, and so does,
    but for the time of the last use, a control of the other family; only what the control
    itself has pruned is excepted, and what is pruned has been idle. -/
theorem sessionConfinement (config : ServiceConfig) (s : ServiceSystem χ) (hs : config.Reaches s) :
    (∀ sessionId token identity addr,
      (acquireSession s.shared.store sessionId token identity).1 = .found addr ∨
        (removeSession s.shared.store sessionId token identity).1 = .found addr →
      ∃ session, s.shared.store.heap[addr]? = some session ∧ session.sessionId = sessionId ∧
        session.OwnedBy token identity) ∧
    (∀ (i : Nat) t t' world s' addr session, s.threads[i]? = some t → t.request.access.isSome →
      config.step s (.act i world) = some s' → s'.threads[i]? = some t' →
      s.shared.store.heap[addr]? = some session → ¬ t.request.Authorized session →
      addr ∉ prunedBy t' →
      Untouched s.shared.store s'.shared.store addr session (t.request.Carries session)) ∧
    ∀ nowMs i addr next, (pruneIdle s.shared.store nowMs i).1 = some (addr, next) →
      ∃ session, s.shared.store.heap[addr]? = some session ∧
        session.idle s.shared.store.sessionIdleMs nowMs = true := by
  obtain ⟨⟨htable, hall⟩, hwp⟩ := hs.access
  refine ⟨?_, ?_, ?_⟩
  · rintro sessionId token identity addr hfound
    have hmatch : Matches s.shared.store sessionId token identity addr := by
      rcases hfound with hfound | hfound
      · rcases htable.acquireSession_spec sessionId token identity with
          ⟨addr', _, hfound', hmatch, _⟩ | ⟨hnot, _⟩
        · exact Lookup.found.inj (hfound.symm.trans hfound') ▸ hmatch
        · exact absurd hfound (hnot addr)
      · rcases htable.removeSession_spec sessionId token identity with
          ⟨addr', hfound', hmatch, _⟩ | ⟨hnot, _⟩
        · exact Lookup.found.inj (hfound.symm.trans hfound') ▸ hmatch
        · exact absurd hfound (hnot addr)
    obtain ⟨_, session, hsession, hid, hauth⟩ := hmatch
    exact ⟨session, hsession, hid, ownerAuth_eq_ok hauth⟩
  · intro i t t' world s' addr session ht hcontrol hstep ht' hsession hnot hpruned
    rcases System.step_cases hstep with ⟨_, heq, _⟩ | ⟨i', world', u, heq, hu, α, op, k, a, shared,
      hrest, hexec, rfl⟩
    · cases heq
    · cases heq
      obtain rfl : t = u := some.inj (ht.symm.trans hu)
      have hmem : t ∈ s.threads := mem_of_getElem? ht
      have hi : i < s.threads.length := (List.getElem?_eq_some_iff.1 ht).1
      obtain rfl : (⟨t.request, t.past ++ [⟨op, a⟩], k a⟩ : Thread _ _ _) = t' := by
        rw [getElem?_set_self hi] at ht'
        exact some.inj ht'
      -- what the thread has found out has the credentials of its request
      obtain ⟨hcred, hpast⟩ := hs.access_history t hmem
      obtain ⟨start, hstart⟩ := isSome_iff_exists.1 hcontrol
      rw [hstart] at hcred
      obtain ⟨h, hh, hcred⟩ := map_eq_some_iff.1 hcred
      have hnamed : ∀ session : Session χ, h.Named session ↔ t.request.Carries session := by
        intro session
        unfold Named ServiceCall.Carries Named
        simp [hstart, hcred]
      have hauth : ∀ session : Session χ, h.Authorized session ↔ t.request.Authorized session := by
        intro session
        unfold Authorized ServiceCall.Authorized Authorized
        simp [hstart, hcred]
      have hmay : accessMay h op := by
        have hnext := hwp t hmem
        rw [hrest] at hnext
        exact hnext.1 h hh
      have hok : AccessOk s.shared.store h := hall h (mem_map.2 ⟨t, hmem, hh⟩)
      rw [← hnamed]
      refine hok.untouched htable hmay hexec hsession (fun h => hnot ((hauth session).1 h)) ?_
      intro hmem
      have hcases := (access_after op a).2 addr hmem
      exact hpruned (mem_prunedIn_concat (hcases.imp_left (hpast h hh addr)))
  · intro nowMs i addr next hfound
    rcases htable.pruneIdle_spec nowMs i with ⟨addr', j, session, hfound', hsession, hidle, _⟩ |
      ⟨hnone, _⟩
    · obtain ⟨rfl, rfl⟩ := Prod.mk.inj (some.inj (hfound.symm.trans hfound'))
      exact ⟨session, hsession, hidle⟩
    · rw [hnone] at hfound
      cases hfound

/-- A fetch of session 1 with the token `x`, which is not the one that it was opened with. -/
def wrongToken : ServiceCall Unit :=
  ⟨.control .fetch ⟨true, true, true⟩
   [0x7b, 0x22, 0x73, 0x65, 0x73, 0x73, 0x69, 0x6f, 0x6e, 0x5f, 0x69, 0x64, 0x22, 0x3a, 0x31,
    0x2c, 0x22, 0x73, 0x65, 0x73, 0x73, 0x69, 0x6f, 0x6e, 0x5f, 0x74, 0x6f, 0x6b, 0x65, 0x6e,
    0x22, 0x3a, 0x22, 0x78, 0x22, 0x7d], none, 0⟩

/-- A query session is opened, and the fetch is about to look it up. -/
def openThenWrongToken : List (Event (ServiceCall Unit) (ServiceWorld Unit)) :=
  .start ⟨.queryOpen (.ok ⟨none, 0, 0, none, [()]⟩), none, 0⟩ :: .start wrongToken ::
    (replicate 9 (.act 0 (calmWorld [])) ++ [.act 1 (calmWorld [])])

theorem wrongToken_unauthorized {s : Session Unit} (hs : s.ownerToken = ⟨[0x74], by decide⟩) :
    ¬ wrongToken.Authorized s := by
  rintro ⟨_, haccess, c, hc, ⟨_, htoken, _⟩, _⟩
  cases haccess
  cases hc
  rw [hs] at htoken
  exact absurd htoken (by decide)

theorem sessionConfinement_wrongToken :
    ∃ (s s' : ServiceSystem Unit) (session : Session Unit), smallConfig.Reaches s ∧
      smallConfig.step s (.act 1 (calmWorld [])) = some s' ∧
      s.shared.store.heap[0]? = some session ∧
      Untouched s.shared.store s'.shared.store 0 session (wrongToken.Carries session) := by
  refine ⟨_, _, _, ⟨openThenWrongToken, rfl⟩, rfl, rfl, ?_⟩
  exact (sessionConfinement smallConfig _ ⟨openThenWrongToken, rfl⟩).2.1 1 _ _ (calmWorld []) _ 0 _
    rfl rfl rfl rfl rfl (wrongToken_unauthorized rfl) (by decide)

end

end Ducknng
