import Ducknng.Service.Handlers
import Ducknng.Service.SessionTable

namespace Ducknng

open List Discipline

/-!
# What a thread of a service owns

A thread owns the connections it has acquired and not passed on, the references it has taken
and not released, the sessions it has detached and not destroyed, and the lanes it has locked.
The handlers act only on what their thread owns, and end with what they began with.

* `Keeps` — a program that ends with what it began with.
* `serve_keeps` — every call is one.
-/

/-- What a thread knows about the lane of the service. -/
inductive LaneView where
  | out
  | locked
  | empty
  | pinned (slot : Nat)
  deriving DecidableEq, Repr

/-- What a thread owns: pool connections, lanes, references, detached sessions, and sessions
    whose wait for the last reference it has passed. -/
structure Held where
  slots : List Nat
  lane : LaneView
  runtimeLane : Bool
  refs : List Nat
  owned : List Nat
  passed : List Nat
  deriving DecidableEq

/-- A thread that has just started owns nothing. -/
def Held.nothing : Held := ⟨[], .out, false, [], [], []⟩

section
variable {χ : Type}

/-- Which actions a thread may take with what it owns. -/
def ownershipMay (h : Held) : {α : Type} → ServiceOp χ α → Prop
  | _, .markFree slot => slot ∈ h.slots
  | _, .sql (.pooled slot) _ => slot ∈ h.slots ∨ h.lane = .pinned slot
  | _, .sql .runtime _ => h.runtimeLane = true
  | _, .lockRuntimeLane => h.runtimeLane = false
  | _, .unlockRuntimeLane => h.runtimeLane = true
  | _, .runtimeConnection => h.runtimeLane = true
  | _, .lockServiceLane => h.lane = .out
  | _, .unlockServiceLane => h.lane ≠ .out
  | _, .laneConnection => h.lane ≠ .out
  | _, .pinLane slot => h.lane = .empty ∧ slot ∈ h.slots
  | _, .setExecutionModel _ => h.lane = .out
  | _, .takeLane => h.lane = .out
  | _, .addSession new => ∀ slot, new.poolIndex = some slot → slot ∈ h.slots
  | _, .isUpload addr => addr ∈ h.refs ∨ addr ∈ h.owned
  | _, .batchNo addr => addr ∈ h.owned
  | _, .resultHandle addr => addr ∈ h.owned
  | _, .fetch addr => addr ∈ h.refs
  | _, .append addr _ => addr ∈ h.refs
  | _, .commit addr => addr ∈ h.owned
  | _, .cancel addr => addr ∈ h.owned
  | _, .release addr => addr ∈ h.refs
  | _, .beginDestroy addr => addr ∈ h.owned
  | _, .awaitUnused addr => addr ∈ h.owned
  | _, .teardown addr => addr ∈ h.passed
  | _, _ => True

/-- What it owns when an action has been answered. -/
def ownershipAfter (h : Held) : {α : Type} → ServiceOp χ α → α → Held
  | _, .acquireConnection, .ok slot => { h with slots := slot :: h.slots }
  | _, .markFree slot, _ => { h with slots := h.slots.erase slot }
  | _, .lockRuntimeLane, _ => { h with runtimeLane := true }
  | _, .unlockRuntimeLane, _ => { h with runtimeLane := false }
  | _, .lockServiceLane, _ => { h with lane := .locked }
  | _, .unlockServiceLane, _ => { h with lane := .out }
  | _, .laneConnection, some slot => { h with lane := .pinned slot }
  | _, .laneConnection, none => { h with lane := .empty }
  | _, .pinLane slot, _ => { h with slots := h.slots.erase slot, lane := .pinned slot }
  | _, .setExecutionModel _, .ok (some slot) => { h with slots := slot :: h.slots }
  | _, .takeLane, some slot => { h with slots := slot :: h.slots }
  | _, .addSession new, .ok _ =>
    { h with slots := new.poolIndex.elim h.slots fun slot => h.slots.erase slot }
  | _, .acquireSession _ _ _, .found addr => { h with refs := addr :: h.refs }
  | _, .removeSession _ _ _, .found addr => { h with owned := addr :: h.owned }
  | _, .pruneIdle _ _, some (addr, _) => { h with owned := addr :: h.owned }
  | _, .detachAll, addrs => { h with owned := addrs ++ h.owned }
  | _, .release addr, _ => { h with refs := h.refs.erase addr }
  | _, .awaitUnused addr, _ =>
    { h with owned := h.owned.erase addr, passed := addr :: h.passed }
  | _, .teardown addr, some slot =>
    { h with passed := h.passed.erase addr, slots := slot :: h.slots }
  | _, .teardown addr, none => { h with passed := h.passed.erase addr }
  | _, _, _ => h

/-- The discipline of ownership. -/
def ownership : Discipline (ServiceOp χ) Held where
  may h op := ownershipMay h op
  after h op answer := ownershipAfter h op answer

/-- The work of a session that has just been opened. -/
inductive JustOpened : Bool → SessionWork χ → Prop
  | query (nowMs : Nat) (result : List χ) (fetchBatchChunks : Nat) (quackRows : Bool) :
    JustOpened false (.query nowMs result fetchBatchChunks quackRows)
  | upload (nowMs : Nat) : JustOpened true (.upload nowMs)

/-- A thread that has none of the lanes. -/
def Held.NoLane (h : Held) : Prop := h.lane = .out ∧ h.runtimeLane = false

/-- A thread that has nothing another thread could wait for. -/
def Held.Clear (h : Held) : Prop := h.refs = [] ∧ h.NoLane

/-- Which actions a thread takes with what it owns: it waits for others only when nobody can wait
    for it, and registers only sessions of a kind. -/
def conductMay (P : NewSession χ → Prop) (h : Held) : {α : Type} → ServiceOp χ α → Prop
  | _, .lockRuntimeLane => h.Clear
  | _, .lockServiceLane => h.Clear
  | _, .takeLane => h.Clear
  | _, .setExecutionModel _ => h.Clear
  | _, .awaitUnused addr => h.Clear ∧ addr ∈ h.owned
  | _, .addSession new => P new ∧ ∀ slot, new.poolIndex = some slot → slot ∈ h.slots
  | _, op => ownershipMay h op

/-- The discipline of the handlers. -/
def conduct (P : NewSession χ → Prop) : Discipline (ServiceOp χ) Held where
  may h op := conductMay P h op
  after h op answer := ownershipAfter h op answer

variable {P : NewSession χ → Prop}

/-- The handlers act only on what their thread owns. -/
theorem conductMay.owns {α : Type} {h : Held} {op : ServiceOp χ α} (hmay : conductMay P h op) :
    ownershipMay h op := by
  cases op with
  | lockRuntimeLane => exact hmay.2.2
  | lockServiceLane | takeLane | setExecutionModel _ => exact hmay.2.1
  | awaitUnused _ | addSession _ => exact hmay.2
  | _ => exact hmay

/-- A program that ends with what it began with. -/
def Keeps {ρ : Type} (P : NewSession χ → Prop) (p : ServiceProg χ ρ) (h : Held) : Prop :=
  (conduct P).wp p (fun h' _ => h' = h) h

/-! ### Rules -/

variable {addr : Nat}

section
variable {ρ τ : Type} {h : Held} {Q : Held → τ → Prop}

theorem Keeps.bind {p : ServiceProg χ ρ} {f : ρ → ServiceProg χ τ} (hp : Keeps P p h)
    (hf : ∀ r, (conduct P).wp (f r) Q h) : (conduct P).wp (p >>= f) Q h := by
  rw [wp_bind]
  refine wp_mono ?_ hp
  rintro _ r rfl
  exact hf r

theorem keeps_pure (r : ρ) : Keeps P (pure r : ServiceProg χ ρ) h := rfl

/-! ### Releasing -/

theorem wp_releaseExecutionConnection {slot : Nat} {Q : Held → Unit → Prop}
    (hslot : slot ∈ h.slots) (hQ : Q { h with slots := h.slots.erase slot } ()) :
    (conduct P).wp (releaseExecutionConnection slot : ServiceProg χ Unit) Q h :=
  ⟨.inl hslot, fun _ => ⟨hslot, fun _ => hQ⟩⟩

/-- A connection that was just acquired is released. -/
theorem wp_release_acquired {slot : Nat} {Q : Held → Unit → Prop} (hQ : Q h ()) :
    (conduct P).wp (releaseExecutionConnection slot : ServiceProg χ Unit) Q
      { h with slots := slot :: h.slots } := by
  refine wp_releaseExecutionConnection mem_cons_self ?_
  show Q { h with slots := (slot :: h.slots).erase slot } ()
  rw [erase_cons_head]
  exact hQ

theorem wp_destroySession {Q : Held → Unit → Prop} (hc : h.Clear) (howned : addr ∈ h.owned)
    (hQ : Q { h with owned := h.owned.erase addr } ()) :
    (conduct P).wp (destroySession addr : ServiceProg χ Unit) Q h := by
  refine ⟨howned, fun _ => ⟨⟨hc, howned⟩, fun _ => ⟨mem_cons_self, fun slot => ?_⟩⟩⟩
  cases slot with
  | none =>
    show Q { h with owned := h.owned.erase addr, passed := (addr :: h.passed).erase addr } ()
    rw [erase_cons_head]
    exact hQ
  | some slot =>
    refine wp_release_acquired (h := { h with
      owned := h.owned.erase addr, passed := (addr :: h.passed).erase addr }) ?_
    rw [erase_cons_head]
    exact hQ

/-- A session that was just detached is destroyed. -/
theorem wp_destroy_detached {f : Unit → ServiceProg χ τ} (hc : h.Clear)
    (hf : (conduct P).wp (f ()) Q h) :
    (conduct P).wp (destroySession addr >>= f) Q { h with owned := addr :: h.owned } := by
  rw [wp_bind]
  refine wp_destroySession hc mem_cons_self ?_
  show (conduct P).wp (f ()) Q { h with owned := (addr :: h.owned).erase addr }
  rw [erase_cons_head]
  exact hf

end

/-! ### Loops -/

variable {Q : Held → Unit → Prop}

section
variable {h : Held}

theorem wp_destroySessions {addrs : List Nat} (hc : h.Clear) (hQ : Q h ()) :
    (conduct P).wp (destroySessions addrs : ServiceProg χ Unit) Q
      { h with owned := addrs ++ h.owned } := by
  induction addrs with
  | nil => exact hQ
  | cons addr addrs ih =>
    exact wp_destroy_detached (h := { h with owned := addrs ++ h.owned }) hc ih

theorem keeps_pruneIdleSessions (hc : h.Clear) (nowMs rounds i : Nat) :
    Keeps P (pruneIdleSessions nowMs rounds i : ServiceProg χ Unit) h := by
  induction rounds generalizing i with
  | zero => exact keeps_pure ()
  | succ rounds ih =>
    refine wp_act trivial fun found => ?_
    match found with
    | none => exact keeps_pure ()
    | some (addr, next) => exact wp_destroy_detached hc (ih next)

/-! ### SQL on one connection -/

/-- The action is SQL on the connection. -/
def SqlOp (con : Connection) : (α : Type) → ServiceOp χ α → Prop
  | _, .sql c _ => c = con
  | _, _ => False

theorem Keeps.of_sql {ρ : Type} {p : ServiceProg χ ρ} {con : Connection}
    (hcon : ∀ call : SqlCall, conductMay P h (.sql con call : ServiceOp χ _))
    (hp : p.all (SqlOp con)) : Keeps P p h := by
  refine wp_of_all (fun α op hop => ?_) (fun _ => rfl) hp
  cases op with
  | sql c call =>
    cases hop
    exact ⟨hcon call, fun _ => rfl⟩
  | _ => exact hop.elim

open Prog (all_try all_bind)

theorem sql_runSql (con : Connection) (n : Nat) :
    (runSql con n : ServiceProg χ _).all (SqlOp con) := by
  induction n with
  | zero => trivial
  | succ n ih => exact all_try rfl (fun _ => trivial) fun _ => ih

theorem sql_runLeading (slot n i : Nat) :
    (runLeading slot n i : ServiceProg χ _).all (SqlOp (.pooled slot)) := by
  induction n generalizing i with
  | zero => trivial
  | succ n ih =>
    exact all_try rfl (fun _ => trivial) fun _ => all_try rfl (fun _ => trivial) fun _ => ih (i + 1)

theorem sql_prepareQuery (slot n : Nat) :
    (prepareQuery slot n : ServiceProg χ _).all (SqlOp (.pooled slot)) := by
  refine all_try rfl (fun _ => trivial) fun statements => ?_
  show Prog.all _ (ite _ _ _)
  split
  · trivial
  · split
    · trivial
    · refine all_bind (sql_runLeading slot _ 0) fun led => ?_
      cases led with
      | error e => trivial
      | ok _ =>
        exact all_try rfl (fun _ => trivial) fun _ => all_try rfl (fun _ => trivial) fun _ =>
          all_try rfl (fun _ => trivial) fun _ => trivial

theorem sql_prepareUpload (slot : Nat) :
    (prepareUpload slot : ServiceProg χ _).all (SqlOp (.pooled slot)) :=
  all_try rfl (fun _ => trivial) fun _ => all_try rfl (fun _ => trivial) fun _ =>
    all_try rfl (fun _ => trivial) fun _ => trivial

/-! ### Request SQL -/

/-- What a thread owns inside the scope of its request SQL. -/
inductive InScope (h : Held) : Held → SqlScope → Prop
  | runtime : InScope h { h with runtimeLane := true } ⟨.runtime, none, false, true⟩
  | service (slot : Nat) :
    InScope h { h with lane := .pinned slot } ⟨.pooled slot, none, true, false⟩
  | request (slot : Nat) :
    InScope h { h with slots := slot :: h.slots } ⟨.pooled slot, some slot, false, false⟩

theorem Held.NoLane.lane_out (hl : h.NoLane) : { h with lane := .out } = h := by
  obtain ⟨slots, lane, runtimeLane, refs, owned, passed⟩ := h
  obtain ⟨rfl, _⟩ := hl
  rfl

theorem Held.NoLane.runtimeLane_out (hl : h.NoLane) : { h with runtimeLane := false } = h := by
  obtain ⟨slots, lane, runtimeLane, refs, owned, passed⟩ := h
  obtain ⟨_, rfl⟩ := hl
  rfl

theorem wp_leaveRequestSql {h' : Held} {scope : SqlScope} (hc : h.Clear) (hs : InScope h h' scope)
    (hQ : Q h ()) :
    (conduct P).wp (leaveRequestSql scope : ServiceProg χ Unit) Q h' := by
  cases hs with
  | runtime =>
    refine ⟨rfl, fun _ => ?_⟩
    show Q { h with runtimeLane := false } ()
    rw [hc.2.runtimeLane_out]
    exact hQ
  | service slot =>
    refine ⟨nofun, fun _ => ?_⟩
    show Q { h with lane := .out } ()
    rw [hc.2.lane_out]
    exact hQ
  | request slot =>
    show (conduct P).wp (releaseExecutionConnection slot >>= fun _ => pure ()) _ _
    exact wp_release_acquired hQ

theorem wp_enterRequestSql (hc : h.Clear) {Q : Held → Except String SqlScope → Prop}
    (herror : ∀ message, Q h (.error message))
    (hok : ∀ h' scope, InScope h h' scope → Q h' (.ok scope)) :
    (conduct P).wp (enterRequestSql : ServiceProg χ _) Q h := by
  refine wp_act trivial fun model => ?_
  cases model with
  | sharedSerialized =>
    refine ⟨hc, fun _ => ⟨rfl, fun present => ?_⟩⟩
    cases present with
    | true => exact hok _ _ .runtime
    | false =>
      show (conduct P).wp (leaveRequestSql _ >>= fun _ => pure _) _ _
      rw [wp_bind]
      exact wp_leaveRequestSql hc .runtime (herror _)
  | serviceSerialized =>
    refine ⟨hc, fun _ => ⟨nofun, fun pinned => ?_⟩⟩
    cases pinned with
    | some slot => exact hok _ _ (.service slot)
    | none =>
      refine ⟨trivial, fun acquired => ?_⟩
      cases acquired with
      | error message =>
        refine ⟨nofun, fun _ => ?_⟩
        show Q { h with lane := .out } _
        rw [hc.2.lane_out]
        exact herror message
      | ok slot =>
        -- the connection moves from the thread to the lane
        refine ⟨⟨rfl, mem_cons_self⟩, fun _ => ?_⟩
        show Q { h with slots := (slot :: h.slots).erase slot, lane := .pinned slot } _
        rw [erase_cons_head]
        exact hok _ _ (.service slot)
  | request =>
    refine ⟨trivial, fun acquired => ?_⟩
    cases acquired with
    | error message => exact herror message
    | ok slot => exact hok _ _ (.request slot)

/-- SQL may run on the connection of a scope. -/
theorem InScope.may_sql {h' : Held} {scope : SqlScope} (hs : InScope h h' scope) (call : SqlCall) :
    conductMay P h' (.sql scope.con call : ServiceOp χ _) := by
  cases hs with
  | runtime => exact rfl
  | service slot => exact .inr rfl
  | request slot => exact .inl mem_cons_self

theorem keeps_requestSql (hc : h.Clear) (statements : Nat) :
    Keeps P (requestSql statements : ServiceProg χ _) h := by
  rw [Keeps, requestSql, wp_bind]
  refine wp_enterRequestSql hc (fun _ => rfl) ?_
  intro h' scope hs
  show (conduct P).wp (runSql scope.con statements >>= fun answer =>
    leaveRequestSql scope >>= fun _ => _) _ _
  refine (Keeps.of_sql hs.may_sql (sql_runSql _ _)).bind fun answer => ?_
  rw [wp_bind]
  refine wp_leaveRequestSql hc hs ?_
  cases answer <;> rfl

end

/-! ### Opening sessions -/

section
variable {h : Held} {slot : Nat}

/-- SQL on a connection that was just acquired. -/
theorem keeps_on_acquired {ρ : Type} {p : ServiceProg χ ρ} (hp : p.all (SqlOp (.pooled slot))) :
    Keeps P p { h with slots := slot :: h.slots } := by
  refine .of_sql (fun _ => ?_) hp
  exact .inl mem_cons_self

theorem wp_failUpload {τ : Type} {txnOpen : Bool} {f : Unit → ServiceProg χ τ}
    {Q : Held → τ → Prop} (hf : (conduct P).wp (f ()) Q h) :
    (conduct P).wp (failUpload slot txnOpen >>= f) Q { h with slots := slot :: h.slots } := by
  rw [wp_bind]
  cases txnOpen with
  | false => exact wp_release_acquired hf
  | true => exact wp_act (.inl mem_cons_self) fun _ => wp_release_acquired hf

theorem keeps_openReply (hc : h.Clear) (added : AddedSession) (identity : Option CStr)
    (view : SessionReplyView) (failure : String) :
    Keeps P (openReply added identity view failure : ServiceProg χ _) h := by
  refine wp_act trivial fun replied => ?_
  cases replied with
  | true => exact keeps_pure _
  | false =>
    refine wp_act trivial fun removed => ?_
    cases removed with
    | found addr => exact wp_destroy_detached hc (keeps_pure _)
    | notFound => exact keeps_pure _
    | unauthorized auth => exact keeps_pure _

/-- A session that is registered takes the connection over. -/
theorem wp_addSession {τ : Type} {new : NewSession χ} {Q : Held → τ → Prop}
    {f : Except (Int × String) AddedSession → ServiceProg χ τ} (hnew : new.poolIndex = some slot)
    (hP : P new)
    (herror : ∀ e, (conduct P).wp (f (.error e)) Q { h with slots := slot :: h.slots })
    (hok : ∀ added, (conduct P).wp (f (.ok added)) Q h) :
    (conduct P).wp (Prog.perform (.addSession new) >>= f) Q
      { h with slots := slot :: h.slots } := by
  refine wp_act ⟨hP, ?_⟩ fun answer => ?_
  · intro slot' hslot'
    obtain rfl : slot = slot' := Option.some.inj (hnew.symm.trans hslot')
    exact mem_cons_self
  · cases answer with
    | error e => exact herror e
    | ok added =>
      show (conduct P).wp _ Q
        { h with slots := new.poolIndex.elim _ fun slot' => (slot :: h.slots).erase slot' }
      rw [hnew, Option.elim_some, erase_cons_head]
      exact hok added

theorem keeps_queryOpen (hc : h.Clear) (vectorRows idleMs : Nat) (identity : Option CStr)
    (decoded : Except String (QueryOpenRequest χ)) (hP : ∀ request, decoded = .ok request → ∀ new,
      new.isUpload = false → JustOpened new.isUpload new.work →
      new.work.fetchBatchChunks = fetchBatchChunksOf vectorRows request.batchRows → P new) :
    Keeps P (queryOpenHandler vectorRows idleMs identity decoded) h := by
  unfold queryOpenHandler
  cases decoded with
  | error message => exact keeps_pure _
  | ok request =>
    dsimp only
    split
    · exact keeps_pure _
    · refine wp_act trivial fun acquired => ?_
      cases acquired with
      | error message => exact keeps_pure _
      | ok slot =>
        refine (keeps_on_acquired (sql_prepareQuery slot _)).bind fun prepared => ?_
        match prepared with
        | .error (status, message) =>
          show (conduct P).wp (releaseExecutionConnection slot >>= fun _ => pure _) _ _
          rw [wp_bind]
          exact wp_release_acquired rfl
        | .ok () =>
          refine wp_act trivial fun nowMs => wp_addSession (h := h) rfl
            (hP request rfl _ rfl (.query ..) rfl) ?_ fun added =>
              keeps_openReply hc added identity _ _
          rintro ⟨code, message⟩
          show (conduct P).wp (releaseExecutionConnection slot >>= fun _ => pure _) _ _
          rw [wp_bind]
          exact wp_release_acquired rfl

theorem keeps_uploadOpen (hc : h.Clear) (idleMs : Nat) (identity : Option CStr)
    (decoded : Except (Status × String) (Option CStr))
    (hP : ∀ new, JustOpened new.isUpload new.work → P new) :
    Keeps P (uploadOpenHandler idleMs identity decoded : ServiceProg χ _) h := by
  match decoded with
  | .error (status, message) => exact keeps_pure _
  | .ok correlationId =>
    refine wp_act trivial fun acquired => ?_
    cases acquired with
    | error message => exact keeps_pure _
    | ok slot =>
      refine (keeps_on_acquired (sql_prepareUpload slot)).bind fun prepared => ?_
      match prepared with
      | .error (txnOpen, message) => exact wp_failUpload (keeps_pure _)
      | .ok () =>
        refine wp_act trivial fun nowMs => wp_addSession (h := h) rfl (hP _ (.upload _)) ?_
          fun added => keeps_openReply hc added identity _ _
        rintro ⟨code, message⟩
        exact wp_failUpload (keeps_pure _)

end

/-! ### Controls -/

section
variable {h : Held} {τ : Type} {Q : Held → τ → Prop}

/-- A reference that was just taken is released. -/
theorem wp_release_ref {f : Unit → ServiceProg χ τ} (hf : (conduct P).wp (f ()) Q h) :
    (conduct P).wp (Prog.perform (.release addr) >>= f) Q { h with refs := addr :: h.refs } := by
  refine wp_act mem_cons_self fun _ => ?_
  show (conduct P).wp _ Q { h with refs := (addr :: h.refs).erase addr }
  rw [erase_cons_head]
  exact hf

theorem keeps_replyOr (reply : HandlerReply χ) (failure : String) :
    Keeps P (replyOr reply failure) h := by
  refine wp_act trivial fun replied => ?_
  cases replied <;> exact keeps_pure _

theorem keeps_checkKind (sessionId : Nat) (token identity : Option CStr) (requireUpload : Bool) :
    Keeps P (checkKind sessionId token identity requireUpload : ServiceProg χ _) h := by
  refine wp_act trivial fun lookup => ?_
  cases lookup with
  | notFound => exact keeps_pure _
  | unauthorized auth => exact keeps_pure _
  | found addr =>
    refine wp_act (.inl mem_cons_self) fun isUpload => wp_release_ref (h := h) ?_
    split
    · exact keeps_pure _
    · split <;> exact keeps_pure _

/-- A control that ends a session destroys it once. -/
theorem keeps_endSession (requireUpload : Bool) (missing : String) (identity : Option CStr)
    (control : SessionControlRequest) {finish : Nat → ServiceProg χ (HandlerReply χ)}
    (hfinish : ∀ addr, (conduct P).wp (finish addr) (fun h' _ => h' = h)
      { h with owned := addr :: h.owned }) :
    Keeps P (endSession requireUpload missing identity control finish) h := by
  refine (keeps_checkKind _ _ _ _).bind fun refusal => ?_
  cases refusal with
  | some refusal => exact keeps_pure _
  | none =>
    refine wp_act trivial fun lookup => ?_
    cases lookup with
    | notFound => exact keeps_pure _
    | unauthorized auth => exact keeps_pure _
    | found addr => exact hfinish addr

section
variable (hc : h.Clear) (identity : Option CStr)
  (decoded : Except (Status × String) SessionControlRequest)

theorem keeps_fetch : Keeps P (fetchHandler identity decoded : ServiceProg χ _) h := by
  match decoded with
  | .error (status, message) => exact keeps_pure _
  | .ok control =>
    refine wp_act trivial fun lookup => ?_
    cases lookup with
    | notFound => exact keeps_pure _
    | unauthorized auth => exact keeps_pure _
    | found addr =>
      refine wp_act (.inl mem_cons_self) fun isUpload => ?_
      cases isUpload with
      | true => exact wp_release_ref (h := h) (keeps_pure _)
      | false =>
        refine wp_act mem_cons_self fun fetched => wp_release_ref (h := h) ?_
        obtain ⟨answer, handle⟩ := fetched
        cases answer with
        | exhausted batchIndex =>
          refine wp_act trivial fun replied => ?_
          cases replied <;> exact keeps_pure _
        | _ => exact keeps_pure _

include hc

theorem keeps_close : Keeps P (closeHandler identity decoded : ServiceProg χ _) h := by
  match decoded with
  | .error (status, message) => exact keeps_pure _
  | .ok control =>
    refine keeps_endSession _ _ _ _ fun addr => ?_
    exact wp_act mem_cons_self fun _ => wp_act mem_cons_self fun _ =>
      wp_destroy_detached hc (keeps_replyOr _ _)

theorem keeps_cancel : Keeps P (cancelHandler identity decoded : ServiceProg χ _) h := by
  match decoded with
  | .error (status, message) => exact keeps_pure _
  | .ok control =>
    refine keeps_endSession _ _ _ _ fun addr => ?_
    exact wp_act mem_cons_self fun _ => wp_act mem_cons_self fun _ =>
      wp_act mem_cons_self fun _ => wp_destroy_detached hc (keeps_replyOr _ _)

theorem keeps_uploadCommit : Keeps P (uploadCommitHandler identity decoded : ServiceProg χ _)
    h := by
  match decoded with
  | .error (status, message) => exact keeps_pure _
  | .ok control =>
    refine keeps_endSession _ _ _ _ fun addr => ?_
    refine wp_act (.inr mem_cons_self) fun isUpload => ?_
    cases isUpload with
    | false => exact wp_destroy_detached hc (keeps_pure _)
    | true =>
      refine wp_act mem_cons_self fun answer => wp_destroy_detached hc ?_
      cases answer with
      | error message => exact keeps_pure _
      | ok rows => exact keeps_replyOr _ _

theorem keeps_uploadAbort : Keeps P (uploadAbortHandler identity decoded : ServiceProg χ _) h := by
  match decoded with
  | .error (status, message) => exact keeps_pure _
  | .ok control =>
    exact keeps_endSession _ _ _ _ fun addr => wp_destroy_detached hc (keeps_replyOr _ _)

end

theorem keeps_uploadAppend (identity : Option CStr)
    (decoded : Except (Status × String) UploadAppendRequest) :
    Keeps P (uploadAppendHandler identity decoded : ServiceProg χ _) h := by
  match decoded with
  | .error (status, message) => exact keeps_pure _
  | .ok request =>
    refine wp_act trivial fun lookup => ?_
    cases lookup with
    | notFound => exact keeps_pure _
    | unauthorized auth => exact keeps_pure _
    | found addr =>
      refine wp_act mem_cons_self fun answer => wp_release_ref (h := h) ?_
      match answer with
      | .error (false, message) => exact keeps_pure _
      | .error (true, message) => exact keeps_pure _
      | .ok rows => exact keeps_replyOr _ _

/-! ### The service -/

theorem keeps_stopService (hc : h.Clear) : Keeps P (stopService : ServiceProg χ Unit) h :=
  wp_act trivial fun _ => wp_act trivial fun _ => wp_destroySessions hc rfl

/-- A connection that may have been handed over is released. -/
theorem wp_releaseIfHeld (slot : Option Nat) {Q : Held → Unit → Prop} (hQ : Q h ()) :
    (conduct P).wp (releaseIfHeld slot : ServiceProg χ Unit) Q
      { h with slots := slot.toList ++ h.slots } := by
  cases slot with
  | none => exact hQ
  | some slot => exact wp_release_acquired hQ

theorem keeps_destroyService (hc : h.Clear) : Keeps P (destroyService : ServiceProg χ Unit) h := by
  refine (keeps_stopService hc).bind fun _ => wp_act trivial fun addrs => ?_
  show (conduct P).wp (destroySessions addrs >>= fun _ => _) _ _
  rw [wp_bind]
  refine wp_destroySessions hc (wp_act hc fun slot => ?_)
  cases slot with
  | none => exact wp_releaseIfHeld none rfl
  | some slot => exact wp_releaseIfHeld (some slot) rfl

theorem keeps_setExecutionModel (hc : h.Clear) (model : ExecutionModel) :
    Keeps P (setExecutionModel model : ServiceProg χ _) h := by
  refine wp_act hc fun answer => ?_
  match answer with
  | .error message => exact keeps_pure _
  | .ok none => exact keeps_pure _
  | .ok (some slot) =>
    show (conduct P).wp (releaseIfHeld (some slot) >>= fun _ => pure _) _ _
    rw [wp_bind]
    exact wp_releaseIfHeld (some slot) rfl

theorem keeps_dispatched (hc : h.Clear) (call : ServiceCall χ) {handler : ServiceProg χ
    (HandlerReply χ)} (hp : Keeps P handler h) : Keeps P (dispatched call handler) h :=
  wp_act trivial fun _ => (keeps_pruneIdleSessions hc _ _ _).bind fun _ => hp

/-- A session that has just been opened. -/
def NewSession.Fresh (new : NewSession χ) : Prop := JustOpened new.isUpload new.work

/-- Every call ends with what it began with. -/
theorem serve_keeps (vectorRows idleMs : Nat) (hc : h.Clear) (call : ServiceCall χ) :
    Keeps NewSession.Fresh (serve vectorRows idleMs call) h := by
  unfold serve
  split
  · exact keeps_dispatched hc call (keeps_requestSql hc _)
  · exact keeps_requestSql hc _
  · exact keeps_dispatched hc call (keeps_queryOpen hc _ _ _ _ fun _ _ _ _ hjust _ => hjust)
  · exact keeps_dispatched hc call (keeps_uploadOpen hc _ _ _ fun _ hjust => hjust)
  · next method alloc payload _ =>
    refine keeps_dispatched hc call ?_
    cases method with
    | fetch => exact keeps_fetch _ _
    | close => exact keeps_close hc _ _
    | cancel => exact keeps_cancel hc _ _
    | uploadCommit => exact keeps_uploadCommit hc _ _
    | uploadAbort => exact keeps_uploadAbort hc _ _
  · exact keeps_dispatched hc call (keeps_uploadAppend _ _)
  · exact (keeps_stopService hc).bind fun _ => keeps_pure _
  · exact (keeps_destroyService hc).bind fun _ => keeps_pure _
  · exact keeps_setExecutionModel hc _
  · exact wp_act trivial fun _ => keeps_pure _

end

end

end Ducknng
