import Ducknng.Service.Confinement
import Ducknng.Service.Pruning

namespace Ducknng

open Option List

/-!
# Idle cleanup

A run of a service with a clock that does not go back. Every request that looks a session up
with its credentials shows that its owner is there; a prune is to remove the sessions whose
owner was not seen for longer than the limit, and no others.

* `ClockedSystem`, `ServiceConfig.clockedStep` — runs with a clock.
* `SeenOk.step` — what every step keeps.
* `idleCleanup` — which sessions a prune removes.
-/

section
variable {χ : Type}

/-! ### Runs with a clock -/

variable {config : ServiceConfig} {α : Type} {op : ServiceOp χ α} {a now : Nat} {b : α}

/-- The idle limit of a service is the one it was created with. -/
theorem ServiceConfig.Reaches.sessionIdleMs {s : ServiceSystem χ} (hs : config.Reaches s) :
    s.shared.store.sessionIdleMs = config.idleMs := by
  obtain ⟨events, hrun⟩ := hs
  refine (Runs.run_invariant (fun s : ServiceSystem χ => TableOk s.shared.store ∧
    s.shared.store.sessionIdleMs = config.idleMs) ?_ ⟨config.tableOk_start, rfl⟩ hrun).2
  rintro s e s' ⟨htable, hlimit⟩ hstep
  rcases System.step_cases hstep with ⟨r, rfl, rfl⟩ | ⟨i, world, t, rfl, _, α, op, k, b, shared, _,
    hexec, rfl⟩
  · exact ⟨htable, hlimit⟩
  · refine ⟨(serviceExec_extends htable hexec).1, ?_⟩
    obtain ⟨ids, heffect⟩ := serviceExec_table htable hexec
    exact (congrArg Prod.snd (heffect.frame htable).1).trans hlimit

/-- The world at a time. -/
def ServiceWorld.atTime (world : ServiceWorld χ) (now : Nat) : ServiceWorld χ :=
  { world with
    nowMs := now
    add := { world.add with nowMs := now }
    fetch := { world.fetch with nowMs := now } }

/-- A service with its clock, and the time when the owner of a session was last seen, by the
    address of the session. -/
structure ClockedSystem (χ : Type) where
  system : ServiceSystem χ
  clock : Nat
  seen : Nat → Nat

/-- The owner of a session is seen when a request finds it by its credentials; that of a new
    session was seen when its opening read the clock. -/
def seenAfter (now : Nat) (seen : Nat → Nat) : {α : Type} → ServiceOp χ α → α → Nat → Nat
  | _, .acquireSession _ _ _, .found addr => Function.update seen addr (max (seen addr) now)
  | _, .addSession new, .ok added => Function.update seen added.addr new.work.lastTouchMs
  | _, _, _ => seen

/-- The last action of a thread, if it has taken any. -/
def lastDone (s : ServiceSystem χ) (i : Nat) : Option (Done (ServiceOp χ)) :=
  s.threads[i]?.bind fun t => t.past.getLast?

/-- Some time passes, then something happens. -/
def ServiceConfig.clockedStep (config : ServiceConfig) (s : ClockedSystem χ)
    (e : Nat × Event (ServiceCall χ) (ServiceWorld χ)) : Option (ClockedSystem χ) :=
  match e.2 with
  | .start call => (config.step s.system (.start call)).map fun system =>
      ⟨system, s.clock + e.1, s.seen⟩
  | .act i world =>
    (config.step s.system (.act i (world.atTime (s.clock + e.1)))).map fun system =>
      ⟨system, s.clock + e.1, match lastDone system i with
        | some x => seenAfter (s.clock + e.1) s.seen x.op x.answer
        | none => s.seen⟩

/-- A created service at the time zero. -/
def ServiceConfig.clockedStart (config : ServiceConfig) : ClockedSystem χ :=
  ⟨⟨config.start, []⟩, 0, fun _ => 0⟩

variable {s' : ClockedSystem χ} {seen : Nat → Nat}

variable {s : ClockedSystem χ} {e : Nat × Event (ServiceCall χ) (ServiceWorld χ)}

/-- A step is a start, or an action of one thread at the time it is. -/
theorem ServiceConfig.clockedStep_cases (h : config.clockedStep s e = some s') :
    (∃ call, e.2 = .start call ∧ s'.seen = s.seen ∧
      s'.system = ⟨s.system.shared, s.system.threads ++
        [⟨call, [], serve config.vectorRows config.idleMs call⟩]⟩) ∨
    ∃ i world t, e.2 = .act i world ∧ s.system.threads[i]? = some t ∧
      ∃ (α : Type) (o : ServiceOp χ α) (k : α → ServiceProg χ (HandlerReply χ)) (a : α)
        (shared : ServiceState χ),
        t.rest = .act o k ∧
        serviceExec i s.system.shared (world.atTime (s.clock + e.1)) o = some (a, shared) ∧
        s'.seen = seenAfter (s.clock + e.1) s.seen o a ∧
        s'.system = ⟨shared, s.system.threads.set i ⟨t.request, t.past ++ [⟨o, a⟩], k a⟩⟩ := by
  obtain ⟨elapsed, event⟩ := e
  unfold ServiceConfig.clockedStep at h
  cases event with
  | start call =>
    obtain ⟨system, hstep, rfl⟩ := map_eq_some_iff.1 h
    exact .inl ⟨call, rfl, rfl, (some.inj hstep).symm⟩
  | act i world =>
    obtain ⟨system, hstep, rfl⟩ := map_eq_some_iff.1 h
    rcases System.step_cases hstep with ⟨r, hr, _⟩ | ⟨i', world', t, hact, ht, α, o, k, a, shared,
      hrest, hexec, rfl⟩
    · cases hr
    · cases hact
      refine .inr ⟨i, world, t, rfl, ht, α, o, k, a, shared, hrest, hexec, ?_, rfl⟩
      have hlast : lastDone
          ⟨shared, s.system.threads.set i ⟨t.request, t.past ++ [⟨o, a⟩], k a⟩⟩ i =
            some ⟨o, a⟩ := by
        unfold lastDone
        have hlt := (List.getElem?_eq_some_iff.1 ht).1
        simp [hlt]
      rw [hlast]

theorem ServiceConfig.Reaches.clockedStep
    (hs : config.Reaches s.system) (h : config.clockedStep s e = some s') :
    config.Reaches s'.system := by
  obtain ⟨elapsed, event⟩ := e
  unfold ServiceConfig.clockedStep at h
  cases event with
  | start _ | act _ _ =>
    obtain ⟨system, hstep, rfl⟩ := map_eq_some_iff.1 h
    exact System.Reachable.step hs hstep

/-! ### Requests that use what they find -/

/-- The requests that use a session they have found: a fetch and an append. -/
inductive UseKind where
  | fetch
  | append
  | other
  deriving DecidableEq

/-- How a call uses the sessions it finds. -/
def ServiceCall.useKind (call : ServiceCall χ) : UseKind :=
  match call.request with
  | .control .fetch _ _ => .fetch
  | .uploadAppend _ _ => .append
  | _ => .other

/-- A call of this kind uses a session of this family: a fetch does not use an upload. -/
def UseKind.Uses : UseKind → Bool → Bool
  | .fetch, isUpload => !isUpload
  | .append, _ => true
  | .other, _ => false

/-- How a thread uses sessions, and those it has found and not used yet. -/
structure Attending where
  kind : UseKind
  unused : List Nat

/-- A fetch or an append uses a session before it releases it; only a fetch asks for the family
    of what it has found. -/
def attendMay (h : Attending) : {α : Type} → ServiceOp χ α → Prop
  | _, .isUpload addr => addr ∈ h.unused → h.kind = .fetch
  | _, .release addr => addr ∉ h.unused
  | _, _ => True

/-- What a thread has still to use; a session of the other family is not for it. -/
def attendAfter (h : Attending) : {α : Type} → ServiceOp χ α → α → Attending
  | _, .acquireSession _ _ _, .found addr =>
    if h.kind = .other then h else { h with unused := addr :: h.unused }
  | _, .isUpload addr, true => { h with unused := h.unused.filter (· ≠ addr) }
  | _, .fetch addr, _ => { h with unused := h.unused.filter (· ≠ addr) }
  | _, .append addr _, _ => { h with unused := h.unused.filter (· ≠ addr) }
  | _, .release addr, _ => { h with unused := h.unused.filter (· ≠ addr) }
  | _, _, _ => h

/-- The discipline of using what was found. -/
def attending : Discipline (ServiceOp χ) Attending where
  may h op := attendMay h op
  after h op answer := attendAfter h op answer

/-- What a thread has found and not used yet. -/
def attendingOf (t : Thread (ServiceCall χ) (ServiceOp χ) (HandlerReply χ)) : Attending :=
  System.held attending (fun call => ⟨call.useKind, []⟩) t

variable {h : Attending}

/-- Pruning neither finds nor uses a session. -/
theorem attends_prune (nowMs rounds i : Nat) :
    attending.wp (pruneIdleSessions nowMs rounds i : ServiceProg χ Unit)
      (fun h' _ => h' = h) h := by
  induction rounds generalizing i with
  | zero => rfl
  | succ rounds ih =>
    refine ⟨trivial, fun found => ?_⟩
    match found with
    | none => rfl
    | some (addr, next) =>
      refine ⟨trivial, fun _ => ⟨trivial, fun _ => ⟨trivial, fun slot => ?_⟩⟩⟩
      cases slot with
      | none => exact ih next
      | some slot => exact ⟨trivial, fun _ => ⟨trivial, fun _ => ih next⟩⟩

/-- A thread that uses nothing has nothing to use. -/
theorem attend_other (op : ServiceOp χ α) :
    attendMay ⟨.other, []⟩ op ∧ ∀ a, attendAfter ⟨.other, []⟩ op a = ⟨.other, []⟩ := by
  cases op with
  | isUpload addr =>
    refine ⟨fun h => absurd h not_mem_nil, fun a => ?_⟩
    cases a <;> rfl
  | acquireSession _ _ _ =>
    refine ⟨trivial, fun a => ?_⟩
    cases a <;> rfl
  | release addr => exact ⟨not_mem_nil, fun _ => rfl⟩
  | _ => exact ⟨trivial, fun _ => rfl⟩

theorem attends_dispatched {call : ServiceCall χ} {handler : ServiceProg χ (HandlerReply χ)}
    (hhandler : attending.wp handler (fun _ _ => True) h) :
    attending.wp (dispatched call handler) (fun _ _ => True) h := by
  refine ⟨trivial, fun nowMs => ?_⟩
  show attending.wp (pruneIdleSessions nowMs call.pruneRounds 0 >>= fun _ => handler) _ h
  rw [Discipline.wp_bind]
  refine Discipline.wp_mono ?_ (attends_prune nowMs call.pruneRounds 0)
  rintro _ _ rfl
  exact hhandler

theorem not_mem_unused (addr : Nat) (unused : List Nat) : addr ∉ unused.filter (· ≠ addr) := by
  simp

theorem attends_fetch (identity : Option CStr)
    (decoded : Except (Status × String) SessionControlRequest) :
    attending.wp (fetchHandler identity decoded : ServiceProg χ _) (fun _ _ => True)
      ⟨.fetch, []⟩ := by
  cases decoded with
  | error e => trivial
  | ok control =>
    refine ⟨trivial, fun lookup => ?_⟩
    cases lookup with
    | notFound => trivial
    | unauthorized auth => trivial
    | found addr =>
      refine ⟨fun _ => rfl, fun isUpload => ?_⟩
      cases isUpload with
      | true => exact ⟨not_mem_unused addr _, fun _ => trivial⟩
      | false =>
        refine ⟨trivial, fun answer => ⟨not_mem_unused addr _, fun _ => ?_⟩⟩
        obtain ⟨answer, handle⟩ := answer
        cases answer with
        | exhausted batchIndex =>
          refine ⟨trivial, fun replied => ?_⟩
          cases replied <;> trivial
        | _ => trivial

theorem attends_append (identity : Option CStr)
    (decoded : Except (Status × String) UploadAppendRequest) :
    attending.wp (uploadAppendHandler identity decoded : ServiceProg χ _) (fun _ _ => True)
      ⟨.append, []⟩ := by
  cases decoded with
  | error e => trivial
  | ok request =>
    refine ⟨trivial, fun lookup => ?_⟩
    cases lookup with
    | notFound => trivial
    | unauthorized auth => trivial
    | found addr =>
      refine ⟨trivial, fun answer => ⟨not_mem_unused addr _, fun _ => ?_⟩⟩
      match answer with
      | .error (false, _) => trivial
      | .error (true, _) => trivial
      | .ok rows =>
        refine ⟨trivial, fun replied => ?_⟩
        cases replied <;> trivial

/-- A call that uses no session does nothing the discipline could forbid. -/
theorem attends_other {ρ : Type} (p : ServiceProg χ ρ) :
    attending.wp p (fun _ _ => True) ⟨.other, []⟩ := by
  refine Discipline.wp_of_all (P := fun _ _ => True) (fun _ op _ => attend_other op)
    (fun _ => trivial) ?_
  induction p with
  | ret r => trivial
  | act op k ih => exact ⟨trivial, ih⟩

/-- **Every call uses what it finds**, if it is of a kind that does. -/
theorem serve_attends (vectorRows idleMs : Nat) (call : ServiceCall χ) :
    attending.wp (serve vectorRows idleMs call) (fun _ _ => True) ⟨call.useKind, []⟩ := by
  obtain ⟨request, identity, rounds⟩ := call
  cases request with
  | control method alloc payload =>
    cases method with
    | fetch => exact attends_dispatched (attends_fetch identity _)
    | _ => exact attends_other _
  | uploadAppend alloc payload => exact attends_dispatched (attends_append identity _)
  | _ => exact attends_other _

/-! ### What is left to use -/

/-- The action settles what a thread has to do with a session it has found. -/
def settles (addr : Nat) : {α : Type} → ServiceOp χ α → α → Bool
  | _, .isUpload found, isUpload => isUpload && found = addr
  | _, .fetch found, _ => found = addr
  | _, .append found _, _ => found = addr
  | _, .release found, _ => found = addr
  | _, _, _ => false

theorem attendAfter_kind (h : Attending) (op : ServiceOp χ α) (a : α) :
    (attendAfter h op a).kind = h.kind := by
  cases op with
  | acquireSession _ _ _ =>
    cases a with
    | found addr =>
      show (if h.kind = .other then h else { h with unused := addr :: h.unused }).kind = h.kind
      split <;> rfl
    | _ => rfl
  | isUpload _ => cases a <;> rfl
  | _ => rfl

/-- What a thread has to use is what it has just found, or what it has not settled. -/
theorem mem_attendAfter {a : α} {addr : Nat} :
    addr ∈ (attendAfter h op a).unused ↔
      (acquiresRef addr op a = true ∧ h.kind ≠ .other) ∨
        (addr ∈ h.unused ∧ settles addr op a = false) := by
  have hsettle : ∀ found, addr ∈ h.unused.filter (· ≠ found) ↔
      (false = true ∧ h.kind ≠ .other) ∨ (addr ∈ h.unused ∧ decide (found = addr) = false) := by
    intro found
    rw [mem_filter, decide_eq_true_iff, decide_eq_false_iff_not]
    simp only [Bool.false_eq_true, false_and, false_or]
    exact and_congr_right fun _ => ne_comm
  have hkeep : addr ∈ h.unused ↔
      (false = true ∧ h.kind ≠ .other) ∨ (addr ∈ h.unused ∧ false = false) := by simp
  cases op with
  | acquireSession _ _ _ =>
    cases a with
    | found found =>
      show addr ∈ (if h.kind = .other then h else { h with unused := found :: h.unused }).unused ↔ _
      split
      next hkind => simp [settles, hkind]
      next hkind => simp [acquiresRef, settles, hkind, eq_comm]
    | _ => exact hkeep
  | isUpload found =>
    cases a with
    | true => exact hsettle found
    | false => exact hkeep
  | fetch found => exact hsettle found
  | append found _ => exact hsettle found
  | release found => exact hsettle found
  | _ => exact hkeep

theorem attendingOf_act (t : Thread (ServiceCall χ) (ServiceOp χ) (HandlerReply χ))
    (op : ServiceOp χ α) (a : α) (rest : ServiceProg χ (HandlerReply χ)) :
    attendingOf ⟨t.request, t.past ++ [⟨op, a⟩], rest⟩ = attendAfter (attendingOf t) op a := by
  simp [attendingOf, System.held, attending]

theorem attendingOf_kind (t : Thread (ServiceCall χ) (ServiceOp χ) (HandlerReply χ)) :
    (attendingOf t).kind = t.request.useKind := by
  obtain ⟨call, past, rest⟩ := t
  have hall : ∀ (past : List (Done (ServiceOp χ))) (h : Attending),
      (past.foldl (fun h x => attendAfter h x.op x.answer) h).kind = h.kind := by
    intro past
    induction past with
    | nil => exact fun _ => rfl
    | cons x past ih => exact fun h => (ih _).trans (attendAfter_kind h x.op x.answer)
  exact hall past _

/-- A thread refers to what it has to use. -/
theorem ServiceConfig.Reaches.unused_refs {s : ServiceSystem χ} (hs : config.Reaches s) :
    ∀ t ∈ s.threads, ∀ addr ∈ (attendingOf t).unused,
      addr ∈ (heldBy t).refs := by
  refine Discipline.history _ _ _ (fun call past h =>
    ∀ addr ∈ (past.foldl (fun u x => attendAfter u x.op x.answer)
      (⟨call.useKind, []⟩ : Attending)).unused, addr ∈ h.refs)
    config.entry_keeps (fun _ _ h => absurd h not_mem_nil) ?_ hs
  intro α call past h op a hsub hmay addr haddr
  rw [foldl_append] at haddr
  have hcount := refs_count_after op a addr hmay.owns
  rw [← count_pos_iff]
  show 0 < (ownershipAfter h op a).refs.count addr
  have hfound := mem_attendAfter.1 haddr
  have hnot : releasesRef addr op = false := by
    cases op with
    | release _ => exact (hfound.resolve_left fun h => (by cases h.1)).2
    | _ => rfl
  rw [hnot] at hcount
  simp only [Bool.false_eq_true, if_false] at hcount
  rcases hfound with ⟨hacquired, -⟩ | ⟨hold, -⟩
  · rw [if_pos hacquired] at hcount
    omega
  · have hpos := count_pos_iff.2 (hsub addr hold)
    omega

/-- Nobody has to use a session that nobody refers to. -/
theorem ServiceConfig.Reaches.unused_free {s : ServiceSystem χ} (hs : config.Reaches s)
    {session : Session χ} (hsession : s.shared.store.heap[a]? = some session)
    (hfree : session.refcount = 0) :
    ∀ t ∈ s.threads, a ∉ (attendingOf t).unused := by
  intro t ht hmem
  have hcount := hs.refcount_eq hsession
  have href : a ∈ (s.threads.map heldBy).flatMap Held.refs :=
    mem_flatMap.2 ⟨heldBy t, mem_map_of_mem ht, hs.unused_refs t ht a hmem⟩
  have hpos := count_pos_iff.2 href
  omega

/-! ### Every run -/

/-- The action looks the session at `a` up with its credentials. -/
def ServiceOp.Names (store : SessionStore χ) (a : Nat) : {α : Type} → ServiceOp χ α → Prop
  | _, .acquireSession sessionId token identity => Matches store sessionId token identity a
  | _, _ => False

/-- The action touches the session at `a`. -/
def ServiceOp.Touches (a : Nat) : {α : Type} → ServiceOp χ α → Prop
  | _, .fetch addr => addr = a
  | _, .append addr _ => addr = a
  | _, _ => False

/-- An action of a call of this kind, as far as it is about the session at `a`: the call uses it
    if it finds it, and does so at once. -/
def UsesAtOnce (a : Nat) (s : ClockedSystem χ) (now : Nat) (kind : UseKind) {α : Type}
    (op : ServiceOp χ α) : Prop :=
  (op.Names s.system.shared.store a → ∀ session, s.system.shared.store.heap[a]? = some session →
    kind.Uses session.isUpload = true) ∧
  (op.Touches a → now = s.seen a)

/-- The owner of the session at `a` sends fetches to a query and appends otherwise, and none of
    them has to wait between the lookup and the section of the session. -/
def Attends (a : Nat) (s : ClockedSystem χ) (e : Nat × Event (ServiceCall χ) (ServiceWorld χ)) :
    Prop :=
  match e.2 with
  | .start _ => True
  | .act i _ => ∀ t, s.system.threads[i]? = some t →
    match t.rest with
    | .ret _ => True
    | .act op _ => UsesAtOnce a s (s.clock + e.1) t.request.useKind op

/-- What every step keeps, for the session at `a`: it was not used after its owner was seen, and
    not before unless somebody is about to use it; while it is stored it is not marked. -/
structure SeenOk (config : ServiceConfig) (a : Nat) (s : ClockedSystem χ) : Prop where
  reaches : config.Reaches s.system
  attends : ∀ t ∈ s.system.threads, attending.wp t.rest (fun _ _ => True) (attendingOf t)
  uses : ∀ t ∈ s.system.threads, a ∈ (attendingOf t).unused →
    ∃ session, s.system.shared.store.heap[a]? = some session ∧
      (attendingOf t).kind.Uses session.isUpload = true
  touched : ∀ session, s.system.shared.store.heap[a]? = some session →
    session.work.lastTouchMs ≤ s.seen a ∧
      ((∀ t ∈ s.system.threads, a ∉ (attendingOf t).unused) → s.seen a ≤ session.work.lastTouchMs)
  unmarked : ∀ session, s.system.shared.store.heap[a]? = some session →
    a ∈ s.system.shared.store.stored → session.closing = false ∧ session.work.cancelled = false

theorem seenOk_start (config : ServiceConfig) (a : Nat) :
    SeenOk config a (config.clockedStart : ClockedSystem χ) := by
  have hempty : ∀ session, (config.clockedStart : ClockedSystem χ).system.shared.store.heap[a]? ≠
      some session := by
    intro session
    show ([] : List (Session χ))[a]? ≠ some session
    simp
  exact {
    reaches := ⟨[], rfl⟩
    attends := forall_mem_nil _
    uses := forall_mem_nil _
    touched := fun session h => absurd h (hempty session)
    unmarked := fun session h => absurd h (hempty session) }

/-- A call that starts has found nothing. -/
theorem SeenOk.started (hok : SeenOk config a s) {call : ServiceCall χ}
    (hreaches : config.Reaches s'.system) (hseen : s'.seen = s.seen)
    (hsystem : s'.system = ⟨s.system.shared, s.system.threads ++
      [⟨call, [], serve config.vectorRows config.idleMs call⟩]⟩) : SeenOk config a s' := by
  have hall : ∀ {P : Thread (ServiceCall χ) (ServiceOp χ) (HandlerReply χ) → Prop},
      (∀ t ∈ s.system.threads, P t) → P ⟨call, [], serve config.vectorRows config.idleMs call⟩ →
      ∀ t ∈ s'.system.threads, P t := by
    intro P hold hlast
    rw [hsystem]
    exact forall_mem_append.2 ⟨hold, forall_mem_singleton.2 hlast⟩
  have hshared : s'.system.shared = s.system.shared := by rw [hsystem]
  refine ⟨hreaches, hall hok.attends ?_, ?_, ?_, ?_⟩
  · exact serve_attends config.vectorRows config.idleMs call
  · rw [hshared]
    exact hall hok.uses fun hmem => absurd hmem not_mem_nil
  · rw [hshared, hseen]
    intro session hsession
    refine ⟨(hok.touched session hsession).1, fun hnone => (hok.touched session hsession).2 ?_⟩
    intro t ht
    refine hnone t ?_
    rw [hsystem]
    exact mem_append_left _ ht
  · rw [hshared]
    exact hok.unmarked

/-- When the owner of the session at `a` was seen, after an action. -/
theorem seenAfter_acquired (h : acquiresRef a op b = true) :
    seenAfter now seen op b a = max (seen a) now := by
  cases op with
  | acquireSession _ _ _ =>
    cases b with
    | found addr =>
      obtain rfl : addr = a := of_decide_eq_true h
      exact Function.update_self ..
    | _ => cases h
  | _ => cases h

theorem seenAfter_added {new : NewSession χ} {added : AddedSession}
    (h : op.adds b = some (new, added)) (ha : added.addr = a) :
    seenAfter now seen op b a = new.work.lastTouchMs := by
  cases op with
  | addSession _ =>
    cases b with
    | ok _ =>
      cases h
      subst ha
      exact Function.update_self ..
    | error _ => cases h
  | _ => cases h

theorem seenAfter_same (hacquired : acquiresRef a op b = false)
    (hadded : ∀ new added, op.adds b = some (new, added) → added.addr ≠ a) :
    seenAfter now seen op b a = seen a := by
  cases op with
  | acquireSession _ _ _ =>
    cases b with
    | found addr => exact Function.update_of_ne (Ne.symm (of_decide_eq_false hacquired)) ..
    | _ => rfl
  | addSession new =>
    cases b with
    | ok added => exact Function.update_of_ne (Ne.symm (hadded new added rfl)) ..
    | error _ => rfl
  | _ => rfl

/-- A lookup that finds a session has its credentials. -/
theorem names_of_acquiresRef {i : Nat} {st st' : ServiceState χ} {world : ServiceWorld χ}
    (htable : TableOk st.store) (hexec : serviceExec i st world op = some (b, st'))
    (h : acquiresRef a op b = true) :
    op.Names st.store a ∧ ∃ session, st.store.heap[a]? = some session := by
  cases op with
  | acquireSession sessionId token identity =>
    have hanswer : some ((acquireSession st.store sessionId token identity).1,
      { st with store := (acquireSession st.store sessionId token identity).2 }) =
        some (b, st') := hexec
    obtain ⟨rfl, -⟩ := Prod.mk.inj (some.inj hanswer)
    rcases htable.acquireSession_spec sessionId token identity with
      ⟨addr, session, hfound, hmatch, hsession, _⟩ | ⟨hnot, _⟩
    · rw [hfound] at h
      obtain rfl : addr = a := of_decide_eq_true h
      exact ⟨hmatch, session, hsession⟩
    · revert h hnot
      cases (acquireSession st.store sessionId token identity).1 with
      | found addr => exact fun _ hnot => absurd rfl (hnot addr)
      | _ => exact fun h _ => Bool.noConfusion h
  | _ => cases h

theorem ServiceOp.Touches.session (h : op.Touches a) :
    op.session = some a := by
  cases op with
  | fetch addr => exact congrArg some h
  | append addr batch => exact congrArg some h
  | _ => exact h.elim

/-- An action touches a session at the time it is, or leaves the time of its last use. -/
theorem SessionChange.touch {store' : SessionStore χ}
    {world : ServiceWorld χ} {session session' : Session χ}
    (h : SessionChange a store' (world.atTime now) op session session') :
    (op.Touches a ∧ session'.work.lastTouchMs = now) ∨
      (¬ op.Touches a ∧ session'.work.lastTouchMs = session.work.lastTouchMs) := by
  cases h with
  | same hop => exact .inr ⟨fun h => hop h.session, rfl⟩
  | acquired hop => exact .inr ⟨fun h => some_ne_none a (h.session.symm.trans hop), rfl⟩
  | detached hop _ => exact .inr ⟨fun h => some_ne_none a (h.session.symm.trans hop), rfl⟩
  | inside hop =>
    rw [ServiceOp.leaves_touch]
    cases op with
    | fetch addr => exact .inl ⟨some.inj hop, rfl⟩
    | append addr batch => exact .inl ⟨some.inj hop, rfl⟩
    | _ => exact .inr ⟨id, rfl⟩

section
variable {config : ServiceConfig} {a i now : Nat} {s : ClockedSystem χ} {world : ServiceWorld χ}
  {t : Thread (ServiceCall χ) (ServiceOp χ) (HandlerReply χ)} {α : Type} {op : ServiceOp χ α}
  {k : α → ServiceProg χ (HandlerReply χ)} {b : α} {shared : ServiceState χ}

theorem fresh_adds {new : NewSession χ} {added : AddedSession} {h : Held}
    (hmay : conductMay NewSession.Fresh h op) (hadds : op.adds b = some (new, added)) :
      new.work.cancelled = false := by
  cases op with
  | addSession new' =>
    cases b with
    | ok added' =>
      cases hadds
      obtain ⟨identity, isUpload, poolIndex, work⟩ := new
      have hjust : JustOpened isUpload work := hmay.1
      cases hjust <;> rfl
    | error e => cases hadds
  | _ => cases hadds

variable (hok : SeenOk config a s) (ht : s.system.threads[i]? = some t)
  (hexec : serviceExec i s.system.shared (world.atTime now) op = some (b, shared))
include hok ht hexec

/-- Whoever has the session still to use after an action is one who uses it. -/
theorem SeenOk.uses_acted (huse : UsesAtOnce a s now t.request.useKind op) :
    ∀ u ∈ s.system.threads.set i ⟨t.request, t.past ++ [⟨op, b⟩], k b⟩,
      a ∈ (attendingOf u).unused → ∃ session, shared.store.heap[a]? = some session ∧
        (attendingOf u).kind.Uses session.isUpload = true := by
  have htable := hok.reaches.lifetimes.1.table
  obtain ⟨-, hext, -⟩ := serviceExec_extends htable hexec
  have hkeep : ∀ {kind : UseKind}, (∃ session, s.system.shared.store.heap[a]? = some session ∧
      kind.Uses session.isUpload = true) → ∃ session, shared.store.heap[a]? = some session ∧
        kind.Uses session.isUpload = true := by
    rintro kind ⟨session, hsession, huses⟩
    obtain ⟨session', hsession', hsame⟩ := hext a session hsession
    exact ⟨session', hsession', hsame.isUpload ▸ huses⟩
  intro u hu hmem
  rcases mem_or_eq_of_mem_set hu with hu | rfl
  · exact hkeep (hok.uses u hu hmem)
  · rw [attendingOf_act] at hmem ⊢
    rw [attendAfter_kind]
    rcases mem_attendAfter.1 hmem with ⟨hacquired, -⟩ | ⟨hold, -⟩
    · obtain ⟨hnames, session, hsession⟩ := names_of_acquiresRef htable hexec hacquired
      rw [attendingOf_kind]
      exact hkeep ⟨session, hsession, huse.1 hnames session hsession⟩
    · exact hkeep (hok.uses t (mem_of_getElem? ht) hold)

/-- Without a touch, what nobody has to use afterwards nobody had to use before. -/
theorem SeenOk.unused_before (hmay : attendMay (attendingOf t) op) (htouches : ¬ op.Touches a)
    (hnone : ∀ u ∈ s.system.threads.set i ⟨t.request, t.past ++ [⟨op, b⟩], k b⟩,
      a ∉ (attendingOf u).unused) :
    ∀ u ∈ s.system.threads, a ∉ (attendingOf u).unused := by
  have hlt := (List.getElem?_eq_some_iff.1 ht).1
  intro u hu hmem
  obtain ⟨j, hj⟩ := getElem?_of_mem hu
  by_cases hij : i = j
  · subst hij
    obtain rfl : t = u := some.inj (ht.symm.trans hj)
    have hset := hnone _ (mem_set hlt _)
    rw [attendingOf_act, mem_attendAfter] at hset
    have hsettled : settles a op b = true := by
      by_contra hnot
      exact hset (.inr ⟨hmem, Bool.not_eq_true _ ▸ hnot⟩)
    -- a fetch has asked for the family of the session, and it is the right one
    cases op with
    | isUpload addr =>
      obtain ⟨htrue, haddr⟩ := Bool.and_eq_true_iff.1 hsettled
      obtain rfl : addr = a := of_decide_eq_true haddr
      obtain ⟨session, hsession, huses⟩ := hok.uses t hu hmem
      rw [hmay hmem] at huses
      obtain ⟨_, hsession', hanswer, -⟩ := ServiceState.onSession_eq_some hexec
      obtain rfl := some.inj (hsession.symm.trans hsession')
      have hupload : session.isUpload = true := hanswer.symm.trans htrue
      rw [hupload] at huses
      exact Bool.noConfusion huses
    | fetch addr =>
      have haddr : addr = a := of_decide_eq_true hsettled
      exact htouches haddr
    | append addr batch =>
      have haddr : addr = a := of_decide_eq_true hsettled
      exact htouches haddr
    | release addr =>
      obtain rfl : addr = a := of_decide_eq_true hsettled
      exact hmay hmem
    | _ => cases hsettled
  · refine hnone u ?_ hmem
    refine mem_of_getElem? (i := j) ?_
    rw [getElem?_set_ne hij, hj]

/-- The last use of a session and the time its owner was seen, after an action. -/
theorem SeenOk.touched_acted (hmay : attendMay (attendingOf t) op)
    (huse : UsesAtOnce a s now t.request.useKind op) :
    ∀ session', shared.store.heap[a]? = some session' →
      session'.work.lastTouchMs ≤ seenAfter now s.seen op b a ∧
        ((∀ u ∈ s.system.threads.set i ⟨t.request, t.past ++ [⟨op, b⟩], k b⟩,
            a ∉ (attendingOf u).unused) →
          seenAfter now s.seen op b a ≤ session'.work.lastTouchMs) := by
  have htable := hok.reaches.lifetimes.1.table
  intro session' hsession'
  cases hold : s.system.shared.store.heap[a]? with
  | none =>
    -- only a registration makes a session, and it has been touched when the clock was read
    obtain ⟨new, added, hadds, haddr, rfl⟩ :=
      (serviceExec_effect htable hexec).created hold hsession'
    rw [seenAfter_added hadds haddr]
    exact ⟨le_refl _, fun _ => le_refl _⟩
  | some session =>
    obtain ⟨_, hfound, hchange⟩ := (serviceExec_effect htable hexec).session htable hold
    obtain rfl := some.inj (hfound.symm.trans hsession')
    obtain ⟨hle, hge⟩ := hok.touched session hold
    have hlt := (List.getElem?_eq_some_iff.1 hold).1
    have hadded : ∀ new added, op.adds b = some (new, added) → added.addr ≠ a := by
      intro new added hadds haddr
      have := ((serviceExec_effect htable hexec).adds hadds).1
      omega
    rcases hchange.touch with ⟨htouches, htouch⟩ | ⟨hnot, htouch⟩
    · have hacquired : acquiresRef a op b = false := by
        cases op with
        | acquireSession _ _ _ => exact htouches.elim
        | _ => rfl
      rw [seenAfter_same hacquired hadded, htouch, huse.2 htouches]
      exact ⟨le_refl _, fun _ => le_refl _⟩
    · rw [htouch]
      cases hacquired : acquiresRef a op b with
      | true =>
        rw [seenAfter_acquired hacquired]
        refine ⟨hle.trans (Nat.le_max_left _ _), fun hnone => ?_⟩
        -- the thread that has found the session has it still to use
        have hset := hnone _ (mem_set (List.getElem?_eq_some_iff.1 ht).1 _)
        rw [attendingOf_act, mem_attendAfter] at hset
        refine absurd (.inl ⟨hacquired, fun hother => ?_⟩) hset
        obtain ⟨hnames, -⟩ := names_of_acquiresRef htable hexec hacquired
        have huses := huse.1 hnames session hold
        rw [attendingOf_kind] at hother
        rw [hother] at huses
        exact Bool.noConfusion huses
      | false =>
        rw [seenAfter_same hacquired hadded]
        exact ⟨hle, fun hnone => hge (hok.unused_before ht hexec hmay hnot hnone)⟩

/-- A stored session is not marked, after an action. -/
theorem SeenOk.unmarked_acted (hmay : conductMay NewSession.Fresh (heldBy t) op) :
    ∀ session', shared.store.heap[a]? = some session' → a ∈ shared.store.stored →
      session'.closing = false ∧ session'.work.cancelled = false := by
  have hlife := hok.reaches.lifetimes.1
  obtain ⟨-, -, hstored⟩ := serviceExec_extends hlife.table hexec
  intro session' hsession' hmem
  cases hold : s.system.shared.store.heap[a]? with
  | none =>
    obtain ⟨new, added, hadds, -, rfl⟩ :=
      (serviceExec_effect hlife.table hexec).created hold hsession'
    exact ⟨rfl, fresh_adds hmay hadds⟩
  | some session =>
    have hlt := (List.getElem?_eq_some_iff.1 hold).1
    have hbefore := hstored a hmem hlt
    obtain ⟨hclosing, hcancelled⟩ := hok.unmarked session hold hbefore
    obtain ⟨_, hfound, hchange⟩ := (serviceExec_effect hlife.table hexec).session hlife.table hold
    obtain rfl := some.inj (hfound.symm.trans hsession')
    cases hchange with
    | same _ => exact ⟨hclosing, hcancelled⟩
    | acquired _ => exact ⟨hclosing, hcancelled⟩
    | detached _ hnot => exact absurd hmem hnot
    | inside hop =>
      have hmarks : ¬ op.marks := by
        intro hmarks
        have howned : a ∈ (heldBy t).owned := by
          cases op with
          | cancel addr => exact some.inj hop ▸ hmay
          | beginDestroy addr => exact some.inj hop ▸ hmay
          | _ => exact hmarks.elim
        have hall : a ∈ (s.system.threads.map heldBy).flatMap Held.owned :=
          mem_flatMap.2 ⟨heldBy t, mem_map_of_mem (mem_of_getElem? ht), howned⟩
        exact (nodup_append.1 hlife.book.live).2.2 a hbefore a hall rfl
      obtain ⟨hclosing', hcancelled'⟩ := ServiceOp.leaves_marks hmarks (world.atTime now) session
      exact ⟨hclosing'.trans hclosing, hcancelled'.trans hcancelled⟩

end

/-- **What every step keeps.** -/
theorem SeenOk.step (hok : SeenOk config a s)
    (hattends : Attends a s e) (hstep : config.clockedStep s e = some s') : SeenOk config a s' := by
  have hreaches := hok.reaches.clockedStep hstep
  rcases ServiceConfig.clockedStep_cases hstep with ⟨call, -, hseen, hsystem⟩ |
    ⟨i, world, t, he, ht, α, op, k, b, shared, hrest, hexec, hseen, hsystem⟩
  · exact hok.started hreaches hseen hsystem
  · have hmem : t ∈ s.system.threads := mem_of_getElem? ht
    have huse : UsesAtOnce a s (s.clock + e.1) t.request.useKind op := by
      unfold Attends at hattends
      rw [he] at hattends
      have := hattends t ht
      rwa [hrest] at this
    obtain ⟨hmay, hgo⟩ : attendMay (attendingOf t) op ∧
        ∀ b, attending.wp (k b) (fun _ _ => True) (attendAfter (attendingOf t) op b) := by
      have := hok.attends t hmem
      rwa [hrest] at this
    have howns : conductMay NewSession.Fresh (heldBy t) op := by
      have := hok.reaches.lifetimes.2 t hmem
      rw [hrest] at this
      exact this.1
    obtain ⟨system', clock', seen'⟩ := s'
    subst hsystem hseen
    refine ⟨hreaches, ?_, hok.uses_acted ht hexec huse, hok.touched_acted ht hexec hmay huse,
      hok.unmarked_acted ht hexec howns⟩
    intro u hu
    rcases mem_or_eq_of_mem_set hu with hu | rfl
    · exact hok.attends u hu
    · rw [attendingOf_act]
      exact hgo b

theorem SeenOk.run {events : List (Nat × Event (ServiceCall χ) (ServiceWorld χ))}
    (hattends : Runs.Along config.clockedStep (Attends a) config.clockedStart events)
    (hrun : Runs.run config.clockedStep config.clockedStart events = some s) :
    SeenOk config a s :=
  Runs.run_induction (fun _ s => SeenOk config a s)
    (fun _ _ _ _ hok hattends hstep => hok.step hattends hstep)
      (seenOk_start config a) hattends hrun

/-- Which sessions a prune takes for idle: those that are not exhausted and whose owner was not
    seen for longer than the limit. -/
theorem SeenOk.idleAt {session : Session χ} (hok : SeenOk config a s) (now : Nat)
    (hsession : s.system.shared.store.heap[a]? = some session)
    (hstored : a ∈ s.system.shared.store.stored) (hfree : session.refcount = 0) :
    s.system.shared.store.idleAt now a = true ↔
      session.work.eos = false ∧ s.seen a + config.idleMs < now := by
  obtain ⟨hclosing, hcancelled⟩ := hok.unmarked session hsession hstored
  obtain ⟨hle, hge⟩ := hok.touched session hsession
  have htouch : session.work.lastTouchMs = s.seen a :=
    le_antisymm hle (hge (hok.reaches.unused_free hsession hfree))
  unfold SessionStore.idleAt Session.idle
  rw [hsession, hok.reaches.sessionIdleMs]
  simp only [map_some, hclosing, hfree, hcancelled, decide_true, Bool.not_false, Bool.true_and,
    some.injEq, decide_eq_true_eq, Bool.and_eq_true, Bool.not_eq_true', and_assoc]
  refine and_congr_right fun _ => ?_
  omega

/-- **Idle cleanup.** In every run in which the owner of a session sends it nothing but fetches,
    if it is a query, and appends, and in which none of these has to wait between its lookup and
    its section, a prune that is not interrupted removes the session, when nobody holds it and
    its owner was not seen for longer than the limit, just when it is not exhausted. Only a
    lookup with its credentials counts as a sight of its owner, and no prune removes it earlier. -/
theorem idleCleanup (config : ServiceConfig) (hidle : config.idleMs ≠ 0) (a : Nat)
    (events : List (Nat × Event (ServiceCall χ) (ServiceWorld χ))) (s : ClockedSystem χ)
    (hrun : Runs.run config.clockedStep config.clockedStart events = some s)
    (hattends : Runs.Along config.clockedStep (Attends a) config.clockedStart events) :
    (∀ session now thread rounds, s.system.shared.store.heap[a]? = some session →
      a ∈ s.system.shared.store.stored → session.refcount = 0 → s.seen a + config.idleMs < now →
      s.system.shared.store.stored.length < rounds →
      (∃ worlds answer, serviceMachine.alone thread (pruneIdleSessions now rounds 0)
        s.system.shared worlds = some answer) ∧
      ∀ worlds r st', serviceMachine.alone thread (pruneIdleSessions now rounds 0)
        s.system.shared worlds = some (r, st') →
        (a ∉ st'.store.stored ↔ session.work.eos = false)) ∧
    (∀ e s', config.clockedStep s e = some s' → s'.seen a ≠ s.seen a →
      s.system.shared.store.heap[a]? = none ∨
        ∃ (i : Nat) (world : ServiceWorld χ) (t : Thread _ _ _) (α : Type) (op : ServiceOp χ α)
          (k : α → ServiceProg χ (HandlerReply χ)), e.2 = .act i world ∧
            s.system.threads[i]? = some t ∧ t.rest = .act op k ∧
            op.Names s.system.shared.store a) ∧
    ∀ now i next store', pruneIdle s.system.shared.store now i = (some (a, next), store') →
      s.seen a + config.idleMs < now := by
  have hok := SeenOk.run hattends hrun
  have htable := hok.reaches.lifetimes.1.table
  refine ⟨?_, ?_, ?_⟩
  -- a prune that runs alone removes just what was idle before it
  · intro session now thread rounds hsession hstored hfree hnow hrounds
    have hlimit : s.system.shared.store.sessionIdleMs ≠ 0 := hok.reaches.sessionIdleMs ▸ hidle
    have hends := pruneIdleSessions_ends htable hlimit
      (show s.system.shared.store.stored = [] ++ s.system.shared.store.stored from rfl) now rounds
      thread hrounds
    obtain ⟨hgo, hall⟩ := Machine.alone_of_ends hends
    refine ⟨hgo, fun worlds r st' halone => ?_⟩
    rw [hall worlds r st' halone, nil_append, mem_filter]
    have hat := hok.idleAt now hsession hstored hfree
    constructor
    · intro hnot
      refine (hat.1 ?_).1
      by_contra hbusy
      exact hnot ⟨hstored, by simpa using hbusy⟩
    · rintro heos ⟨-, hbusy⟩
      rw [hat.2 ⟨heos, hnow⟩] at hbusy
      exact Bool.noConfusion hbusy
  -- only a section that names the session can move its time
  · intro e s' hstep hseen
    rcases ServiceConfig.clockedStep_cases hstep with ⟨call, -, hsame, -⟩ |
      ⟨i, world, t, he, ht, α, op, k, b, shared, hrest, hexec, hafter, -⟩
    · exact absurd (congrFun hsame a) hseen
    · rw [hafter] at hseen
      cases hold : s.system.shared.store.heap[a]? with
      | none => exact .inl rfl
      | some session =>
        refine .inr ⟨i, world, t, α, op, k, he, ht, hrest, ?_⟩
        refine (names_of_acquiresRef htable hexec ?_).1
        by_contra hnot
        refine hseen (seenAfter_same (Bool.not_eq_true _ ▸ hnot) ?_)
        intro new added hadds haddr
        -- a new session gets an address of its own
        have hlen := ((serviceExec_effect htable hexec).adds hadds).1
        have hlt := (List.getElem?_eq_some_iff.1 hold).1
        omega
  -- what is removed was idle and unused, so its time has passed
  · intro now i next store' hprune
    rcases htable.pruneIdle_spec now i with ⟨addr, j, session, hfound, hsession, hidle, hd⟩ |
      ⟨hnone, _⟩
    · obtain ⟨rfl, rfl⟩ : addr = a ∧ j = next := by
        rw [hprune] at hfound
        exact (Prod.mk.inj (some.inj hfound)).imp Eq.symm Eq.symm
      obtain ⟨_, hj, _, _⟩ := hd
      have hfree : session.refcount = 0 := by
        simp only [Session.idle, Bool.and_eq_true, decide_eq_true_eq] at hidle
        exact hidle.1.1.1.1.2
      refine ((hok.idleAt now hsession (mem_of_getElem? hj) hfree).1 ?_).2
      refine decide_eq_true ?_
      rw [hsession]
      exact congrArg some hidle
    · rw [hprune] at hnone
      cases hnone

/-- A fetch of session 1 by its owner. -/
def ownersFetch : ServiceCall Unit :=
  ⟨.control .fetch ⟨true, true, true⟩
   [0x7b, 0x22, 0x73, 0x65, 0x73, 0x73, 0x69, 0x6f, 0x6e, 0x5f, 0x69, 0x64, 0x22, 0x3a, 0x31,
    0x2c, 0x22, 0x73, 0x65, 0x73, 0x73, 0x69, 0x6f, 0x6e, 0x5f, 0x74, 0x6f, 0x6b, 0x65, 0x6e,
    0x22, 0x3a, 0x22, 0x74, 0x22, 0x7d], none, 0⟩

/-- A query session with this result is opened at the time 7 and fetched from at the time 107. -/
def openThenFetch (result : List Unit) :
    List (Nat × Event (ServiceCall Unit) (ServiceWorld Unit)) :=
  (7, .start ⟨.queryOpen (.ok ⟨none, 0, 0, none, result⟩), none, 0⟩) ::
    (replicate 9 (0, .act 0 (calmWorld [])) ++
      (100, .start ownersFetch) :: replicate 5 (0, .act 1 (calmWorld [])))

theorem openThenFetch_attends : Runs.Along smallConfig.clockedStep (Attends 0)
    smallConfig.clockedStart (openThenFetch [()]) := by
  -- the opening does not look sessions up
  refine .cons trivial rfl ?_
  iterate 9 refine .cons (fun t ht => some.inj ht ▸ ⟨False.elim, False.elim⟩) rfl ?_
  refine .cons trivial rfl ?_
  refine .cons (fun t ht => some.inj ht ▸ ⟨False.elim, False.elim⟩) rfl ?_
  refine .cons (fun t ht => some.inj ht ▸ ⟨fun _ session h => ?_, False.elim⟩) rfl ?_
  · exact some.inj h ▸ rfl
  refine .cons (fun t ht => some.inj ht ▸ ⟨False.elim, False.elim⟩) rfl ?_
  refine .cons (fun t ht => some.inj ht ▸ ⟨False.elim, fun _ => rfl⟩) rfl ?_
  refine .cons (fun t ht => some.inj ht ▸ ⟨False.elim, False.elim⟩) rfl ?_
  trivial

/-- A session with rows left is removed. -/
theorem idleCleanup_openThenFetch :
    ∃ (s : ClockedSystem Unit) (session : Session Unit),
      Runs.run smallConfig.clockedStep smallConfig.clockedStart (openThenFetch [()]) = some s ∧
      s.system.shared.store.heap[0]? = some session ∧ s.seen 0 = 107 ∧
      ∀ worlds r st', serviceMachine.alone 2 (pruneIdleSessions 1108 2 0) s.system.shared worlds =
        some (r, st') → 0 ∉ st'.store.stored := by
  have hrun : Runs.run smallConfig.clockedStep smallConfig.clockedStart (openThenFetch [()]) =
    some _ := rfl
  refine ⟨_, _, hrun, rfl, rfl, fun worlds r st' halone => ?_⟩
  have hall := (idleCleanup smallConfig (by decide) 0 _ _ hrun openThenFetch_attends).1 _ 1108 2 2
    rfl (by decide) rfl (by decide) (by decide)
  exact (hall.2 worlds r st' halone).2 rfl

/-- **An exhausted session is never removed**, however long its owner is away. -/
theorem exhausted_stays :
    ∃ (s : ClockedSystem Unit) (session : Session Unit),
      Runs.run smallConfig.clockedStep smallConfig.clockedStart (openThenFetch []) = some s ∧
      s.system.shared.store.heap[0]? = some session ∧ session.refcount = 0 ∧
      session.work.eos = true ∧ s.seen 0 = 107 ∧ smallConfig.idleMs = 1000 ∧
      ∃ worlds r st', serviceMachine.alone 2 (pruneIdleSessions 1000000 2 0) s.system.shared
        worlds = some (r, st') ∧ 0 ∈ st'.store.stored := by
  have hrun : Runs.run smallConfig.clockedStep smallConfig.clockedStart (openThenFetch []) =
    some _ := rfl
  exact ⟨_, _, hrun, rfl, rfl, rfl, rfl, rfl, [calmWorld []], _, _, rfl, by decide⟩

end

end Ducknng
