import Ducknng.Service.Connections
import Ducknng.Service.Subjects

namespace Ducknng

open List

/-!
# What the holders of a pooled connection leave on it

A holder of a pooled connection runs any SQL on it. When it gives the connection back, the
subject that was bound to it is unbound and the temporary tables and views are dropped, by SQL
on the same connection.

* `SqlEngine.Transactional` — what is assumed of DuckDB.
* `PoolState`, `PoolState.step` — holders that come and go.
* `resetPoolConnection_clean` — when the reset leaves nothing behind.
* `pooledConnections_clean` — what a new holder finds.
-/

/-! ### A connection -/

/-- A temporary table or view. -/
structure TempObject where
  isView : Bool
  schema : CStr
  name : CStr
  deriving DecidableEq

/-- An open transaction, with the temporary objects as it sees them. -/
structure TempTransaction where
  temps : List TempObject
  aborted : Bool
  deriving DecidableEq

/-- A connection: the temporary objects outside of any transaction, and the transaction that is
    open, if there is one. -/
structure PooledConnection where
  temps : List TempObject
  txn : Option TempTransaction
  deriving DecidableEq

/-- A connection that was just opened. -/
def PooledConnection.new : PooledConnection := ⟨[], none⟩

/-- The temporary objects that a statement sees. -/
def PooledConnection.visible (c : PooledConnection) : List TempObject :=
  match c.txn with
  | some txn => txn.temps
  | none => c.temps

/-- Statements, by what they do to transactions and temporary objects. -/
inductive TempStatement where
  | beginTransaction
  | commit
  | rollback
  | createTemp (object : TempObject)
  | dropTemp (object : TempObject)
  | other
  deriving DecidableEq

/-- How a statement ends that DuckDB does not refuse; an error may abort the transaction. -/
inductive StatementOutcome where
  | ok
  | error (aborts : Bool)
  deriving DecidableEq

/-- What DuckDB does with a statement on a connection: whether it succeeds, and the connection
    after it. -/
abbrev SqlEngine := PooledConnection → TempStatement → StatementOutcome → Bool × PooledConnection

/-- What is assumed of DuckDB about the statements of a reset: outside of a transaction a query
    changes nothing and a `DROP` that succeeds drops its object, and neither ends a transaction. -/
structure SqlEngine.Transactional (duckdb : SqlEngine) : Prop where
  query : ∀ temps outcome,
    duckdb ⟨temps, none⟩ .other outcome = (decide (outcome = .ok), ⟨temps, none⟩)
  drop : ∀ temps object, duckdb ⟨temps, none⟩ (.dropTemp object) .ok =
    (true, ⟨temps.filter (· ≠ object), none⟩)
  keeps : ∀ c statement outcome, c.txn.isSome →
    (statement = .other ∨ ∃ object, statement = .dropTemp object) →
      (duckdb c statement outcome).2.txn.isSome

section
variable (duckdb : SqlEngine)

/-! ### The reset -/

/-- The script that `ducknng_service_reset_pool_connection` lets DuckDB build: a `DROP` for each
    temporary table, then for each temporary view. -/
def dropScript (temps : List TempObject) : List TempStatement :=
  (temps.filter fun o => !o.isView).map .dropTemp ++ (temps.filter fun o => o.isView).map .dropTemp

/-- A script, statement by statement until one fails; outcomes that are not given are good. -/
def SqlEngine.runScript :
    PooledConnection → List TempStatement → List StatementOutcome → PooledConnection
  | c, [], _ => c
  | c, statement :: script, outcomes =>
    match duckdb c statement (outcomes.headD .ok) with
    | (true, c') => SqlEngine.runScript c' script outcomes.tail
    | (false, c') => c'

/-- What DuckDB and the allocator answer to the reset: how the query for the script ends, whether
    its text could be copied, and how the statements of the script end. -/
structure ResetWorld where
  build : StatementOutcome
  copied : Bool
  drops : List StatementOutcome
  deriving DecidableEq

/-- `ducknng_service_reset_pool_connection`. -/
def resetPoolConnection (c : PooledConnection) (world : ResetWorld) : PooledConnection :=
  match duckdb c .other world.build with
  | (false, c') => c'
  | (true, c') =>
    if !world.copied then c' else duckdb.runScript c' (dropScript c'.visible) world.drops

/-! ### Holders -/

/-- Who holds a connection: a request, which has bound its subject or not, or a session. -/
structure PoolHolder where
  session : Bool
  subjectBound : Bool
  deriving DecidableEq

/-- The pool, its connections and their holders by slot, and the subjects bound to connections. -/
structure PoolState where
  pool : ExecutionPool
  connections : Nat → PooledConnection
  holders : Nat → Option PoolHolder
  bindings : List SubjectBinding

/-- A pool of new connections. -/
def PoolState.start (connections poolMax : Nat) : PoolState :=
  ⟨⟨replicate connections false, poolMax⟩, fun _ => .new, fun _ => none, []⟩

/-- What happens to the pool. -/
inductive PoolEvent where
  | acquire (session : Bool) (subject : Option CStr) (connect timedOut copied room : Bool)
  | execute (slot : Nat) (statement : TempStatement) (outcome : StatementOutcome)
  | release (slot : Nat) (world : ResetWorld)
  deriving DecidableEq

/-- The new holder binds the subject that is current on its thread: `enter_request_sql` in the
    request-connection model, and `ducknng_service_acquire_session_connection`. -/
def PoolState.handOut (ids : Nat → Nat) (s : PoolState) (pool : ExecutionPool) (slot : Nat)
    (session : Bool) (subject : Option CStr) (copied room : Bool) : PoolState :=
  let (bound, bindings) := bindConnection (ids slot) subject copied room s.bindings
  { s with
    pool := pool
    holders := Function.update s.holders slot (some ⟨session, bound⟩)
    bindings := bindings }

/-- `ducknng_service_leave_request_sql` of a request that owns its connection, and
    `ducknng_service_release_session_connection`. A session unbinds whatever is bound, a request
    what it has bound itself. -/
def PoolState.giveBack (ids : Nat → Nat) (s : PoolState) (slot : Nat) (holder : PoolHolder)
    (world : ResetWorld) : PoolState :=
  { pool := s.pool.markFree slot
    connections := Function.update s.connections slot
      (resetPoolConnection duckdb (s.connections slot) world)
    holders := Function.update s.holders slot none
    bindings :=
      if holder.session || holder.subjectBound then unbindConnection (ids slot) s.bindings
      else s.bindings }

/-- One step. The connection of a slot has an id of DuckDB; only its holder uses it. -/
def PoolState.step (ids : Nat → Nat) (s : PoolState) : PoolEvent → Option PoolState
  | .acquire session subject connect timedOut copied room =>
    match s.pool.acquire connect timedOut with
    | none => none
    | some (.error _, pool) => some { s with pool := pool }
    | some (.ok slot, pool) => some (s.handOut ids pool slot session subject copied room)
  | .execute slot statement outcome =>
    match s.holders slot with
    | none => none
    | some _ => some { s with
        connections := Function.update s.connections slot
          (duckdb (s.connections slot) statement outcome).2 }
  | .release slot world =>
    match s.holders slot with
    | none => none
    | some holder => some (s.giveBack duckdb ids slot holder world)

end

open PoolState

/-- The slot that a step hands to a new holder. -/
def PoolState.handsOut (s : PoolState) : PoolEvent → Option Nat
  | .acquire _ _ connect timedOut _ _ =>
    match s.pool.acquire connect timedOut with
    | some (.ok slot, _) => some slot
    | _ => none
  | _ => none

/-! ### When the reset works -/

/-- Nothing is left on the connection. -/
structure PooledConnection.Clean (c : PooledConnection) : Prop where
  txn : c.txn = none
  temps : c.temps = []

/-- DuckDB builds the script, there is memory for it, and all its statements succeed. -/
structure ResetWorld.Works (world : ResetWorld) : Prop where
  build : world.build = .ok
  copied : world.copied = true
  drops : ∀ outcome ∈ world.drops, outcome = .ok

section
variable {duckdb : SqlEngine} (hduckdb : duckdb.Transactional)
include hduckdb

/-- A script of drops that succeed drops its objects. -/
theorem runScript_drops {temps objects : List TempObject} {outcomes : List StatementOutcome}
    (hok : ∀ outcome ∈ outcomes, outcome = .ok) :
    duckdb.runScript ⟨temps, none⟩ (objects.map .dropTemp) outcomes =
      ⟨temps.filter (· ∉ objects), none⟩ := by
  induction objects generalizing temps outcomes with
  | nil => simp [SqlEngine.runScript]
  | cons object objects ih =>
    have hhead : outcomes.headD .ok = .ok := by
      cases outcomes with
      | nil => rfl
      | cons outcome outcomes => exact hok outcome mem_cons_self
    rw [map_cons, SqlEngine.runScript, hhead, hduckdb.drop]
    dsimp only
    rw [ih fun outcome hmem => hok outcome (mem_of_mem_tail hmem), filter_filter]
    congr 1
    refine filter_congr fun o _ => ?_
    simp [Bool.and_comm]

omit hduckdb in
/-- Every temporary object is in the script. -/
theorem dropScript_eq (temps : List TempObject) : ∃ objects : List TempObject,
    dropScript temps = objects.map .dropTemp ∧ ∀ object ∈ temps, object ∈ objects := by
  refine ⟨(temps.filter fun o => !o.isView) ++ temps.filter fun o => o.isView, ?_, ?_⟩
  · rw [dropScript, map_append]
  · intro object hmem
    rw [mem_append, mem_filter, mem_filter]
    cases hview : object.isView with
    | true => exact .inr ⟨hmem, rfl⟩
    | false => exact .inl ⟨hmem, rfl⟩

variable {c : PooledConnection}

/-- **When the reset works**: outside of a transaction, if there is nothing to drop or all of it
    is dropped. -/
theorem resetPoolConnection_clean {world : ResetWorld} (htxn : c.txn = none)
    (h : c.temps = [] ∨ world.Works) : (resetPoolConnection duckdb c world).Clean := by
  obtain ⟨temps, txn⟩ := c
  obtain rfl : txn = none := htxn
  rcases h with htemps | hworks
  · obtain rfl : temps = [] := htemps
    unfold resetPoolConnection
    rw [hduckdb.query]
    cases world.build with
    | error aborts => exact ⟨rfl, rfl⟩
    | ok =>
      show PooledConnection.Clean (if !world.copied then ⟨[], none⟩ else ⟨[], none⟩)
      split <;> exact ⟨rfl, rfl⟩
  · obtain ⟨objects, hscript, hall⟩ := dropScript_eq temps
    have hreset : resetPoolConnection duckdb ⟨temps, none⟩ world =
        ⟨temps.filter (· ∉ objects), none⟩ := by
      unfold resetPoolConnection
      rw [hduckdb.query, hworks.build]
      show (if !world.copied then (⟨temps, none⟩ : PooledConnection)
        else duckdb.runScript ⟨temps, none⟩ (dropScript temps) world.drops) = _
      rw [hworks.copied, hscript]
      exact runScript_drops hduckdb hworks.drops
    rw [hreset]
    refine ⟨rfl, filter_eq_nil_iff.2 fun object hmem => ?_⟩
    simpa using hall object hmem

/-- The reset does not end a transaction. -/
theorem resetPoolConnection_txn (htxn : c.txn.isSome) (world : ResetWorld) :
    (resetPoolConnection duckdb c world).txn.isSome := by
  have hscript : ∀ (objects : List TempObject) (c : PooledConnection)
      (outcomes : List StatementOutcome), c.txn.isSome →
        (duckdb.runScript c (objects.map .dropTemp) outcomes).txn.isSome := by
    intro objects
    induction objects with
    | nil => exact fun _ _ h => h
    | cons object objects ih =>
      intro c outcomes h
      rw [map_cons, SqlEngine.runScript]
      have hnext := hduckdb.keeps c _ (outcomes.headD .ok) h (.inr ⟨object, rfl⟩)
      cases hexec : duckdb c (.dropTemp object) (outcomes.headD .ok) with
      | mk success c' =>
        rw [hexec] at hnext
        cases success with
        | true => exact ih c' outcomes.tail hnext
        | false => exact hnext
  unfold resetPoolConnection
  have hbuild := hduckdb.keeps c _ world.build htxn (.inl rfl)
  cases hexec : duckdb c .other world.build with
  | mk success c' =>
    rw [hexec] at hbuild
    cases success with
    | false => exact hbuild
    | true =>
      dsimp only
      split
      · exact hbuild
      · obtain ⟨objects, heq, -⟩ := dropScript_eq c'.visible
        rw [heq]
        exact hscript objects c' world.drops hbuild

end

/-! ### Every sequence of holders -/

/-- What every step keeps: who has a connection holds a busy slot, and what nobody has is clean
    and has no subject. -/
structure PoolOk (ids : Nat → Nat) (s : PoolState) : Prop where
  busy : ∀ slot, s.holders slot ≠ none → s.pool.busy[slot]? = some true
  clean : ∀ slot, s.holders slot = none → (s.connections slot).Clean
  bindings : BindingsOk s.bindings
  bound : ∀ slot, ids slot ∈ s.bindings.map SubjectBinding.connectionId →
    ∃ holder, s.holders slot = some holder ∧ (holder.session || holder.subjectBound) = true

/-- A holder gives its connection back outside of a transaction, and without temporary objects or
    when the reset works. -/
def PoolState.GivesBackClean (s : PoolState) : PoolEvent → Prop
  | .release slot world => (s.connections slot).txn = none ∧
      ((s.connections slot).temps = [] ∨ world.Works)
  | _ => True

section
variable {duckdb : SqlEngine} {ids : Nat → Nat} {s s' : PoolState}

variable {connect timedOut : Bool} {slot : Nat} {pool : ExecutionPool}

section
variable (hheld : ∀ slot, s.holders slot ≠ none → s.pool.busy[slot]? = some true)
include hheld

/-- A slot that is handed out was nobody's. -/
theorem PoolState.unheld (h : s.pool.acquire connect timedOut = some (.ok slot, pool)) :
    s.holders slot = none ∧ pool.busy[slot]? = some true ∧
      ∀ j : Nat, s.pool.busy[j]? = some true → pool.busy[j]? = some true := by
  rcases ExecutionPool.acquire_spec h with ⟨slot', hslot, hfree, hbusy⟩ | ⟨hslot, hbusy⟩ |
    ⟨_, hslot, _⟩
  · cases hslot
    refine ⟨?_, ?_, fun j hj => ?_⟩
    · by_contra hnone
      exact absurd (hfree.symm.trans (hheld slot hnone)) (by simp)
    · rw [hbusy, List.getElem?_set_self (List.getElem?_eq_some_iff.1 hfree).1]
    · rw [hbusy, List.getElem?_set]
      split
      · next heq =>
        rw [if_pos (heq ▸ (List.getElem?_eq_some_iff.1 hj).1)]
      · exact hj
  · cases hslot
    refine ⟨?_, ?_, fun j hj => ?_⟩
    · by_contra hnone
      have hlt := (List.getElem?_eq_some_iff.1 (hheld _ hnone)).1
      exact Nat.lt_irrefl _ hlt
    · rw [hbusy, getElem?_append_right (Nat.le_refl _), Nat.sub_self]
      rfl
    · rw [hbusy, List.getElem?_append_left (List.getElem?_eq_some_iff.1 hj).1, hj]
  · cases hslot

/-- The slots of the holders stay busy when a slot is handed out. -/
theorem PoolState.busy_handOut
    (h : s.pool.acquire connect timedOut = some (.ok slot, pool)) (session : Bool)
    (subject : Option CStr) (copied room : Bool) (j : Nat)
    (hj : (s.handOut ids pool slot session subject copied room).holders j ≠ none) :
    (s.handOut ids pool slot session subject copied room).pool.busy[j]? = some true := by
  obtain ⟨-, hbusy, hkeep⟩ := unheld hheld h
  unfold PoolState.handOut at hj ⊢
  dsimp only at hj ⊢
  by_cases heq : j = slot
  · rw [heq]
    exact hbusy
  · rw [Function.update_of_ne heq] at hj
    exact hkeep j (hheld j hj)

/-- The slots of the holders stay busy when one goes. -/
theorem PoolState.busy_giveBack (slot : Nat)
    (holder : PoolHolder) (world : ResetWorld) (j : Nat)
    (hj : (s.giveBack duckdb ids slot holder world).holders j ≠ none) :
    (s.giveBack duckdb ids slot holder world).pool.busy[j]? = some true := by
  unfold PoolState.giveBack at hj ⊢
  dsimp only at hj ⊢
  have hne : slot ≠ j := by
    rintro rfl
    rw [Function.update_self] at hj
    exact hj rfl
  rw [Function.update_of_ne hne.symm] at hj
  unfold ExecutionPool.markFree
  split
  · rw [getElem?_set_ne hne]
    exact hheld j hj
  · exact hheld j hj

end

/-- A new holder. -/
theorem PoolOk.handOut (hids : Function.Injective ids) (hok : PoolOk ids s)
    (h : s.pool.acquire connect timedOut = some (.ok slot, pool)) (session : Bool)
    (subject : Option CStr) (copied room : Bool) :
    PoolOk ids (s.handOut ids pool slot session subject copied room) := by
  have hnone := (unheld hok.busy h).1
  refine ⟨busy_handOut hok.busy h session subject copied room, fun j hj => ?_,
    hok.bindings.bind _ _ _ _, fun j hj => ?_⟩
  · unfold PoolState.handOut at hj ⊢
    dsimp only at hj ⊢
    by_cases heq : j = slot
    · rw [heq, Function.update_self] at hj
      cases hj
    · rw [Function.update_of_ne heq] at hj
      exact hok.clean j hj
  · rcases mem_bindConnection hj with hold | ⟨hid, hbound⟩
    · obtain ⟨holder, hholder, hbound⟩ := hok.bound j hold
      have hne : j ≠ slot := by
        rintro rfl
        rw [hnone] at hholder
        cases hholder
      exact ⟨holder, (Function.update_of_ne hne ..).trans hholder, hbound⟩
    · obtain rfl := hids hid
      refine ⟨⟨session, true⟩, ?_, Bool.or_true _⟩
      rw [← hbound]
      exact Function.update_self ..

/-- A holder goes. -/
theorem PoolOk.giveBack (hduckdb : duckdb.Transactional) (hok : PoolOk ids s) {holder : PoolHolder}
    (hheld : s.holders slot = some holder) {world : ResetWorld}
    (hclean : s.GivesBackClean (.release slot world)) :
    PoolOk ids (s.giveBack duckdb ids slot holder world) := by
  refine ⟨busy_giveBack hok.busy slot holder world, fun j hj => ?_, ?_, fun j hj => ?_⟩
  · unfold PoolState.giveBack at hj ⊢
    dsimp only at hj ⊢
    by_cases heq : j = slot
    · rw [heq, Function.update_self]
      exact resetPoolConnection_clean hduckdb hclean.1 hclean.2
    · rw [Function.update_of_ne heq] at hj ⊢
      exact hok.clean j hj
  · show BindingsOk (if _ then _ else _)
    split
    · exact hok.bindings.unbind _
    · exact hok.bindings
  · have hj : ids j ∈ (if holder.session || holder.subjectBound then
        unbindConnection (ids slot) s.bindings else s.bindings).map SubjectBinding.connectionId :=
          hj
    have hold : ids j ∈ s.bindings.map SubjectBinding.connectionId := by
      split at hj
      · exact (eraseP_sublist.map _).subset hj
      · exact hj
    obtain ⟨holder', hholder', hbound⟩ := hok.bound j hold
    -- the binding of the connection itself is gone, whoever made it
    have hne : j ≠ slot := by
      rintro rfl
      obtain rfl : holder = holder' := Option.some.inj (hheld.symm.trans hholder')
      rw [if_pos hbound] at hj
      exact hok.bindings.not_mem_unbind _ hj
    exact ⟨holder', (Function.update_of_ne hne ..).trans hholder', hbound⟩

/-- **What every step keeps.** -/
theorem PoolOk.step (hduckdb : duckdb.Transactional) (hids : Function.Injective ids)
    (hok : PoolOk ids s) {e : PoolEvent} (hclean : s.GivesBackClean e)
    (hstep : s.step duckdb ids e = some s') : PoolOk ids s' := by
  cases e with
  | acquire session subject connect timedOut copied room =>
    unfold PoolState.step at hstep
    dsimp only at hstep
    split at hstep
    · cases hstep
    · next message pool hacquire =>
      cases hstep
      obtain rfl := ExecutionPool.acquire_error hacquire
      exact { hok with }
    · next slot pool hacquire =>
      cases hstep
      exact hok.handOut hids hacquire session subject copied room
  | execute slot statement outcome =>
    unfold PoolState.step at hstep
    dsimp only at hstep
    split at hstep
    · cases hstep
    · next holder hheld =>
      cases hstep
      -- only the holder's own connection changes, and it is not free
      refine ⟨hok.busy, fun j hj => ?_, hok.bindings, hok.bound⟩
      have hne : j ≠ slot := by
        rintro rfl
        exact absurd (hheld.symm.trans hj) (by simp)
      show (Function.update s.connections slot _ j).Clean
      rw [Function.update_of_ne hne]
      exact hok.clean j hj
  | release slot world =>
    unfold PoolState.step at hstep
    dsimp only at hstep
    split at hstep
    · cases hstep
    · next holder hheld =>
      cases hstep
      exact hok.giveBack hduckdb hheld hclean

/-- **Pooled connections are clean when handed out**, in every run in which every holder gives its
    connection back outside of a transaction and without temporary objects, or with a reset that
    works; a connection that is given back inside of a transaction stays in it. DuckDB gives
    connections different ids. -/
theorem pooledConnections_clean (duckdb : SqlEngine) (hduckdb : duckdb.Transactional)
    (ids : Nat → Nat) (hids : Function.Injective ids)
    (connections poolMax : Nat) (events : List PoolEvent) (s : PoolState)
    (hclean : Runs.Along (PoolState.step duckdb ids) GivesBackClean
      (.start connections poolMax) events)
    (hrun : Runs.run (PoolState.step duckdb ids) (.start connections poolMax) events = some s) :
    (∀ e slot, s.handsOut e = some slot →
      (s.connections slot).txn = none ∧ (s.connections slot).temps = [] ∧
        ids slot ∉ s.bindings.map SubjectBinding.connectionId) ∧
    ∀ slot world s', s.step duckdb ids (.release slot world) = some s' →
      (s.connections slot).txn ≠ none → (s'.connections slot).txn ≠ none := by
  have hstart : PoolOk ids (.start connections poolMax) :=
    ⟨fun _ h => absurd rfl h, fun _ _ => ⟨rfl, rfl⟩, nodup_nil, fun _ h => absurd h not_mem_nil⟩
  have hok : PoolOk ids s := Runs.run_induction (fun _ s => PoolOk ids s)
    (fun _ _ _ _ hok hclean hstep => hok.step hduckdb hids hclean hstep) hstart hclean hrun
  constructor
  · intro e slot hhands
    obtain ⟨connect, timedOut, pool, hacquire⟩ : ∃ connect timedOut pool,
        s.pool.acquire connect timedOut = some (.ok slot, pool) := by
      cases e with
      | acquire session subject connect timedOut copied room =>
        unfold handsOut at hhands
        dsimp only at hhands
        split at hhands
        · next slot' pool hacquire =>
          cases hhands
          exact ⟨connect, timedOut, pool, hacquire⟩
        · cases hhands
      | _ => cases hhands
    -- a slot that is handed out had no holder, so it was clean
    have hnone := (unheld hok.busy hacquire).1
    have hfree := hok.clean slot hnone
    refine ⟨hfree.txn, hfree.temps, fun hmem => ?_⟩
    obtain ⟨holder, hholder, -⟩ := hok.bound slot hmem
    exact absurd (hholder.symm.trans hnone) (by simp)
  · intro slot world s' hstep htxn
    unfold PoolState.step at hstep
    dsimp only at hstep
    split at hstep
    · cases hstep
    · cases hstep
      -- no statement of the reset ends a transaction
      show (Function.update s.connections slot _ slot).txn ≠ none
      rw [Function.update_self]
      exact Option.isSome_iff_ne_none.1
        (resetPoolConnection_txn hduckdb (Option.isSome_iff_ne_none.2 htxn) world)

/-! ### An engine -/

/-- A statement outside of a transaction. -/
def PooledConnection.autocommit (c : PooledConnection) : TempStatement → Bool × PooledConnection
  | .beginTransaction => (true, { c with txn := some ⟨c.temps, false⟩ })
  | .commit => (false, c)
  | .rollback => (false, c)
  | .createTemp object => (true, { c with temps := c.temps ++ [object] })
  | .dropTemp object => (true, { c with temps := c.temps.filter (· ≠ object) })
  | .other => (true, c)

/-- A statement inside of a transaction; what it does takes effect with the transaction. -/
def PooledConnection.inTransaction (c : PooledConnection) (txn : TempTransaction) :
    TempStatement → Bool × PooledConnection
  | .beginTransaction => (false, c)
  | .commit => (true, ⟨txn.temps, none⟩)
  | .rollback => (true, { c with txn := none })
  | .createTemp object =>
    (true, { c with txn := some { txn with temps := txn.temps ++ [object] } })
  | .dropTemp object =>
    (true, { c with txn := some { txn with temps := txn.temps.filter (· ≠ object) } })
  | .other => (true, c)

/-- An engine as DuckDB's: an aborted transaction refuses everything but a rollback, and a commit
    that fails rolls back. -/
def SqlEngine.standard (c : PooledConnection) (statement : TempStatement)
    (outcome : StatementOutcome) : Bool × PooledConnection :=
  match c.txn with
  | none =>
    match outcome with
    | .error _ => (false, c)
    | .ok => c.autocommit statement
  | some txn =>
    if txn.aborted then
      if statement = .rollback then (true, { c with txn := none }) else (false, c)
    else match outcome with
      | .ok => c.inTransaction txn statement
      | .error aborts =>
        if statement = .commit then (false, { c with txn := none })
        else (false, { c with txn := some { txn with aborted := aborts } })

theorem standard_transactional : SqlEngine.Transactional .standard where
  query temps outcome := by cases outcome <;> rfl
  drop temps object := rfl
  keeps := by
    rintro ⟨temps, txn⟩ statement outcome htxn hstatement
    cases txn with
    | none => cases htxn
    | some txn =>
      unfold SqlEngine.standard
      dsimp only
      split
      · rcases hstatement with rfl | ⟨object, rfl⟩ <;> rfl
      · cases outcome with
        | ok => rcases hstatement with rfl | ⟨object, rfl⟩ <;> rfl
        | error aborts => rcases hstatement with rfl | ⟨object, rfl⟩ <;> rfl

/-- A temporary table. -/
def tempTable : TempObject := ⟨false, CStr.m, CStr.t⟩

/-- A reset that works. -/
def goodReset : ResetWorld := ⟨.ok, true, []⟩

/-- A request for a subject takes the only connection, creates a temporary table and is done. -/
def requestWithTable : List PoolEvent :=
  [.acquire false (some CStr.a) true false true true,
    .execute 0 (.createTemp tempTable) .ok, .release 0 goodReset]

theorem pooledConnections_clean_requestWithTable :
    ∃ s, Runs.run (PoolState.step .standard id) (.start 0 1) requestWithTable = some s ∧
      s.handsOut (.acquire true none true false true true) = some 0 ∧
      (s.connections 0).txn = none ∧ (s.connections 0).temps = [] ∧
      0 ∉ s.bindings.map SubjectBinding.connectionId := by
  have hrun : Runs.run (PoolState.step .standard id) (.start 0 1) requestWithTable = some _ := rfl
  have hclean : Runs.Along (PoolState.step .standard id) GivesBackClean (.start 0 1)
      requestWithTable := by
    refine .cons trivial rfl (.cons trivial rfl (.cons ⟨rfl, .inr ⟨rfl, rfl, nofun⟩⟩ rfl ?_))
    trivial
  exact ⟨_, hrun, rfl, (pooledConnections_clean _ standard_transactional id Function.injective_id 0
    1 requestWithTable _ hclean hrun).1 (.acquire true none true false true true) 0 rfl⟩

/-- **A transaction is handed on.** A request creates a temporary table, begins a transaction and
    is done. Whoever gets the connection next is inside of its transaction, and the table is only
    gone if it commits. -/
theorem transaction_handed_on :
    ∃ s, Runs.run (PoolState.step .standard id) (.start 0 1)
        [.acquire false none true false true true, .execute 0 (.createTemp tempTable) .ok,
          .execute 0 .beginTransaction .ok, .release 0 goodReset] = some s ∧
      s.handsOut (.acquire false none true false true true) = some 0 ∧
      (s.connections 0).txn ≠ none ∧ (s.connections 0).temps = [tempTable] :=
  ⟨_, rfl, rfl, by decide, rfl⟩

end

end Ducknng
