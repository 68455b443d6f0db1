import Ducknng.Arrow.Tables
import Ducknng.Lib.Runs
import Mathlib.Data.List.Infix

namespace Ducknng

open Option List Arrow

/-!
# Fetching a session as a table

`ducknng_fetch_query_table` fetches one batch of a session when its statement is bound, and hands
out the rows when the statement is executed. DuckDB may bind a statement more than once before it
executes it; so that the second bind does not fetch the next batch, the response is kept by the
thread for a quarter of a second, or until it is executed.

A payload is an Arrow stream of record batches and is given by its place among the payloads of
the session. The scan of a statement emits the first batch of its payload (`emits_bound_rows`).

* `FetchThread.step` — binds, executions and delays.
* `FetchThread.Orderly` — statements that are executed once, and not too late, over payloads that
  end with their first batch.
* `fetchTable_prefix` — what was emitted is then the beginning of the session.
* `batch_skipped` — a run that is not so.
-/

/-- The arguments of a call. -/
structure FetchTableArgs where
  url : CStr
  sessionId : Nat
  sessionToken : CStr
  batchRows : Nat
  batchBytes : Nat
  tlsConfigId : Nat
  deriving DecidableEq

/-- `ducknng_fetch_query_table_rebind_cache`, where its generation is not zero. -/
structure RebindCache where
  generation : Nat
  args : FetchTableArgs
  payload : Nat
  expiresAtMs : Nat

/-- `ducknng_fetch_query_table_bind_data` of a statement that was bound: the payload it decoded,
    and the generation of the cache it shares it with. -/
structure BoundFetch where
  generation : Nat
  payload : Nat

/-- What becomes of a fetch request: it is answered, it fails before the session has seen it, or
    the session answers and the answer is lost. -/
inductive TableRequest where
  | answered
  | failed
  | lost
  deriving DecidableEq

/-- A thread and the session that it fetches from. -/
structure FetchThread (ν : Type) where
  nowMs : Nat := 0
  cache : Option RebindCache := none
  /-- `ducknng_fetch_query_table_cache_generation`. -/
  generation : Nat := 0
  /-- The payloads that the session has handed out. -/
  handedOut : Nat := 0
  bound : List BoundFetch := []
  emitted : List (List (Option ν)) := []

open FetchThread

/-- The lifetime of a kept response. -/
def rebindMs : Nat := 250

variable {τ ν : Type}

/-- `ducknng_fetch_query_table_cache_matches`; a response that is too old goes. -/
def FetchThread.cacheMatches (st : FetchThread ν) (args : FetchTableArgs) :
    Bool × FetchThread ν :=
  match st.cache with
  | none => (false, st)
  | some c =>
    if c.expiresAtMs ≠ 0 ∧ st.nowMs > c.expiresAtMs then (false, { st with cache := none })
    else (c.args = args, st)

/-- The next generation; zero is passed over when the counter wraps. -/
def nextGeneration (generation : Nat) : Nat :=
  if (generation + 1) % 2 ^ 64 = 0 then 1 else (generation + 1) % 2 ^ 64

/-- `ducknng_fetch_query_table_cache_store`. -/
def FetchThread.cacheStore (st : FetchThread ν) (args : FetchTableArgs) (payload : Nat) :
    FetchThread ν :=
  { st with
    generation := nextGeneration st.generation
    cache := some ⟨nextGeneration st.generation, args, payload, st.nowMs + rebindMs⟩ }

/-- The response of a bind: the payload and the generation of the cache, or a message. -/
abbrev FetchResponse := Except String BoundFetch

/-- `ducknng_fetch_query_table_cache_copy_response`. `copied` says whether there is memory for a
    copy of the payload. -/
def FetchThread.cacheCopyResponse (st : FetchThread ν) (args : FetchTableArgs) (copied : Bool) :
    Option BoundFetch × FetchThread ν :=
  match st.cacheMatches args with
  | (false, st) => (none, st)
  | (true, st) => (if copied then st.cache.map fun c => ⟨c.generation, c.payload⟩ else none, st)

variable (session : List (IpcStream τ ν))

/-- The fetch of a bind that finds nothing in the cache. -/
def FetchThread.fetchNext (st : FetchThread ν) (args : FetchTableArgs)
    (request : TableRequest) (copied : Bool) : FetchResponse × FetchThread ν :=
  match request with
  | .failed => (.error "ducknng: session request failed", st)
  | .lost => (.error "ducknng: session request failed", { st with handedOut := st.handedOut + 1 })
  | .answered =>
    if st.handedOut < session.length then
      let st := { st with handedOut := st.handedOut + 1 }
      if copied then
        (.ok ⟨nextGeneration st.generation, st.handedOut - 1⟩,
          st.cacheStore args (st.handedOut - 1))
      else (.error "ducknng: out of memory caching fetch_query_table payload", st)
    else
      (.error ("ducknng: fetch_query_table expected an Arrow row payload; " ++
        "use ducknng_fetch_query(...) for control-only session replies"), st)

/-- The response of a bind: the one that is kept, or the next one of the session. -/
def FetchThread.response (session : List (IpcStream τ ν)) (st : FetchThread ν)
    (args : FetchTableArgs) (request : TableRequest) (copied : Bool) :
    FetchResponse × FetchThread ν :=
  match st.cacheCopyResponse args copied with
  | (some response, st) => (.ok response, st)
  | (none, st) => st.fetchNext session args request copied

/-- `ducknng_fetch_query_table_bind`. `decodes` says whether the payload can be decoded and its
    columns bound. -/
def bindTable (args : FetchTableArgs) (st : FetchThread ν)
    (request : TableRequest) (copied decodes : Bool) : FetchThread ν :=
  match st.response session args request copied with
  | (.error _, st) => st
  | (.ok response, st) => if decodes then { st with bound := st.bound ++ [response] } else st

/-- `ducknng_fetch_query_table_init`: the payload of the statement is being handed out. -/
def initTable (st : FetchThread ν) (b : BoundFetch) : FetchThread ν :=
  if b.generation ≠ 0 ∧ (st.cache.map (·.generation)) = some b.generation then
    { st with cache := none }
  else st

/-- What happens on the thread. -/
inductive FetchTableEvent where
  | wait (ms : Nat)
  | bind (request : TableRequest) (copied decodes : Bool)
  | execute (statement : Nat) (allocates : Bool)
  deriving DecidableEq

/-- One step: time passes, a statement is bound, or a bound statement is executed and scanned to
    its end. The scan is over the array that the bind step decoded, the first batch of the
    payload. -/
def FetchThread.step (args : FetchTableArgs) (st : FetchThread ν) :
    FetchTableEvent → Option (FetchThread ν)
  | .wait ms => some { st with nowMs := st.nowMs + ms }
  | .bind request copied decodes => some (bindTable session args st request copied decodes)
  | .execute statement allocates =>
    match st.bound[statement]? with
    | none => none
    | some b =>
      if !allocates then some st
      else
        let st := initTable st b
        some { st with
          emitted := st.emitted ++ session[b.payload]?.elim [] fun s => s.firstBatch.rows }

/-! ### Orderly runs -/

/-- A statement is executed while its payload is kept, so before the payload was handed out to any
    statement, and no row of the payload lies behind its first batch; as long as one is kept, the
    next bind comes before it is too old. No answer is lost on the way, for lack of memory or
    otherwise. -/
def FetchThread.Orderly (st : FetchThread ν) :
    FetchTableEvent → Prop
  | .wait _ => True
  | .bind request copied _ => request ≠ .lost ∧ copied = true ∧
      ∀ c, st.cache = some c → st.nowMs ≤ c.expiresAtMs
  | .execute statement allocates => allocates = true →
      ∀ b, st.bound[statement]? = some b → (∃ c, st.cache = some c ∧ c.payload = b.payload) ∧
        ∀ s, session[b.payload]? = some s → s.EndsWithFirst

/-- What was emitted are the payloads before the one that is kept, or all of them. -/
structure FetchOk (session : List (IpcStream τ ν)) (args : FetchTableArgs) (st : FetchThread ν) :
    Prop where
  all : st.cache = none → st.emitted = (session.take st.handedOut).flatMap IpcStream.rows
  kept : ∀ c, st.cache = some c → c.args = args ∧ c.generation ≠ 0 ∧
    c.payload + 1 = st.handedOut ∧ c.payload < session.length ∧
    st.emitted = (session.take c.payload).flatMap IpcStream.rows
  shared : ∀ c b, st.cache = some c → b ∈ st.bound → b.payload = c.payload →
    b.generation = c.generation
  older : ∀ b ∈ st.bound, b.payload < st.handedOut

section
variable {session : List (IpcStream τ ν)} {args : FetchTableArgs} {st st' : FetchThread ν}

theorem nextGeneration_ne_zero (generation : Nat) : nextGeneration generation ≠ 0 := by
  unfold nextGeneration
  split
  · decide
  · assumption

section
variable (hok : FetchOk session args st)
include hok

/-- A bind with a payload that is kept and not too old gets that one. -/
theorem response_kept {c : RebindCache} (hc : st.cache = some c)
    (hfresh : st.nowMs ≤ c.expiresAtMs) (request : TableRequest) :
    st.response session args request true = (.ok ⟨c.generation, c.payload⟩, st) := by
  have hmatches : st.cacheMatches args = (true, st) := by
    unfold cacheMatches
    rw [hc]
    dsimp only
    rw [if_neg (by omega), decide_eq_true (hok.kept c hc).1]
  unfold response cacheCopyResponse
  rw [hmatches]
  dsimp only
  rw [hc]
  rfl

omit hok in
theorem response_next (hc : st.cache = none) (request : TableRequest) :
    st.response session args request true = st.fetchNext session args request true := by
  unfold response cacheCopyResponse cacheMatches
  rw [hc]

/-- A bind keeps the state, up to the statement that is bound. -/
theorem FetchOk.bound {b : BoundFetch}
    (hshared : ∀ c, st.cache = some c → b.payload = c.payload → b.generation = c.generation)
    (holder : b.payload < st.handedOut) :
    FetchOk session args { st with bound := st.bound ++ [b] } where
  all := hok.all
  kept := hok.kept
  shared c b' hc hmem := by
    rcases mem_append.1 hmem with hmem | hmem
    · exact hok.shared c b' hc hmem
    · obtain rfl := mem_singleton.1 hmem
      exact hshared c hc
  older := forall_mem_append.2 ⟨hok.older, forall_mem_singleton.2 holder⟩

/-- The next payload of the session is kept. -/
theorem FetchOk.store (hc : st.cache = none)
    (hmore : st.handedOut < session.length) :
    FetchOk session args
      (({ st with handedOut := st.handedOut + 1 } : FetchThread ν).cacheStore args
        st.handedOut) where
  all h := nomatch h
  kept c h := by
    obtain rfl := some.inj h
    exact ⟨rfl, nextGeneration_ne_zero _, rfl, hmore, hok.all hc⟩
  shared c b h hmem hpayload := by
    obtain rfl := some.inj h
    -- statements that are bound already have older payloads
    exact absurd hpayload (Nat.ne_of_lt (hok.older b hmem))
  older b hmem := Nat.lt_succ_of_lt (hok.older b hmem)

theorem FetchOk.bind {request : TableRequest} {copied decodes : Bool}
    (horderly : st.Orderly session (.bind request copied decodes)) :
    FetchOk session args (bindTable session args st request copied decodes) := by
  obtain ⟨hlost, rfl, hfresh⟩ := horderly
  unfold bindTable
  cases hc : st.cache with
  -- the kept response is bound once more
  | some c =>
    rw [response_kept hok hc (hfresh c hc)]
    dsimp only
    split
    · refine hok.bound (fun c' hc' _ => ?_) ?_
      · obtain rfl := some.inj (hc.symm.trans hc')
        rfl
      · have hlast := (hok.kept c hc).2.2.1
        show c.payload < st.handedOut
        omega
    · exact hok
  -- the next batch of the session is fetched and kept
  | none =>
    rw [response_next hc]
    unfold fetchNext
    cases request with
    | failed => exact hok
    | lost => exact absurd rfl hlost
    | answered =>
      by_cases hmore : st.handedOut < session.length
      · rw [if_pos hmore, if_pos rfl]
        dsimp only
        have hstore := hok.store hc hmore
        split
        · refine hstore.bound (fun c hc' _ => ?_) (Nat.lt_succ_self _)
          obtain rfl := some.inj hc'
          rfl
        · exact hstore
      · rw [if_neg hmore]
        exact hok

theorem FetchOk.execute {b : BoundFetch} {c : RebindCache}
    (hmem : b ∈ st.bound) (hc : st.cache = some c) (hpayload : c.payload = b.payload)
    (hends : ∀ s, session[b.payload]? = some s → s.EndsWithFirst) :
    FetchOk session args { initTable st b with
      emitted := (initTable st b).emitted ++
        session[b.payload]?.elim [] fun s => s.firstBatch.rows } := by
  obtain ⟨-, hgeneration, hlast, hlt, hemitted⟩ := hok.kept c hc
  have hinit : initTable st b = { st with cache := none } := by
    unfold initTable
    rw [if_pos ?_]
    rw [hok.shared c b hc hmem hpayload.symm, hc]
    exact ⟨hgeneration, rfl⟩
  rw [hinit]
  refine ⟨fun _ => ?_, nofun, nofun, hok.older⟩
  show st.emitted ++ session[b.payload]?.elim [] (fun s => s.firstBatch.rows) =
    (session.take st.handedOut).flatMap IpcStream.rows
  rw [← hpayload, getElem?_eq_getElem hlt] at hends ⊢
  -- all rows of the payload are in its first batch
  have hrows := (IpcStream.firstBatch_rows_iff _).2 (hends _ rfl)
  rw [← hlast, hemitted, take_succ_eq_append_getElem hlt, flatMap_append, flatMap_singleton,
    ← hrows]
  rfl

/-- **What every orderly step keeps.** -/
theorem FetchOk.step {e : FetchTableEvent}
    (horderly : st.Orderly session e) (hstep : st.step session args e = some st') :
    FetchOk session args st' := by
  cases e with
  | wait ms =>
    cases hstep
    exact { hok with }
  | bind request copied decodes =>
    cases hstep
    exact hok.bind horderly
  | execute statement allocates =>
    unfold FetchThread.step at hstep
    dsimp only at hstep
    split at hstep
    · cases hstep
    next b hb =>
    cases allocates with
    | false =>
      cases hstep
      exact hok
    | true =>
      cases hstep
      obtain ⟨⟨c, hc, hpayload⟩, hends⟩ := horderly rfl b hb
      exact hok.execute (mem_of_getElem? hb) hc hpayload hends

end

end

/-- **The rows of a session, fetched as a table**, come out in order, without gap or repetition, in
    every run that is orderly. -/
theorem fetchTable_prefix (session : List (IpcStream τ ν)) (args : FetchTableArgs)
    (events : List FetchTableEvent) (st : FetchThread ν)
    (horderly : Runs.Along (FetchThread.step session args) (Orderly session) {} events)
    (hrun : Runs.run (FetchThread.step session args) {} events = some st) :
    st.emitted <+: session.flatMap IpcStream.rows := by
  have hok : FetchOk session args st := Runs.run_induction (fun _ st => FetchOk session args st)
    (fun _ _ _ _ hok horderly hstep => hok.step horderly hstep)
    ⟨fun _ => rfl, fun _ h => (by cases h), fun _ _ h => (by cases h), forall_mem_nil _⟩
    horderly hrun
  have hprefix : ∀ n, (session.take n).flatMap IpcStream.rows <+:
    session.flatMap IpcStream.rows := by
    intro n
    refine ⟨(session.drop n).flatMap IpcStream.rows, ?_⟩
    rw [← flatMap_append, take_append_drop]
  cases hc : st.cache with
  | none =>
    rw [hok.all hc]
    exact hprefix _
  | some c =>
    rw [(hok.kept c hc).2.2.2.2]
    exact hprefix _

/-- The arguments of the runs below. -/
def tableArgs : FetchTableArgs := ⟨⟨[0x75], by decide⟩, 1, CStr.t, 0, 0, 0⟩

/-- A session of two payloads; the first one ends with an empty batch. -/
def tableSession : List (IpcStream Unit Nat) := [streamOf [[1, 2], []], streamOf [[3]]]

/-- A statement is bound twice and executed, and then another one. -/
theorem fetchTable_prefix_rebound :
    ∃ st, Runs.run (FetchThread.step tableSession tableArgs) {}
        [.bind .answered true true, .wait 100, .bind .answered true true, .execute 1 true,
          .bind .answered true true, .execute 2 true] = some st ∧
      st.emitted = [[some 1], [some 2], [some 3]] ∧
      st.emitted <+: tableSession.flatMap IpcStream.rows := by
  have hrun : Runs.run (FetchThread.step tableSession tableArgs) {}
      [.bind .answered true true, .wait 100, .bind .answered true true, .execute 1 true,
        .bind .answered true true, .execute 2 true] = some _ := rfl
  have hends : ∀ (i : Nat) s, tableSession[i]? = some s → s.EndsWithFirst := by
    intro i s hs
    have hmem := mem_of_getElem? hs
    simp only [tableSession, mem_cons, not_mem_nil, or_false] at hmem
    rcases hmem with hs | hs <;> rw [hs] <;> simp [IpcStream.EndsWithFirst, streamOf, oneColumn]
  refine ⟨_, hrun, rfl, fetchTable_prefix tableSession tableArgs _ _ ?_ hrun⟩
  refine .cons ⟨by decide, rfl, fun c hc => (by cases hc)⟩ rfl (.cons trivial rfl ?_)
  refine .cons ⟨by decide, rfl, ?_⟩ rfl (.cons (fun _ b hb => ⟨⟨_, rfl, ?_⟩, hends _⟩) rfl ?_)
  · intro c hc
    cases hc
    decide
  · obtain rfl := some.inj hb
    rfl
  refine .cons ⟨by decide, rfl, fun c hc => (by cases hc)⟩ rfl
    (.cons (fun _ b hb => ⟨⟨_, rfl, ?_⟩, hends _⟩) rfl trivial)
  obtain rfl := some.inj hb
  rfl

/-- **A batch is skipped.** A statement is bound and not executed (`EXPLAIN`), and the next one
    comes a little later. -/
theorem batch_skipped :
    ∃ st, Runs.run (FetchThread.step tableSession tableArgs) {}
        [.bind .answered true true, .wait 251, .bind .answered true true, .execute 1 true] =
          some st ∧
      st.emitted = [[some 3]] ∧ ¬st.emitted <+: tableSession.flatMap IpcStream.rows :=
  ⟨_, rfl, rfl, by decide⟩

end Ducknng
