import Ducknng.Http.ProfileScope
import Ducknng.Service.PoolReset

namespace Ducknng

open Option Function PoolState

/-!
# Whose subject governs a session

A session keeps its connection from its opening to its end, and its SQL runs while other
callers' requests are served. The subject of the opener is bound to the connection; a resolution
of an HTTP profile looks there first, and falls back to the subject of the request that its
thread is serving.

* `sessionDecidedByOpener` — when the opener alone decides.
* `fetching_caller_decides` — a session that was opened for nobody.
-/

/-! ### Openings -/

/-- How a holder got its connection. -/
structure SubjectOpening where
  session : Bool
  subject : Option CStr
  copied : Bool
  room : Bool

/-- Whether the subject of the opening is bound: there is one, and memory for it. -/
def SubjectOpening.Binds (o : SubjectOpening) : Prop :=
  CStr.present o.subject ≠ none ∧ o.copied = true ∧ o.room = true

/-- The subject that an opening binds. -/
def SubjectOpening.bound (o : SubjectOpening) : Option CStr :=
  if o.copied && o.room then CStr.present o.subject else none

/-- The pool, and the openings of the holders by slot. The record is for the statements below;
    no step of the pool reads it. -/
structure SubjectRun where
  pool : PoolState
  opened : Nat → Option SubjectOpening

/-- A pool of new connections. -/
def SubjectRun.start (connections poolMax : Nat) : SubjectRun :=
  ⟨.start connections poolMax, fun _ => none⟩

/-- The record after an event. -/
def SubjectRun.openedAfter (st : SubjectRun) (e : PoolEvent) : Nat → Option SubjectOpening :=
  match e with
  | .acquire session subject _ _ copied room =>
    match st.pool.handsOut e with
    | some slot => update st.opened slot (some ⟨session, subject, copied, room⟩)
    | none => st.opened
  | .execute _ _ _ => st.opened
  | .release slot _ => update st.opened slot none

/-- One step. -/
def SubjectRun.step (duckdb : SqlEngine) (ids : Nat → Nat) (st : SubjectRun) (e : PoolEvent) :
    Option SubjectRun :=
  (st.pool.step duckdb ids e).map fun pool => ⟨pool, st.openedAfter e⟩

/-- A resolution by the SQL of the session in a slot. `known` says whether DuckDB tells the
    connection that the SQL runs on, and `caller` is the subject of the request that the thread
    is serving: that of a fetch, whoever makes it. -/
def sessionResolve (ids : Nat → Nat) (s : PoolState) (slot : Nat) (known : Bool)
    (caller : Option CStr) (profile : HttpProfile) (world : ResolveWorld)
    (url method headersJson : List UInt8) : Except (Option String) (List UInt8) :=
  profile.resolve world ⟨if known then some (ids slot) else none, s.bindings, caller⟩ url method
    headersJson

/-! ### The binding of a holder -/

/-- The bindings are those of the openings. -/
structure OpenedOk (ids : Nat → Nat) (st : SubjectRun) : Prop where
  busy : ∀ slot, st.pool.holders slot ≠ none → st.pool.pool.busy[slot]? = some true
  holders : ∀ slot, st.pool.holders slot =
    (st.opened slot).map fun o => ⟨o.session, o.bound.isSome⟩
  bindings : BindingsOk st.pool.bindings
  bound : ∀ slot, boundSubject (ids slot) st.pool.bindings = (st.opened slot).bind (·.bound)

section
variable {duckdb : SqlEngine} {ids : Nat → Nat} {st st' : SubjectRun}

theorem OpenedOk.handOut (hids : Injective ids) (hok : OpenedOk ids st)
    {connect timedOut : Bool} {slot : Nat} {pool : ExecutionPool}
    (h : st.pool.pool.acquire connect timedOut = some (.ok slot, pool)) (session : Bool)
    (subject : Option CStr) (copied room : Bool) :
    OpenedOk ids ⟨st.pool.handOut ids pool slot session subject copied room,
      update st.opened slot (some ⟨session, subject, copied, room⟩)⟩ := by
  have hnone : st.opened slot = none := by
    have hheld := (unheld hok.busy h).1
    rw [hok.holders, map_eq_none_iff] at hheld
    exact hheld
  have hunbound : boundSubject (ids slot) st.pool.bindings = none := by
    rw [hok.bound, hnone]
    rfl
  obtain ⟨hself, hbound⟩ := bindConnection_self hunbound subject copied room
  refine ⟨busy_handOut hok.busy h session subject copied room, fun j => ?_,
    hok.bindings.bind _ _ _ _, fun j => ?_⟩
  · show update st.pool.holders slot (some ⟨session,
        (bindConnection (ids slot) subject copied room st.pool.bindings).1⟩) j =
      (update st.opened slot (some ⟨session, subject, copied, room⟩) j).map _
    by_cases heq : j = slot
    · subst heq
      rw [update_self, hbound]
      cases copied <;> cases room <;> simp [SubjectOpening.bound]
    · rw [update_of_ne heq, update_of_ne heq]
      exact hok.holders j
  · show boundSubject (ids j) (bindConnection (ids slot) subject copied room st.pool.bindings).2 =
      (update st.opened slot (some ⟨session, subject, copied, room⟩) j).bind _
    by_cases heq : j = slot
    · subst heq
      rw [hself, update_self]
      rfl
    · rw [bindConnection_other (fun hid => heq (hids hid)), update_of_ne heq]
      exact hok.bound j

theorem OpenedOk.giveBack (hids : Injective ids) (hok : OpenedOk ids st) {slot : Nat}
    {holder : PoolHolder} (hheld : st.pool.holders slot = some holder) (world : ResetWorld) :
    OpenedOk ids ⟨st.pool.giveBack duckdb ids slot holder world, update st.opened slot none⟩ := by
  obtain ⟨o, ho, rfl⟩ : ∃ o, st.opened slot = some o ∧ PoolHolder.mk o.session o.bound.isSome =
    holder := by
    rw [hok.holders] at hheld
    exact map_eq_some_iff.1 hheld
  refine ⟨busy_giveBack hok.busy slot _ world, fun j => ?_, ?_, fun j => ?_⟩
  · show update st.pool.holders slot none j = (update st.opened slot none j).map _
    by_cases heq : j = slot
    · subst heq
      rw [update_self, update_self]
      rfl
    · rw [update_of_ne heq, update_of_ne heq]
      exact hok.holders j
  · show BindingsOk (if _ then _ else _)
    split
    · exact hok.bindings.unbind _
    · exact hok.bindings
  · show boundSubject (ids j) (if o.session || o.bound.isSome then
      unbindConnection (ids slot) st.pool.bindings else st.pool.bindings) =
        (update st.opened slot none j).bind _
    by_cases heq : j = slot
    · subst heq
      rw [update_self]
      split
      · exact unbindConnection_self hok.bindings _
      · next hnot =>
        -- a request that has bound nothing
        rw [hok.bound, ho]
        show o.bound = none
        simp only [Bool.or_eq_true, not_or, Bool.not_eq_true, isSome_eq_false_iff,
          isNone_iff_eq_none] at hnot
        exact hnot.2
    · rw [update_of_ne heq, ← hok.bound]
      split
      · exact unbindConnection_other (fun hid => heq (hids hid)) _
      · rfl

/-- **What every step keeps.** -/
theorem OpenedOk.step (hids : Injective ids) (hok : OpenedOk ids st) {e : PoolEvent}
    (hstep : st.step duckdb ids e = some st') : OpenedOk ids st' := by
  obtain ⟨pool, hpool, rfl⟩ := map_eq_some_iff.1 hstep
  cases e with
  | acquire session subject connect timedOut copied room =>
    unfold step at hpool
    unfold SubjectRun.openedAfter handsOut
    dsimp only at hpool ⊢
    split at hpool
    · cases hpool
    · next message pool' hacquire =>
      cases hpool
      rw [hacquire]
      obtain rfl := ExecutionPool.acquire_error hacquire
      exact { hok with }
    · next slot pool' hacquire =>
      cases hpool
      rw [hacquire]
      exact hok.handOut hids hacquire session subject copied room
  | execute slot statement outcome =>
    unfold step at hpool
    dsimp only at hpool
    split at hpool
    · cases hpool
    · cases hpool
      exact { hok with }
  | release slot world =>
    unfold step at hpool
    dsimp only at hpool
    split at hpool
    · cases hpool
    · next holder hheld =>
      cases hpool
      exact hok.giveBack hids hheld world

end

/-! ### The subject of a resolution -/

/-- A check that is met goes on. -/
theorem demand_bind {α : Type} {ok : Bool} {message : String}
    {f : PLift (ok = true) → Except (Option String) α} (h : ok = true) :
    (demand ok message >>= f) = f ⟨h⟩ := by
  unfold demand
  rw [dif_pos h]
  rfl

/-- A check that is not met refuses. -/
theorem demand_bind_error {α : Type} {ok : Bool} {message : String}
    {f : PLift (ok = true) → Except (Option String) α} (h : ok = false) :
    (demand ok message >>= f) = .error (some message) := by
  unfold demand
  rw [dif_neg (by rw [h]; exact Bool.false_ne_true)]
  rfl

/-! ### Who decides -/

/-- The opener alone decides: a resolution by the SQL of the session comes out as one for the
    opener, whatever caller is fetching; and a profile with a list refuses a session that was
    opened for nobody. `copies` says whether the bound subject can be copied. -/
structure DecidedByOpener (ids : Nat → Nat) (s : PoolState) (slot : Nat) (known copies : Bool)
    (opener : Option CStr) : Prop where
  same : ∀ caller profile (world : ResolveWorld) url method headersJson,
    world.copiesSubject = copies →
      sessionResolve ids s slot known caller profile world url method headersJson =
        profile.resolve world ⟨none, [], opener⟩ url method headersJson
  refused : CStr.present opener = none →
    ∀ caller profile (world : ResolveWorld) url method headersJson,
      world.copiesSubject = copies → profile.allowSubjectsJson ≠ none →
        ∃ e, sessionResolve ids s slot known caller profile world url method headersJson = .error e

section
variable {ids : Nat → Nat} {st : SubjectRun} {slot : Nat} {o : SubjectOpening}

/-- The subject of a resolution by the SQL of a holder. -/
theorem OpenedOk.subject (hok : OpenedOk ids st) (ho : st.opened slot = some o)
    (known copies : Bool) (caller : Option CStr) :
    SubjectContext.subject ⟨if known then some (ids slot) else none, st.pool.bindings, caller⟩
        copies =
      if known && copies then (o.bound.or (CStr.present caller)) else CStr.present caller := by
  have hbound : boundSubject (ids slot) st.pool.bindings = o.bound := by
    rw [hok.bound, ho]
    rfl
  have hpresent : CStr.present o.bound = o.bound := by
    unfold SubjectOpening.bound
    split
    · cases hsubject : o.subject with
      | none => rfl
      | some text => by_cases h : text.bytes = [] <;> simp [CStr.present, h]
    · rfl
  unfold SubjectContext.subject
  cases known with
  | false => rfl
  | true =>
    rw [if_pos rfl, bind_some, subjectForConnection_eq, hbound]
    cases copies with
    | false => rfl
    | true =>
      rw [if_pos rfl, hpresent]
      cases o.bound <;> rfl

end

/-- The list `["a"]`, for a letter. -/
def letterList (letter : UInt8) : List UInt8 := [0x5b, quote, letter, quote, 0x5d]

variable {letter : UInt8}

section
variable (hletter : letter = 0x61 ∨ letter = 0x62)
include hletter

theorem letterList_loop (wanted : List UInt8) :
    jsonArrayLoop (fun _ => true) wanted [quote, letter, quote, 0x5d] 0 false =
      .ok ([], 1, decide ([letter] = wanted)) := by
  have hparse : jsonParseString (fun _ => true) [quote, letter, quote, 0x5d] =
      .ok ([letter], [0x5d]) := by
    rcases hletter with rfl | rfl <;> rfl
  rw [jsonArrayLoop]
  split
  · next e h =>
    rw [hparse] at h
    cases h
  next entry p h =>
  rw [hparse] at h
  obtain ⟨rfl, rfl⟩ := Prod.mk.inj (Except.ok.inj h)
  split
  · next hnil => cases hnil
  next c q hq =>
  obtain ⟨rfl, rfl⟩ := List.cons.inj (hq.symm.trans (rfl : jsonSkipWs [0x5d] = [0x5d]))
  rfl

theorem letterList_contains (wanted : List UInt8) :
    jsonStringArrayContains (fun _ => true) (letterList letter) wanted =
      .ok (decide ([letter] = wanted), 1) := by
  have hlist : jsonSkipWs (letterList letter) = 0x5b :: [quote, letter, quote, 0x5d] := rfl
  have hentry : jsonSkipWs [quote, letter, quote, 0x5d] = quote :: [letter, quote, 0x5d] := rfl
  have hopen : quote ≠ 0x5d := by decide
  unfold jsonStringArrayContains
  simp only [hlist, hentry, letterList_loop hletter]
  rfl

/-- A profile for one subject. -/
def letterProfile (letter : UInt8) (hletter : letter = 0x61 ∨ letter = 0x62) : HttpProfile :=
  { tokenProfile with
    allowSubjectsJson := some (letterList letter)
    subjects_ok := by
      intro json hjson
      obtain rfl := some.inj hjson
      obtain ⟨values, harray, hcount, -⟩ :=
        jsonStringArrayContains_sound (letterList_contains hletter [])
      exact ⟨values, harray, fun hnil => by rw [hnil] at hcount; cases hcount⟩ }

theorem letterProfile_admits (subject : Option CStr) :
    (letterProfile letter hletter).admits (fun _ => true) subject =
      subject.any fun s => decide ([letter] = s.bytes) := by
  unfold HttpProfile.admits
  cases subject with
  | none => rfl
  | some s =>
    have hlist : (letterProfile letter hletter).allowSubjectsJson = some (letterList letter) := rfl
    have hcontains := letterList_contains hletter s.bytes
    simp only [hlist, letterList] at hcontains ⊢
    rw [hcontains]
    rfl

/-- A world in which a bound subject can be copied, or not. -/
def letterWorld (copies : Bool) : ResolveWorld := { tokenWorld with copiesSubject := copies }

theorem letterProfile_alive (copies : Bool) :
    (decide ((letterProfile letter hletter).expiresAtMs = 0) ||
      decide ((letterWorld copies).nowMs ≤ (letterProfile letter hletter).expiresAtMs)) = true :=
  rfl

end

section
variable {letter : UInt8} (hletter : letter = 0x61 ∨ letter = 0x62) {ctx : SubjectContext}
  {copies : Bool}

/-- A profile for one subject refuses all others. -/
theorem letterProfile_rejects
    (h : (ctx.subject copies).any (fun s => decide ([letter] = s.bytes)) = false)
    (url method headersJson : List UInt8) :
    (letterProfile letter hletter).resolve (letterWorld copies) ctx url method headersJson =
      .error (some "ducknng: HTTP profile admission rejected request subject") := by
  have hadmits : (letterProfile letter hletter).admits (letterWorld copies).room
      (ctx.subject (letterWorld copies).copiesSubject) = false :=
    (letterProfile_admits hletter _).trans h
  unfold HttpProfile.resolve
  rw [demand_bind (letterProfile_alive hletter copies), demand_bind_error hadmits]

/-- For that subject a resolution goes on to the URL. -/
theorem letterProfile_accepts
    (h : (ctx.subject copies).any (fun s => decide ([letter] = s.bytes)) = true) :
    (letterProfile letter hletter).resolve (letterWorld copies) ctx [] [] [] =
        .error (some "ducknng: transport URL is required") ∧
      ∃ headers, (letterProfile letter hletter).resolve (letterWorld copies) ctx tokenUrl [] [] =
        .ok headers := by
  have hadmits : (letterProfile letter hletter).admits (letterWorld copies).room
      (ctx.subject (letterWorld copies).copiesSubject) = true :=
    (letterProfile_admits hletter _).trans h
  unfold HttpProfile.resolve
  rw [demand_bind hadmits, demand_bind hadmits]
  exact ⟨rfl, _, rfl⟩

end

/-- **The opener decides for a session** just when its subject was bound: the session was opened
    for somebody, there was memory for the binding, DuckDB tells the connection of the SQL, and
    the bound subject can be copied. Otherwise the caller that happens to fetch decides. -/
theorem sessionDecidedByOpener (duckdb : SqlEngine) (ids : Nat → Nat) (hids : Injective ids)
    (connections poolMax : Nat) (events : List PoolEvent) (st : SubjectRun)
    (hrun : Runs.run (SubjectRun.step duckdb ids) (.start connections poolMax) events = some st)
    (slot : Nat) (o : SubjectOpening) (ho : st.opened slot = some o) (known copies : Bool) :
    DecidedByOpener ids st.pool slot known copies o.subject ↔
      o.Binds ∧ known = true ∧ copies = true := by
  have hstart : OpenedOk ids (.start connections poolMax) :=
    ⟨fun _ h => absurd rfl h, fun _ => rfl, List.nodup_nil, fun _ => rfl⟩
  have hok := Runs.run_invariant (OpenedOk ids) (fun _ _ _ hok hstep => hok.step hids hstep)
    hstart hrun
  have hsubject := hok.subject ho known copies
  constructor
  · intro hdecided
    by_contra hnot
    -- without a binding the subject is the caller's
    have hcaller : ∀ caller, SubjectContext.subject
        ⟨if known then some (ids slot) else none, st.pool.bindings, caller⟩ copies =
          CStr.present caller := by
      intro caller
      rw [hsubject]
      split
      · next hboth =>
        rw [Bool.and_eq_true] at hboth
        have hnone : o.bound = none := by
          unfold SubjectOpening.bound
          split
          · next hmem =>
            rw [Bool.and_eq_true] at hmem
            by_contra hsome
            exact hnot ⟨⟨hsome, hmem⟩, hboth⟩
          · rfl
        rw [hnone]
        rfl
      · rfl
    -- a caller other than the opener, and a profile for that caller
    obtain ⟨letter, hletter, hother⟩ : ∃ letter : UInt8, (letter = 0x61 ∨ letter = 0x62) ∧
        (CStr.present o.subject).any (fun s => decide ([letter] = s.bytes)) = false := by
      cases CStr.present o.subject with
      | none => exact ⟨0x61, .inl rfl, rfl⟩
      | some s =>
        by_cases hs : [0x61] = s.bytes
        · exact ⟨0x62, .inr rfl, by rw [any_some, ← hs]; rfl⟩
        · exact ⟨0x61, .inl rfl, decide_eq_false hs⟩
    have hzero : (0 : UInt8) ∉ [letter] := by
      rcases hletter with rfl | rfl <;> decide
    have hsame := hdecided.same (some ⟨[letter], hzero⟩) (letterProfile letter hletter)
      (letterWorld copies) [] [] [] rfl
    unfold sessionResolve at hsame
    have hrejects := letterProfile_rejects hletter
      (show (SubjectContext.subject ⟨none, [], o.subject⟩ copies).any _ = false from
        hother) [] [] []
    rw [hrejects, (letterProfile_accepts hletter ?_).1] at hsame
    · exact absurd hsame (by simp)
    · rw [hcaller]
      simp [CStr.present]
  · rintro ⟨⟨hsome, hcopied, hroom⟩, rfl, rfl⟩
    have hbound : o.bound = CStr.present o.subject := by
      unfold SubjectOpening.bound
      rw [hcopied, hroom]
      rfl
    have hopener : ∀ caller, SubjectContext.subject ⟨some (ids slot), st.pool.bindings,
        caller⟩ true = CStr.present o.subject := by
      intro caller
      have hcase := hsubject caller
      rw [Bool.and_self, if_pos rfl, hbound] at hcase
      rw [hcase]
      cases hpresent : CStr.present o.subject with
      | none => exact absurd hpresent hsome
      | some s => rfl
    refine ⟨?_, fun hnone => absurd hnone hsome⟩
    intro caller profile world url method headersJson hcopies
    -- a resolution depends on the subjects through the one that it checks
    unfold sessionResolve HttpProfile.resolve
    rw [hcopies, if_pos rfl, hopener caller]
    rfl

/-- A session that was opened for the subject `a` is still that subject's when `b` fetches. -/
theorem sessionDecidedByOpener_bound :
    ∃ st, Runs.run (SubjectRun.step .standard id) (.start 0 1)
        [.acquire true (some ⟨[0x61], by decide⟩) true false true true] = some st ∧
      DecidedByOpener id st.pool 0 true true (some ⟨[0x61], by decide⟩) := by
  have hrun : Runs.run (SubjectRun.step .standard id) (.start 0 1)
      [.acquire true (some ⟨[0x61], by decide⟩) true false true true] = some _ := rfl
  exact ⟨_, hrun, (sessionDecidedByOpener _ id injective_id 0 1 _ _ hrun 0
    ⟨true, some ⟨[0x61], by decide⟩, true, true⟩ rfl true true).2
      ⟨⟨by decide, rfl, rfl⟩, rfl, rfl⟩⟩

/-- **The fetching caller decides.** A session is opened for nobody. When the subject `a` fetches,
    its SQL gets the secret of a profile for `a`; when `b` fetches, it is refused. -/
theorem fetching_caller_decides :
    ∃ st, Runs.run (SubjectRun.step .standard id) (.start 0 1)
        [.acquire true none true false true true] = some st ∧
      (∃ headers, sessionResolve id st.pool 0 true (some ⟨[0x61], by decide⟩)
        (letterProfile 0x61 (.inl rfl)) (letterWorld true) tokenUrl [] [] = .ok headers) ∧
      sessionResolve id st.pool 0 true (some ⟨[0x62], by decide⟩)
        (letterProfile 0x61 (.inl rfl)) (letterWorld true) tokenUrl [] [] =
          .error (some "ducknng: HTTP profile admission rejected request subject") := by
  have hrun : Runs.run (SubjectRun.step .standard id) (.start 0 1)
      [.acquire true none true false true true] = some _ := rfl
  exact ⟨_, hrun, (letterProfile_accepts (.inl rfl) rfl).2,
    letterProfile_rejects (.inl rfl) rfl tokenUrl [] []⟩

end Ducknng
