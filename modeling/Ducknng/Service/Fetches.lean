import Ducknng.Rpc.SqlMethod
import Ducknng.Service.Handlers
import Ducknng.Service.SessionTable

namespace Ducknng

/-!
# One query session and the fetches it answers

The result of a query session is handed out by one fetch after the other. What a fetch is
answered depends on the session alone and on what DuckDB and the allocator say meanwhile, so
the fetches on a session are a sequence.

* `FetchRequest`, `answerFetch` — a fetch on a session.
* `fetchHandler_alone` — the handler answers so.
* `HandedOut.answerFetch` — nothing is left behind the end of a result.
* `endIsFinal_iff` — when the end of a result is final.
-/

section
variable {χ : Type}

/-! ### A fetch on a session -/

/-- A fetch request and what is answered while it is handled; `replied` says whether a control
    reply can be built. -/
structure FetchRequest where
  identity : Option CStr
  decoded : Except (Status × String) SessionControlRequest
  world : FetchWorld
  replied : Bool

/-- The reply of the fetch handler to what its section answered. -/
def fetchReply (control : SessionControlRequest) (handle : CStr) (replied : Bool) :
    FetchAnswer χ → HandlerReply χ
  | .cancelled => .error .cancelled "ducknng: session was cancelled"
  | .sqlError message => .error .sqlError message
  | .failed message => .error .internal message
  | .rows chunks payloadLen => .rows false chunks payloadLen
  | .emptyRows payloadLen => .rows true [] payloadLen
  | .exhausted batchIndex =>
    if replied then
      .state flagEndOfStream
        { sessionId := control.sessionId
          state := "exhausted"
          resultHandle := some handle
          batchIndex := some batchIndex
          correlationId := control.correlationId }
    else .error .internal "ducknng: failed to build fetch control reply"

/-- `ducknng_method_fetch_handler` on a stored session: the reply and the session it leaves. -/
def answerFetch (s : Session χ) (r : FetchRequest) : HandlerReply χ × Session χ :=
  match r.decoded with
  | .error (status, message) => (.error status message, s)
  | .ok control =>
    if s.ownerAuth (some control.sessionToken) r.identity ≠ .ok then
      (lookupRefusal "ducknng: session not found"
        (.unauthorized (s.ownerAuth (some control.sessionToken) r.identity)), s)
    else if s.closing then (.error .notFound "ducknng: session not found", s)
    else if s.isUpload then
      (.error .invalid "ducknng: session is an upload session; use the upload_* methods", s)
    else
      (fetchReply control s.resultHandle r.replied (fetchSection s.work r.world).1,
        { s with work := (fetchSection s.work r.world).2 })

/-- A fetch is refused, or it runs its section. -/
theorem answerFetch_cases (s : Session χ) (r : FetchRequest) :
    (∃ status message, answerFetch s r = (.error status message, s)) ∨
      ∃ control, r.decoded = .ok control ∧ s.isUpload = false ∧
        answerFetch s r =
          (fetchReply control s.resultHandle r.replied (fetchSection s.work r.world).1,
            { s with work := (fetchSection s.work r.world).2 }) := by
  unfold answerFetch
  cases r.decoded with
  | error e => exact .inl ⟨e.1, e.2, rfl⟩
  | ok control =>
    dsimp only
    split
    · cases s.ownerAuth (some control.sessionToken) r.identity <;> exact .inl ⟨_, _, rfl⟩
    split
    · exact .inl ⟨_, _, rfl⟩
    split
    · exact .inl ⟨_, _, rfl⟩
    · next hkind => exact .inr ⟨control, rfl, eq_false_of_ne_true hkind, rfl⟩

/-- The session after a sequence of fetches. -/
def afterFetches (s : Session χ) (rs : List FetchRequest) : Session χ :=
  rs.foldl (fun s r => (answerFetch s r).2) s

/-! ### The handler answers so -/

/-- A program that runs uninterrupted replies so and leaves the session at an address so. -/
def EndsWith {ρ : Type} (thread : Nat) (p : ServiceProg χ ρ) (st : ServiceState χ)
    (worlds : List (ServiceWorld χ)) (reply : ρ) (addr : Nat) (s : Session χ) : Prop :=
  ∃ st', serviceMachine.alone thread p st worlds = some (reply, st') ∧
    st'.store.heap[addr]? = some s

section
variable {ρ : Type} {thread addr : Nat} {st : ServiceState χ} {world : ServiceWorld χ}
  {worlds : List (ServiceWorld χ)} {reply : ρ} {s s' : Session χ}

theorem EndsWith.pure (hs : st.store.heap[addr]? = some s) :
    EndsWith thread (Pure.pure reply) st worlds reply addr s :=
  ⟨st, Machine.alone_pure reply st worlds, hs⟩

theorem EndsWith.perform {α : Type} {op : ServiceOp χ α} {k : α → ServiceProg χ ρ} {a : α}
    {st' : ServiceState χ} (hop : serviceExec thread st world op = some (a, st'))
    (hrest : EndsWith thread (k a) st' worlds reply addr s) :
    EndsWith thread (Prog.perform op >>= k) st (world :: worlds) reply addr s := by
  obtain ⟨last, hrun, hs⟩ := hrest
  refine ⟨last, ?_, hs⟩
  show (serviceExec thread st world op).bind _ = _
  rw [hop]
  exact hrun

/-- A section on the session. -/
theorem EndsWith.onSession {α : Type} {op : ServiceOp χ α} {k : α → ServiceProg χ ρ}
    {f : Session χ → α × Session χ}
    (hop : serviceExec thread st world op = st.onSession addr f)
    (hs : st.store.heap[addr]? = some s)
    (hrest : ∀ st', st'.store.heap[addr]? = some (f s).2 →
      EndsWith thread (k (f s).1) st' worlds reply addr s') :
    EndsWith thread (Prog.perform op >>= k) st (world :: worlds) reply addr s' := by
  have hsection : serviceExec thread st world op = some ((f s).1,
      { st with store := st.store.modify addr fun s => (f s).2 }) := by
    rw [hop]
    unfold ServiceState.onSession
    rw [hs]
  refine EndsWith.perform hsection (hrest _ ?_)
  show (st.store.heap.modify addr _)[addr]? = _
  rw [List.getElem?_modify_eq, hs]
  rfl

end

/-- The world in which a fetch request is handled. -/
def FetchRequest.serviceWorld (r : FetchRequest) (world : ServiceWorld χ) : ServiceWorld χ :=
  { world with fetch := r.world, replied := r.replied }

variable {s : Session χ} {w : SessionWork χ}

/-- **The fetch handler**, when it runs uninterrupted on a session that is stored: it replies
    and leaves the session as `answerFetch` says. -/
theorem fetchHandler_alone {st : ServiceState χ} (htable : TableOk st.store) {addr : Nat}
    (hstored : addr ∈ st.store.stored) (hs : st.store.heap[addr]? = some s) (r : FetchRequest)
    (hnames : ∀ control, r.decoded = .ok control → control.sessionId = s.sessionId) (thread : Nat)
    (world : ServiceWorld χ) :
    EndsWith thread (fetchHandler r.identity r.decoded) st
      (List.replicate 5 (r.serviceWorld world)) (answerFetch s r).1 addr (answerFetch s r).2 := by
  unfold fetchHandler answerFetch
  cases hdecoded : r.decoded with
  | error e => exact .pure hs
  | ok control =>
    -- the id is the session's own; token and owner are still to be checked
    have hlookup := htable.acquireSession_stored hstored hs (some control.sessionToken) r.identity
    rw [← hnames control hdecoded] at hlookup
    have hacquire : ∀ {answer store}, acquireSession st.store control.sessionId
        (some control.sessionToken) r.identity = (answer, store) →
        serviceExec thread st (r.serviceWorld world)
          (.acquireSession control.sessionId (some control.sessionToken) r.identity) =
          some (answer, { st with store := store }) := by
      intro answer store h
      obtain ⟨rfl, rfl⟩ := Prod.mk.inj h
      rfl
    dsimp only
    split at hlookup
    · next hauth =>
      rw [if_pos hauth]
      exact .perform (hacquire hlookup) (.pure hs)
    next hauth =>
    rw [if_neg hauth]
    split at hlookup
    · next hclosing =>
      rw [if_pos hclosing]
      exact .perform (hacquire hlookup) (.pure hs)
    next hclosing =>
    rw [if_neg hclosing]
    refine .perform (hacquire hlookup) ?_
    -- while the fetch runs, the session is referred to once more
    have hheld : (st.store.modify addr fun s => { s with refcount := s.refcount + 1 }).heap[addr]? =
        some { s with refcount := s.refcount + 1 } := by
      show (st.store.heap.modify addr _)[addr]? = _
      rw [List.getElem?_modify_eq, hs]
      rfl
    refine .onSession (f := fun s => (s.isUpload, s)) rfl hheld fun st₁ hs₁ => ?_
    show EndsWith thread (ite (s.isUpload = true) _ _) st₁ _ _ addr _
    -- an upload session is released and refused
    by_cases hkind : s.isUpload = true
    · rw [if_pos hkind, if_pos hkind]
      exact .onSession (f := fun s => ((), s.release)) rfl hs₁ fun _ hs₂ => .pure hs₂
    rw [if_neg hkind, if_neg hkind]
    refine .onSession (f := fun s => (((fetchSection s.work r.world).1, s.resultHandle),
      { s with work := (fetchSection s.work r.world).2 })) rfl hs₁ fun st₂ hs₂ => ?_
    refine .onSession (f := fun s => ((), s.release)) rfl hs₂ fun st₃ hs₃ => ?_
    cases (fetchSection s.work r.world).1 with
    | exhausted batchIndex =>
      show EndsWith thread (Prog.perform .reply >>= _) st₃ _ _ addr _
      refine .perform rfl ?_
      show EndsWith thread (ite (r.replied = true) _ _) st₃ _ (ite (r.replied = true) _ _) addr _
      split
      · exact .pure hs₃
      · exact .pure hs₃
    | _ => exact .pure hs₃

/-! ### The end of a result -/

/-- The reply is flagged as the end of the result. -/
def HandlerReply.endsStream : HandlerReply χ → Bool
  | .state flags _ => flags &&& flagEndOfStream ≠ 0
  | .rows endOfStream _ _ => endOfStream
  | _ => false

/-- The reply is an error. -/
def HandlerReply.isError : HandlerReply χ → Bool
  | .error _ _ => true
  | _ => false

/-- One of the fetches was answered with the end of the result. -/
def EndAnswered (s : Session χ) (rs : List FetchRequest) : Prop :=
  ∃ past r later, rs = past ++ r :: later ∧
    (answerFetch (afterFetches s past) r).1.endsStream = true

/-- Whatever is fetched behind the end of the result is answered with an error. -/
def EndIsFinal (s : Session χ) (rs : List FetchRequest) : Prop :=
  ∀ past r later, rs = past ++ r :: later → EndAnswered s past →
    (answerFetch (afterFetches s past) r).1.isError = true

/-- The result has been handed out. -/
structure HandedOut (s : Session χ) : Prop where
  query : s.isUpload = false
  driven : (!s.work.pendingReady && s.work.pendingOpen) = false
  resultOpen : s.work.resultOpen = true
  remaining : s.work.remaining = []

/-- What makes a fetch fail on a session whose result has been handed out: the request is
    refused, the session was cancelled, or the empty batch, the copy of the result handle or the
    reply cannot be made. -/
def FetchFails (s : Session χ) (r : FetchRequest) : Prop :=
  match r.decoded with
  | .error _ => True
  | .ok control =>
    s.ownerAuth (some control.sessionToken) r.identity ≠ .ok ∨ s.closing = true ∨
      s.work.cancelled = true ∨ (∃ e, r.world.encode = .error e) ∨
      r.world.handleCopied = false ∨
      (s.work.batchNo = 0 ∧ ∃ e, r.world.encodeEmpty = .error e) ∨
      (s.work.batchNo ≠ 0 ∧ r.replied = false)

theorem fetchReply_endsStream {control : SessionControlRequest} {handle : CStr} {replied : Bool}
    {answer : FetchAnswer χ} (h : (fetchReply control handle replied answer).endsStream = true) :
    (∃ n, answer = .emptyRows n) ∨ ∃ n, answer = .exhausted n := by
  cases answer with
  | emptyRows n => exact .inl ⟨n, rfl⟩
  | exhausted n => exact .inr ⟨n, rfl⟩
  | _ => cases h

namespace SessionWork

theorem drive_eq_ok {w' : SessionWork χ} {world : FetchWorld}
    (h : w.drive world = .ok w') :
    (!w'.pendingReady && w'.pendingOpen) = false ∧ w'.remaining = w.remaining ∧
      w'.batchNo = w.batchNo ∧ w'.batchSize = w.batchSize := by
  unfold drive at h
  split at h
  · split at h
    · cases h
    split at h
    · cases h
    · obtain rfl := Except.ok.inj h
      exact ⟨rfl, rfl, rfl, rfl⟩
  · next hdriven =>
    obtain rfl := Except.ok.inj h
    exact ⟨eq_false_of_ne_true hdriven, rfl, rfl, rfl⟩

/-- A batch is answered with the end of the result when there is nothing left of it. -/
theorem nextBatch_end {world : FetchWorld}
    (h : (∃ n, (w.nextBatch world).1 = .emptyRows n) ∨ ∃ n, (w.nextBatch world).1 = .exhausted n) :
    w.resultOpen = true ∧ w.remaining = [] := by
  unfold nextBatch at h
  split at h
  · simp at h
  next hopen =>
  split at h
  · simp at h
  split at h
  · simp at h
  next hempty =>
  exact ⟨by simpa using hopen, not_not.1 hempty⟩

end SessionWork

/-- The chunks that an answer carries. -/
def FetchAnswer.chunks : FetchAnswer χ → List χ
  | .rows chunks _ => chunks
  | _ => []

namespace SessionWork

/-- What a batch takes from the result is in its answer, unless the encoding fails. -/
theorem nextBatch_takes (w : SessionWork χ) (world : FetchWorld) :
    (w.nextBatch world).1.chunks ++ (w.nextBatch world).2.remaining = w.remaining ∨
      ∃ taken message, world.encode = .error (taken, message) ∧
        (w.nextBatch world).1 = .failed message ∧
        (w.nextBatch world).2.remaining = w.remaining.drop (min taken w.batchSize) := by
  unfold nextBatch
  split
  · exact .inl rfl
  split
  · next taken message hencode => exact .inr ⟨taken, message, hencode, rfl, rfl⟩
  split
  · exact .inl (List.take_append_drop _ _)
  split
  · exact .inl rfl
  split
  · split
    · exact .inl rfl
    · exact .inl rfl
  · exact .inl rfl

/-- Nothing is taken from a result of which nothing is left. -/
theorem nextBatch_remaining_nil (h : w.remaining = []) (world : FetchWorld) :
    (w.nextBatch world).2.remaining = [] := by
  rcases w.nextBatch_takes world with hall | ⟨taken, _, _, _, hlost⟩
  · rw [h] at hall
    exact (List.append_eq_nil_iff.1 hall).2
  · rw [hlost, h, List.drop_nil]

/-- On a result of which nothing is left, a batch fails just when the empty batch or the copy of
    the result handle does. -/
theorem nextBatch_of_nil (hopen : w.resultOpen = true) (hnil : w.remaining = [])
    (world : FetchWorld) (control : SessionControlRequest) (handle : CStr) (replied : Bool) :
    (fetchReply control handle replied (w.nextBatch world).1).isError = true ↔
      (∃ e, world.encode = .error e) ∨ world.handleCopied = false ∨
        (w.batchNo = 0 ∧ ∃ e, world.encodeEmpty = .error e) ∨
        (w.batchNo ≠ 0 ∧ replied = false) := by
  unfold nextBatch
  cases hencode : world.encode with
  | error e => simp [hopen, fetchReply, HandlerReply.isError]
  | ok n =>
    cases hcopied : world.handleCopied with
    | false => simp [hopen, hnil, fetchReply, HandlerReply.isError]
    | true =>
      by_cases hfirst : w.batchNo = 0
      · cases hempty : world.encodeEmpty <;>
          simp [hopen, hnil, hfirst, fetchReply, HandlerReply.isError]
      · cases replied <;> simp [hopen, hnil, hfirst, fetchReply, HandlerReply.isError]

/-- The session has just been used. -/
def touched (w : SessionWork χ) (nowMs : Nat) : SessionWork χ :=
  { w with lastTouchMs := nowMs }

end SessionWork

/-- A section on a session whose result has been handed out is the next batch, unless the
    session was cancelled. -/
theorem HandedOut.fetchSection_eq (h : HandedOut s) (world : FetchWorld) :
    fetchSection s.work world =
      if s.work.cancelled then (.cancelled, s.work.touched world.nowMs)
      else (s.work.touched world.nowMs).nextBatch world := by
  have hdrive : (s.work.touched world.nowMs).drive world = .ok (s.work.touched world.nowMs) := by
    exact if_neg (ne_true_of_eq_false h.driven)
  unfold SessionWork.touched at hdrive ⊢
  unfold fetchSection
  dsimp only
  rw [hdrive]

/-- No fetch brings anything back. -/
theorem HandedOut.answerFetch (h : HandedOut s) (r : FetchRequest) :
    HandedOut (Ducknng.answerFetch s r).2 := by
  rcases answerFetch_cases s r with ⟨_, _, heq⟩ | ⟨control, _, _, heq⟩
  · rw [heq]
    exact h
  rw [heq, h.fetchSection_eq]
  split
  · exact { h with }
  · have hnil := SessionWork.nextBatch_remaining_nil
      (show (s.work.touched r.world.nowMs).remaining = [] from h.remaining) r.world
    obtain ⟨_, _, _, _, hbatch⟩ := (s.work.touched r.world.nowMs).nextBatch_frame r.world
    rw [hbatch] at hnil ⊢
    exact { h with remaining := hnil }

theorem HandedOut.afterFetches (h : HandedOut s) (rs : List FetchRequest) :
    HandedOut (Ducknng.afterFetches s rs) := by
  induction rs generalizing s with
  | nil => exact h
  | cons r rs ih => exact ih (h.answerFetch r)

/-- A fetch is answered with the end of the result when it has been handed out. -/
theorem handedOut_of_endsStream {r : FetchRequest} (h : (answerFetch s r).1.endsStream = true) :
    HandedOut (answerFetch s r).2 := by
  rcases answerFetch_cases s r with ⟨_, _, heq⟩ | ⟨control, _, hkind, heq⟩
  · rw [heq] at h
    cases h
  rw [heq] at h ⊢
  have hend := fetchReply_endsStream h
  unfold fetchSection at hend ⊢
  dsimp only at hend ⊢
  split at hend
  · simp at hend
  next hcancelled =>
  rw [if_neg hcancelled]
  split at hend
  · simp at hend
  next w hdrive =>
  obtain ⟨hopen, hnil⟩ := SessionWork.nextBatch_end hend
  obtain ⟨hdriven, -⟩ := SessionWork.drive_eq_ok hdrive
  have hrest := SessionWork.nextBatch_remaining_nil hnil r.world
  obtain ⟨_, _, _, _, hbatch⟩ := w.nextBatch_frame r.world
  rw [hbatch] at hrest ⊢
  exact ⟨hkind, hdriven, hopen, hrest⟩

/-- When a fetch behind the end of the result is answered with an error. -/
theorem HandedOut.isError_iff (h : HandedOut s) (r : FetchRequest) :
    (Ducknng.answerFetch s r).1.isError = true ↔ FetchFails s r := by
  unfold Ducknng.answerFetch FetchFails
  cases hdecoded : r.decoded with
  | error e => exact iff_of_true rfl trivial
  | ok control =>
    dsimp only
    by_cases hauth : s.ownerAuth (some control.sessionToken) r.identity = .ok
    swap
    · rw [if_pos hauth]
      refine iff_of_true ?_ (.inl hauth)
      cases s.ownerAuth (some control.sessionToken) r.identity <;> rfl
    rw [if_neg (not_not.2 hauth)]
    by_cases hclosing : s.closing = true
    · rw [if_pos hclosing]
      exact iff_of_true rfl (.inr (.inl hclosing))
    rw [if_neg hclosing, if_neg (ne_true_of_eq_false h.query), h.fetchSection_eq]
    by_cases hcancelled : s.work.cancelled = true
    · rw [if_pos hcancelled]
      exact iff_of_true rfl (.inr (.inr (.inl hcancelled)))
    have hnext := SessionWork.nextBatch_of_nil
      (show (s.work.touched r.world.nowMs).resultOpen = true from h.resultOpen) h.remaining r.world
      control s.resultHandle r.replied
    rw [if_neg hcancelled]
    refine hnext.trans ?_
    simp [hauth, hclosing, hcancelled, SessionWork.touched]

/-- **The end of a result.** In every sequence of fetches on a session, whatever is fetched
    behind the end is answered with an error just when each such fetch fails for a reason of
    its own: the end itself is none. -/
theorem endIsFinal_iff (s : Session χ) (rs : List FetchRequest) :
    EndIsFinal s rs ↔ ∀ past r later, rs = past ++ r :: later → EndAnswered s past →
      FetchFails (afterFetches s past) r := by
  refine forall₃_congr fun past r later => forall₂_congr fun _ hend => ?_
  obtain ⟨before, last, behind, rfl, hend⟩ := hend
  have hout := (handedOut_of_endsStream hend).afterFetches behind
  unfold afterFetches at hout ⊢
  rw [List.foldl_append]
  exact hout.isError_iff r

end

/-- A query session on a result. -/
def querySession (result : List Unit) (quackRows : Bool) : Session Unit :=
  ⟨1, CStr.t, none, CStr.empty, false, none, false, 0, 0, .query 0 result 1 quackRows⟩

/-- A fetch by the owner of the session, in which nothing fails. -/
def plainFetch : FetchRequest :=
  ⟨none, .ok ⟨1, CStr.t, none⟩, ⟨0, true, .ok (), .ok 1, true, .ok 1⟩, true⟩

/-- A table with one query session. -/
def oneSession : SessionStore Unit :=
  (addSession (.init 0 0 0 0) ⟨none, false, none, .query 0 [()] 1 false⟩
    ⟨0, true, true, true, .ok (), true, true, true, CStr.t, CStr.t⟩).2

theorem fetchHandler_alone_opened :
    ∃ s : Session Unit, oneSession.heap[0]? = some s ∧ ∀ world,
      EndsWith 0 (fetchHandler none plainFetch.decoded) (.init oneSession 1 1 .sharedSerialized)
        (List.replicate 5 (plainFetch.serviceWorld world)) (.rows false [()] 1) 0
        (answerFetch s plainFetch).2 := by
  refine ⟨_, rfl, fun world => ?_⟩
  have htable : TableOk oneSession := ((tableOk_init 0 0 0 0).addSession _ _).1
  exact @fetchHandler_alone Unit _ (.init oneSession 1 1 .sharedSerialized) htable 0 (by decide) rfl
    plainFetch (fun control h => (by cases h; rfl)) 0 world

theorem not_endIsFinal_empty (quackRows : Bool) :
    ¬EndIsFinal (querySession [] quackRows) [plainFetch, plainFetch] := by
  intro h
  have hend : EndAnswered (querySession [] quackRows) [plainFetch] :=
    ⟨[], _, [], rfl, by cases quackRows <;> decide⟩
  exact absurd (h _ _ [] rfl hend) (by cases quackRows <;> decide)

theorem not_endIsFinal_rows (quackRows : Bool) :
    ¬EndIsFinal (querySession [()] quackRows) [plainFetch, plainFetch, plainFetch] := by
  intro h
  have hend : EndAnswered (querySession [()] quackRows) [plainFetch, plainFetch] :=
    ⟨[plainFetch], _, [], rfl, by cases quackRows <;> decide⟩
  exact absurd (h [plainFetch, plainFetch] _ [] rfl hend) (by cases quackRows <;> decide)

/-- Behind the end of an empty result, and of one with rows, the next fetch is answered with
    the end of the result again, in both row formats. -/
theorem end_answered_again :
    (¬EndIsFinal (querySession [] false) [plainFetch, plainFetch] ∧
      ¬EndIsFinal (querySession [()] false) [plainFetch, plainFetch, plainFetch]) ∧
    (¬EndIsFinal (querySession [] true) [plainFetch, plainFetch] ∧
      ¬EndIsFinal (querySession [()] true) [plainFetch, plainFetch, plainFetch]) :=
  ⟨⟨not_endIsFinal_empty false, not_endIsFinal_rows false⟩,
    not_endIsFinal_empty true, not_endIsFinal_rows true⟩

end Ducknng
