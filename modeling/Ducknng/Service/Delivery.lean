import Ducknng.Service.Fetches

namespace Ducknng

/-!
# What the caller of a query session receives

A fetch passes through the dispatcher, which may still refuse the reply of the handler. By
then the handler has taken the rows of the reply from the result.

* `nothingLost_of_delivered` — nothing is lost while every batch that is taken is sent.
-/

section
variable {χ ρ : Type}

/-! ### A fetch through the dispatcher -/

/-- `DUCKNNG_RPC_FLAG_RESULT_ROWS`. -/
def flagResultRows : UInt32 := 1

/-- `DUCKNNG_RPC_FLAG_PAYLOAD_ARROW_STREAM`. -/
def flagPayloadArrowStream : UInt32 := 8

/-- `DUCKNNG_RPC_FLAG_PAYLOAD_QUACK_BATCH`. -/
def flagPayloadQuackBatch : UInt32 := 256

/-- The flags of a row reply: `ducknng_fetch_set_row_reply`. -/
def rowReplyFlags (quackRows endOfStream : Bool) : UInt32 :=
  flagResultRows ||| (if quackRows then flagPayloadQuackBatch else flagPayloadArrowStream) |||
    (if endOfStream then flagEndOfStream else 0)

/-- The reply of a handler as the dispatcher sees it: whether the handler failed, and the
    reply. `payload` is what the encoders make of it. -/
def HandlerReply.toMethodReply (quackRows : Bool) (payload : HandlerReply χ → List UInt8) :
    HandlerReply χ → Bool × MethodReply
  | .error status message => (true, .ofError status message)
  | .rows endOfStream chunks payloadLen =>
    (false, .ofPayload (rowReplyFlags quackRows endOfStream)
      (payload (.rows endOfStream chunks payloadLen)))
  | .state flags view => (false, .ofPayload (flags ||| flagPayloadJson)
      (payload (.state flags view)))
  | .counted flags label count =>
    (false, .ofPayload (flags ||| flagPayloadJson) (payload (.counted flags label count)))
  | .done => (false, .ofPayload flagPayloadJson (payload .done))

/-- A fetch that is given to the dispatcher. -/
structure FetchCall (χ : Type) where
  calls : DispatchCalls
  req : RpcRequest
  request : FetchRequest
  payload : HandlerReply χ → List UInt8

/-- A fetch through the dispatcher: the session it leaves and the frame that is sent. -/
def dispatchFetch (s : Session χ) (c : FetchCall χ) : Session χ × Option ReplyFrame :=
  dispatchRequest c.calls c.req (fun _ s => ((answerFetch s c.request).2,
    (answerFetch s c.request).1.toMethodReply s.work.quackRows c.payload)) s

/-- The session after a sequence of fetches through the dispatcher. -/
def afterCalls (s : Session χ) (cs : List (FetchCall χ)) : Session χ :=
  cs.foldl (fun s c => (dispatchFetch s c).1) s

/-! ### What reaches the caller -/

/-- The chunks a reply carries. -/
def HandlerReply.chunks : HandlerReply χ → List χ
  | .rows _ chunks _ => chunks
  | _ => []

/-- The caller gets a result frame. -/
def ResultSent (frame : Option ReplyFrame) : Prop := ∃ f, frame = some f ∧ f.type = .result

instance (frame : Option ReplyFrame) : Decidable (ResultSent frame) :=
  match frame with
  | none => .isFalse fun ⟨_, h, _⟩ => (Option.some_ne_none _ h.symm).elim
  | some f =>
    if h : f.type = .result then .isTrue ⟨f, rfl, h⟩
    else .isFalse fun ⟨_, hf, ht⟩ => h (Option.some.inj hf ▸ ht)

/-- The frame tells the caller that this is the end of the result. -/
def EndSent (frame : Option ReplyFrame) : Prop :=
  ∃ f, frame = some f ∧ f.type = .result ∧ f.flags &&& flagEndOfStream ≠ 0

/-- The chunks that reach the caller of a fetch. -/
def receivedChunks (s : Session χ) (c : FetchCall χ) : List χ :=
  if ResultSent (dispatchFetch s c).2 then (answerFetch s c.request).1.chunks else []

/-- The chunks that reach the caller of a sequence of fetches. -/
def receivedAll (s : Session χ) : List (FetchCall χ) → List χ
  | [] => []
  | c :: cs => receivedChunks s c ++ receivedAll (dispatchFetch s c).1 cs

/-- The rows that reach the caller. -/
def receivedRows (rowsOf : χ → List ρ) (s : Session χ) (cs : List (FetchCall χ)) : List ρ :=
  (receivedAll s cs).flatMap rowsOf

/-- What the replies to a sequence of fetches are for: the rows received are the first rows of
    the result, and the end is only sent when they are all of them. -/
structure NothingLost (rowsOf : χ → List ρ) (result : List χ) (s : Session χ)
    (cs : List (FetchCall χ)) : Prop where
  inOrder : receivedRows rowsOf s cs <+: result.flatMap rowsOf
  ended : ∀ past c later, cs = past ++ c :: later →
    EndSent (dispatchFetch (afterCalls s past) c).2 →
    receivedRows rowsOf s (past ++ [c]) = result.flatMap rowsOf

/-- A fetch that reaches the session and finds something left of the result: the encoder does
    not fail behind the first chunk it takes, and the dispatcher sends the batch. -/
def Delivered (s : Session χ) (c : FetchCall χ) : Prop :=
  ∀ method, dispatchGate c.calls c.req = .ok method → s.work.remaining ≠ [] →
    (∀ taken message, c.request.world.encode = .error (taken, message) → taken = 0) ∧
    ∀ payloadLen, c.request.world.encode = .ok payloadLen →
      method.Sends c.calls (rowReplyFlags s.work.quackRows false)
        (c.payload (.rows false (s.work.remaining.take s.work.batchSize) payloadLen))

/-! ### What one fetch does -/

/-- The rows of a section are the next ones of the result. -/
theorem SessionWork.nextBatch_rows {w : SessionWork χ} {world : FetchWorld} {chunks : List χ}
    {payloadLen : Nat} (h : (w.nextBatch world).1 = .rows chunks payloadLen) :
    world.encode = .ok payloadLen ∧ chunks = w.remaining.take w.batchSize ∧ w.remaining ≠ [] := by
  unfold SessionWork.nextBatch at h
  split at h
  · cases h
  split at h
  · cases h
  next n hencode =>
  split at h
  · next hsome =>
    obtain ⟨rfl, rfl⟩ := FetchAnswer.rows.inj h
    exact ⟨hencode, rfl, hsome⟩
  split at h
  · cases h
  split at h
  · split at h <;> cases h
  · cases h

/-- A section takes nothing, or it is a batch of a driven result. -/
theorem fetchSection_cases (w : SessionWork χ) (world : FetchWorld) :
    ((fetchSection w world).1.chunks = [] ∧ (fetchSection w world).2.remaining = w.remaining) ∨
      ∃ w' : SessionWork χ, w'.remaining = w.remaining ∧ w'.batchSize = w.batchSize ∧
        fetchSection w world = w'.nextBatch world := by
  unfold fetchSection
  dsimp only
  split
  · exact .inl ⟨rfl, rfl⟩
  split
  · exact .inl ⟨rfl, rfl⟩
  · next w' hdrive =>
    obtain ⟨-, hremaining, -, hsize⟩ := SessionWork.drive_eq_ok hdrive
    exact .inr ⟨w', hremaining, hsize, rfl⟩

theorem fetchReply_chunks (control : SessionControlRequest) (handle : CStr) (replied : Bool)
    (answer : FetchAnswer χ) :
    (fetchReply control handle replied answer).chunks = answer.chunks := by
  cases answer with
  | exhausted n =>
    show (ite (replied = true) _ _ : HandlerReply χ).chunks = []
    split <;> rfl
  | _ => rfl

variable {s : Session χ} {c : FetchCall χ}

/-- A fetch that is refused by the gate reaches neither the session nor the caller. -/
theorem dispatchFetch_of_refused {answer : Option ReplyFrame}
    (h : dispatchGate c.calls c.req = .error answer) :
    (dispatchFetch s c).1 = s ∧ ¬ResultSent (dispatchFetch s c).2 := by
  unfold dispatchFetch
  rw [dispatchRequest_of_refused h]
  refine ⟨rfl, ?_⟩
  rintro ⟨frame, hframe, htype⟩
  rw [dispatchGate_refused_type h hframe] at htype
  cases htype

theorem FetchAnswer.chunks_cases (answer : FetchAnswer χ) :
    answer.chunks = [] ∨ ∃ chunks payloadLen, answer = .rows chunks payloadLen := by
  cases answer with
  | rows chunks payloadLen => exact .inr ⟨chunks, payloadLen, rfl⟩
  | _ => exact .inl rfl

/-- What a fetch takes from the result reaches the caller. -/
theorem Delivered.receives (h : Delivered s c) :
    receivedChunks s c ++ (dispatchFetch s c).1.work.remaining = s.work.remaining := by
  unfold receivedChunks
  cases hgate : dispatchGate c.calls c.req with
  | error answer =>
    obtain ⟨hsame, hno⟩ := dispatchFetch_of_refused (s := s) hgate
    rw [if_neg hno, hsame]
    rfl
  | ok method =>
    unfold dispatchFetch
    rw [dispatchRequest_of_gate hgate]
    rcases answerFetch_cases s c.request with ⟨_, _, heq⟩ | ⟨control, _, _, heq⟩
    · rw [heq]
      simp [HandlerReply.chunks]
    rw [heq]
    rw [fetchReply_chunks]
    rcases fetchSection_cases s.work c.request.world with
      ⟨hnone, hsame⟩ | ⟨w, hremaining, hsize, hsection⟩
    · rw [hnone, hsame, ite_self, List.nil_append]
    rw [hsection]
    rcases w.nextBatch_takes c.request.world with hall | ⟨taken, message, hencode, hfailed, hlost⟩
    · rcases (w.nextBatch c.request.world).1.chunks_cases with hnone | ⟨chunks, payloadLen, hrows⟩
      · rw [hnone, ite_self]
        rw [hnone] at hall
        exact hall.trans hremaining
      · -- the batch is sent as it is
        obtain ⟨hencode, rfl, hsome⟩ := SessionWork.nextBatch_rows hrows
        rw [hremaining] at hsome
        have hsends := (h method hgate hsome).2 payloadLen hencode
        rw [if_pos]
        · exact hall.trans hremaining
        · rw [hrows, hremaining, hsize]
          exact ⟨_, hsends.dispatchFinish, rfl⟩
    · rw [hfailed, hlost, hremaining]
      by_cases hnil : s.work.remaining = []
      · simp [hnil, FetchAnswer.chunks]
      · obtain rfl := (h method hgate hnil).1 taken message hencode
        simp [FetchAnswer.chunks]

/-- The end is only sent when nothing is left. -/
theorem remaining_of_endSent (h : EndSent (dispatchFetch s c).2) :
    (dispatchFetch s c).1.work.remaining = [] := by
  obtain ⟨frame, hframe, htype, hflag⟩ := h
  cases hgate : dispatchGate c.calls c.req with
  | error answer => exact absurd ⟨frame, hframe, htype⟩ (dispatchFetch_of_refused hgate).2
  | ok method =>
    unfold dispatchFetch at hframe ⊢
    rw [dispatchRequest_of_gate hgate] at hframe ⊢
    have hbuilt := dispatchFinish_result hframe (by rw [htype]; decide)
    subst hbuilt
    refine (handedOut_of_endsStream ?_).remaining
    rcases answerFetch_cases s c.request with ⟨_, _, heq⟩ | ⟨control, _, _, heq⟩
    · rw [heq] at htype
      cases htype
    rw [heq] at htype hflag ⊢
    -- only an empty batch and the notice of the end carry the flag
    cases hanswer : (fetchSection s.work c.request.world).1 with
    | rows chunks payloadLen =>
      rw [hanswer] at hflag
      exact absurd (show rowReplyFlags s.work.quackRows false &&& flagEndOfStream = 0 by
        cases s.work.quackRows <;> decide) hflag
    | emptyRows payloadLen => rfl
    | exhausted batchIndex =>
      rw [hanswer] at htype
      cases hreplied : c.request.replied with
      | true => rfl
      | false =>
        rw [hreplied] at htype
        cases htype
    | _ =>
      rw [hanswer] at htype
      cases htype

/-! ### A sequence of fetches -/

/-- What has been received and what is left are the result. -/
theorem receivedAll_remaining {cs : List (FetchCall χ)}
    (h : Runs.Along (fun s c => some (dispatchFetch s c).1) Delivered s cs) :
    receivedAll s cs ++ (afterCalls s cs).work.remaining = s.work.remaining := by
  induction cs generalizing s with
  | nil => rfl
  | cons c cs ih =>
    have hrest := ih (h.2 _ rfl)
    show (receivedChunks s c ++ receivedAll _ cs) ++ _ = _
    rw [List.append_assoc]
    exact (congrArg (receivedChunks s c ++ ·) hrest).trans h.1.receives

/-- **Nothing is lost between fetches.** Take a query session on a result and any sequence of
    fetches through the dispatcher in which every batch that is taken from the result is sent.
    The rows received are then the first rows of the result, and the end is only sent when they
    are all. -/
theorem nothingLost_of_delivered (rowsOf : χ → List ρ) (result : List χ) (s : Session χ)
    (hs : s.work.remaining = result) (cs : List (FetchCall χ))
    (h : Runs.Along (fun s c => some (dispatchFetch s c).1) Delivered s cs) :
    NothingLost rowsOf result s cs := by
  subst hs
  constructor
  · refine ⟨(afterCalls s cs).work.remaining.flatMap rowsOf, ?_⟩
    unfold receivedRows
    rw [← List.flatMap_append, receivedAll_remaining h]
  · rintro past c later rfl hend
    rw [List.append_cons] at h
    have hall := receivedAll_remaining h.left
    have hnil : (afterCalls s (past ++ [c])).work.remaining = [] := by
      unfold afterCalls
      rw [List.foldl_append]
      exact remaining_of_endSent hend
    rw [hnil, List.append_nil] at hall
    unfold receivedRows
    rw [hall]

end

/-! ### What is lost -/

/-- `ducknng_method_fetch` with a limit on its replies. -/
def fetchMethod (maxReplyBytes : Nat) : MethodDescriptor where
  name := ⟨[0x66, 0x65, 0x74, 0x63, 0x68], by decide⟩
  disabled := false
  acceptedRequestFlags := 0
  emittedReplyFlags := flagResultRows ||| flagPayloadArrowStream ||| flagPayloadQuackBatch |||
    flagEndOfStream ||| flagPayloadJson
  maxRequestBytes := 1024 * 1024
  maxReplyBytes := maxReplyBytes
  requiresAuth := false

/-- A fetch by the owner of a session, with what its encoder answers and the payload it sends. -/
def fetchCall (maxReplyBytes : Nat) (encode : Except (Nat × String) Nat) (payload : List UInt8) :
    FetchCall Nat where
  calls := ⟨.ok (), some (fetchMethod maxReplyBytes), true, true⟩
  req := ⟨.call, 0, [], none⟩
  request := ⟨none, .ok ⟨1, CStr.t, none⟩, ⟨0, true, .ok (), encode, true, .ok 0⟩, true⟩
  payload := fun _ => payload

/-- A query session on the chunks `1` and `2`, or on fewer, one chunk a batch. -/
def countSession (result : List Nat) : Session Nat :=
  ⟨1, CStr.t, none, CStr.empty, false, none, false, 0, 0, .query 0 result 1 true⟩

theorem fetchCall_delivered (s : Session Nat) : Delivered s (fetchCall 0 (.ok 1) [0]) := by
  intro method hgate _
  obtain rfl : fetchMethod 0 = method := Except.ok.inj hgate
  refine ⟨fun taken message h => ?_, fun payloadLen _ => ⟨?_, .inl rfl, rfl, ?_⟩⟩
  · cases h
  · cases s.work.quackRows <;> decide
  · show ReplyFrame.acceptable ⟨.result, _, rowReplyFlags s.work.quackRows false, .ok, none,
      [0]⟩ = true
    cases s.work.quackRows <;> decide

/-- Two fetches in which nothing fails receive both rows. -/
theorem nothingLost_twoFetches :
    NothingLost (fun n => [n]) [1, 2] (countSession [1, 2])
      [fetchCall 0 (.ok 1) [0], fetchCall 0 (.ok 1) [0]] :=
  nothingLost_of_delivered _ [1, 2] (countSession [1, 2]) rfl _
    ⟨fetchCall_delivered _, fun s _ => ⟨fetchCall_delivered s, fun _ _ => trivial⟩⟩

/-- A batch that cannot be encoded is gone: the next fetch goes on behind it, or says that the
    result has ended. So is one that is too long for a reply. -/
theorem batch_lost :
    ¬NothingLost (fun n => [n]) [1, 2] (countSession [1, 2])
        [fetchCall 0 (.error (1, "out of memory")) [], fetchCall 0 (.ok 1) [0]] ∧
      ¬NothingLost (fun n => [n]) [1] (countSession [1])
        [fetchCall 0 (.error (1, "out of memory")) [], fetchCall 0 (.ok 1) [0]] ∧
      ¬NothingLost (fun n => [n]) [1, 2] (countSession [1, 2])
        [fetchCall 1 (.ok 2) [0, 0], fetchCall 1 (.ok 1) [0]] := by
  refine ⟨fun h => ?_, fun h => ?_, fun h => ?_⟩
  · exact absurd h.inOrder (by decide)
  · exact absurd (h.ended [_] _ [] rfl ⟨_, rfl, by decide, by decide⟩) (by decide)
  · exact absurd h.inOrder (by decide)

end Ducknng
