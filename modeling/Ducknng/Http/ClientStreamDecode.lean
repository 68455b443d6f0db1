import Ducknng.Http.ClientStreamLoop
import Mathlib.Algebra.Order.BigOperators.Group.List

/-!
# Receiving a chunked body

However the wire is cut into raw reads, and whatever the capacities of the receives, the
streaming client takes what the reader of `Ducknng.Http.Chunked` takes.

* `receive_answer`, `receives_answers` — one receive, and every receive of a sequence.
* `receives_decode` — what follows for every cut and all capacities.
-/

namespace Ducknng

open List Transducer ClientStream

section
variable {cap : Nat} {p q : Phase} {raw w : List UInt8} {r : Received} {s : ClientStream}

/-- So far `delivered` has been received, and the stream goes on. -/
def Reading (wire delivered : List UInt8) (s : ClientStream) (net : RawConnection) : Prop :=
  s.Ready ∧ ∃ w, wire = w ++ (s.raw ++ net.bytes) ∧ Reads deframe deframeStart w delivered s.phase

/-- The end has been reached. -/
def Ended (wire delivered : List UInt8) (s : ClientStream) (net : RawConnection) : Prop :=
  (s.isOpen = true ∧ s.failed = false ∧ s.closing = false ∧ s.eof = true) ∧
    ∃ w, wire = w ++ (s.raw ++ net.bytes) ∧ Reads deframe deframeStart w delivered .done

/-- The wire does not go on as a chunked body. -/
def Failed (wire delivered : List UInt8) (s : ClientStream) : Prop :=
  s.failed = true ∧ ∃ w v t, wire = w ++ v ∧ Reads deframe deframeStart w delivered t ∧
    Stops deframe t v ∧ t ≠ .done

/-- What a reply says about the stream. -/
def Answer (cap : Nat) (wire delivered : List UInt8) :
    StreamReply → ClientStream → RawConnection → Prop
  | .data bytes, s, net => bytes ≠ [] ∧ bytes.length ≤ cap ∧ Reading wire (delivered ++ bytes) s net
  | .endOfFile, s, net => Ended wire delivered s net
  | .error _, s, _ => Failed wire delivered s

variable {wire delivered : List UInt8} {net : RawConnection}

/-- A pass over the raw bytes, seen from the whole wire. -/
theorem Outcome.answer (h : Outcome cap p raw r) (htaken : wire = w ++ (raw ++ net.bytes))
    (hreads : Reads deframe deframeStart w delivered p) :
    (r.finish.rc = .more ∧ r.finish.out = [] ∧ r.finish.stream.raw = [] ∧
      Reading wire delivered r.finish.stream net) ∨
    (r.finish.rc ≠ .more ∧ Answer cap wire delivered r.finish.reply r.finish.stream net) := by
  cases h with
  | @more s ready empty reads =>
    refine .inl ⟨rfl, rfl, empty, ready, w ++ raw, ?_, ?_⟩
    · show wire = w ++ raw ++ (s.raw ++ net.bytes)
      rw [htaken, empty, nil_append, append_assoc]
    · have hall := hreads.trans reads
      rwa [append_nil] at hall
  | @data s out v ready nonempty room taken reads =>
    refine .inr ⟨nofun, nonempty, room, ready, w ++ v, ?_, hreads.trans reads⟩
    show wire = w ++ v ++ (s.raw ++ net.bytes)
    rw [htaken, taken, append_assoc, append_assoc]
  | @endOfFile s v isOpen unfailed unclosed eof taken reads =>
    refine .inr ⟨nofun, ⟨isOpen, unfailed, unclosed, eof⟩, w ++ v, ?_, ?_⟩
    · show wire = w ++ v ++ (s.raw ++ net.bytes)
      rw [htaken, taken, append_assoc, append_assoc]
    · have hall := hreads.trans reads
      rwa [append_nil] at hall
  | @error s e u v c t taken reads refused unfinished =>
    refine .inr ⟨nofun, rfl, w ++ u, c :: v ++ net.bytes, t, ?_, ?_, stops_cons refused, unfinished⟩
    · rw [htaken, taken]
      simp
    · have hall := hreads.trans reads
      rwa [append_nil] at hall

/-- Raw reads as the connection makes them. -/
def RawConnection.Ok (net : RawConnection) : Prop :=
  ∀ bytes ∈ net.reads, bytes ≠ [] ∧ bytes.length ≤ readBufferSize

theorem ClientStream.phase_ne_done : s.phase ≠ .done := by
  unfold phase
  split <;> exact nofun

/-- The raw reads of one receive. -/
theorem advanceAll_answer {ending : AioError} {reads : List (List UInt8)} (hcap : 0 < cap)
    (hmax : cap ≤ maxRecvBytes) (hnet : RawConnection.Ok ⟨reads, ending⟩)
    (hempty : s.raw = []) (hreading : Reading wire delivered s ⟨reads, ending⟩) :
    ∃ reply s' net', s.advanceAll cap ending reads [] = some (reply, s', net') ∧ net'.Ok ∧
      Answer cap wire delivered reply s' net' := by
  have hbad : ¬ (cap = 0 ∨ maxRecvBytes < cap) := by omega
  induction reads generalizing s with
  | nil =>
    obtain ⟨hready, w, htaken, hreads⟩ := hreading
    rw [advanceAll, recvAdvance, if_neg hbad]
    -- only a body that lasts until the connection closes may end here
    have hmode : ¬ (s.bodyMode = .untilClose ∧ ¬ s.closing ∧
      (ending = .connShut ∨ ending = .closed)) := by
      rw [hready.chunked]
      exact fun h => (by cases h.1)
    simp only [if_neg hmode]
    refine ⟨_, _, _, rfl, fun _ hb => (by cases hb), rfl, w, [], s.phase, ?_, hreads, stops_nil,
      phase_ne_done⟩
    rw [htaken, hempty]
    rfl
  | cons bytes reads ih =>
    obtain ⟨hready, w, htaken, hreads⟩ := hreading
    obtain ⟨hne, hlen⟩ := hnet bytes mem_cons_self
    have hrest : RawConnection.Ok ⟨reads, ending⟩ := fun b hb => hnet b (mem_cons_of_mem _ hb)
    have hsize : ¬ (bytes.length = 0 ∨ readBufferSize < bytes.length) := by
      have hpos := length_pos_iff.2 hne
      omega
    obtain ⟨r, hr, hout⟩ := process_outcome (s := { s with raw := bytes }) hcap { hready with }
    have hwire : wire = w ++ (bytes ++ RawConnection.bytes ⟨reads, ending⟩) := by
      rw [htaken, hempty]
      rfl
    have hadvance : s.recvAdvance cap [] (.ok bytes) = some r.finish := by
      rw [recvAdvance, if_neg hbad]
      show (if bytes.length = 0 ∨ readBufferSize < bytes.length then _ else _) = _
      rw [if_neg hsize, hr]
      rfl
    rw [advanceAll, hadvance, Option.bind_eq_bind, Option.bind_some]
    -- nothing came out and the next read goes on, or the receive is answered
    rcases hout.answer hwire hreads with ⟨hrc, hnil, hraw, hnext⟩ | ⟨hrc, hanswer⟩
    · rw [hrc, hnil]
      exact ih hrest hraw hnext
    · refine ⟨r.finish.reply, r.finish.stream, ⟨reads, ending⟩, ?_, hrest, hanswer⟩
      split
      next h => exact absurd h hrc
      next => rfl

/-- A receive begun on an open stream. -/
theorem recvBegin_eq (hcap : 0 < cap) (hmax : cap ≤ maxRecvBytes) (hopen : s.isOpen = true)
    (hunfailed : s.failed = false) (hunclosed : s.closing = false) :
    s.recvBegin cap = (s.process cap []).map Received.finish := by
  rw [recvBegin, if_neg (by omega), hopen, hunfailed, hunclosed]
  rfl

theorem receive_reading (hcap : 0 < cap) (hmax : cap ≤ maxRecvBytes) (hnet : net.Ok)
    (h : Reading wire delivered s net) :
    ∃ reply s' net', s.receive net cap = some (reply, s', net') ∧ net'.Ok ∧
      Answer cap wire delivered reply s' net' := by
  obtain ⟨hready, w, htaken, hreads⟩ := h
  obtain ⟨r, hr, hout⟩ := process_outcome hcap hready
  rw [receive,
    recvBegin_eq hcap hmax hready.isOpen hready.unfailed hready.unclosed, hr, Option.map_some,
    Option.bind_eq_bind, Option.bind_some]
  rcases hout.answer htaken hreads with ⟨hrc, hnil, hraw, hnext⟩ | ⟨hrc, hanswer⟩
  · rw [hrc, hnil]
    exact advanceAll_answer hcap hmax hnet hraw hnext
  · refine ⟨r.finish.reply, r.finish.stream, net, ?_, hnet, hanswer⟩
    split
    next h => exact absurd h hrc
    next => rfl

theorem receive_ended (hcap : 0 < cap) (hmax : cap ≤ maxRecvBytes)
    (h : Ended wire delivered s net) : s.receive net cap = some (.endOfFile, s, net) := by
  obtain ⟨⟨hopen, hunfailed, hunclosed, heof⟩, _⟩ := h
  have hprocess : s.process cap [] = some ⟨.done, [], true, s⟩ := by
    rw [process, heof]
    rfl
  rw [receive, recvBegin_eq hcap hmax hopen hunfailed hunclosed, hprocess]
  rfl

theorem receive_failed (h : s.failed = true) :
    ∃ e, s.receive net cap = some (.error e, s, net) := by
  rw [receive, recvBegin]
  by_cases hbad : cap = 0 ∨ maxRecvBytes < cap
  · rw [if_pos hbad]
    exact ⟨_, rfl⟩
  · rw [if_neg hbad, h, Bool.or_true, Bool.true_or]
    exact ⟨_, rfl⟩

/-- Where a stream stands along a sequence of receives. -/
def Standing (wire delivered : List UInt8) (s : ClientStream) (net : RawConnection) : Prop :=
  Reading wire delivered s net ∨ Ended wire delivered s net ∨ Failed wire delivered s

/-- The bytes of a reply. -/
def StreamReply.bytes : StreamReply → List UInt8
  | .data bytes => bytes
  | .endOfFile => []
  | .error _ => []

theorem Answer.standing {reply : StreamReply} (h : Answer cap wire delivered reply s net) :
    Standing wire (delivered ++ reply.bytes) s net := by
  cases reply with
  | data bytes => exact .inl h.2.2
  | endOfFile => exact .inr (.inl (by rwa [StreamReply.bytes, append_nil]))
  | error e => exact .inr (.inr (by rwa [StreamReply.bytes, append_nil]))

/-- **One receive.** -/
theorem receive_answer (hcap : 0 < cap) (hmax : cap ≤ maxRecvBytes) (hnet : net.Ok)
    (h : Standing wire delivered s net) :
    ∃ reply s' net', s.receive net cap = some (reply, s', net') ∧ net'.Ok ∧
      Answer cap wire delivered reply s' net' := by
  rcases h with hreading | hended | hfailed
  · exact receive_reading hcap hmax hnet hreading
  · exact ⟨_, _, _, receive_ended hcap hmax hended, hnet, hended⟩
  · obtain ⟨e, he⟩ := @receive_failed cap s net hfailed.1
    exact ⟨_, _, _, he, hnet, hfailed⟩

/-- The bytes that a sequence of receives has delivered. -/
def deliveredBy (replies : List (StreamReply × ClientStream × RawConnection)) : List UInt8 :=
  replies.flatMap fun r => r.1.bytes

/-- **Every receive of a sequence.** -/
theorem receives_answers {caps : List Nat} (hcaps : ∀ cap ∈ caps, 0 < cap ∧ cap ≤ maxRecvBytes)
    (hnet : net.Ok) (h : Standing wire delivered s net) :
    ∃ replies, s.receives net caps = some replies ∧ replies.length = caps.length ∧
      (∃ s' net', Standing wire (delivered ++ deliveredBy replies) s' net') ∧
      ∀ (i cap : Nat) reply s' net', caps[i]? = some cap → replies[i]? = some (reply, s', net') →
        Answer cap wire (delivered ++ deliveredBy (replies.take i)) reply s' net' := by
  induction caps generalizing s net delivered with
  | nil =>
    refine ⟨[], rfl, rfl, ⟨s, net, ?_⟩, ?_⟩
    · show Standing wire (delivered ++ []) s net
      rwa [append_nil]
    · intro i cap reply s' net' hc
      cases hc
  | cons cap caps ih =>
    obtain ⟨hcap, hmax⟩ := hcaps cap mem_cons_self
    obtain ⟨reply, s', net', hreceive, hnet', hanswer⟩ := receive_answer hcap hmax hnet h
    obtain ⟨replies, hreplies, hlen, ⟨last, lastNet, hlast⟩, hall⟩ :=
      ih (fun c hc => hcaps c (mem_cons_of_mem _ hc)) hnet' hanswer.standing
    refine ⟨(reply, s', net') :: replies, ?_, by rw [length_cons, hlen, length_cons],
      ⟨last, lastNet, ?_⟩, ?_⟩
    · rw [receives, hreceive]
      show (s'.receives net' caps).bind _ = _
      rw [hreplies]
      rfl
    · rwa [append_assoc] at hlast
    · intro i c reply' s'' net'' hc hr
      cases i with
      | zero =>
        cases hc
        cases hr
        show Answer cap wire (delivered ++ []) reply s' net'
        rwa [append_nil]
      | succ i =>
        have hnext := hall i c reply' s'' net'' hc hr
        rwa [append_assoc] at hnext

/-! ### Against the whole wire -/

variable {u v body : List UInt8} {t : Phase}

theorem stops_done : Stops deframe .done v :=
  fun _ _ => rfl

theorem Standing.isPrefix (h : Standing wire delivered s net) (hwire : wire = u ++ v)
    (hreads : Reads deframe deframeStart u body t) (hstop : Stops deframe t v) :
    delivered <+: body := by
  obtain ⟨w, hw, t', hreads'⟩ :
      ∃ w, w <+: wire ∧ ∃ t', Reads deframe deframeStart w delivered t' := by
    rcases h with ⟨_, w, htaken, hr⟩ | ⟨_, w, htaken, hr⟩ | ⟨_, w, v', t', htaken, hr, _⟩
    · exact ⟨w, htaken ▸ prefix_append _ _, _, hr⟩
    · exact ⟨w, htaken ▸ prefix_append _ _, _, hr⟩
    · exact ⟨w, htaken ▸ prefix_append _ _, _, hr⟩
  exact hreads'.out_isPrefix hreads (hreads.le_stop hstop hreads' (hwire ▸ hw))

theorem Ended.eq (h : Ended wire delivered s net) (hwire : wire = u ++ v)
    (hreads : Reads deframe deframeStart u body t) (hstop : Stops deframe t v) :
    t = .done ∧ delivered = body ∧ s.raw ++ net.bytes = v := by
  obtain ⟨_, w, htaken, hr⟩ := h
  have hsame := htaken.symm.trans hwire
  obtain ⟨rfl, hbody, ht⟩ := hr.stop_unique stops_done hreads hstop hsame
  exact ⟨ht.symm, hbody, append_cancel_left hsame⟩

theorem Failed.eq (h : Failed wire delivered s) (hwire : wire = u ++ v)
    (hreads : Reads deframe deframeStart u body t) (hstop : Stops deframe t v) :
    t ≠ .done ∧ delivered = body := by
  obtain ⟨_, w, v', t', htaken, hr, hstop', hne⟩ := h
  obtain ⟨_, hbody, rfl⟩ := hr.stop_unique hstop' hreads hstop (htaken.symm.trans hwire)
  exact ⟨hne, hbody⟩

/-- Replies that all carry data carry at least one byte each. -/
theorem length_le_deliveredBy {replies : List (StreamReply × ClientStream × RawConnection)}
    (h : ∀ r ∈ replies, 0 < r.1.bytes.length) : replies.length ≤ (deliveredBy replies).length := by
  rw [deliveredBy, length_flatMap, ← length_map fun r => r.1.bytes.length]
  exact length_le_sum_of_one_le _ (forall_mem_map.2 h)

/-- A stream before its first receive. -/
theorem standing_open (net : RawConnection) :
    Standing net.bytes [] openChunked net :=
  .inl ⟨⟨rfl, rfl, rfl, rfl, rfl, nofun, nofun⟩, [], rfl, .nil⟩

/-- A connection that brings a message and nothing else. -/
theorem receives_message {m : ChunkedMessage} (hwire : net.bytes = m.bytes) (hnet : net.Ok)
    {caps : List Nat} (hcaps : ∀ cap ∈ caps, 0 < cap ∧ cap ≤ maxRecvBytes) :
    ∃ replies, openChunked.receives net caps = some replies ∧
      (∀ r ∈ replies, ∀ e, r.1 ≠ .error e) ∧ deliveredBy replies <+: m.body ∧
      (m.body.length < caps.length →
        (∃ r ∈ replies, r.1 = .endOfFile) ∧ deliveredBy replies = m.body) := by
  rw [← append_nil m.bytes] at hwire
  obtain ⟨replies, hreplies, hlen, ⟨last, lastNet, hlast⟩, hall⟩ :=
    receives_answers hcaps hnet (standing_open net)
  have hat : ∀ r ∈ replies, ∃ i cap,
      Answer cap net.bytes (deliveredBy (replies.take i)) r.1 r.2.1 r.2.2 := by
    rintro ⟨reply, s, net'⟩ hr
    obtain ⟨i, hi⟩ := getElem?_of_mem hr
    have hlt : i < caps.length := hlen ▸ (List.getElem?_eq_some_iff.1 hi).1
    exact ⟨i, caps[i], hall i caps[i] reply s net' (List.getElem?_eq_getElem hlt) hi⟩
  have hclean : ∀ r ∈ replies, ∀ e, r.1 ≠ .error e := by
    rintro ⟨reply, s, net'⟩ hr e rfl
    obtain ⟨i, cap, hanswer⟩ := hat _ hr
    exact (Failed.eq hanswer hwire (reads_message m) stops_done).1 rfl
  have hprefix := hlast.isPrefix hwire (reads_message m) stops_done
  refine ⟨replies, hreplies, hclean, hprefix, fun hlong => ?_⟩
  have hend : ∃ r ∈ replies, r.1 = .endOfFile := by
    by_contra hnone
    have hmany : replies.length ≤ (deliveredBy replies).length := by
      refine length_le_deliveredBy fun (reply, s, net') hr => ?_
      cases reply with
      | data bytes =>
        obtain ⟨i, cap, hanswer⟩ := hat _ hr
        exact length_pos_iff.2 hanswer.1
      | endOfFile => exact absurd ⟨_, hr, rfl⟩ hnone
      | error e => exact absurd rfl (hclean _ hr e)
    have hfew := hprefix.length_le
    rw [nil_append] at hfew
    omega
  refine ⟨hend, hprefix.eq_of_length_le ?_⟩
  obtain ⟨⟨reply, s, net'⟩, hr, rfl⟩ := hend
  obtain ⟨i, cap, hanswer⟩ := hat _ hr
  -- nothing is delivered behind the end
  rw [← (Ended.eq hanswer hwire (reads_message m) stops_done).2.1]
  have htaken := take_prefix i replies
  exact (htaken.flatMap _).length_le

/-- **A chunked body is received as it is, however the wire is cut.** Take any nonempty raw
    reads that fit the buffer, after which the connection ends, and any capacities. Every
    receive is answered. If the wire begins with a chunked message, no receive fails, what is
    delivered is a prefix of its body, the end of file comes when all of the body has been
    delivered and leaves unread exactly what follows the message, and it comes after at most as
    many receives as the body has bytes. If the wire does not begin with a chunked message, no
    receive reports the end of file, what is delivered is a prefix of the chunk data that the
    wire begins with, and after at most as many receives as these have bytes comes an error,
    when all of them have been delivered. -/
theorem receives_decode (reads : List (List UInt8)) (ending : AioError) (caps : List Nat)
    (hreads : ∀ bytes ∈ reads, bytes ≠ [] ∧ bytes.length ≤ readBufferSize)
    (hcaps : ∀ cap ∈ caps, 0 < cap ∧ cap ≤ maxRecvBytes) :
    ∃ replies, openChunked.receives ⟨reads, ending⟩ caps = some replies ∧
      replies.length = caps.length ∧
      (∀ (m : ChunkedMessage) rest, reads.flatten = m.bytes ++ rest →
        deliveredBy replies <+: m.body ∧ (∀ r ∈ replies, ∀ e, r.1 ≠ .error e) ∧
        (∀ (i : Nat) s net, replies[i]? = some (.endOfFile, s, net) →
          deliveredBy (replies.take i) = m.body ∧ s.raw ++ net.bytes = rest) ∧
        (m.body.length < caps.length → ∃ r ∈ replies, r.1 = .endOfFile)) ∧
      ((∀ (m : ChunkedMessage) rest, reads.flatten ≠ m.bytes ++ rest) →
        ∃ body, DecodedBody reads.flatten body ∧ deliveredBy replies <+: body ∧
          (∀ r ∈ replies, r.1 ≠ .endOfFile) ∧
          (∀ (i : Nat) e s net, replies[i]? = some (.error e, s, net) →
            deliveredBy (replies.take i) = body) ∧
          (body.length < caps.length → ∃ r ∈ replies, ∃ e, r.1 = .error e)) := by
  have hnet : RawConnection.Ok ⟨reads, ending⟩ := hreads
  obtain ⟨replies, hreplies, hlen, ⟨last, lastNet, hlast⟩, hall⟩ :=
    receives_answers hcaps hnet (standing_open ⟨reads, ending⟩)
  -- what the reader makes of the whole wire
  obtain ⟨u, v, body, t, hwire, hread, hstop⟩ := exists_stop deframe deframeStart reads.flatten
  have hdelivered : deliveredBy replies <+: body := hlast.isPrefix hwire hread hstop
  have hat : ∀ (i : Nat) reply s net, replies[i]? = some (reply, s, net) →
      ∃ cap, Answer cap reads.flatten (deliveredBy (replies.take i)) reply s net := by
    intro i reply s net hr
    have hi : i < caps.length := hlen ▸ (List.getElem?_eq_some_iff.1 hr).1
    exact ⟨caps[i], hall i caps[i] reply s net (List.getElem?_eq_getElem hi) hr⟩
  have heof : ∀ (i : Nat) s net, replies[i]? = some (.endOfFile, s, net) →
      t = .done ∧ deliveredBy (replies.take i) = body ∧ s.raw ++ net.bytes = v := by
    intro i s net hr
    obtain ⟨cap, hanswer⟩ := hat i _ s net hr
    exact Ended.eq hanswer hwire hread hstop
  have herror : ∀ (i : Nat) e s net, replies[i]? = some (.error e, s, net) →
      t ≠ .done ∧ deliveredBy (replies.take i) = body := by
    intro i e s net hr
    obtain ⟨cap, hanswer⟩ := hat i _ s net hr
    exact Failed.eq hanswer hwire hread hstop
  -- more receives than bytes cannot all bring data
  have hends : body.length < caps.length →
      (∃ r ∈ replies, r.1 = .endOfFile) ∨ ∃ r ∈ replies, ∃ e, r.1 = .error e := by
    intro hlt
    by_contra hnone
    have hmany : replies.length ≤ (deliveredBy replies).length := by
      refine length_le_deliveredBy fun (reply, s, net) hr => ?_
      cases reply with
      | data bytes =>
        obtain ⟨i, hi⟩ := getElem?_of_mem hr
        obtain ⟨cap, hanswer⟩ := hat i _ s net hi
        exact length_pos_iff.2 hanswer.1
      | endOfFile => exact absurd (.inl ⟨_, hr, rfl⟩) hnone
      | error e => exact absurd (.inr ⟨_, hr, e, rfl⟩) hnone
    have hfew := hdelivered.length_le
    omega
  refine ⟨replies, hreplies, hlen, ?_, ?_⟩
  · intro m rest hm
    obtain ⟨hu, rfl, rfl⟩ :=
      (reads_message m).stop_unique stops_done hread hstop (hm.symm.trans hwire)
    subst hu
    obtain rfl := append_cancel_left (hm.symm.trans hwire)
    have hno : ∀ r ∈ replies, ∀ e, r.1 ≠ .error e := by
      rintro ⟨reply, s, net⟩ hr e rfl
      obtain ⟨i, hi⟩ := getElem?_of_mem hr
      exact (herror i e s net hi).1 rfl
    exact ⟨hdelivered, hno, fun i s net hr => (heof i s net hr).2, fun hlt =>
      (hends hlt).resolve_right fun ⟨r, hr, e, he⟩ => hno r hr e he⟩
  · intro hnone
    -- a reader at its end would have taken a message
    have hundone : t ≠ .done := by
      rintro rfl
      obtain ⟨m, hm, _⟩ := message_of_reads hread
      exact hnone m v (hm ▸ hwire)
    have hno : ∀ r ∈ replies, r.1 ≠ .endOfFile := by
      rintro ⟨reply, s, net⟩ hr rfl
      obtain ⟨i, hi⟩ := getElem?_of_mem hr
      exact hundone (heof i s net hi).1
    exact ⟨body, hwire ▸ decodedBody_of_stop hread hstop, hdelivered, hno,
      fun i e s net hr => (herror i e s net hr).2, fun hlt =>
      (hends hlt).resolve_left fun ⟨r, hr, he⟩ => hno r hr he⟩

theorem sizeLine_of_chunkSize {line : List UInt8} {n : Nat}
    (hbytes : line.all lineByte = true) (hlen : line.length ≤ lineMax)
    (h : chunkSize line = .ok n) : SizeLine line n :=
  (chunkSize_eq_ok ⟨all_eq_true.1 hbytes, hlen⟩).1 h

/-- Two chunks, the first with an extension. -/
def twoChunks : ChunkedMessage where
  chunks :=
    [⟨[0x31, 0x3b, 0x78], [0x61], sizeLine_of_chunkSize (by decide) (by decide) rfl, nofun⟩,
      ⟨[0x32], [0x62, 0x63], sizeLine_of_chunkSize (by decide) (by decide) rfl, nofun⟩]
  last := [0x30]
  last_size := sizeLine_of_chunkSize (by decide) (by decide) rfl
  trailers := []
  trailer_lines := no_trailers

/-- The same on the wire, cut inside the size line, between CR and LF and inside the data. -/
def twoChunksReads : List (List UInt8) :=
  [[0x31], [0x3b, 0x78, 0x0d], [0x0a, 0x61, 0x0d, 0x0a, 0x32, 0x0d, 0x0a, 0x62],
    [0x63, 0x0d, 0x0a, 0x30, 0x0d, 0x0a, 0x0d, 0x0a, 0x21]]

theorem receives_decode_twoChunks :
    ∃ replies, openChunked.receives ⟨twoChunksReads, .closed⟩ [2, 1, 2, 9] =
        some replies ∧
      deliveredBy replies <+: [0x61, 0x62, 0x63] ∧ ∃ r ∈ replies, r.1 = .endOfFile := by
  obtain ⟨replies, hreplies, _, hmessage, _⟩ :=
    receives_decode twoChunksReads .closed [2, 1, 2, 9] (by decide) (by decide)
  obtain ⟨hdelivered, _, _, heof⟩ := hmessage twoChunks [0x21] rfl
  exact ⟨replies, hreplies, hdelivered, heof (by decide)⟩

/-- A last chunk whose extension makes its line longer than the line buffer, in two reads. -/
def longExtension : List (List UInt8) :=
  [[0x30, 0x3b] ++ replicate 8190 0x61, replicate 3 0x61 ++ crlf ++ crlf]

/-- A long extension is not dropped: the receive fails. -/
theorem longExtension_refused :
    longExtension.flatten = [0x30, 0x3b] ++ replicate 8193 0x61 ++ crlf ++ crlf ∧
    (∀ bytes ∈ longExtension, bytes ≠ [] ∧ bytes.length ≤ readBufferSize) ∧
    ∃ e s net, openChunked.receive ⟨longExtension, .closed⟩ 1 =
      some (.error e, s, net) := by
  have hreads : ∀ bytes ∈ longExtension, bytes ≠ [] ∧ bytes.length ≤ readBufferSize := by
    intro bytes hb
    rcases mem_cons.1 hb with rfl | hb
    · exact ⟨nofun, by rw [length_append, length_replicate]; decide⟩
    · rw [mem_singleton.1 hb]
      decide
  refine ⟨?_, hreads, ?_⟩
  · have hsplit : replicate 8193 (0x61 : UInt8) =
        replicate 8190 0x61 ++ replicate 3 0x61 := by
      rw [replicate_append_replicate]
    rw [hsplit]
    simp only [longExtension, flatten_cons, flatten_nil, append_nil, append_assoc]
  · -- the reader takes the first read and no byte more
    have hline : FramingLine ([] ++ ([0x30, 0x3b] ++ replicate 8190 0x61)) := by
      refine ⟨?_, by rw [nil_append, length_append, length_replicate]; decide⟩
      intro c hc
      rw [nil_append] at hc
      rcases mem_append.1 hc with hc | hc
      · have hall : [0x30, 0x3b].all lineByte = true := rfl
        exact all_eq_true.1 hall c hc
      · rw [(mem_replicate.1 hc).2]
        rfl
    have hread : Reads deframe deframeStart ([0x30, 0x3b] ++ replicate 8190 0x61) [] _ :=
      reads_text hline
    have hstop : Stops deframe
        (.line .size ([] ++ ([0x30, 0x3b] ++ replicate 8190 0x61)) false)
        (replicate 3 0x61 ++ crlf ++ crlf) := by
      refine stops_cons ?_
      rw [deframe, if_neg (by decide), if_neg]
      rintro ⟨_, hlt⟩
      rw [nil_append, length_append, length_replicate] at hlt
      exact absurd hlt (by decide)
    have hwire : RawConnection.bytes ⟨longExtension, .closed⟩ =
        ([0x30, 0x3b] ++ replicate 8190 0x61) ++
          (replicate 3 0x61 ++ crlf ++ crlf) := by
      rw [RawConnection.bytes, longExtension, flatten_cons, flatten_cons, flatten_nil, append_nil]
    have hnet : RawConnection.Ok ⟨longExtension, .closed⟩ := hreads
    obtain ⟨reply, s, net, hreceive, _, hanswer⟩ :=
      receive_answer Nat.one_pos (by decide) hnet (standing_open ⟨longExtension, .closed⟩)
    cases reply with
    | error e => exact ⟨e, s, net, hreceive⟩
    | endOfFile =>
      cases (Ended.eq hanswer hwire hread hstop).1
    | data bytes =>
      have hnil := hanswer.standing.isPrefix hwire hread hstop
      exact absurd (prefix_nil.1 hnil) hanswer.1

end

end Ducknng
