import DnsProxy.TcpListenerRuns

/-! # What a connection does with its byte stream

Three invariants over the history of one connection: its payloads are the frames of its bytes
(`Framed`), its idle timer waits `idle_timeout` (`Timed`), and a non-persistent connection answers
once.
-/

namespace DnsProxy

set_option autoImplicit false

open ListenerTcp TcpDnsPayloadParser

/-- The payloads a connection takes from the bytes read on it: every complete frame, or on a
non-persistent connection only the first. -/
def framesOf (persistent : Bool) (bytes : List UInt8) : List (List UInt8) :=
  if persistent then (decodeFrames bytes).1 else (decodeFrames bytes).1.take 1

theorem takePayloads_false_of_frameAt {p : TcpDnsPayloadParser} {payload rest : List UInt8}
    (hp : p.Consistent) (h : frameAt p.data = some (payload, rest)) : (takePayloads false p).1 = [payload] := by
  obtain ⟨q, hq, -⟩ := nextPayload_of_frameAt hp h
  simp [takePayloads, hq]

theorem takePayloads_false_of_frameAt_none {p : TcpDnsPayloadParser} (hp : p.Consistent)
    (h : frameAt p.data = none) :
    (takePayloads false p).1 = [] ∧ (takePayloads false p).2.data = p.data ∧ (takePayloads false p).2.Consistent := by
  obtain ⟨q, hq, hData, hCons⟩ := nextPayload_of_frameAt_none hp h
  simp [takePayloads, hq, hData, hCons]

section Framing

variable {persistent : Bool} {idleTimeout : Nat} {l : ListenerTcp}

variable (persistent) in
/-- The parser of each connection against the bytes read on it. A persistent connection has
queued every complete frame and holds the rest; a non-persistent one, while it reads, has
queued nothing and holds every byte, with no complete frame among them. -/
structure Framed (l : ListenerTcp) : Prop where
  requests_frames : ∀ id, (l.requestsOf id).map (·.payload) = framesOf persistent (l.bytesOf id)
  parser_rest : persistent = true → ∀ id c, l.connections id = some c →
    c.parser.Consistent ∧ c.parser.data = (decodeFrames (l.bytesOf id)).2
  parser_first : persistent = false → ∀ id c, l.connections id = some c → (l.handles id).reading = true →
    l.requestsOf id = [] ∧ c.parser.Consistent ∧ c.parser.data = l.bytesOf id ∧ frameAt (l.bytesOf id) = none

theorem framed_init : Framed persistent ListenerTcp.init where
  requests_frames _ := by cases persistent <;> simp [framesOf, requestsOf, bytesOf, ListenerTcp.init]
  parser_rest _ _ _ h := nomatch h
  parser_first _ _ _ h := nomatch h

theorem Framed.read (hf : Framed persistent l) (hl : TcpInv persistent l) {id : Nat} {c : TcpDnsConnection}
    (hc : l.connections id = some c) (hReading : (l.handles id).reading = true) (chunk : List UInt8) :
    Framed persistent (onRead idleTimeout l id c chunk) := by
  have hPersistent := hl.persistent_eq id c hc
  have hPayloads : ((List.enumFrom l.nextWork (takePayloads c.persistent (c.parser.pushData chunk)).1).map
      fun e => (⟨e.1, id, e.2, l.now⟩ : TcpRequest)).map (·.payload) =
        (takePayloads c.persistent (c.parser.pushData chunk)).1 := by
    simp [List.map_map, Function.comp_def]
  refine ⟨fun j => ?_, fun hp j d hd => ?_, fun hp j d hd hj => ?_⟩
  · rw [onRead_requestsOf, onRead_bytesOf]
    split_ifs with hj
    · subst hj
      rw [List.map_append, hPayloads, hf.requests_frames]
      cases persistent
      · obtain ⟨hNone, hCons, hData, hFrame⟩ := hf.parser_first rfl j c hc hReading
        have hp := hCons.pushData chunk
        rw [hPersistent]
        cases hNext : frameAt (l.bytesOf j ++ chunk) with
        | none =>
          have hNone' := (takePayloads_false_of_frameAt_none hp (by simpa [pushData, hData] using hNext)).1
          simp [framesOf, hNone', decodeFrames_of_frameAt_none hFrame, decodeFrames_of_frameAt_none hNext]
        | some frame =>
          rw [takePayloads_false_of_frameAt hp (by simpa [pushData, hData] using hNext)]
          simp [framesOf, decodeFrames_of_frameAt_none hFrame, decodeFrames_of_frameAt hNext]
      · obtain ⟨hCons, hData⟩ := hf.parser_rest rfl j c hc
        obtain ⟨hOut, -⟩ := drain_eq_decodeFrames _ (hCons.pushData chunk)
        rw [hPersistent, show takePayloads true (c.parser.pushData chunk) = (c.parser.pushData chunk).drain from rfl,
          hOut]
        simp only [framesOf, if_true, pushData, hData]
        rw [decodeFrames_append (l.bytesOf j) chunk]
    · simpa using hf.requests_frames j
  · rw [onRead_connections] at hd
    rw [onRead_bytesOf]
    split_ifs at hd with hj
    · subst hj
      cases hd
      obtain ⟨hCons, hData⟩ := hf.parser_rest hp j c hc
      obtain ⟨-, hRest, hCons', -⟩ := drain_eq_decodeFrames _ (hCons.pushData chunk)
      rw [hPersistent, hp]
      refine ⟨hCons', ?_⟩
      rw [if_pos rfl, decodeFrames_append (l.bytesOf j) chunk, ← hData]
      exact hRest
    · simpa [hj] using hf.parser_rest hp j d hd
  · rw [onRead_connections] at hd
    rw [onRead_handles] at hj
    rw [onRead_requestsOf, onRead_bytesOf]
    split_ifs at hd with hjd
    · subst hjd
      cases hd
      obtain ⟨hNone, hCons, hData, hFrame⟩ := hf.parser_first hp j c hc hReading
      have hp' := hCons.pushData chunk
      rw [hPersistent, hp] at hj ⊢
      cases hNext : frameAt (l.bytesOf j ++ chunk) with
      | none =>
        obtain ⟨hNil, hData', hCons'⟩ := takePayloads_false_of_frameAt_none hp' (by simpa [pushData, hData] using hNext)
        simp only [hNil, hNone, List.append_nil, if_pos rfl, List.enumFrom_nil, List.map_nil]
        exact ⟨rfl, hCons', by simpa [pushData, hData] using hData', hNext⟩
      | some frame =>
        rw [takePayloads_false_of_frameAt hp' (by simpa [pushData, hData] using hNext)] at hj
        simp at hj
    · rw [if_neg fun h => hjd h.1] at hj
      simpa [hjd] using hf.parser_first hp j d hd hj

theorem Framed.closeConn (hf : Framed persistent l) (id : Nat) (pending : List Nat) :
    Framed persistent (l.closeConn id pending) := by
  refine ⟨hf.requests_frames, fun hp j d hd => ?_, fun hp j d hd hj => ?_⟩
  · rw [closeConn_connections] at hd
    split_ifs at hd
    exact hf.parser_rest hp j d hd
  · rw [closeConn_connections] at hd
    rw [closeConn_handles] at hj
    split_ifs at hd hj
    exact hf.parser_first hp j d hd hj

theorem Framed.accept (hf : Framed persistent l) (hl : TcpInv persistent l) {c : TcpDnsConnection}
    {h : TcpHandles} (hParser : c.parser = .new) :
    Framed persistent (({ l with idCounter := l.idCounter + 1 }.setHandles l.idCounter h).setConn l.idCounter c) := by
  have hFresh := hl.fresh l.idCounter le_rfl
  have hBytes : l.bytesOf l.idCounter = [] := by
    have hNone : l.received.filter (fun e => decide (e.1 = l.idCounter)) = [] :=
      List.filter_eq_nil_iff.mpr fun e he => by simpa using hFresh.2.2 e he
    simp [bytesOf, hNone]
  have hRequests : l.requestsOf l.idCounter = [] :=
    List.filter_eq_nil_iff.mpr fun r hr => by simpa using hFresh.2.1 r hr
  refine ⟨hf.requests_frames, fun hp j d hd => ?_, fun hp j d hd hj => ?_⟩
  · rcases update_eq_some hd with ⟨rfl, rfl⟩ | ⟨-, hd⟩
    · refine ⟨hParser ▸ new_consistent, ?_⟩
      change _ = (decodeFrames (l.bytesOf l.idCounter)).2
      rw [hBytes, hParser, decodeFrames_nil]
      rfl
    · exact hf.parser_rest hp j d hd
  · rcases update_eq_some hd with ⟨rfl, rfl⟩ | ⟨hjn, hd⟩
    · refine ⟨hRequests, hParser ▸ new_consistent, ?_, ?_⟩
      · change _ = l.bytesOf l.idCounter
        rw [hBytes, hParser]
        rfl
      · change frameAt (l.bytesOf l.idCounter) = none
        rw [hBytes]
        rfl
    · exact hf.parser_first hp j d hd (by simpa [setConn, setHandles, hjn] using hj)

theorem Framed.retire (hf : Framed persistent l) {w : TcpWork} {c : TcpDnsConnection}
    (hc : l.connections w.conn = some c) :
    Framed persistent ((l.setConn w.conn { c with pendingWorks := c.pendingWorks.erase w.serial }).deleteWork
      w.serial) := by
  refine ⟨hf.requests_frames, fun hp j d hd => ?_, fun hp j d hd hj => ?_⟩ <;>
    rcases update_eq_some hd with ⟨rfl, rfl⟩ | ⟨-, hd⟩
  · exact hf.parser_rest hp _ c hc
  · exact hf.parser_rest hp j d hd
  · exact hf.parser_first hp _ c hc hj
  · exact hf.parser_first hp j d hd hj

theorem Framed.closeEntry (hf : Framed persistent l) {id : Nat} {l' : ListenerTcp}
    (h : closeEntry l id = .ok l') : Framed persistent l' := by
  rcases closeEntry_eq_ok h with ⟨rfl, -⟩ | ⟨c, -, -, rfl⟩
  · exact hf
  · exact hf.closeConn id _

theorem Framed.step (hf : Framed persistent l) (hl : TcpInv persistent l) {e : TcpEvent} {l' : ListenerTcp}
    (h : tcpStep persistent idleTimeout l e = some (.ok l')) : Framed persistent l' := by
  rcases tcpStep_cases h with ⟨ms, rfl⟩ | ⟨-, status, tcpInit, accept, readStart, h⟩ |
    ⟨id, nread, hReading, h⟩ | ⟨w, -, -, rfl⟩ | ⟨w, -, -, response, h⟩ |
    ⟨w, hw, -, writeOk, h⟩ | ⟨id, ok, -, h⟩ | ⟨id, -, -, h⟩ | ⟨-, h⟩
  · exact { hf with }
  · rcases connCb_eq_ok h with rfl | rfl | rfl | rfl
    · exact hf
    · exact { hf with }
    · exact hf.accept hl rfl
    · exact hf.accept hl rfl
  · obtain ⟨c, hc, ⟨chunk, rfl, rfl⟩ | ⟨rfl, ⟨-, rfl⟩ | ⟨-, rfl⟩⟩⟩ := readCb_eq_ok h
    · exact hf.read hl hc hReading chunk
    · exact hf
    · exact hf.closeConn id _
  · exact { hf with }
  · rcases workCb_eq_ok h with ⟨-, rfl⟩ | ⟨-, -, rfl⟩
    · exact { hf with }
    · exact { hf with }
  · rcases afterWorkCb_eq_ok h with ⟨-, rfl⟩ | ⟨-, -, c, hc, ⟨-, rfl⟩ | ⟨-, -, rfl⟩ | ⟨-, -, -, rfl⟩⟩
    · exact { hf with }
    · exact { hf.retire hc with }
    · exact hf.retire hc
    · rw [deleteWork_closeConn]
      exact (hf.retire hc).closeConn _ _
  · rcases writeCb_eq_ok h with rfl | ⟨c, -, -, rfl⟩
    · exact { hf with }
    · exact { hf.closeConn id c.pendingWorks with }
  · obtain ⟨c, -, ⟨-, rfl⟩ | ⟨-, rfl⟩⟩ := closeById_eq_ok h
    · exact hf
    · exact hf.closeConn id _
  · have hStopped : Framed persistent { l with listening := false } := { hf with }
    exact foldlM_closeEntry (fun hf h => Framed.closeEntry hf h) (List.range l.idCounter) hStopped h

theorem reachable_framed (hl : TcpReachable persistent idleTimeout l) : Framed persistent l := by
  induction hl with
  | init => exact framed_init
  | step hReach hStep ih => exact ih.step (reachable_tcpInv hReach) hStep

def twoFramesInThreeChunks : List TcpEvent :=
  [.connCb true true true true, .readCb 0 (some [0]), .readCb 0 (some [2, 7, 8, 0]), .readCb 0 (some [1, 9])]

/-- The payloads queued for a connection are the frames of the bytes read on it, in order,
whatever chunks the bytes arrived in: every complete frame on a persistent connection, and only
the first on another. -/
theorem reachable_requests_frames (hl : TcpReachable persistent idleTimeout l) (id : Nat) :
    (l.requestsOf id).map (·.payload) = framesOf persistent (l.bytesOf id) :=
  (reachable_framed hl).requests_frames id

theorem reachable_requests_frames_split :
    TcpReachable true 5 (replay true 5 twoFramesInThreeChunks) ∧
      ((replay true 5 twoFramesInThreeChunks).requestsOf 0).map (·.payload) =
        framesOf true ((replay true 5 twoFramesInThreeChunks).bytesOf 0) :=
  ⟨reachable_replay _, reachable_requests_frames (reachable_replay _) 0⟩

theorem length_le_of_keys {α β : Type} {xs : List α} {ys : List β} {f : α → Nat} {g : β → Nat}
    (hNodup : (xs.map f).Nodup) (hKeys : ∀ x ∈ xs, ∃ y ∈ ys, g y = f x) : xs.length ≤ ys.length := by
  have hSub : (xs.map f).Subperm (ys.map g) := List.subperm_of_subset hNodup fun k hk => by
    obtain ⟨x, hx, rfl⟩ := List.mem_map.mp hk
    obtain ⟨y, hy, hEq⟩ := hKeys x hx
    exact List.mem_map.mpr ⟨y, hy, hEq⟩
  simpa using hSub.length_le

theorem TcpInv.callsOf_length_le (hl : TcpInv persistent l) (id : Nat) :
    (l.callsOf id).length ≤ (l.requestsOf id).length :=
  length_le_of_keys (hl.calls_nodup.sublist ((List.filter_sublist _).map _)) fun q hq => by
    obtain ⟨hq, hId⟩ := List.mem_filter.mp hq
    obtain ⟨r, hr, hSerial, hConn, -⟩ := hl.call_request q hq
    exact ⟨r, List.mem_filter.mpr ⟨hr, by simpa [hConn] using hId⟩, hSerial⟩

theorem TcpInv.sentOf_length_le (hl : TcpInv persistent l) (id : Nat) :
    (l.sentOf id).length ≤ (l.requestsOf id).length :=
  length_le_of_keys (hl.sent_nodup.sublist ((List.filter_sublist _).map _)) fun s hs => by
    obtain ⟨hs, hId⟩ := List.mem_filter.mp hs
    obtain ⟨q, hq, hqSerial, hqConn, -⟩ := hl.sent_call s hs
    obtain ⟨r, hr, hSerial, hConn, -⟩ := hl.call_request q hq
    exact ⟨r, List.mem_filter.mpr ⟨hr, by simpa [hConn, hqConn] using hId⟩, hSerial.trans hqSerial⟩

def nonPersistentTwoQueries : List TcpEvent :=
  [.connCb true true true true, .readCb 0 (some [0, 1, 7, 0, 1, 8]), .pickWork 0, .workCb 0 [9],
    .afterWorkCb 0 true]

/-- On a non-persistent connection at most one payload is queued, `handle_message` runs at most
once, and at most one response is written, however many frames the client sends. -/
theorem reachable_nonpersistent_single (hl : TcpReachable false idleTimeout l) (id : Nat) :
    (l.requestsOf id).length ≤ 1 ∧ (l.callsOf id).length ≤ 1 ∧ (l.sentOf id).length ≤ 1 := by
  have hRequests : (l.requestsOf id).length ≤ 1 := by
    have h := congrArg List.length (reachable_requests_frames hl id)
    simp only [List.length_map, framesOf, Bool.false_eq_true, if_false] at h
    exact h ▸ List.length_take_le _ _
  have hInv := reachable_tcpInv hl
  exact ⟨hRequests, (hInv.callsOf_length_le id).trans hRequests, (hInv.sentOf_length_le id).trans hRequests⟩

theorem reachable_nonpersistent_single_two_queries :
    TcpReachable false 5 (replay false 5 nonPersistentTwoQueries) ∧
      ((replay false 5 nonPersistentTwoQueries).requestsOf 0).length ≤ 1 :=
  ⟨reachable_replay _, (reachable_nonpersistent_single (reachable_replay _) 0).1⟩

end Framing

/-! ## The idle timer -/

section Timing

variable {persistent : Bool} {idleTimeout : Nat} {l : ListenerTcp}

variable (idleTimeout) in
/-- The loop time against the payloads queued: none is queued in the future, and a running idle
timer fires no sooner than `idle_timeout` after each payload of its connection. -/
structure Timed (l : ListenerTcp) : Prop where
  request_time : ∀ r ∈ l.requests, r.time ≤ l.now
  deadline_ge : ∀ id, (l.handles id).timerActive = true → ∀ r ∈ l.requestsOf id,
    r.time + idleTimeout ≤ (l.handles id).deadline

theorem timed_init : Timed idleTimeout ListenerTcp.init where
  request_time := List.forall_mem_nil _
  deadline_ge _ h := nomatch h

theorem Timed.closeConn (ht : Timed idleTimeout l) (id : Nat) (pending : List Nat) :
    Timed idleTimeout (l.closeConn id pending) := by
  refine { ht with deadline_ge := fun j hj => ?_ }
  rw [closeConn_handles] at hj ⊢
  split_ifs at hj ⊢
  exact ht.deadline_ge j hj

theorem Timed.accept (ht : Timed idleTimeout l) (hl : TcpInv persistent l) {c : TcpDnsConnection}
    {h : TcpHandles} :
    Timed idleTimeout (({ l with idCounter := l.idCounter + 1 }.setHandles l.idCounter h).setConn l.idCounter c) := by
  refine { ht with deadline_ge := fun j hj r hr => ?_ }
  simp only [setConn, setHandles, Function.update_apply] at hj ⊢
  split_ifs at hj ⊢ with hjn
  · exact absurd (List.mem_filter.mp hr).2 (by simpa [hjn] using (hl.fresh l.idCounter le_rfl).2.1 r (List.mem_filter.mp hr).1)
  · exact ht.deadline_ge j hj r hr

theorem Timed.read (ht : Timed idleTimeout l) {id : Nat} {c : TcpDnsConnection} (chunk : List UInt8) :
    Timed idleTimeout (onRead idleTimeout l id c chunk) := by
  have hNew : ∀ r ∈ (List.enumFrom l.nextWork (takePayloads c.persistent (c.parser.pushData chunk)).1).map
      (fun e => (⟨e.1, id, e.2, l.now⟩ : TcpRequest)), r.time = l.now := fun r hr => by
    obtain ⟨e, -, rfl⟩ := List.mem_map.mp hr
    rfl
  constructor
  · rw [onRead_eq]
    intro r hr
    rcases List.mem_append.mp hr with hr | hr
    · exact ht.request_time r hr
    · exact (hNew r hr).le
  · intro j hj r hr
    rw [onRead_handles] at hj ⊢
    rw [onRead_requestsOf] at hr
    split_ifs at hj ⊢ with hjd
    · rcases List.mem_append.mp hr with hr | hr
      · exact Nat.add_le_add_right (ht.request_time r (List.mem_filter.mp hr).1) _
      · rw [if_pos hjd.1] at hr
        show r.time + idleTimeout ≤ l.now + idleTimeout
        rw [hNew r hr]
    · have hOld : r ∈ l.requestsOf j := by
        rcases List.mem_append.mp hr with hr | hr
        · exact hr
        · split_ifs at hr with hj'
          · have hNil : (takePayloads c.persistent (c.parser.pushData chunk)).1 = [] := by
              by_contra hNe
              exact hjd ⟨hj', hNe⟩
            simp [hNil] at hr
          · cases hr
      exact ht.deadline_ge j hj r hOld

theorem Timed.closeEntry (ht : Timed idleTimeout l) {id : Nat} {l' : ListenerTcp}
    (h : closeEntry l id = .ok l') : Timed idleTimeout l' := by
  rcases closeEntry_eq_ok h with ⟨rfl, -⟩ | ⟨c, -, -, rfl⟩
  · exact ht
  · exact ht.closeConn id _

theorem Timed.step (ht : Timed idleTimeout l) (hl : TcpInv persistent l) {e : TcpEvent} {l' : ListenerTcp}
    (h : tcpStep persistent idleTimeout l e = some (.ok l')) : Timed idleTimeout l' := by
  rcases tcpStep_cases h with ⟨ms, rfl⟩ | ⟨-, status, tcpInit, accept, readStart, h⟩ |
    ⟨id, nread, -, h⟩ | ⟨w, -, -, rfl⟩ | ⟨w, -, -, response, h⟩ |
    ⟨w, -, -, writeOk, h⟩ | ⟨id, ok, -, h⟩ | ⟨id, -, -, h⟩ | ⟨-, h⟩
  · exact { ht with request_time := fun r hr => (ht.request_time r hr).trans (Nat.le_add_right _ _) }
  · rcases connCb_eq_ok h with rfl | rfl | rfl | rfl
    · exact ht
    · exact { ht with }
    · exact ht.accept hl
    · exact ht.accept hl
  · obtain ⟨c, -, ⟨chunk, rfl, rfl⟩ | ⟨rfl, ⟨-, rfl⟩ | ⟨-, rfl⟩⟩⟩ := readCb_eq_ok h
    · exact ht.read chunk
    · exact ht
    · exact ht.closeConn id _
  · exact { ht with }
  · rcases workCb_eq_ok h with ⟨-, rfl⟩ | ⟨-, -, rfl⟩
    · exact { ht with }
    · exact { ht with }
  · rcases afterWorkCb_eq_ok h with ⟨-, rfl⟩ | ⟨-, -, c, -, ⟨-, rfl⟩ | ⟨-, -, rfl⟩ | ⟨-, -, -, rfl⟩⟩
    · exact { ht with }
    · exact { ht with }
    · exact { ht with }
    · exact { ht.closeConn w.conn (c.pendingWorks.erase w.serial) with }
  · rcases writeCb_eq_ok h with rfl | ⟨c, -, -, rfl⟩
    · exact { ht with }
    · exact { ht.closeConn id c.pendingWorks with }
  · obtain ⟨c, -, ⟨-, rfl⟩ | ⟨-, rfl⟩⟩ := closeById_eq_ok h
    · exact ht
    · exact ht.closeConn id _
  · have hStopped : Timed idleTimeout { l with listening := false } := { ht with }
    exact foldlM_closeEntry (fun ht h => Timed.closeEntry ht h) (List.range l.idCounter) hStopped h

theorem reachable_timed (hl : TcpReachable persistent idleTimeout l) : Timed idleTimeout l := by
  induction hl with
  | init => exact timed_init
  | step hReach hStep ih => exact ih.step (reachable_tcpInv hReach) hStep

def idleAfterQuery : List TcpEvent :=
  [.connCb true true true true, .readCb 0 (some [0, 1, 7]), .tick 5]

/-- When libuv runs `idle_timeout_cb` of a connection, that is, its idle timer is running and due,
at least `idle_timeout` has passed since each payload queued on the connection. -/
theorem reachable_idle_after_timeout (hl : TcpReachable persistent idleTimeout l) {id : Nat}
    (hTimer : (l.handles id).timerActive = true) (hDue : (l.handles id).deadline ≤ l.now) :
    ∀ r ∈ l.requestsOf id, r.time + idleTimeout ≤ l.now := fun r hr =>
  ((reachable_timed hl).deadline_ge id hTimer r hr).trans hDue

theorem reachable_idle_after_timeout_query :
    TcpReachable false 5 (replay false 5 idleAfterQuery) ∧
      ((replay false 5 idleAfterQuery).handles 0).timerActive = true ∧
      ((replay false 5 idleAfterQuery).handles 0).deadline ≤ (replay false 5 idleAfterQuery).now ∧
      ∀ r ∈ (replay false 5 idleAfterQuery).requestsOf 0, r.time + 5 ≤ (replay false 5 idleAfterQuery).now :=
  have hTimer : ((replay false 5 idleAfterQuery).handles 0).timerActive = true := by decide
  have hDue : ((replay false 5 idleAfterQuery).handles 0).deadline ≤ (replay false 5 idleAfterQuery).now := by
    decide
  ⟨reachable_replay _, hTimer, hDue, reachable_idle_after_timeout (reachable_replay _) hTimer hDue⟩

end Timing

end DnsProxy
