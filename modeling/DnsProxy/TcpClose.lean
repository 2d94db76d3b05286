import DnsProxy.TcpListenerRuns

/-! # Closed connections and the stopped listener

A closed connection takes no further part in a run (`QuietSince`), and after `before_stop` the
entries left in `m_connections` are the connections whose `uv_read_start` failed (`ClosedEntries`).
-/

namespace DnsProxy

set_option autoImplicit false

open ListenerTcp

/-- Connection `id` was accepted and has closed: its entry in `m_connections` is erased, or
left there closed. -/
def ListenerTcp.IsClosed (l : ListenerTcp) (id : Nat) : Prop :=
  id < l.idCounter ∧ (l.connections id).all (·.closed) = true

instance (l : ListenerTcp) (id : Nat) : Decidable (l.IsClosed id) :=
  inferInstanceAs (Decidable (_ ∧ _))

section Quiet

variable {persistent : Bool} {idleTimeout : Nat} {l l' : ListenerTcp} {id : Nat}

/-- Nothing happened on connection `id` from `l` to `l'`: its entry in `m_connections` is the
same, and no byte was read, no payload queued, no `handle_message` call made and no response
written for it. -/
structure QuietSince (l l' : ListenerTcp) (id : Nat) : Prop where
  counter : l.idCounter ≤ l'.idCounter
  entry : l'.connections id = l.connections id
  bytes : l'.bytesOf id = l.bytesOf id
  requests : l'.requestsOf id = l.requestsOf id
  calls : l'.callsOf id = l.callsOf id
  sent : l'.sentOf id = l.sentOf id

theorem QuietSince.refl : QuietSince l l id := ⟨le_rfl, rfl, rfl, rfl, rfl, rfl⟩

theorem QuietSince.trans {l₁ l₂ : ListenerTcp} (h₁ : QuietSince l l₁ id) (h₂ : QuietSince l₁ l₂ id) :
    QuietSince l l₂ id :=
  ⟨h₁.counter.trans h₂.counter, h₂.entry.trans h₁.entry, h₂.bytes.trans h₁.bytes,
    h₂.requests.trans h₁.requests, h₂.calls.trans h₁.calls, h₂.sent.trans h₁.sent⟩

theorem QuietSince.isClosed (hq : QuietSince l l' id) (h : l.IsClosed id) : l'.IsClosed id :=
  ⟨h.1.trans_le hq.counter, hq.entry ▸ h.2⟩

theorem ListenerTcp.IsClosed.ne_of_open (h : l.IsClosed id) {j : Nat} {c : TcpDnsConnection}
    (hc : l.connections j = some c) (hOpen : c.closed = false) : j ≠ id := by
  rintro rfl
  simp [ListenerTcp.IsClosed, hc, hOpen] at h

theorem quietSince_setConn {j : Nat} (hj : j ≠ id) (c : TcpDnsConnection) :
    QuietSince l (l.setConn j c) id :=
  ⟨le_rfl, Function.update_noteq (Ne.symm hj) _ _, rfl, rfl, rfl, rfl⟩

theorem quietSince_closeConn {j : Nat} (hj : j ≠ id) (pending : List Nat) :
    QuietSince l (l.closeConn j pending) id :=
  ⟨le_rfl, Function.update_noteq (Ne.symm hj) _ _, rfl, rfl, rfl, rfl⟩

theorem quietSince_accept (h : l.IsClosed id) (hd : TcpHandles) (c : TcpDnsConnection) :
    QuietSince l (({ l with idCounter := l.idCounter + 1 }.setHandles l.idCounter hd).setConn l.idCounter c) id :=
  ⟨Nat.le_succ _, Function.update_noteq h.1.ne _ _, rfl, rfl, rfl, rfl⟩

theorem quietSince_read {j : Nat} (hj : j ≠ id) (c : TcpDnsConnection) (chunk : List UInt8) :
    QuietSince l (onRead idleTimeout l j c chunk) id := by
  refine ⟨by rw [onRead_eq], by rw [onRead_connections, if_neg hj.symm], by rw [onRead_bytesOf, if_neg hj.symm],
    by rw [onRead_requestsOf, if_neg hj.symm, List.append_nil], by rw [onRead_eq]; rfl, by rw [onRead_eq]; rfl⟩

theorem quietSince_step (hl : TcpInv persistent l) (hClosed : l.IsClosed id) {e : TcpEvent}
    (h : tcpStep persistent idleTimeout l e = some (.ok l')) : QuietSince l l' id := by
  rcases tcpStep_cases h with ⟨ms, rfl⟩ | ⟨-, status, tcpInit, accept, readStart, h⟩ |
    ⟨j, nread, hReading, h⟩ | ⟨w, -, -, rfl⟩ | ⟨w, hw, -, response, h⟩ |
    ⟨w, hw, -, writeOk, h⟩ | ⟨j, ok, -, h⟩ | ⟨j, -, -, h⟩ | ⟨-, h⟩
  · exact ⟨le_rfl, rfl, rfl, rfl, rfl, rfl⟩
  · rcases connCb_eq_ok h with rfl | rfl | rfl | rfl
    · exact .refl
    · exact ⟨Nat.le_succ _, rfl, rfl, rfl, rfl, rfl⟩
    · exact quietSince_accept hClosed _ _
    · exact quietSince_accept hClosed _ _
  · obtain ⟨c, hc, ⟨chunk, rfl, rfl⟩ | ⟨rfl, ⟨-, rfl⟩ | ⟨hOpen, rfl⟩⟩⟩ := readCb_eq_ok h
    · -- a reading handle belongs to an open connection
      obtain ⟨d, hd, hOpen⟩ := hl.live_data j (hl.reading_data j hReading)
      exact quietSince_read (hClosed.ne_of_open hd hOpen) c chunk
    · exact .refl
    · exact quietSince_closeConn (hClosed.ne_of_open hc hOpen) _
  · exact ⟨le_rfl, rfl, rfl, rfl, rfl, rfl⟩
  · rcases workCb_eq_ok h with ⟨-, rfl⟩ | ⟨hLive, -, rfl⟩
    · exact ⟨le_rfl, rfl, rfl, rfl, rfl, rfl⟩
    · obtain ⟨c, hc, hOpen⟩ := hl.conn_of_live hw hLive
      have hne := hClosed.ne_of_open hc hOpen
      exact ⟨le_rfl, rfl, rfl, rfl, by simp [callsOf, hne], rfl⟩
  · rcases afterWorkCb_eq_ok h with ⟨-, rfl⟩ | ⟨-, hLive, c, -, hCases⟩
    · exact ⟨le_rfl, rfl, rfl, rfl, rfl, rfl⟩
    obtain ⟨d, hd, hOpen⟩ := hl.conn_of_live hw hLive
    have hne := hClosed.ne_of_open hd hOpen
    rcases hCases with ⟨-, rfl⟩ | ⟨-, -, rfl⟩ | ⟨-, -, -, rfl⟩
    all_goals have hq := quietSince_setConn (l := l) hne { c with pendingWorks := c.pendingWorks.erase w.serial }
    · exact ⟨hq.counter, hq.entry, rfl, rfl, rfl, by simp [sentOf, deleteWork, hne]⟩
    · exact { hq with }
    · exact { hq.trans (quietSince_closeConn hne (c.pendingWorks.erase w.serial)) with }
  · rcases writeCb_eq_ok h with rfl | ⟨c, hc, hOpen, rfl⟩
    · exact ⟨le_rfl, rfl, rfl, rfl, rfl, rfl⟩
    · exact { quietSince_closeConn (l := l) (hClosed.ne_of_open hc hOpen) c.pendingWorks with }
  · obtain ⟨c, hc, ⟨-, rfl⟩ | ⟨hOpen, rfl⟩⟩ := closeById_eq_ok h
    · exact .refl
    · exact quietSince_closeConn (hClosed.ne_of_open hc hOpen) _
  · -- `before_stop` closes the open connections, and skips the closed ones
    have hStopped : QuietSince l { l with listening := false } id ∧ ListenerTcp.IsClosed { l with listening := false } id :=
      ⟨⟨le_rfl, rfl, rfl, rfl, rfl, rfl⟩, hClosed⟩
    refine foldlM_closeEntry (P := fun l₁ => QuietSince l l₁ id ∧ l₁.IsClosed id) (fun {l₁ _ _} hq h => ?_)
      (List.range l.idCounter) hStopped h |>.1
    rcases closeEntry_eq_ok h with ⟨rfl, -⟩ | ⟨c, hc, hOpen, rfl⟩
    · exact hq
    · have hq' := quietSince_closeConn (l := l₁) (hq.2.ne_of_open hc hOpen) c.pendingWorks
      exact ⟨hq.1.trans hq', hq'.isClosed hq.2⟩

def closeOnTimeout : List TcpEvent :=
  [.connCb true true true true, .readCb 0 (some [0, 1, 7]), .tick 5, .idleTimeoutCb 0]

/-- After the close: `after_work_cb` of the canceled work, then a second connection and its query. -/
def afterClose : List TcpEvent :=
  [.afterWorkCb 0 true, .connCb true true true true, .readCb 1 (some [0, 1, 9])]

/-- A connection that has closed stays so for every later run of callbacks: its entry in
`m_connections` never changes, and nothing is read, queued, answered or written for it. -/
theorem reachable_closed_quiet (hl : TcpReachable persistent idleTimeout l) (hClosed : l.IsClosed id)
    {events : List TcpEvent} (h : tcpRun persistent idleTimeout l events = some (.ok l')) :
    QuietSince l l' id := by
  induction events generalizing l with
  | nil =>
    cases h
    exact .refl
  | cons e events ih =>
    obtain ⟨l₁, hStep, hRun⟩ := run_cons_ok h
    have hq := quietSince_step (reachable_tcpInv hl) hClosed hStep
    exact hq.trans (ih (hl.step hStep) (hq.isClosed hClosed) hRun)

theorem reachable_closed_quiet_after_timeout :
    (replay false 5 closeOnTimeout).IsClosed 0 ∧ ∃ l', tcpRun false 5 (replay false 5 closeOnTimeout) afterClose = some (.ok l') ∧
      QuietSince (replay false 5 closeOnTimeout) l' 0 :=
  have hClosed : (replay false 5 closeOnTimeout).IsClosed 0 := by decide
  have ⟨l', hRun⟩ : ∃ l', tcpRun false 5 (replay false 5 closeOnTimeout) afterClose = some (.ok l') := ⟨_, rfl⟩
  ⟨hClosed, l', hRun, reachable_closed_quiet (reachable_replay _) hClosed hRun⟩

end Quiet

/-! ## The entries `do_close` leaves in `m_connections` -/

section Stopped

variable {persistent : Bool} {idleTimeout : Nat} {l l' : ListenerTcp}

variable (persistent) in
/-- The closed entries of `m_connections` are connections whose `uv_read_start` failed, as
`connection_cb` stored them; once the listener has stopped, no other entry is left. -/
structure ClosedEntries (l : ListenerTcp) : Prop where
  failed_start : ∀ id c, l.connections id = some c → c.closed = true → c = ⟨persistent, true, .new, []⟩
  stopped : l.listening = false → ∀ id c, l.connections id = some c → c.closed = true

theorem closedEntries_init : ClosedEntries persistent ListenerTcp.init where
  failed_start _ _ h := nomatch h
  stopped _ _ _ h := nomatch h

theorem ListenerTcp.closeConn_entry {l : ListenerTcp} {j id : Nat} {pending : List Nat} {c : TcpDnsConnection}
    (h : (l.closeConn j pending).connections id = some c) : l.connections id = some c := by
  rw [closeConn_connections] at h
  split_ifs at h
  exact h

theorem ClosedEntries.closeConn (hce : ClosedEntries persistent l) (j : Nat) (pending : List Nat) :
    ClosedEntries persistent (l.closeConn j pending) :=
  ⟨fun id _ h => hce.failed_start id _ (closeConn_entry h), fun hL id _ h => hce.stopped hL id _ (closeConn_entry h)⟩

theorem ClosedEntries.replace (hce : ClosedEntries persistent l) {j : Nat} {c d : TcpDnsConnection}
    (hc : l.connections j = some c) (hOpen : c.closed = false)
    (hConn : ∀ i, l'.connections i = if i = j then some d else l.connections i)
    (hListening : l'.listening = l.listening) (hd : d.closed = false) :
    ClosedEntries persistent l' := by
  constructor
  · intro i e he hClosed
    rw [hConn] at he
    split_ifs at he
    · cases he
      simp [hd] at hClosed
    · exact hce.failed_start i e he hClosed
  · intro hL
    simpa [hOpen] using hce.stopped (hListening ▸ hL) j c hc

theorem ClosedEntries.accept (hce : ClosedEntries persistent l) (hListening : l.listening = true)
    (hd : TcpHandles) (closed : Bool) :
    ClosedEntries persistent
      (({ l with idCounter := l.idCounter + 1 }.setHandles l.idCounter hd).setConn l.idCounter ⟨persistent, closed, .new, []⟩) := by
  constructor
  · intro i e he hClosed
    rcases update_eq_some he with ⟨-, rfl⟩ | ⟨-, he⟩
    · cases hClosed
      rfl
    · exact hce.failed_start i e he hClosed
  · intro hL
    simp [setConn, setHandles, hListening] at hL

theorem foldlM_closeEntry_closed : ∀ (ids : List Nat) {l l' : ListenerTcp}, ids.foldlM closeEntry l = .ok l' →
    ∀ j, j ∈ ids ∨ (l.connections j).all (·.closed) = true → (l'.connections j).all (·.closed) = true
  | [], _, _, h, j, hj => by
    cases h
    simpa using hj
  | id :: ids, l, _, h, j, hj => by
    rw [List.foldlM_cons] at h
    obtain ⟨l₁, h₁, h⟩ := except_bind_eq_ok h
    refine foldlM_closeEntry_closed ids h j ?_
    rcases hj with hj | hj
    · rcases List.mem_cons.mp hj with rfl | hj
      · rcases closeEntry_eq_ok h₁ with ⟨rfl, hAll⟩ | ⟨c, -, -, rfl⟩
        · exact .inr hAll
        · simp [closeConn_connections]
      · exact .inl hj
    · rcases closeEntry_eq_ok h₁ with ⟨rfl, -⟩ | ⟨c, -, -, rfl⟩
      · exact .inr hj
      · right
        rw [closeConn_connections]
        split_ifs
        · rfl
        · exact hj

theorem ClosedEntries.stop (hce : ClosedEntries persistent l) (hl : TcpInv persistent l)
    (h : beforeStop l = .ok l') : ClosedEntries persistent l' := by
  have hSub : ∀ i d, l'.connections i = some d → l.connections i = some d :=
    foldlM_closeEntry (P := fun l₁ => ∀ i d, l₁.connections i = some d → l.connections i = some d)
      (fun hSub h i d hd => by
        rcases closeEntry_eq_ok h with ⟨rfl, -⟩ | ⟨c, -, -, rfl⟩
        · exact hSub i d hd
        · exact hSub i d (closeConn_entry hd))
      (List.range l.idCounter) (l := { l with listening := false }) (fun _ _ h => h) h
  refine ⟨fun i d hd => hce.failed_start i d (hSub i d hd), fun _ i d hd => ?_⟩
  have hAll := foldlM_closeEntry_closed _ h i (by
    by_cases hi : i < l.idCounter
    · exact .inl (List.mem_range.mpr hi)
    · exact .inr (by simp [(hl.fresh i (Nat.le_of_not_lt hi)).1]))
  simpa [hd] using hAll

theorem ClosedEntries.step (hce : ClosedEntries persistent l) (hl : TcpInv persistent l) {e : TcpEvent}
    (h : tcpStep persistent idleTimeout l e = some (.ok l')) : ClosedEntries persistent l' := by
  rcases tcpStep_cases h with ⟨ms, rfl⟩ | ⟨hListening, status, tcpInit, accept, readStart, h⟩ |
    ⟨j, nread, hReading, h⟩ | ⟨w, -, -, rfl⟩ | ⟨w, -, -, response, h⟩ |
    ⟨w, hw, -, writeOk, h⟩ | ⟨j, ok, -, h⟩ | ⟨j, -, -, h⟩ | ⟨-, h⟩
  · exact { hce with }
  · rcases connCb_eq_ok h with rfl | rfl | rfl | rfl
    · exact hce
    · exact { hce with }
    · exact hce.accept hListening _ false
    · exact hce.accept hListening _ true
  · obtain ⟨c, hc, ⟨chunk, rfl, rfl⟩ | ⟨rfl, ⟨-, rfl⟩ | ⟨-, rfl⟩⟩⟩ := readCb_eq_ok h
    · obtain ⟨d, hd, hOpen⟩ := hl.live_data j (hl.reading_data j hReading)
      rw [hc] at hd
      cases hd
      exact hce.replace hc hOpen (onRead_connections idleTimeout l j c chunk) (by rw [onRead_eq]) hOpen
    · exact hce
    · exact hce.closeConn j _
  · exact { hce with }
  · rcases workCb_eq_ok h with ⟨-, rfl⟩ | ⟨-, -, rfl⟩
    · exact { hce with }
    · exact { hce with }
  · rcases afterWorkCb_eq_ok h with ⟨-, rfl⟩ | ⟨-, hLive, c, hc, hCases⟩
    · exact { hce with }
    · obtain ⟨-, d, hd, hOpen, -⟩ := hl.live_work w hw hLive
      rw [hc] at hd
      cases hd
      have hRetire : ClosedEntries persistent (l.setConn w.conn { c with pendingWorks := c.pendingWorks.erase w.serial }) :=
        hce.replace hc hOpen (d := { c with pendingWorks := c.pendingWorks.erase w.serial })
          (fun i => by simp [setConn, Function.update_apply]) rfl hOpen
      rcases hCases with ⟨-, rfl⟩ | ⟨-, -, rfl⟩ | ⟨-, -, -, rfl⟩
      · exact { hRetire with }
      · exact { hRetire with }
      · exact { hRetire.closeConn w.conn (c.pendingWorks.erase w.serial) with }
  · rcases writeCb_eq_ok h with rfl | ⟨c, -, -, rfl⟩
    · exact { hce with }
    · exact { hce.closeConn j c.pendingWorks with }
  · obtain ⟨c, -, ⟨-, rfl⟩ | ⟨-, rfl⟩⟩ := closeById_eq_ok h
    · exact hce
    · exact hce.closeConn j _
  · exact ClosedEntries.stop hce hl h

theorem reachable_closedEntries (hl : TcpReachable persistent idleTimeout l) : ClosedEntries persistent l := by
  induction hl with
  | init => exact closedEntries_init
  | step hReach hStep ih => exact ih.step (reachable_tcpInv hReach) hStep

/-- A connection whose `uv_read_start` fails. -/
def failedReadStart : List TcpEvent :=
  [.connCb true true true false]

/-- Every closed entry in `m_connections` is a connection whose `uv_read_start` failed in
`start`: `connection_cb` inserts it after `do_close`, with a new parser and no pending work, and
it never read a byte. -/
theorem reachable_closed_entry (hl : TcpReachable persistent idleTimeout l) {id : Nat} {c : TcpDnsConnection}
    (hc : l.connections id = some c) (hClosed : c.closed = true) :
    c = ⟨persistent, true, .new, []⟩ ∧ l.bytesOf id = [] := by
  refine ⟨(reachable_closedEntries hl).failed_start id c hc hClosed, ?_⟩
  have hNone : l.received.filter (·.1 = id) = [] :=
    List.filter_eq_nil_iff.mpr fun e he => by simpa using (reachable_tcpInv hl).closed_unread id c hc hClosed e he
  simp [bytesOf, hNone]

theorem reachable_closed_entry_failed_start :
    (replay true 5 failedReadStart).connections 0 = some ⟨true, true, .new, []⟩ ∧
      (replay true 5 failedReadStart).bytesOf 0 = [] :=
  have hc : (replay true 5 failedReadStart).connections 0 = some ⟨true, true, .new, []⟩ := rfl
  ⟨hc, (reachable_closed_entry (reachable_replay _) hc rfl).2⟩

/-- The failed start, then `before_stop`. -/
def stopAfterFailedStart : List TcpEvent :=
  failedReadStart ++ [.stop]

/-- After `before_stop`, the entries left in `m_connections` are exactly the connections whose
`uv_read_start` failed: `do_close` erased every other one. -/
theorem reachable_stopped_entries (hl : TcpReachable persistent idleTimeout l) (hStopped : l.listening = false)
    {id : Nat} {c : TcpDnsConnection} (hc : l.connections id = some c) : c = ⟨persistent, true, .new, []⟩ :=
  have hce := reachable_closedEntries hl
  hce.failed_start id c hc (hce.stopped hStopped id c hc)

theorem reachable_stopped_entries_failed_start :
    (replay true 5 stopAfterFailedStart).listening = false ∧ ∃ c,
      (replay true 5 stopAfterFailedStart).connections 0 = some c ∧ c = ⟨true, true, .new, []⟩ :=
  have hStopped : (replay true 5 stopAfterFailedStart).listening = false := rfl
  have hc : (replay true 5 stopAfterFailedStart).connections 0 = some ⟨true, true, .new, []⟩ := rfl
  ⟨hStopped, _, hc, reachable_stopped_entries (reachable_replay _) hStopped hc⟩

end Stopped

end DnsProxy
