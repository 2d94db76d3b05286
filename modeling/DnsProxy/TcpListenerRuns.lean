import DnsProxy.TcpListener
import Mathlib.Data.List.Nodup

/-! # The TCP listener over whole runs

The invariant `TcpInv` of every reachable listener (sound pointers, exact bookkeeping, a consistent
history), kept by each callback, and what follows from it.
-/

namespace DnsProxy

set_option autoImplicit false

open ListenerTcp

section Invariant

variable (persistent : Bool)

/-- The invariant of reachable listeners. -/
structure TcpInv (l : ListenerTcp) : Prop where
  requests_serial : l.requests.map (·.serial) = List.range l.nextWork
  pending_lt : ∀ id c, l.connections id = some c → ∀ s ∈ c.pendingWorks, s < l.nextWork
  fresh : ∀ id, l.idCounter ≤ id →
    l.connections id = none ∧ (∀ r ∈ l.requests, r.conn ≠ id) ∧ ∀ e ∈ l.received, e.1 ≠ id
  persistent_eq : ∀ id c, l.connections id = some c → c.persistent = persistent
  pending_nodup : ∀ id c, l.connections id = some c → c.pendingWorks.Nodup
  works_nodup : (l.works.map (·.serial)).Nodup
  live_work : ∀ w ∈ l.works, w.canceled = false → w.phase ≠ .cancelled ∧
    ∃ c, l.connections w.conn = some c ∧ c.closed = false ∧ w.serial ∈ c.pendingWorks
  live_data : ∀ id, (l.handles id).data = true → ∃ c, l.connections id = some c ∧ c.closed = false
  reading_data : ∀ id, (l.handles id).reading = true → (l.handles id).data = true
  timer_data : ∀ id, (l.handles id).timerActive = true → (l.handles id).data = true
  closed_unread : ∀ id c, l.connections id = some c → c.closed = true → ∀ e ∈ l.received, e.1 ≠ id
  work_request : ∀ w ∈ l.works, ∃ r ∈ l.requests, r.serial = w.serial ∧ r.conn = w.conn ∧
    (w.phase = .queued ∨ w.phase = .started → w.payload = r.payload)
  work_called : ∀ w ∈ l.works, w.phase = .finished → w.canceled = false →
    ∃ q ∈ l.calls, q.serial = w.serial ∧ q.conn = w.conn ∧ q.response = w.payload
  work_uncalled : ∀ w ∈ l.works, w.phase ≠ .finished → ∀ q ∈ l.calls, q.serial ≠ w.serial
  work_unsent : ∀ w ∈ l.works, ∀ s ∈ l.sent, s.serial ≠ w.serial
  calls_nodup : (l.calls.map (·.serial)).Nodup
  sent_nodup : (l.sent.map (·.serial)).Nodup
  call_request : ∀ q ∈ l.calls, ∃ r ∈ l.requests, r.serial = q.serial ∧ r.conn = q.conn ∧ r.payload = q.request
  sent_call : ∀ s ∈ l.sent, ∃ q ∈ l.calls, q.serial = s.serial ∧ q.conn = s.conn ∧ q.response = s.payload

theorem tcpInv_init : TcpInv persistent ListenerTcp.init where
  requests_serial := rfl
  pending_lt _ _ h := nomatch h
  fresh _ _ := ⟨rfl, List.forall_mem_nil _, List.forall_mem_nil _⟩
  persistent_eq _ _ h := nomatch h
  pending_nodup _ _ h := nomatch h
  works_nodup := List.nodup_nil
  live_work := List.forall_mem_nil _
  live_data _ h := nomatch h
  reading_data _ h := nomatch h
  timer_data _ h := nomatch h
  closed_unread _ _ h := nomatch h
  work_request := List.forall_mem_nil _
  work_called := List.forall_mem_nil _
  work_uncalled := List.forall_mem_nil _
  work_unsent := List.forall_mem_nil _
  calls_nodup := List.nodup_nil
  sent_nodup := List.nodup_nil
  call_request := List.forall_mem_nil _
  sent_call := List.forall_mem_nil _

variable {persistent} {l : ListenerTcp}

theorem TcpInv.request_lt (hl : TcpInv persistent l) {r : TcpRequest} (hr : r ∈ l.requests) :
    r.serial < l.nextWork := by
  have h : r.serial ∈ l.requests.map (·.serial) := List.mem_map_of_mem _ hr
  rwa [hl.requests_serial, List.mem_range] at h

theorem TcpInv.work_lt (hl : TcpInv persistent l) {w : TcpWork} (hw : w ∈ l.works) :
    w.serial < l.nextWork := by
  obtain ⟨r, hr, hSerial, -⟩ := hl.work_request w hw
  exact hSerial ▸ hl.request_lt hr

theorem TcpInv.call_lt (hl : TcpInv persistent l) {q : TcpCall} (hq : q ∈ l.calls) :
    q.serial < l.nextWork := by
  obtain ⟨r, hr, hSerial, -⟩ := hl.call_request q hq
  exact hSerial ▸ hl.request_lt hr

theorem TcpInv.sent_lt (hl : TcpInv persistent l) {s : TcpSent} (hs : s ∈ l.sent) :
    s.serial < l.nextWork := by
  obtain ⟨q, hq, hSerial, -⟩ := hl.sent_call s hs
  exact hSerial ▸ hl.call_lt hq

theorem TcpInv.conn_of_live (hl : TcpInv persistent l) {w : TcpWork} (hw : w ∈ l.works)
    (hLive : w.canceled = false) : ∃ c, l.connections w.conn = some c ∧ c.closed = false :=
  let ⟨_, c, hc, hOpen, _⟩ := hl.live_work w hw hLive
  ⟨c, hc, hOpen⟩

theorem TcpInv.id_lt (hl : TcpInv persistent l) {id : Nat} {c : TcpDnsConnection}
    (hc : l.connections id = some c) : id < l.idCounter :=
  Nat.lt_of_not_le fun hLe => by simp [(hl.fresh id hLe).1] at hc

/-! ## Each callback keeps the invariant -/

theorem TcpInv.closeConn (hl : TcpInv persistent l) {id : Nat} {c : TcpDnsConnection}
    (hc : l.connections id = some c) :
    TcpInv persistent (l.closeConn id c.pendingWorks) := by
  have hConn : ∀ j d, (l.closeConn id c.pendingWorks).connections j = some d →
      j ≠ id ∧ l.connections j = some d := by
    intro j d hd
    rw [closeConn_connections] at hd
    split_ifs at hd with hj
    exact ⟨hj, hd⟩
  have hWork : ∀ w ∈ (l.closeConn id c.pendingWorks).works, ∃ u ∈ l.works,
      w = u.cancelIn c.pendingWorks := fun w hw => by
    obtain ⟨u, hu, rfl⟩ := List.mem_map.mp hw
    exact ⟨u, hu, rfl⟩
  refine { hl with
    pending_lt := fun j d hd => hl.pending_lt j d (hConn j d hd).2
    fresh := fun j hj => ⟨?_, (hl.fresh j hj).2⟩
    persistent_eq := fun j d hd => hl.persistent_eq j d (hConn j d hd).2
    pending_nodup := fun j d hd => hl.pending_nodup j d (hConn j d hd).2
    works_nodup := by simpa [ListenerTcp.closeConn, List.map_map, Function.comp_def] using hl.works_nodup
    live_work := ?_
    live_data := fun j hj => ?_
    reading_data := fun j hj => ?_
    timer_data := fun j hj => ?_
    closed_unread := fun j d hd => hl.closed_unread j d (hConn j d hd).2
    work_request := ?_
    work_called := ?_
    work_uncalled := ?_
    work_unsent := ?_ }
  · rw [closeConn_connections]
    split_ifs
    · rfl
    · exact (hl.fresh j hj).1
  · intro w hw hLive
    obtain ⟨u, hu, rfl⟩ := hWork w hw
    have hNot := TcpWork.not_mem_of_cancelIn_canceled hLive
    rw [TcpWork.cancelIn_of_not_mem hNot] at hLive ⊢
    obtain ⟨hPhase, d, hd, hdOpen, hPending⟩ := hl.live_work u hu hLive
    have hne : u.conn ≠ id := by
      rintro hEq
      rw [hEq, hc] at hd
      cases hd
      exact hNot hPending
    exact ⟨hPhase, d, by rwa [closeConn_connections, if_neg hne], hdOpen, hPending⟩
  · rw [closeConn_handles] at hj
    split_ifs at hj with hj'
    obtain ⟨d, hd, hdOpen⟩ := hl.live_data j hj
    exact ⟨d, by rwa [closeConn_connections, if_neg hj'], hdOpen⟩
  · rw [closeConn_handles] at hj ⊢
    split_ifs at hj ⊢
    exact hl.reading_data j hj
  · rw [closeConn_handles] at hj ⊢
    split_ifs at hj ⊢
    exact hl.timer_data j hj
  · intro w hw
    obtain ⟨u, hu, rfl⟩ := hWork w hw
    obtain ⟨r, hr, hSerial, hConnEq, hPayload⟩ := hl.work_request u hu
    refine ⟨r, hr, by simpa using hSerial, by simpa using hConnEq, fun hPhase => ?_⟩
    rcases TcpWork.cancelIn_phase c.pendingWorks u with hEq | hEq
    · simpa using hPayload (hEq ▸ hPhase)
    · rw [hEq] at hPhase
      simp at hPhase
  · intro w hw hFinished hLive
    obtain ⟨u, hu, rfl⟩ := hWork w hw
    have hNot := TcpWork.not_mem_of_cancelIn_canceled hLive
    rw [TcpWork.cancelIn_of_not_mem hNot] at hFinished hLive ⊢
    exact hl.work_called u hu hFinished hLive
  · intro w hw hPhase
    obtain ⟨u, hu, rfl⟩ := hWork w hw
    simpa using hl.work_uncalled u hu (mt (TcpWork.cancelIn_phase_eq_finished _ u).mpr hPhase)
  · intro w hw
    obtain ⟨u, hu, rfl⟩ := hWork w hw
    simpa using hl.work_unsent u hu

theorem ListenerTcp.mem_setWork {w v : TcpWork} (h : v ∈ (l.setWork w).works) :
    v = w ∨ (v ∈ l.works ∧ v.serial ≠ w.serial) := by
  obtain ⟨u, hu, rfl⟩ := List.mem_map.mp h
  split_ifs with hs
  · exact .inl rfl
  · exact .inr ⟨hu, hs⟩

theorem ListenerTcp.setWork_serials (w : TcpWork) :
    (l.setWork w).works.map (·.serial) = l.works.map (·.serial) := by
  simp only [setWork, List.map_map]
  congr 1
  funext u
  by_cases hs : u.serial = w.serial <;> simp [hs]

theorem ListenerTcp.deleteWork_closeConn (s id : Nat) (pending : List Nat) :
    (l.closeConn id pending).deleteWork s = (l.deleteWork s).closeConn id pending := by
  simp only [ListenerTcp.closeConn, deleteWork, List.filter_map]
  congr 3
  funext w
  simp

theorem TcpInv.deleteWork (hl : TcpInv persistent l) (s : Nat) : TcpInv persistent (l.deleteWork s) :=
  have hMem : ∀ {w}, w ∈ (l.deleteWork s).works → w ∈ l.works := fun hw => (List.mem_filter.mp hw).1
  { hl with
    works_nodup := hl.works_nodup.sublist ((List.filter_sublist _).map _)
    live_work := fun w hw => hl.live_work w (hMem hw)
    work_request := fun w hw => hl.work_request w (hMem hw)
    work_called := fun w hw => hl.work_called w (hMem hw)
    work_uncalled := fun w hw => hl.work_uncalled w (hMem hw)
    work_unsent := fun w hw => hl.work_unsent w (hMem hw) }

theorem TcpInv.accept (hl : TcpInv persistent l) {c : TcpDnsConnection} {h : TcpHandles}
    (hPersistent : c.persistent = persistent) (hPending : c.pendingWorks = [])
    (hData : h.data = true → c.closed = false) (hReading : h.reading = true → h.data = true)
    (hTimer : h.timerActive = true → h.data = true) :
    TcpInv persistent (({ l with idCounter := l.idCounter + 1 }.setHandles l.idCounter h).setConn
      l.idCounter c) := by
  have hFresh := hl.fresh l.idCounter le_rfl
  simp only [setConn, setHandles]
  refine { hl with
    pending_lt := fun j d hd => ?_
    fresh := fun j hj => ?_
    persistent_eq := fun j d hd => ?_
    pending_nodup := fun j d hd => ?_
    live_work := fun w hw hLive => ?_
    live_data := fun j hj => ?_
    reading_data := fun j hj => ?_
    timer_data := fun j hj => ?_
    closed_unread := fun j d hd hClosed => ?_ }
  · rcases update_eq_some hd with ⟨-, rfl⟩ | ⟨-, hd⟩
    · simp [hPending]
    · exact hl.pending_lt j d hd
  · have hj' : l.idCounter + 1 ≤ j := hj
    exact ⟨by simpa [Function.update_apply, show j ≠ l.idCounter by omega] using (hl.fresh j (by omega)).1,
      (hl.fresh j (by omega)).2⟩
  · rcases update_eq_some hd with ⟨-, rfl⟩ | ⟨-, hd⟩
    · exact hPersistent
    · exact hl.persistent_eq j d hd
  · rcases update_eq_some hd with ⟨-, rfl⟩ | ⟨-, hd⟩
    · simp [hPending]
    · exact hl.pending_nodup j d hd
  · obtain ⟨hPhase, d, hd, hdOpen, hMem⟩ := hl.live_work w hw hLive
    have hNew : w.conn ≠ l.idCounter := fun hEq => by simp [hEq, hFresh.1] at hd
    exact ⟨hPhase, d, by simpa [Function.update_apply, hNew] using hd, hdOpen, hMem⟩
  · simp only [Function.update_apply] at hj ⊢
    split_ifs at hj ⊢ with hEq
    · exact ⟨c, rfl, hData hj⟩
    · exact hl.live_data j hj
  · simp only [Function.update_apply] at hj ⊢
    split_ifs at hj ⊢
    · exact hReading hj
    · exact hl.reading_data j hj
  · simp only [Function.update_apply] at hj ⊢
    split_ifs at hj ⊢
    · exact hTimer hj
    · exact hl.timer_data j hj
  · rcases update_eq_some hd with ⟨rfl, -⟩ | ⟨-, hd⟩
    · exact hFresh.2.2
    · exact hl.closed_unread j d hd hClosed

theorem TcpInv.pick (hl : TcpInv persistent l) {w : TcpWork} (hw : w ∈ l.works)
    (hQueued : w.phase = .queued) : TcpInv persistent (l.setWork { w with phase := .started }) := by
  refine { hl with
    works_nodup := (setWork_serials _).symm ▸ hl.works_nodup
    live_work := fun v hv hLive => ?_
    work_request := fun v hv => ?_
    work_called := fun v hv hFinished => ?_
    work_uncalled := fun v hv hPhase => ?_
    work_unsent := fun v hv => ?_ }
  all_goals rcases mem_setWork hv with rfl | ⟨hv, -⟩
  · exact ⟨by simp, (hl.live_work w hw hLive).2⟩
  · exact hl.live_work v hv hLive
  · obtain ⟨r, hr, hSerial, hConn, hPayload⟩ := hl.work_request w hw
    exact ⟨r, hr, hSerial, hConn, fun _ => hPayload (.inl hQueued)⟩
  · exact hl.work_request v hv
  · cases hFinished
  · exact hl.work_called v hv hFinished
  · exact hl.work_uncalled w hw (by rw [hQueued]; decide)
  · exact hl.work_uncalled v hv hPhase
  · exact hl.work_unsent w hw
  · exact hl.work_unsent v hv

theorem TcpInv.skip (hl : TcpInv persistent l) {w : TcpWork} (hw : w ∈ l.works)
    (hCanceled : w.canceled = true) : TcpInv persistent (l.setWork { w with phase := .finished }) := by
  refine { hl with
    works_nodup := (setWork_serials _).symm ▸ hl.works_nodup
    live_work := fun v hv hLive => ?_
    work_request := fun v hv => ?_
    work_called := fun v hv hFinished hLive => ?_
    work_uncalled := fun v hv hPhase => ?_
    work_unsent := fun v hv => ?_ }
  all_goals rcases mem_setWork hv with rfl | ⟨hv, -⟩
  · exact absurd hCanceled (by simpa using hLive)
  · exact hl.live_work v hv hLive
  · obtain ⟨r, hr, hSerial, hConn, -⟩ := hl.work_request w hw
    exact ⟨r, hr, hSerial, hConn, fun h => by simp at h⟩
  · exact hl.work_request v hv
  · exact absurd hCanceled (by simpa using hLive)
  · exact hl.work_called v hv hFinished hLive
  · exact absurd rfl hPhase
  · exact hl.work_uncalled v hv hPhase
  · exact hl.work_unsent w hw
  · exact hl.work_unsent v hv

theorem TcpInv.run (hl : TcpInv persistent l) {w : TcpWork} (hw : w ∈ l.works)
    (hStarted : w.phase = .started) (hLive : w.canceled = false) (response : List UInt8) :
    TcpInv persistent { l.setWork { w with payload := response, phase := .finished } with
      calls := l.calls ++ [⟨w.serial, w.conn, w.payload, response⟩] } := by
  obtain ⟨r, hr, hSerial, hConn, hPayload⟩ := hl.work_request w hw
  have hUncalled := hl.work_uncalled w hw (by rw [hStarted]; decide)
  refine { hl with
    works_nodup := (setWork_serials _).symm ▸ hl.works_nodup
    live_work := fun v hv hLive' => ?_
    work_request := fun v hv => ?_
    work_called := fun v hv hFinished hLive' => ?_
    work_uncalled := fun v hv hPhase => ?_
    work_unsent := fun v hv => ?_
    calls_nodup := ?_
    call_request := fun q hq => ?_
    sent_call := fun t ht => ?_ }
  any_goals rcases mem_setWork hv with rfl | ⟨hv, hvSerial⟩
  · exact ⟨by simp, (hl.live_work w hw hLive).2⟩
  · exact hl.live_work v hv hLive'
  · exact ⟨r, hr, hSerial, hConn, fun h => by simp at h⟩
  · exact hl.work_request v hv
  · exact ⟨_, List.mem_append_right _ (List.mem_singleton_self _), rfl, rfl, rfl⟩
  · obtain ⟨q, hq, h⟩ := hl.work_called v hv hFinished hLive'
    exact ⟨q, List.mem_append_left _ hq, h⟩
  · exact absurd rfl hPhase
  · intro q hq
    rcases List.mem_append.mp hq with hq | hq
    · exact hl.work_uncalled v hv hPhase q hq
    · rw [List.mem_singleton.mp hq]
      exact Ne.symm hvSerial
  · exact hl.work_unsent w hw
  · exact hl.work_unsent v hv
  · rw [List.map_append]
    exact List.concat_eq_append _ _ ▸ hl.calls_nodup.concat fun hMem => by
      obtain ⟨q, hq, hEq⟩ := List.mem_map.mp hMem
      exact hUncalled q hq hEq
  · rcases List.mem_append.mp hq with hq | hq
    · exact hl.call_request q hq
    · rw [List.mem_singleton.mp hq]
      exact ⟨r, hr, hSerial, hConn, (hPayload (.inr hStarted)).symm⟩
  · obtain ⟨q, hq, h⟩ := hl.sent_call t ht
    exact ⟨q, List.mem_append_left _ hq, h⟩

theorem TcpInv.retire (hl : TcpInv persistent l) {w : TcpWork} {c : TcpDnsConnection}
    (hc : l.connections w.conn = some c) :
    TcpInv persistent ((l.setConn w.conn { c with pendingWorks := c.pendingWorks.erase w.serial }).deleteWork
      w.serial) := by
  have hMem : ∀ {v}, v ∈ ((l.setConn w.conn { c with pendingWorks := c.pendingWorks.erase w.serial }).deleteWork
      w.serial).works → v ∈ l.works ∧ v.serial ≠ w.serial := fun hv => by
    simpa [ListenerTcp.deleteWork, setConn] using hv
  have hOld : ∀ {j d}, (l.setConn w.conn { c with pendingWorks := c.pendingWorks.erase w.serial }).connections j =
      some d → ∃ d₀, l.connections j = some d₀ ∧ d.persistent = d₀.persistent ∧ d.closed = d₀.closed ∧
        d.pendingWorks ⊆ d₀.pendingWorks ∧ (d₀.pendingWorks.Nodup → d.pendingWorks.Nodup) := by
    intro j d hd
    rcases update_eq_some hd with ⟨rfl, rfl⟩ | ⟨-, hd⟩
    · exact ⟨c, hc, rfl, rfl, List.erase_subset _ _, List.Nodup.erase _⟩
    · exact ⟨d, hd, rfl, rfl, List.Subset.refl _, id⟩
  refine { hl with
    pending_lt := fun j d hd s hs => ?_
    fresh := fun j hj => ⟨?_, (hl.fresh j hj).2⟩
    persistent_eq := fun j d hd => ?_
    pending_nodup := fun j d hd => ?_
    works_nodup := hl.works_nodup.sublist ((List.filter_sublist _).map _)
    live_work := fun v hv hLive => ?_
    live_data := fun j hj => ?_
    closed_unread := fun j d hd hClosed => ?_
    work_request := fun v hv => hl.work_request v (hMem hv).1
    work_called := fun v hv => hl.work_called v (hMem hv).1
    work_uncalled := fun v hv => hl.work_uncalled v (hMem hv).1
    work_unsent := fun v hv => hl.work_unsent v (hMem hv).1 }
  · obtain ⟨d₀, hd₀, -, -, hSub, -⟩ := hOld hd
    exact hl.pending_lt j d₀ hd₀ s (hSub hs)
  · have hj' : l.idCounter ≤ j := hj
    have hne : j ≠ w.conn := fun hEq => by
      have := hl.id_lt hc
      omega
    simpa [ListenerTcp.deleteWork, setConn, Function.update_apply, hne] using (hl.fresh j hj).1
  · obtain ⟨d₀, hd₀, hEq, -⟩ := hOld hd
    exact hEq.trans (hl.persistent_eq j d₀ hd₀)
  · obtain ⟨d₀, hd₀, -, -, -, hNodup⟩ := hOld hd
    exact hNodup (hl.pending_nodup j d₀ hd₀)
  · obtain ⟨hv, hvSerial⟩ := hMem hv
    obtain ⟨hPhase, d, hd, hdOpen, hPending⟩ := hl.live_work v hv hLive
    refine ⟨hPhase, ?_⟩
    by_cases hj : v.conn = w.conn
    · rw [hj, hc] at hd
      cases hd
      exact ⟨{ c with pendingWorks := c.pendingWorks.erase w.serial },
        by simp [ListenerTcp.deleteWork, setConn, hj], hdOpen, (List.mem_erase_of_ne hvSerial).mpr hPending⟩
    · exact ⟨d, by simpa [ListenerTcp.deleteWork, setConn, hj] using hd, hdOpen, hPending⟩
  · obtain ⟨d₀, hd₀, hdOpen⟩ := hl.live_data j hj
    by_cases hjc : j = w.conn
    · subst hjc
      rw [hc] at hd₀
      cases hd₀
      exact ⟨{ c with pendingWorks := c.pendingWorks.erase w.serial },
        by simp [ListenerTcp.deleteWork, setConn], hdOpen⟩
    · exact ⟨d₀, by simpa [ListenerTcp.deleteWork, setConn, hjc] using hd₀, hdOpen⟩
  · obtain ⟨d₀, hd₀, -, hClosedEq, -⟩ := hOld hd
    exact hl.closed_unread j d₀ hd₀ (hClosedEq ▸ hClosed)

theorem TcpInv.send (hl : TcpInv persistent l) (s : TcpSent)
    (hCall : ∃ q ∈ l.calls, q.serial = s.serial ∧ q.conn = s.conn ∧ q.response = s.payload)
    (hWorks : ∀ v ∈ l.works, v.serial ≠ s.serial) (hSent : ∀ t ∈ l.sent, t.serial ≠ s.serial)
    (writes : List Nat) : TcpInv persistent { l with writes := writes, sent := l.sent ++ [s] } := by
  refine { hl with
    work_unsent := fun v hv t ht => ?_
    sent_nodup := ?_
    sent_call := fun t ht => ?_ }
  · rcases List.mem_append.mp ht with ht | ht
    · exact hl.work_unsent v hv t ht
    · rw [List.mem_singleton.mp ht]
      exact (hWorks v hv).symm
  · rw [List.map_append]
    exact List.concat_eq_append _ _ ▸ hl.sent_nodup.concat fun hMem => by
      obtain ⟨t, ht, hEq⟩ := List.mem_map.mp hMem
      exact hSent t ht hEq
  · rcases List.mem_append.mp ht with ht | ht
    · exact hl.sent_call t ht
    · exact List.mem_singleton.mp ht ▸ hCall

theorem TcpInv.read (hl : TcpInv persistent l) (idleTimeout : Nat) {id : Nat} {c : TcpDnsConnection}
    (hc : l.connections id = some c) (hOpen : c.closed = false) (chunk : List UInt8) :
    TcpInv persistent (onRead idleTimeout l id c chunk) := by
  rw [onRead_eq]
  generalize takePayloads c.persistent (c.parser.pushData chunk) = taken
  obtain ⟨ps, q⟩ := taken
  dsimp only
  have hId := hl.id_lt hc
  -- the handles after: only the deadline moves, and reading may stop
  have hHandles : ∀ j, let h := (if ps = [] then l.handles else Function.update l.handles id
      { l.handles id with deadline := l.now + idleTimeout, reading := (l.handles id).reading && c.persistent }) j
      h.data = (l.handles j).data ∧ h.timerActive = (l.handles j).timerActive ∧
        (h.reading = true → (l.handles j).reading = true) := by
    intro j
    split_ifs
    · exact ⟨rfl, rfl, fun h => h⟩
    · rw [Function.update_apply]
      split_ifs with hj
      · subst hj
        exact ⟨rfl, rfl, fun h => (Bool.and_eq_true _ _).mp h |>.1⟩
      · exact ⟨rfl, rfl, fun h => h⟩
  have hNew : ∀ {w : TcpWork}, w ∈ (List.enumFrom l.nextWork ps).map
      (fun e => (⟨e.1, id, e.2, false, .queued⟩ : TcpWork)) →
      ∃ e ∈ List.enumFrom l.nextWork ps, ⟨e.1, id, e.2, false, .queued⟩ = w := fun hw =>
    List.mem_map.mp hw
  have hNewSerials : ((List.enumFrom l.nextWork ps).map
      (fun e => (⟨e.1, id, e.2, false, .queued⟩ : TcpWork))).map (·.serial) = List.range' l.nextWork ps.length := by
    simp [List.map_map, Function.comp_def]
  refine
    { requests_serial := ?_
      pending_lt := fun j d hd s hs => ?_
      fresh := fun j hj => ?_
      persistent_eq := fun j d hd => ?_
      pending_nodup := fun j d hd => ?_
      works_nodup := ?_
      live_work := fun w hw hLive => ?_
      live_data := fun j hj => ?_
      reading_data := fun j hj => ?_
      timer_data := fun j hj => ?_
      closed_unread := fun j d hd hClosed => ?_
      work_request := fun w hw => ?_
      work_called := fun w hw hFinished => ?_
      work_uncalled := fun w hw hPhase => ?_
      work_unsent := fun w hw => ?_
      calls_nodup := hl.calls_nodup
      sent_nodup := hl.sent_nodup
      call_request := fun q hq => ?_
      sent_call := hl.sent_call }
  · simp [List.map_map, Function.comp_def, hl.requests_serial, List.range_add, List.range'_eq_map_range]
  · rcases update_eq_some hd with ⟨rfl, rfl⟩ | ⟨-, hd⟩
    · rcases List.mem_append.mp hs with hs | hs
      · exact Nat.lt_add_right _ (hl.pending_lt j c hc s hs)
      · exact (List.mem_range'_1.mp hs).2
    · exact Nat.lt_add_right _ (hl.pending_lt j d hd s hs)
  · have hj' : l.idCounter ≤ j := hj
    have hne : j ≠ id := by omega
    refine ⟨by simpa [Function.update_apply, hne] using (hl.fresh j hj').1, fun r hr => ?_, fun e he => ?_⟩
    · rcases List.mem_append.mp hr with hr | hr
      · exact (hl.fresh j hj').2.1 r hr
      · obtain ⟨e, -, rfl⟩ := List.mem_map.mp hr
        exact Ne.symm hne
    · rcases List.mem_append.mp he with he | he
      · exact (hl.fresh j hj').2.2 e he
      · rw [List.mem_singleton.mp he]
        exact Ne.symm hne
  · rcases update_eq_some hd with ⟨rfl, rfl⟩ | ⟨-, hd⟩
    · exact hl.persistent_eq j c hc
    · exact hl.persistent_eq j d hd
  · rcases update_eq_some hd with ⟨rfl, rfl⟩ | ⟨-, hd⟩
    · exact (hl.pending_nodup j c hc).append (List.nodup_range' _ _) fun s hs hs' =>
        absurd (List.mem_range'_1.mp hs').1 (Nat.not_le.mpr (hl.pending_lt j c hc s hs))
    · exact hl.pending_nodup j d hd
  · rw [List.map_append, hNewSerials]
    exact hl.works_nodup.append (List.nodup_range' _ _) fun s hs hs' => by
      obtain ⟨w, hw, rfl⟩ := List.mem_map.mp hs
      exact absurd (List.mem_range'_1.mp hs').1 (Nat.not_le.mpr (hl.work_lt hw))
  · dsimp only
    rcases List.mem_append.mp hw with hw | hw
    · obtain ⟨hPhase, d, hd, hdOpen, hPending⟩ := hl.live_work w hw hLive
      refine ⟨hPhase, ?_⟩
      by_cases hj : w.conn = id
      · rw [hj, hc] at hd
        cases hd
        exact ⟨{ c with parser := q, pendingWorks := c.pendingWorks ++ List.range' l.nextWork ps.length },
          by rw [hj, Function.update_same], hdOpen, List.mem_append_left _ hPending⟩
      · exact ⟨d, by rwa [Function.update_noteq hj], hdOpen, hPending⟩
    · obtain ⟨e, he, rfl⟩ := hNew hw
      exact ⟨by simp, _, Function.update_same _ _ _, hOpen, List.mem_append_right _
        (List.mem_range'_1.mpr ⟨List.le_fst_of_mem_enumFrom he, List.fst_lt_add_of_mem_enumFrom he⟩)⟩
  · dsimp only
    obtain ⟨d, hd, hdOpen⟩ := hl.live_data j ((hHandles j).1 ▸ hj)
    by_cases hjid : j = id
    · subst hjid
      rw [hc] at hd
      cases hd
      exact ⟨_, Function.update_same _ _ _, hdOpen⟩
    · exact ⟨d, by rwa [Function.update_noteq hjid], hdOpen⟩
  · exact (hHandles j).1 ▸ hl.reading_data j ((hHandles j).2.2 hj)
  · exact (hHandles j).1 ▸ hl.timer_data j ((hHandles j).2.1 ▸ hj)
  · rcases update_eq_some hd with ⟨-, rfl⟩ | ⟨hne, hd⟩
    · rw [hOpen] at hClosed
      cases hClosed
    · intro e he
      rcases List.mem_append.mp he with he | he
      · exact hl.closed_unread j d hd hClosed e he
      · rw [List.mem_singleton.mp he]
        exact Ne.symm hne
  · rcases List.mem_append.mp hw with hw | hw
    · obtain ⟨r, hr, h⟩ := hl.work_request w hw
      exact ⟨r, List.mem_append_left _ hr, h⟩
    · obtain ⟨e, he, rfl⟩ := hNew hw
      exact ⟨⟨e.1, id, e.2, l.now⟩, List.mem_append_right _ (List.mem_map_of_mem _ he), rfl, rfl, fun _ => rfl⟩
  · rcases List.mem_append.mp hw with hw | hw
    · exact hl.work_called w hw hFinished
    · obtain ⟨e, -, rfl⟩ := hNew hw
      cases hFinished
  · rcases List.mem_append.mp hw with hw | hw
    · exact hl.work_uncalled w hw hPhase
    · obtain ⟨e, he, rfl⟩ := hNew hw
      intro q hq hEq
      have := hl.call_lt hq
      have := List.le_fst_of_mem_enumFrom he
      dsimp only at hEq
      omega
  · rcases List.mem_append.mp hw with hw | hw
    · exact hl.work_unsent w hw
    · obtain ⟨e, he, rfl⟩ := hNew hw
      intro t ht hEq
      have := hl.sent_lt ht
      have := List.le_fst_of_mem_enumFrom he
      dsimp only at hEq
      omega
  · obtain ⟨r, hr, h⟩ := hl.call_request q hq
    exact ⟨r, List.mem_append_left _ hr, h⟩

theorem foldlM_closeEntry {P : ListenerTcp → Prop}
    (hStep : ∀ {l l' : ListenerTcp} {id : Nat}, P l → closeEntry l id = .ok l' → P l') :
    ∀ (ids : List Nat) {l l' : ListenerTcp}, P l → ids.foldlM closeEntry l = .ok l' → P l'
  | [], _, _, hl, h => by
    cases h
    exact hl
  | id :: ids, _, _, hl, h => by
    rw [List.foldlM_cons] at h
    obtain ⟨l₁, h₁, h⟩ := except_bind_eq_ok h
    exact foldlM_closeEntry hStep ids (hStep hl h₁) h

theorem TcpInv.closeEntry (hl : TcpInv persistent l) {id : Nat} {l' : ListenerTcp}
    (h : closeEntry l id = .ok l') : TcpInv persistent l' := by
  rcases closeEntry_eq_ok h with ⟨rfl, -⟩ | ⟨c, hc, -, rfl⟩
  · exact hl
  · exact hl.closeConn hc

theorem TcpInv.step (hl : TcpInv persistent l) {idleTimeout : Nat} {e : TcpEvent} {l' : ListenerTcp}
    (h : tcpStep persistent idleTimeout l e = some (.ok l')) : TcpInv persistent l' := by
  rcases tcpStep_cases h with ⟨ms, rfl⟩ | ⟨-, status, tcpInit, accept, readStart, h⟩ |
    ⟨id, nread, hReading, h⟩ | ⟨w, hw, hQueued, rfl⟩ | ⟨w, hw, hStarted, response, h⟩ |
    ⟨w, hw, -, writeOk, h⟩ | ⟨id, ok, -, h⟩ | ⟨id, -, -, h⟩ | ⟨-, h⟩
  · exact { hl with }
  · rcases connCb_eq_ok h with rfl | rfl | rfl | rfl
    · exact hl
    · exact { hl with fresh := fun j hj => hl.fresh j (Nat.le_of_succ_le hj) }
    · exact hl.accept rfl rfl (fun _ => rfl) (fun _ => rfl) (fun _ => rfl)
    · exact hl.accept rfl rfl (fun h => by cases h) (fun h => by cases h) (fun h => by cases h)
  · obtain ⟨c, hc, ⟨chunk, rfl, rfl⟩ | ⟨rfl, ⟨-, rfl⟩ | ⟨-, rfl⟩⟩⟩ := readCb_eq_ok h
    · obtain ⟨d, hd, hOpen⟩ := hl.live_data id (hl.reading_data id hReading)
      rw [hc] at hd
      cases hd
      exact hl.read idleTimeout hc hOpen chunk
    · exact hl
    · exact hl.closeConn hc
  · exact hl.pick hw hQueued
  · rcases workCb_eq_ok h with ⟨hCanceled, rfl⟩ | ⟨hLive, -, rfl⟩
    · exact hl.skip hw hCanceled
    · exact hl.run hw hStarted hLive response
  · rcases afterWorkCb_eq_ok h with ⟨-, rfl⟩ |
      ⟨hFinished, hLive, c, hc, ⟨-, rfl⟩ | ⟨-, -, rfl⟩ | ⟨-, -, -, rfl⟩⟩
    · exact hl.deleteWork _
    · exact (hl.retire hc).send ⟨w.serial, w.conn, w.payload⟩ (hl.work_called w hw hFinished hLive)
        (fun v hv => of_decide_eq_true (List.mem_filter.mp hv).2) (hl.work_unsent w hw) _
    · exact hl.retire hc
    · have hc' : ((l.setConn w.conn { c with pendingWorks := c.pendingWorks.erase w.serial }).deleteWork
          w.serial).connections w.conn = some { c with pendingWorks := c.pendingWorks.erase w.serial } := by
        simp [ListenerTcp.deleteWork, setConn]
      rw [deleteWork_closeConn]
      exact (hl.retire hc).closeConn hc'
  · rcases writeCb_eq_ok h with rfl | ⟨c, hc, -, rfl⟩
    · exact { hl with }
    · exact { hl.closeConn hc with }
  · obtain ⟨c, hc, ⟨-, rfl⟩ | ⟨-, rfl⟩⟩ := closeById_eq_ok h
    · exact hl
    · exact hl.closeConn hc
  · have hStopped : TcpInv persistent { l with listening := false } := { hl with }
    exact foldlM_closeEntry (fun hl h => TcpInv.closeEntry hl h) (List.range l.idCounter) hStopped h

theorem reachable_tcpInv {idleTimeout : Nat} {l : ListenerTcp} (hl : TcpReachable persistent idleTimeout l) :
    TcpInv persistent l := by
  induction hl with
  | init => exact tcpInv_init persistent
  | step _ hStep ih => exact ih.step hStep

end Invariant

/-! ## No callback touches a destroyed connection -/

section Safety

variable {persistent : Bool} {idleTimeout : Nat} {l : ListenerTcp}

theorem doClose_none_ok (l : ListenerTcp) (id : Nat) (c : TcpDnsConnection) :
    ∃ r, doClose none l id c = .ok r := by
  cases hClosed : c.closed
  · exact ⟨_, doClose_eq l id hClosed fun _ _ => Option.noConfusion⟩
  · exact ⟨_, doClose_of_closed l id hClosed⟩

theorem closeById_ok {id : Nat} {c : TcpDnsConnection} (hc : l.connections id = some c) :
    ∃ l', (l.deref id >>= fun c => (·.2) <$> doClose none l id c) = .ok l' := by
  obtain ⟨r, hr⟩ := doClose_none_ok l id c
  exact ⟨r.2, by rw [deref_of_connections hc]; show (·.2) <$> doClose none l id c = _; rw [hr]; rfl⟩

theorem foldlM_closeEntry_ok : ∀ (ids : List Nat) (l : ListenerTcp), ∃ l', ids.foldlM closeEntry l = .ok l'
  | [], l => ⟨l, rfl⟩
  | id :: ids, l => by
    have hEntry : ∃ l₁, closeEntry l id = .ok l₁ := by
      unfold closeEntry
      split
      · next c _ =>
        obtain ⟨r, hr⟩ := doClose_none_ok l id c
        exact ⟨r.2, by rw [hr]; rfl⟩
      · exact ⟨l, rfl⟩
    obtain ⟨l₁, h₁⟩ := hEntry
    obtain ⟨l', h'⟩ := foldlM_closeEntry_ok ids l₁
    exact ⟨l', by rw [List.foldlM_cons, h₁]; exact h'⟩

theorem step_ok (hl : TcpInv persistent l) (e : TcpEvent) {r : Except TcpFault ListenerTcp}
    (h : tcpStep persistent idleTimeout l e = some r) : ∃ l', r = .ok l' := by
  have hLiveData : ∀ {id}, (l.handles id).data = true → ∃ c, l.connections id = some c :=
    fun hData => let ⟨c, hc, _⟩ := hl.live_data _ hData; ⟨c, hc⟩
  cases e with
  | tick ms => exact ⟨_, (Option.some.inj h).symm⟩
  | connCb status tcpInit accept readStart =>
    simp only [tcpStep] at h
    split_ifs at h
    cases h
    unfold connCb start
    split_ifs
    · exact ⟨_, rfl⟩
    · exact ⟨_, rfl⟩
    · exact ⟨_, rfl⟩
    · dsimp only
      obtain ⟨r, hr⟩ := doClose_none_ok ({ l with idCounter := l.idCounter + 1 }.setHandles l.idCounter
        { l.handles l.idCounter with data := true }) l.idCounter ⟨persistent, false, .new, []⟩
      exact ⟨_, by rw [hr]; rfl⟩
  | readCb id nread =>
    simp only [tcpStep] at h
    split_ifs at h with hReading
    cases h
    obtain ⟨c, hc⟩ := hLiveData (hl.reading_data id hReading)
    cases nread with
    | some chunk => exact ⟨_, by rw [readCb, deref_of_connections hc]; rfl⟩
    | none => exact closeById_ok hc
  | pickWork serial =>
    simp only [tcpStep] at h
    split at h
    · split_ifs at h
      cases h
      exact ⟨_, rfl⟩
    · cases h
  | workCb serial response =>
    simp only [tcpStep] at h
    split at h
    · next w hw =>
      split_ifs at h
      cases h
      unfold workCb
      split_ifs with hCanceled
      · exact ⟨_, rfl⟩
      · obtain ⟨c, hc, -⟩ := hl.conn_of_live (mem_of_work? hw) (by simpa using hCanceled)
        exact ⟨_, by rw [deref_of_connections hc]; rfl⟩
    · cases h
  | afterWorkCb serial writeOk =>
    simp only [tcpStep] at h
    split at h
    · next w hw =>
      split_ifs at h
      cases h
      unfold afterWorkCb
      split_ifs with hWrites
      · obtain ⟨-, c, hc, hOpen, -⟩ := hl.live_work w (mem_of_work? hw) hWrites.2
        have hNodup := hl.pending_nodup _ c hc
        rw [deref_of_connections hc]
        show ∃ l', (·.deleteWork w.serial) <$> doWrite l w.conn _ w writeOk = .ok l'
        unfold doWrite
        dsimp only
        split_ifs
        · exact ⟨_, rfl⟩
        · have hOpen' : ({ c with pendingWorks := c.pendingWorks.erase w.serial } : TcpDnsConnection).closed =
              false := hOpen
          have hHeld : ∀ s ∈ ({ c with pendingWorks := c.pendingWorks.erase w.serial } : TcpDnsConnection).pendingWorks,
              some w.serial ≠ some s := fun s hs hEq => by
            rw [← Option.some.inj hEq] at hs
            exact hNodup.not_mem_erase hs
          rw [doClose_eq _ _ hOpen' hHeld]
          exact ⟨_, rfl⟩
      · exact ⟨_, rfl⟩
    · cases h
  | writeCb id ok =>
    simp only [tcpStep] at h
    split_ifs at h
    cases h
    unfold writeCb
    split_ifs with hData
    · obtain ⟨c, hc⟩ := hLiveData hData
      rw [deref_of_connections hc]
      show ∃ l', (fun l => { l with writes := l.writes.erase id }) <$>
        (if c.persistent = false ∨ ok = false then (·.2) <$> doClose none l id c else .ok l) = .ok l'
      split_ifs
      · obtain ⟨r, hr⟩ := doClose_none_ok l id c
        exact ⟨_, by rw [hr]; rfl⟩
      · exact ⟨_, rfl⟩
    · exact ⟨_, rfl⟩
  | idleTimeoutCb id =>
    simp only [tcpStep] at h
    split_ifs at h with hTimer
    cases h
    obtain ⟨c, hc⟩ := hLiveData (hl.timer_data id hTimer.1)
    exact closeById_ok hc
  | stop =>
    simp only [tcpStep] at h
    split_ifs at h
    cases h
    exact foldlM_closeEntry_ok _ _

end Safety

/-! ## What every run guarantees -/

section Runs

variable {persistent : Bool} {idleTimeout : Nat} {l : ListenerTcp}

/-- A connection reads a frame, a pool thread takes its work, the client's side errors and the
connection closes, and `work_cb` then finds the work canceled. -/
def closeWhileRunning : List TcpEvent :=
  [.connCb true true true true, .readCb 0 (some [0, 1, 7]), .pickWork 0, .readCb 0 none, .workCb 0 [9]]

/-- In every state a run reaches, whatever callback libuv runs next returns: none dereferences a
connection the listener destroyed, and none locks the mutex of a work its own thread holds. -/
theorem reachable_step_no_fault (hl : TcpReachable persistent idleTimeout l) (e : TcpEvent) (f : TcpFault) :
    tcpStep persistent idleTimeout l e ≠ some (.error f) := fun h =>
  let ⟨_, hEq⟩ := step_ok (reachable_tcpInv hl) e h
  Except.noConfusion hEq

theorem reachable_step_no_fault_after_close :
    TcpReachable true 5 (replay true 5 closeWhileRunning) ∧
      tcpStep true 5 (replay true 5 closeWhileRunning) (.afterWorkCb 0 true) ≠ some (.error (.useAfterFree 0)) :=
  ⟨reachable_replay _, reachable_step_no_fault (reachable_replay _) _ _⟩

def answeredOnce : List TcpEvent :=
  [.connCb true true true true, .readCb 0 (some [0, 1, 7]), .pickWork 0, .workCb 0 [9], .afterWorkCb 0 true]

/-- Every payload written on a connection is what `handle_message` returned for a payload read on
that connection and queued as the same work. No work's answer is written twice, and
`handle_message` runs at most once per queued payload. -/
theorem reachable_sent_answers (hl : TcpReachable persistent idleTimeout l) (id : Nat) :
    (l.calls.map (·.serial)).Nodup ∧ ((l.sentOf id).map (·.serial)).Nodup ∧
      ∀ s ∈ l.sentOf id, ∃ r ∈ l.requestsOf id, r.serial = s.serial ∧
        (⟨r.serial, id, r.payload, s.payload⟩ : TcpCall) ∈ l.calls := by
  have hInv := reachable_tcpInv hl
  refine ⟨hInv.calls_nodup, hInv.sent_nodup.sublist ((List.filter_sublist _).map _), fun s hs => ?_⟩
  obtain ⟨hs, hId⟩ := List.mem_filter.mp hs
  obtain ⟨⟨qs, qc, qr, qp⟩, hq, rfl, rfl, rfl⟩ := hInv.sent_call s hs
  obtain ⟨r, hr, hrSerial, hrConn, rfl⟩ := hInv.call_request _ hq
  have hId : s.conn = id := of_decide_eq_true hId
  refine ⟨r, List.mem_filter.mpr ⟨hr, by simp [hrConn, hId]⟩, hrSerial, ?_⟩
  rw [hrSerial, ← hId]
  exact hq

theorem reachable_sent_answers_answered :
    TcpReachable true 5 (replay true 5 answeredOnce) ∧
      ∀ s ∈ (replay true 5 answeredOnce).sentOf 0, ∃ r ∈ (replay true 5 answeredOnce).requestsOf 0,
        r.serial = s.serial ∧ (⟨r.serial, 0, r.payload, s.payload⟩ : TcpCall) ∈ (replay true 5 answeredOnce).calls :=
  ⟨reachable_replay _, (reachable_sent_answers (reachable_replay _) 0).2.2⟩

end Runs

end DnsProxy
