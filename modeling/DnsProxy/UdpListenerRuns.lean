import DnsProxy.UdpListener

/-! # The UDP listener over whole runs

The invariant `UdpInv` of every reachable UDP listener, kept by each callback, and the end of a
shutdown that follows from it.
-/

namespace DnsProxy

set_option autoImplicit false

section Invariant

variable (bufSize : Nat)

/-- What holds of the live task `t` owning buffer `s`, against the history, the handle and
`m_pending`. -/
structure UdpTaskInv (l : ListenerUdp) (s : Nat) (t : UdpTask) : Prop where
  request_length : t.request.length = bufSize
  received : ∃ r ∈ l.received, r.serial = s ∧ r.peer = t.peer ∧ r.datagram <+: t.request
  uncalled : t.phase = .queued ∨ t.phase = .started ∨ t.phase = .cancelled → ∀ q ∈ l.calls, q.serial ≠ s
  called : t.phase = .finished ∨ t.phase = .sending →
    ∃ q ∈ l.calls, q.serial = s ∧ q.peer = t.peer ∧ q.response = t.response
  unsent : t.phase ≠ .sending → ∀ x ∈ l.sent, x.serial ≠ s
  queued_listening : t.phase = .queued → l.listening = true
  pending : t.phase ≠ .sending → s ∈ l.pending

/-- The invariant of reachable UDP listeners. -/
structure UdpInv (l : ListenerUdp) : Prop where
  freed_nodup : l.freed.Nodup
  allocated : ∀ b, b ∈ l.freed ∨ (l.tasks b).isSome ↔ b < l.nextBuf
  freed_unowned : ∀ b ∈ l.freed, l.tasks b = none
  pending_nodup : l.pending.Nodup
  pending_task : ∀ s ∈ l.pending, ∃ t, l.tasks s = some t ∧ t.phase ≠ .sending
  received_lt : ∀ r ∈ l.received, r.serial < l.nextBuf
  call_received : ∀ q ∈ l.calls, q.request.length = bufSize ∧
    ∃ r ∈ l.received, r.serial = q.serial ∧ r.peer = q.peer ∧ r.datagram <+: q.request
  calls_nodup : (l.calls.map (·.serial)).Nodup
  sent_nodup : (l.sent.map (·.serial)).Nodup
  sent_call : ∀ x ∈ l.sent, ∃ q ∈ l.calls, q.serial = x.serial ∧ q.peer = x.peer ∧ q.response = x.payload
  task : ∀ s t, l.tasks s = some t → UdpTaskInv bufSize l s t

theorem udpInv_init : UdpInv bufSize ListenerUdp.init where
  freed_nodup := List.nodup_nil
  allocated _ := by simp [ListenerUdp.init]
  freed_unowned := List.forall_mem_nil _
  pending_nodup := List.nodup_nil
  pending_task := List.forall_mem_nil _
  received_lt := List.forall_mem_nil _
  call_received := List.forall_mem_nil _
  calls_nodup := List.nodup_nil
  sent_nodup := List.nodup_nil
  sent_call := List.forall_mem_nil _
  task _ _ h := nomatch h

variable {bufSize} {l : ListenerUdp}

theorem UdpInv.lt_of_task (hl : UdpInv bufSize l) {s : Nat} {t : UdpTask} (ht : l.tasks s = some t) :
    s < l.nextBuf :=
  (hl.allocated s).mp (.inr (by simp [ht]))

theorem UdpInv.task_of_ge (hl : UdpInv bufSize l) {s : Nat} (hs : l.nextBuf ≤ s) : l.tasks s = none :=
  Option.not_isSome_iff_eq_none.mp fun h => absurd ((hl.allocated s).mp (.inr h)) (by omega)

theorem UdpInv.not_freed (hl : UdpInv bufSize l) {s : Nat} {t : UdpTask} (ht : l.tasks s = some t) :
    s ∉ l.freed :=
  fun hs => by simp [hl.freed_unowned s hs] at ht

theorem UdpInv.call_lt (hl : UdpInv bufSize l) {q : UdpCall} (hq : q ∈ l.calls) : q.serial < l.nextBuf := by
  obtain ⟨-, r, hr, hs, -⟩ := hl.call_received q hq
  exact hs ▸ hl.received_lt r hr

theorem UdpInv.sent_lt (hl : UdpInv bufSize l) {x : UdpSent} (hx : x ∈ l.sent) : x.serial < l.nextBuf := by
  obtain ⟨q, hq, hs, -⟩ := hl.sent_call x hx
  exact hs ▸ hl.call_lt hq

theorem UdpInv.next_not_freed (hl : UdpInv bufSize l) : l.nextBuf ∉ l.freed :=
  fun h => absurd ((hl.allocated _).mp (.inl h)) (lt_irrefl _)

theorem UdpInv.allocated_update (hl : UdpInv bufSize l) {s : Nat} {t : UdpTask} (ht : l.tasks s = some t)
    (t' : UdpTask) (b : Nat) : b ∈ l.freed ∨ (Function.update l.tasks s (some t') b).isSome ↔ b < l.nextBuf := by
  rw [← hl.allocated b, Function.update_apply]
  split_ifs with hb
  · simp [hb, ht]
  · rfl

theorem UdpInv.freed_unowned_update (hl : UdpInv bufSize l) {s : Nat} {t : UdpTask} (ht : l.tasks s = some t)
    (v : Option UdpTask) : ∀ b ∈ l.freed, Function.update l.tasks s v b = none := fun b hb => by
  have hne : b ≠ s := fun h => hl.not_freed ht (h ▸ hb)
  rw [Function.update_noteq hne]
  exact hl.freed_unowned b hb

theorem UdpInv.pending_task_update (hl : UdpInv bufSize l) {s : Nat} {t' : UdpTask}
    (hPhase : t'.phase ≠ .sending) :
    ∀ b ∈ l.pending, ∃ v, Function.update l.tasks s (some t') b = some v ∧ v.phase ≠ .sending := fun b hb => by
  by_cases hbs : b = s
  · exact ⟨t', by rw [hbs, Function.update_same], hPhase⟩
  · rw [Function.update_noteq hbs]
    exact hl.pending_task b hb

/-! ## Each callback keeps the invariant -/

theorem UdpInv.dealloc (hl : UdpInv bufSize l) :
    UdpInv bufSize ({ l with nextBuf := l.nextBuf + 1 }.deallocBuf l.nextBuf) := by
  refine
    { hl with
      freed_nodup := hl.freed_nodup.append (List.nodup_singleton _) fun b hb hb' =>
        hl.next_not_freed (List.mem_singleton.mp hb' ▸ hb)
      allocated := fun b => ?_
      freed_unowned := fun b hb => ?_
      received_lt := fun r hr => Nat.lt_succ_of_lt (hl.received_lt r hr)
      task := fun s t ht => { hl.task s t ht with } }
  · by_cases hb : b = l.nextBuf
    · simp [hb]
    · simp only [ListenerUdp.deallocBuf_freed, ListenerUdp.deallocBuf_tasks, ListenerUdp.deallocBuf_nextBuf,
        List.mem_append, List.mem_singleton, hb, or_false]
      rw [hl.allocated b]
      omega
  · rcases List.mem_append.mp hb with hb | hb
    · exact hl.freed_unowned b hb
    · rw [List.mem_singleton.mp hb]
      exact hl.task_of_ge le_rfl

theorem UdpInv.accept (hl : UdpInv bufSize l) (hL : l.listening = true) {nread : Int}
    {buf : List UInt8} {peer : Nat} (hBuf : buf.length = bufSize) :
    UdpInv bufSize { ({ l with nextBuf := l.nextBuf + 1 } : ListenerUdp).setTask l.nextBuf ⟨peer, buf, [], .queued⟩ with
      pending := l.pending ++ [l.nextBuf]
      received := l.received ++ [⟨l.nextBuf, peer, buf.take nread.toNat⟩] } := by
  have hFree := hl.task_of_ge le_rfl
  have hNotPending : l.nextBuf ∉ l.pending := fun h => by
    obtain ⟨t, ht, -⟩ := hl.pending_task _ h
    simp [hFree] at ht
  refine
    { freed_nodup := hl.freed_nodup
      allocated := fun b => ?_
      freed_unowned := fun b hb => ?_
      pending_nodup := hl.pending_nodup.append (List.nodup_singleton _) fun b hb hb' =>
        hNotPending (List.mem_singleton.mp hb' ▸ hb)
      pending_task := fun s hs => ?_
      received_lt := fun r hr => ?_
      call_received := fun q hq => ?_
      calls_nodup := hl.calls_nodup
      sent_nodup := hl.sent_nodup
      sent_call := hl.sent_call
      task := fun s t ht => ?_ }
  · by_cases hb : b = l.nextBuf
    · simp [hb]
    · simp only [ListenerUdp.setTask_tasks, ListenerUdp.setTask_freed, ListenerUdp.setTask_nextBuf,
        Function.update_apply, hb, if_false]
      rw [hl.allocated b]
      omega
  · have hne : b ≠ l.nextBuf := fun h => hl.next_not_freed (h ▸ hb)
    simpa [Function.update_apply, hne] using hl.freed_unowned b hb
  · rcases List.mem_append.mp hs with hs | hs
    · obtain ⟨t, ht, hPhase⟩ := hl.pending_task s hs
      have hne : s ≠ l.nextBuf := (hl.lt_of_task ht).ne
      exact ⟨t, by simpa [Function.update_apply, hne] using ht, hPhase⟩
    · rw [List.mem_singleton.mp hs]
      exact ⟨⟨peer, buf, [], .queued⟩, by simp, by simp⟩
  · rcases List.mem_append.mp hr with hr | hr
    · exact Nat.lt_succ_of_lt (hl.received_lt r hr)
    · rw [List.mem_singleton.mp hr]
      exact Nat.lt_succ_self _
  · obtain ⟨hLen, r, hr, hr'⟩ := hl.call_received q hq
    exact ⟨hLen, r, List.mem_append_left _ hr, hr'⟩
  · rcases ListenerUdp.setTask_eq_some ht with ⟨rfl, rfl⟩ | ⟨-, ht⟩
    · -- the new task: queued, and never called or answered
      exact
        { request_length := hBuf
          received := ⟨_, List.mem_append_right _ (List.mem_singleton_self _), rfl, rfl, List.take_prefix _ _⟩
          uncalled := fun _ q hq => (hl.call_lt hq).ne
          called := fun h => by simp at h
          unsent := fun _ x hx => (hl.sent_lt hx).ne
          queued_listening := fun _ => hL
          pending := fun _ => List.mem_append_right _ (List.mem_singleton_self _) }
    · have ht' := hl.task s t ht
      exact
        { ht' with
          received := let ⟨r, hr, hr'⟩ := ht'.received; ⟨r, List.mem_append_left _ hr, hr'⟩
          pending := fun h => List.mem_append_left _ (ht'.pending h) }

theorem UdpInv.pick (hl : UdpInv bufSize l) {s : Nat} {t : UdpTask} (ht : l.tasks s = some t)
    (hq : t.phase = .queued) : UdpInv bufSize (l.setTask s { t with phase := .started }) := by
  have hInv := hl.task s t ht
  refine
    { hl with
      allocated := hl.allocated_update ht _
      freed_unowned := hl.freed_unowned_update ht _
      pending_task := hl.pending_task_update (by simp)
      task := fun b v hv => ?_ }
  rcases ListenerUdp.setTask_eq_some hv with ⟨rfl, rfl⟩ | ⟨-, hv⟩
  · exact
      { hInv with
        uncalled := fun _ => hInv.uncalled (.inl hq)
        called := fun h => by simp at h
        unsent := fun _ => hInv.unsent (by simp [hq])
        queued_listening := fun h => by simp at h
        pending := fun _ => hInv.pending (by simp [hq]) }
  · exact { hl.task b v hv with }

theorem UdpInv.work (hl : UdpInv bufSize l) {s : Nat} {t : UdpTask} (ht : l.tasks s = some t)
    (hs : t.phase = .started) (response : List UInt8) : UdpInv bufSize (l.workCb s t response) := by
  have hInv := hl.task s t ht
  have hUncalled := hInv.uncalled (.inr (.inl hs))
  refine
    { hl with
      allocated := hl.allocated_update ht _
      freed_unowned := hl.freed_unowned_update ht _
      pending_task := hl.pending_task_update (by simp)
      call_received := fun q hq => ?_
      calls_nodup := ?_
      sent_call := fun x hx => ?_
      task := fun b v hv => ?_ }
  · rcases List.mem_append.mp hq with hq | hq
    · exact hl.call_received q hq
    · rw [List.mem_singleton.mp hq]
      exact ⟨hInv.request_length, hInv.received⟩
  · simp only [ListenerUdp.workCb, List.map_append, List.map_singleton]
    exact hl.calls_nodup.append (List.nodup_singleton _) fun b hb hb' => by
      obtain ⟨q, hq, rfl⟩ := List.mem_map.mp hb
      exact hUncalled q hq (List.mem_singleton.mp hb')
  · obtain ⟨q, hq, hq'⟩ := hl.sent_call x hx
    exact ⟨q, List.mem_append_left _ hq, hq'⟩
  · rcases ListenerUdp.setTask_eq_some hv with ⟨rfl, rfl⟩ | ⟨hbs, hv⟩
    · exact
        { hInv with
          uncalled := fun h => by simp at h
          called := fun _ => ⟨_, List.mem_append_right _ (List.mem_singleton_self _), rfl, rfl, rfl⟩
          unsent := fun _ => hInv.unsent (by simp [hs])
          queued_listening := fun h => by simp at h
          pending := fun _ => hInv.pending (by simp [hs]) }
    · have hv' := hl.task b v hv
      exact
        { hv' with
          uncalled := fun hPhase q hq => by
            rcases List.mem_append.mp hq with hq | hq
            · exact hv'.uncalled hPhase q hq
            · rw [List.mem_singleton.mp hq]
              exact Ne.symm hbs
          called := fun hPhase =>
            let ⟨q, hq, hq'⟩ := hv'.called hPhase
            ⟨q, List.mem_append_left _ hq, hq'⟩ }

theorem UdpInv.retire (hl : UdpInv bufSize l) {s : Nat} {t : UdpTask} (ht : l.tasks s = some t) :
    UdpInv bufSize ({ l with pending := l.pending.erase s }.deleteTask s) := by
  have hMem : ∀ b, b ∈ l.pending.erase s ↔ b ≠ s ∧ b ∈ l.pending := fun b =>
    hl.pending_nodup.mem_erase_iff
  refine
    { hl with
      freed_nodup := hl.freed_nodup.append (List.nodup_singleton _) fun b hb hb' =>
        hl.not_freed ht (List.mem_singleton.mp hb' ▸ hb)
      allocated := fun b => ?_
      freed_unowned := fun b hb => ?_
      pending_nodup := hl.pending_nodup.erase s
      pending_task := fun b hb => ?_
      task := fun b v hv => ?_ }
  · by_cases hb : b = s
    · subst hb
      simp [hl.lt_of_task ht]
    · simp only [ListenerUdp.deleteTask_freed, ListenerUdp.deleteTask_tasks, ListenerUdp.deleteTask_nextBuf,
        Function.update_apply, hb, if_false, List.mem_append, List.mem_singleton, or_false]
      exact hl.allocated b
  · simp only [ListenerUdp.deleteTask_freed, List.mem_append, List.mem_singleton] at hb
    simp only [ListenerUdp.deleteTask_tasks, Function.update_apply]
    split_ifs with hbs
    · rfl
    · exact hl.freed_unowned b (hb.resolve_right hbs)
  · obtain ⟨hbs, hb⟩ := (hMem b).mp hb
    simpa [Function.update_apply, hbs] using hl.pending_task b hb
  · simp only [ListenerUdp.deleteTask_tasks, Function.update_apply] at hv
    split_ifs at hv with hbs
    have hv' := hl.task b v hv
    exact { hv' with pending := fun h => (hMem b).mpr ⟨hbs, hv'.pending h⟩ }

theorem UdpInv.sending (hl : UdpInv bufSize l) {s : Nat} {t : UdpTask} (ht : l.tasks s = some t)
    (hf : t.phase = .finished) :
    UdpInv bufSize { l.setTask s { t with phase := .sending } with
      pending := l.pending.erase s, sent := l.sent ++ [⟨s, t.peer, t.response⟩] } := by
  have hInv := hl.task s t ht
  have hMem : ∀ b, b ∈ l.pending.erase s ↔ b ≠ s ∧ b ∈ l.pending := fun b =>
    hl.pending_nodup.mem_erase_iff
  obtain ⟨q, hq, hqs, hqp, hqr⟩ := hInv.called (.inl hf)
  refine
    { hl with
      allocated := hl.allocated_update ht _
      freed_unowned := hl.freed_unowned_update ht _
      pending_nodup := hl.pending_nodup.erase s
      pending_task := fun b hb => ?_
      sent_nodup := ?_
      sent_call := fun x hx => ?_
      task := fun b v hv => ?_ }
  · obtain ⟨hbs, hb⟩ := (hMem b).mp hb
    simpa [Function.update_apply, hbs] using hl.pending_task b hb
  · simp only [List.map_append, List.map_singleton]
    exact hl.sent_nodup.append (List.nodup_singleton _) fun b hb hb' => by
      obtain ⟨x, hx, rfl⟩ := List.mem_map.mp hb
      exact hInv.unsent (by simp [hf]) x hx (List.mem_singleton.mp hb')
  · rcases List.mem_append.mp hx with hx | hx
    · exact hl.sent_call x hx
    · rw [List.mem_singleton.mp hx]
      exact ⟨q, hq, hqs, hqp, hqr⟩
  · rcases ListenerUdp.setTask_eq_some hv with ⟨rfl, rfl⟩ | ⟨hbs, hv⟩
    · exact
        { hInv with
          uncalled := fun h => by simp at h
          called := fun _ => ⟨q, hq, hqs, hqp, hqr⟩
          unsent := fun h => absurd rfl h
          queued_listening := fun h => by simp at h
          pending := fun h => absurd rfl h }
    · have hv' := hl.task b v hv
      exact
        { hv' with
          unsent := fun hPhase x hx => by
            rcases List.mem_append.mp hx with hx | hx
            · exact hv'.unsent hPhase x hx
            · rw [List.mem_singleton.mp hx]
              exact Ne.symm hbs
          pending := fun h => (hMem b).mpr ⟨hbs, hv'.pending h⟩ }

theorem UdpInv.stop (hl : UdpInv bufSize l) : UdpInv bufSize l.beforeStop := by
  rw [ListenerUdp.beforeStop_eq]
  refine
    { hl with
      allocated := fun b => ?_
      freed_unowned := fun b hb => ?_
      pending_task := fun b hb => ?_
      task := fun b v hv => ?_ }
  · rw [← hl.allocated b]
    dsimp only
    split_ifs <;> simp
  · simp [hl.freed_unowned b hb]
  · obtain ⟨u, hu, hPhase⟩ := hl.pending_task b hb
    refine ⟨u.cancelQueued, by simp [hb, hu], ?_⟩
    unfold UdpTask.cancelQueued
    split_ifs <;> simp [hPhase]
  · dsimp only at hv
    split_ifs at hv with hb
    · obtain ⟨u, hu, rfl⟩ := Option.map_eq_some'.mp hv
      have hInv := hl.task b u hu
      unfold UdpTask.cancelQueued
      split_ifs with hq
      · exact
          { request_length := hInv.request_length
            received := hInv.received
            uncalled := fun _ => hInv.uncalled (.inl hq)
            called := fun h => by simp at h
            unsent := fun _ => hInv.unsent (by simp [hq])
            queued_listening := fun h => by simp at h
            pending := fun _ => hb }
      · exact { hInv with queued_listening := fun h => absurd h hq }
    · have hInv := hl.task b v hv
      exact { hInv with queued_listening := fun h => absurd (hInv.pending (by simp [h])) hb }

theorem UdpInv.step (hl : UdpInv bufSize l) {e : UdpEvent} {l' : ListenerUdp}
    (h : udpStep bufSize l e = some l') : UdpInv bufSize l' := by
  rcases udpStep_cases h with ⟨hL, nread, buf, truncated, peer, hBuf, rfl⟩ | ⟨s, t, ht, hq, rfl⟩ |
    ⟨s, t, ht, hs, response, rfl⟩ | ⟨s, t, ht, hf, sendOk, rfl⟩ | ⟨s, t, ht, hs, rfl⟩ | ⟨-, rfl⟩
  · rcases ListenerUdp.recvCb_cases (l := { l with nextBuf := l.nextBuf + 1 }) l.nextBuf nread buf truncated peer
      with h | ⟨-, h⟩ <;> rw [h]
    · exact hl.dealloc
    · exact hl.accept hL hBuf
  · exact hl.pick ht hq
  · exact hl.work ht hs response
  · rcases ListenerUdp.afterWorkCb_cases (l := l) s t sendOk with h | ⟨hc, h⟩ <;> rw [h]
    · exact hl.retire ht
    · exact hl.sending ht (hf.resolve_right hc)
  · -- `send_cb`: `after_work_cb` already took the task out of `m_pending`
    have hNot : s ∉ l.pending := fun hp => by
      obtain ⟨u, hu, hPhase⟩ := hl.pending_task s hp
      rw [ht] at hu
      cases hu
      exact hPhase hs
    have h := hl.retire ht
    rw [List.erase_of_not_mem hNot] at h
    exact h
  · exact hl.stop

theorem reachable_udpInv (hl : UdpReachable bufSize l) : UdpInv bufSize l := by
  induction hl with
  | init => exact udpInv_init bufSize
  | step _ hStep ih => exact ih.step hStep

end Invariant

/-! ## What every run guarantees -/

section Runs

variable {bufSize : Nat} {l : ListenerUdp}

def failedThenAnswered : List UdpEvent :=
  [.recv (-1) [0, 0, 0, 0] false 3, .recv 1 [7, 0, 0, 0] false 9, .pickWork 1, .workCb 1 [5],
    .afterWorkCb 1 true, .sendCb 1]

/-- Every buffer `udp_alloc_cb` allocated is freed at most once, and until it is freed its task
owns it: `recv_cb` frees the buffer of a rejected read at once, and each task's destructor frees
its own. -/
theorem reachable_udp_buffers (hl : UdpReachable bufSize l) :
    l.freed.Nodup ∧ ∀ b, (b ∈ l.freed ∨ (l.tasks b).isSome ↔ b < l.nextBuf) ∧ (b ∈ l.freed → l.tasks b = none) :=
  have hInv := reachable_udpInv hl
  ⟨hInv.freed_nodup, fun b => ⟨hInv.allocated b, hInv.freed_unowned b⟩⟩

theorem reachable_udp_buffers_failed_then_answered :
    (ListenerUdp.replay 4 failedThenAnswered).freed = [0, 1] ∧
      (ListenerUdp.replay 4 failedThenAnswered).freed.Nodup ∧ ∀ b,
        (b ∈ (ListenerUdp.replay 4 failedThenAnswered).freed ∨
          ((ListenerUdp.replay 4 failedThenAnswered).tasks b).isSome ↔
            b < (ListenerUdp.replay 4 failedThenAnswered).nextBuf) ∧
        (b ∈ (ListenerUdp.replay 4 failedThenAnswered).freed → (ListenerUdp.replay 4 failedThenAnswered).tasks b = none) :=
  ⟨rfl, reachable_udp_buffers (reachable_udpReplay _)⟩

def oneByteQuery : List UdpEvent :=
  [.recv 1 [7, 0, 0, 0] false 9, .pickWork 0, .workCb 0 [5], .afterWorkCb 0 true]

/-- `handle_message` runs at most once per datagram, and each datagram is answered at most once:
every response sent goes to the peer the datagram came from, and is what `handle_message`
returned for that datagram's buffer. -/
theorem reachable_udp_answers (hl : UdpReachable bufSize l) :
    (l.calls.map (·.serial)).Nodup ∧ (l.sent.map (·.serial)).Nodup ∧
      ∀ x ∈ l.sent, ∃ q ∈ l.calls, q.serial = x.serial ∧ q.response = x.payload ∧
        ∃ r ∈ l.received, r.serial = x.serial ∧ r.peer = x.peer ∧ r.datagram <+: q.request := by
  have hInv := reachable_udpInv hl
  refine ⟨hInv.calls_nodup, hInv.sent_nodup, fun x hx => ?_⟩
  obtain ⟨q, hq, hqs, hqp, hqr⟩ := hInv.sent_call x hx
  obtain ⟨-, r, hr, hrs, hrp, hPrefix⟩ := hInv.call_received q hq
  exact ⟨q, hq, hqs, hqr, r, hr, hrs.trans hqs, hrp.trans hqp, hPrefix⟩

theorem reachable_udp_answers_one_byte :
    (ListenerUdp.replay 4 oneByteQuery).sent = [⟨0, 9, [5]⟩] ∧
      ((ListenerUdp.replay 4 oneByteQuery).calls.map (·.serial)).Nodup ∧
      ((ListenerUdp.replay 4 oneByteQuery).sent.map (·.serial)).Nodup ∧
      ∀ x ∈ (ListenerUdp.replay 4 oneByteQuery).sent, ∃ q ∈ (ListenerUdp.replay 4 oneByteQuery).calls,
        q.serial = x.serial ∧ q.response = x.payload ∧ ∃ r ∈ (ListenerUdp.replay 4 oneByteQuery).received,
          r.serial = x.serial ∧ r.peer = x.peer ∧ r.datagram <+: q.request :=
  ⟨rfl, reachable_udp_answers (reachable_udpReplay _)⟩

end Runs

/-! ## Shutdown -/

section Shutdown

variable {bufSize : Nat} {l l' : ListenerUdp}

/-- The callbacks libuv still owes a task in a phase, its last one (`after_work_cb` or `send_cb`)
included. -/
def UdpPhase.owed : UdpPhase → Nat
  | .queued => 4
  | .started => 3
  | .finished => 2
  | .cancelled => 1
  | .sending => 1

def owedBelow (tasks : Nat → Option UdpTask) : Nat → Nat
  | 0 => 0
  | n + 1 => owedBelow tasks n + ((tasks n).map (·.phase.owed)).getD 0

/-- The callbacks libuv still owes the listener's tasks. -/
def ListenerUdp.owed (l : ListenerUdp) : Nat :=
  owedBelow l.tasks l.nextBuf

theorem owedBelow_congr {f g : Nat → Option UdpTask} :
    ∀ {n : Nat}, (∀ b < n, f b = g b) → owedBelow f n = owedBelow g n
  | 0, _ => rfl
  | n + 1, h => by
    simp only [owedBelow, owedBelow_congr fun b hb => h b (Nat.lt_succ_of_lt hb), h n (Nat.lt_succ_self n)]

theorem owedBelow_update (f : Nat → Option UdpTask) {s : Nat} (v : Option UdpTask) :
    ∀ {n : Nat}, s < n → owedBelow (Function.update f s v) n + ((f s).map (·.phase.owed)).getD 0 =
      owedBelow f n + (v.map (·.phase.owed)).getD 0
  | 0, h => absurd h (Nat.not_lt_zero _)
  | n + 1, h => by
    simp only [owedBelow]
    rcases Nat.lt_succ_iff_lt_or_eq.mp h with h | rfl
    · have := owedBelow_update f v h
      rw [Function.update_noteq (Nat.ne_of_gt h)]
      omega
    · rw [owedBelow_congr fun b hb => Function.update_noteq (Nat.ne_of_lt hb) _ _, Function.update_same]
      omega

theorem UdpInv.owed_update (hl : UdpInv bufSize l) {s : Nat} {t : UdpTask} (ht : l.tasks s = some t)
    (v : Option UdpTask) :
    owedBelow (Function.update l.tasks s v) l.nextBuf + t.phase.owed = l.owed + (v.map (·.phase.owed)).getD 0 := by
  simpa [ht] using owedBelow_update l.tasks v (hl.lt_of_task ht)

theorem UdpInv.owed_lt (hl : UdpInv bufSize l) (hStopped : l.listening = false) {e : UdpEvent}
    (h : udpStep bufSize l e = some l') : l'.owed < l.owed ∧ l'.listening = false := by
  rcases udpStep_cases h with ⟨hL, -⟩ | ⟨s, t, ht, hq, rfl⟩ | ⟨s, t, ht, hs, response, rfl⟩ |
    ⟨s, t, ht, hf, sendOk, rfl⟩ | ⟨s, t, ht, hs, rfl⟩ | ⟨hL, -⟩
  · simp [hStopped] at hL
  · have := hl.owed_update ht (some { t with phase := .started })
    simp only [hq, UdpPhase.owed, Option.map_some', Option.getD_some] at this
    exact ⟨by show owedBelow (Function.update l.tasks s _) l.nextBuf < l.owed; omega, hStopped⟩
  · have := hl.owed_update ht (some { t with response := response, phase := .finished })
    simp only [hs, UdpPhase.owed, Option.map_some', Option.getD_some] at this
    exact ⟨by show owedBelow (Function.update l.tasks s _) l.nextBuf < l.owed; omega, hStopped⟩
  · rcases ListenerUdp.afterWorkCb_cases (l := l) s t sendOk with h | ⟨hc, h⟩ <;> rw [h]
    · have := hl.owed_update ht none
      have hPos : 0 < t.phase.owed := by cases t.phase <;> decide
      simp only [Option.map_none', Option.getD_none] at this
      exact ⟨by show owedBelow (Function.update l.tasks s _) l.nextBuf < l.owed; omega, hStopped⟩
    · have := hl.owed_update ht (some { t with phase := .sending })
      simp only [hf.resolve_right hc, UdpPhase.owed, Option.map_some', Option.getD_some] at this
      exact ⟨by show owedBelow (Function.update l.tasks s _) l.nextBuf < l.owed; omega, hStopped⟩
  · have := hl.owed_update ht none
    simp only [hs, UdpPhase.owed, Option.map_none', Option.getD_none] at this
    exact ⟨by show owedBelow (Function.update l.tasks s _) l.nextBuf < l.owed; omega, hStopped⟩
  · simp [hStopped] at hL

theorem UdpInv.run_owed (hl : UdpInv bufSize l) (hStopped : l.listening = false) :
    ∀ {events : List UdpEvent} {l' : ListenerUdp}, udpRun bufSize l events = some l' →
      events.length + l'.owed ≤ l.owed := by
  intro events
  induction events generalizing l with
  | nil =>
    intro l' h
    cases h
    simp
  | cons e events ih =>
    intro l' h
    obtain ⟨l₁, hStep, hRun⟩ := udpRun_cons h
    obtain ⟨hLt, hStopped₁⟩ := hl.owed_lt hStopped hStep
    have := ih (hl.step hStep) hStopped₁ hRun
    simp only [List.length_cons]
    omega

theorem udpStep_of_task (bufSize : Nat) {s : Nat} {t : UdpTask} (ht : l.tasks s = some t) :
    ∃ e, udpStep bufSize l e ≠ none := by
  cases hp : t.phase with
  | queued => exact ⟨.pickWork s, by simp [udpStep, ht, hp]⟩
  | started => exact ⟨.workCb s [], by simp [udpStep, ht, hp]⟩
  | finished => exact ⟨.afterWorkCb s false, by simp [udpStep, ht, hp]⟩
  | cancelled => exact ⟨.afterWorkCb s false, by simp [udpStep, ht, hp]⟩
  | sending => exact ⟨.sendCb s, by simp [udpStep, ht, hp]⟩

def stopWithQueued : List UdpEvent :=
  [.recv 1 [7, 0, 0, 0] false 9, .stop]

/-- After `before_stop` the loop comes to an end: every run of the callbacks libuv still owes the
listener is at most `owed` long, and once no callback can run, no task is left and every buffer
`udp_alloc_cb` allocated has been freed exactly once. -/
theorem reachable_udp_shutdown (hl : UdpReachable bufSize l) (hStopped : l.listening = false)
    {events : List UdpEvent} (h : udpRun bufSize l events = some l') :
    events.length + l'.owed ≤ l.owed ∧
      ((∀ e, udpStep bufSize l' e = none) → (∀ s, l'.tasks s = none) ∧ l'.freed.Perm (List.range l'.nextBuf)) := by
  refine ⟨(reachable_udpInv hl).run_owed hStopped h, fun hStuck => ?_⟩
  have hInv := reachable_udpInv (hl.run h)
  have hNone : ∀ s, l'.tasks s = none := fun s => by
    cases ht : l'.tasks s with
    | none => rfl
    | some t =>
      obtain ⟨e, he⟩ := udpStep_of_task bufSize ht
      exact absurd (hStuck e) he
  refine ⟨hNone, (List.perm_ext_iff_of_nodup hInv.freed_nodup (List.nodup_range _)).mpr fun b => ?_⟩
  rw [List.mem_range, ← hInv.allocated b, hNone b]
  simp

theorem reachable_udp_shutdown_cancelled :
    (ListenerUdp.replay 4 stopWithQueued).listening = false ∧ ∃ l',
      udpRun 4 (ListenerUdp.replay 4 stopWithQueued) [.afterWorkCb 0 true] = some l' ∧
      [UdpEvent.afterWorkCb 0 true].length + l'.owed ≤ (ListenerUdp.replay 4 stopWithQueued).owed ∧
      ((∀ e, udpStep 4 l' e = none) → (∀ s, l'.tasks s = none) ∧ l'.freed.Perm (List.range l'.nextBuf)) :=
  have hStopped : (ListenerUdp.replay 4 stopWithQueued).listening = false := rfl
  have ⟨l', hRun⟩ : ∃ l', udpRun 4 (ListenerUdp.replay 4 stopWithQueued) [.afterWorkCb 0 true] = some l' :=
    ⟨_, rfl⟩
  ⟨hStopped, l', hRun, reachable_udp_shutdown (reachable_udpReplay _) hStopped hRun⟩

end Shutdown

end DnsProxy
