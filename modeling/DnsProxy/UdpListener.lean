import Mathlib.Data.List.Nodup

/-! # The UDP listener

`listener_udp`, one step per libuv callback, from `udp_alloc_cb` to `send_cb` and `before_stop`. The
model keeps the buffers freed and the history of datagrams, calls and responses; what
`handle_message` returns is a parameter.
-/

namespace DnsProxy

set_option autoImplicit false

/-- Where a `listener_udp::task` is: its work queued in the pool, taken by a pool thread,
returned from `work_cb`, or cancelled in the queue by `uv_cancel` (its `after_work_cb` then
gets `UV_ECANCELED`); or its response handed to `uv_udp_send`, with `send_cb` to come. -/
inductive UdpPhase
  | queued
  | started
  | finished
  | cancelled
  | sending
deriving DecidableEq

/-- A `listener_udp::task` until it is deleted. It owns the buffer `udp_alloc_cb` gave its read,
whose serial stands for the task's address; `request` is that `uv_buf_t` as `recv_cb` got it. -/
structure UdpTask where
  peer : Nat
  request : List UInt8
  response : List UInt8
  phase : UdpPhase
deriving DecidableEq

/-- A datagram `recv_cb` accepted: the buffer it came in, its peer and its `nread` bytes. -/
structure UdpDatagram where
  serial : Nat
  peer : Nat
  datagram : List UInt8
deriving DecidableEq

/-- A call of `handle_message` in `work_cb`: the task, the bytes it was given, what it
returned. -/
structure UdpCall where
  serial : Nat
  peer : Nat
  request : List UInt8
  response : List UInt8
deriving DecidableEq

/-- A response `uv_udp_send` accepted: the task, the peer and the payload. -/
structure UdpSent where
  serial : Nat
  peer : Nat
  payload : List UInt8
deriving DecidableEq

/-- The listener on its loop: whether `m_udp_handle` is receiving, how many buffers
`udp_alloc_cb` allocated, the live tasks by the serial of their buffer, and `m_pending` by
serial. Then the history: the buffers `dealloc_buf` freed, in order, and the datagrams accepted,
the calls of `handle_message` and the responses sent. -/
structure ListenerUdp where
  listening : Bool
  nextBuf : Nat
  tasks : Nat → Option UdpTask
  pending : List Nat
  freed : List Nat
  received : List UdpDatagram
  calls : List UdpCall
  sent : List UdpSent

/-- The callbacks libuv may run: `udp_alloc_cb` then `recv_cb` with `nread`, the bytes of the
buffer, whether `UV_UDP_PARTIAL` is set, and the peer; a pool thread taking a task's work;
`work_cb` with what `handle_message` returns; `after_work_cb` with whether `uv_udp_send`
succeeds; `send_cb`; and `escape_hatch_cb`, which runs `before_stop`. -/
inductive UdpEvent
  | recv (nread : Int) (buf : List UInt8) (truncated : Bool) (peer : Nat)
  | pickWork (serial : Nat)
  | workCb (serial : Nat) (response : List UInt8)
  | afterWorkCb (serial : Nat) (sendOk : Bool)
  | sendCb (serial : Nat)
  | stop

/-- `uv_cancel` of a task's work: it succeeds only while no pool thread has taken the work. -/
def UdpTask.cancelQueued (t : UdpTask) : UdpTask :=
  if t.phase = .queued then { t with phase := .cancelled } else t

namespace ListenerUdp

/-- The listener after `before_run`: receiving, with nothing allocated. -/
def init : ListenerUdp :=
  ⟨true, 0, fun _ => none, [], [], [], [], []⟩

@[simps]
def setTask (l : ListenerUdp) (serial : Nat) (t : UdpTask) : ListenerUdp :=
  { l with tasks := Function.update l.tasks serial (some t) }

/-- `dealloc_buf`. -/
@[simps]
def deallocBuf (l : ListenerUdp) (serial : Nat) : ListenerUdp :=
  { l with freed := l.freed ++ [serial] }

/-- `delete m`: the task goes, and its destructor runs `dealloc_buf` on the buffer it owns. -/
@[simps]
def deleteTask (l : ListenerUdp) (serial : Nat) : ListenerUdp :=
  { l with tasks := Function.update l.tasks serial none, freed := l.freed ++ [serial] }

/-- `recv_cb` on the buffer `udp_alloc_cb` allocated as `serial`. -/
def recvCb (l : ListenerUdp) (serial : Nat) (nread : Int) (buf : List UInt8) (truncated : Bool)
    (peer : Nat) : ListenerUdp :=
  if nread < 0 then l.deallocBuf serial
  else if nread = 0 then l.deallocBuf serial
  else if truncated then l.deallocBuf serial
  else
    { l.setTask serial ⟨peer, buf, [], .queued⟩ with
      pending := l.pending ++ [serial]
      received := l.received ++ [⟨serial, peer, buf.take nread.toNat⟩] }

/-- `work_cb`: `handle_message` on the task's request buffer, all of it. -/
def workCb (l : ListenerUdp) (serial : Nat) (t : UdpTask) (response : List UInt8) : ListenerUdp :=
  { l.setTask serial { t with response := response, phase := .finished } with
    calls := l.calls ++ [⟨serial, t.peer, t.request, response⟩] }

/-- `after_work_cb`: out of `m_pending`; a cancelled task is deleted, another one's response goes
to `uv_udp_send`, and the task is deleted when that fails. -/
def afterWorkCb (l : ListenerUdp) (serial : Nat) (t : UdpTask) (sendOk : Bool) : ListenerUdp :=
  let l := { l with pending := l.pending.erase serial }
  if t.phase = .cancelled then l.deleteTask serial
  else if sendOk then
    { l.setTask serial { t with phase := .sending } with sent := l.sent ++ [⟨serial, t.peer, t.response⟩] }
  else l.deleteTask serial

/-- `send_cb`: the send request and the task are deleted, whatever the status. -/
def sendCb (l : ListenerUdp) (serial : Nat) : ListenerUdp :=
  l.deleteTask serial

/-- `uv_cancel` of a task's work in `before_stop`'s loop. -/
def uvCancel (l : ListenerUdp) (serial : Nat) : ListenerUdp :=
  { l with tasks := Function.update l.tasks serial ((l.tasks serial).map UdpTask.cancelQueued) }

/-- `before_stop`: close the handle, then `uv_cancel` the work of every task in `m_pending`. -/
def beforeStop (l : ListenerUdp) : ListenerUdp :=
  l.pending.foldl uvCancel { l with listening := false }

end ListenerUdp

section Callbacks

variable (bufSize : Nat)

/-- One step: `none` when libuv does not run the callback in the state. A read gets a new
buffer of `bufSize` bytes (`ag::UDP_RECV_BUF_SIZE`), and at most that many bytes of a
datagram. -/
def udpStep (l : ListenerUdp) : UdpEvent → Option ListenerUdp
  | .recv nread buf truncated peer =>
    if l.listening ∧ buf.length = bufSize ∧ nread ≤ bufSize then
      some ({ l with nextBuf := l.nextBuf + 1 }.recvCb l.nextBuf nread buf truncated peer)
    else none
  | .pickWork serial =>
    match l.tasks serial with
    | some t => if t.phase = .queued then some (l.setTask serial { t with phase := .started }) else none
    | none => none
  | .workCb serial response =>
    match l.tasks serial with
    | some t => if t.phase = .started then some (l.workCb serial t response) else none
    | none => none
  | .afterWorkCb serial sendOk =>
    match l.tasks serial with
    | some t =>
      if t.phase = .finished ∨ t.phase = .cancelled then some (l.afterWorkCb serial t sendOk) else none
    | none => none
  | .sendCb serial =>
    match l.tasks serial with
    | some t => if t.phase = .sending then some (l.sendCb serial) else none
    | none => none
  | .stop => if l.listening then some l.beforeStop else none

inductive UdpReachable : ListenerUdp → Prop
  | init : UdpReachable ListenerUdp.init
  | step {l l' : ListenerUdp} {e : UdpEvent} : UdpReachable l → udpStep bufSize l e = some l' →
      UdpReachable l'

def udpRun : ListenerUdp → List UdpEvent → Option ListenerUdp
  | l, [] => some l
  | l, e :: rest => (udpStep bufSize l e).bind fun l' => udpRun l' rest

end Callbacks

/-! ## What each callback does -/

section Effects

variable {bufSize : Nat} {l l' : ListenerUdp}

namespace ListenerUdp

theorem setTask_eq_some {s b : Nat} {t v : UdpTask} (h : (l.setTask s t).tasks b = some v) :
    (b = s ∧ t = v) ∨ (b ≠ s ∧ l.tasks b = some v) := by
  rw [setTask_tasks, Function.update_apply] at h
  split_ifs at h with hb
  · exact .inl ⟨hb, Option.some.inj h⟩
  · exact .inr ⟨hb, h⟩

theorem beforeStop_eq (l : ListenerUdp) :
    l.beforeStop = { l with
      listening := false
      tasks := fun s => if s ∈ l.pending then (l.tasks s).map UdpTask.cancelQueued else l.tasks s } := by
  suffices h : ∀ (p : List Nat) (l₀ : ListenerUdp), p.foldl uvCancel l₀ = { l₀ with
      tasks := fun s => if s ∈ p then (l₀.tasks s).map UdpTask.cancelQueued else l₀.tasks s } from h _ _
  have hIdem : ∀ t : UdpTask, t.cancelQueued.cancelQueued = t.cancelQueued := fun t => by
    unfold UdpTask.cancelQueued
    split_ifs <;> simp_all
  intro p
  induction p with
  | nil => intro l₀; simp
  | cons b p ih =>
    intro l₀
    rw [List.foldl_cons, ih]
    simp only [uvCancel, mk.injEq, true_and, and_true, List.mem_cons]
    funext s
    by_cases hs : s = b <;> by_cases hp : s ∈ p <;>
      simp [hs, hp, Function.update_apply, Option.map_map, Function.comp_def, hIdem]

theorem recvCb_cases (serial : Nat) (nread : Int) (buf : List UInt8) (truncated : Bool) (peer : Nat) :
    l.recvCb serial nread buf truncated peer = l.deallocBuf serial ∨
      (0 < nread ∧ l.recvCb serial nread buf truncated peer =
        { l.setTask serial ⟨peer, buf, [], .queued⟩ with
          pending := l.pending ++ [serial]
          received := l.received ++ [⟨serial, peer, buf.take nread.toNat⟩] }) := by
  unfold recvCb
  split_ifs with h₁ h₂ <;> first | exact .inl rfl | exact .inr ⟨by omega, rfl⟩

theorem afterWorkCb_cases (serial : Nat) (t : UdpTask) (sendOk : Bool) :
    l.afterWorkCb serial t sendOk = { l with pending := l.pending.erase serial }.deleteTask serial ∨
      (t.phase ≠ .cancelled ∧ l.afterWorkCb serial t sendOk =
        { l.setTask serial { t with phase := .sending } with
          pending := l.pending.erase serial, sent := l.sent ++ [⟨serial, t.peer, t.response⟩] }) := by
  unfold afterWorkCb
  split_ifs with hc
  · exact .inl rfl
  · exact .inr ⟨hc, rfl⟩
  · exact .inl rfl

end ListenerUdp

theorem udpStep_cases {e : UdpEvent} (h : udpStep bufSize l e = some l') :
    (l.listening = true ∧ ∃ nread buf truncated peer, buf.length = bufSize ∧
      l' = { l with nextBuf := l.nextBuf + 1 }.recvCb l.nextBuf nread buf truncated peer) ∨
    (∃ s t, l.tasks s = some t ∧ t.phase = .queued ∧ l' = l.setTask s { t with phase := .started }) ∨
    (∃ s t, l.tasks s = some t ∧ t.phase = .started ∧ ∃ response, l' = l.workCb s t response) ∨
    (∃ s t, l.tasks s = some t ∧ (t.phase = .finished ∨ t.phase = .cancelled) ∧
      ∃ sendOk, l' = l.afterWorkCb s t sendOk) ∨
    (∃ s t, l.tasks s = some t ∧ t.phase = .sending ∧ l' = l.sendCb s) ∨
    (l.listening = true ∧ l' = l.beforeStop) := by
  cases e with
  | recv nread buf truncated peer =>
    simp only [udpStep] at h
    split_ifs at h with hRecv
    exact .inl ⟨hRecv.1, nread, buf, truncated, peer, hRecv.2.1, (Option.some.inj h).symm⟩
  | pickWork s =>
    simp only [udpStep] at h
    split at h
    · next t ht =>
      split_ifs at h with hq
      exact .inr (.inl ⟨s, t, ht, hq, (Option.some.inj h).symm⟩)
    · cases h
  | workCb s response =>
    simp only [udpStep] at h
    split at h
    · next t ht =>
      split_ifs at h with hs
      exact .inr (.inr (.inl ⟨s, t, ht, hs, response, (Option.some.inj h).symm⟩))
    · cases h
  | afterWorkCb s sendOk =>
    simp only [udpStep] at h
    split at h
    · next t ht =>
      split_ifs at h with hf
      exact .inr (.inr (.inr (.inl ⟨s, t, ht, hf, sendOk, (Option.some.inj h).symm⟩)))
    · cases h
  | sendCb s =>
    simp only [udpStep] at h
    split at h
    · next t ht =>
      split_ifs at h with hs
      exact .inr (.inr (.inr (.inr (.inl ⟨s, t, ht, hs, (Option.some.inj h).symm⟩))))
    · cases h
  | stop =>
    simp only [udpStep] at h
    split_ifs at h with hL
    exact .inr (.inr (.inr (.inr (.inr ⟨hL, (Option.some.inj h).symm⟩))))

theorem udpRun_cons {e : UdpEvent} {events : List UdpEvent} (h : udpRun bufSize l (e :: events) = some l') :
    ∃ l₁, udpStep bufSize l e = some l₁ ∧ udpRun bufSize l₁ events = some l' :=
  Option.bind_eq_some.mp h

theorem UdpReachable.run {events : List UdpEvent} (hl : UdpReachable bufSize l)
    (h : udpRun bufSize l events = some l') : UdpReachable bufSize l' := by
  induction events generalizing l with
  | nil =>
    cases h
    exact hl
  | cons e events ih =>
    obtain ⟨l₁, hStep, hRest⟩ := udpRun_cons h
    exact ih (.step hl hStep) hRest

def ListenerUdp.replay (bufSize : Nat) (events : List UdpEvent) : ListenerUdp :=
  (udpRun bufSize ListenerUdp.init events).getD ListenerUdp.init

theorem reachable_udpReplay (events : List UdpEvent) :
    UdpReachable bufSize (ListenerUdp.replay bufSize events) := by
  unfold ListenerUdp.replay
  cases h : udpRun bufSize ListenerUdp.init events with
  | none => exact .init
  | some l => exact UdpReachable.init.run h

end Effects

end DnsProxy
