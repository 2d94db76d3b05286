import DnsProxy.TcpFraming
import DnsProxy.Responses

/-! # The TCP listener and its connections

`listener_tcp` and its `tcp_dns_connection` objects, one step per libuv callback. A step reports a
fault where the code would dereference a destroyed connection or lock a work's mutex twice. The
model keeps what each connection read, queued, answered and wrote; what `handle_message` returns is
a parameter.
-/

namespace DnsProxy

set_option autoImplicit false

/-- Where a `tcp_dns_connection::work` is in libuv's pool: queued, taken by a pool thread (from
then on `uv_cancel` fails), returned from `work_cb` (its `after_work_cb` pending with status 0),
or cancelled in the queue by `uv_cancel` (its `after_work_cb` pending with `UV_ECANCELED`). -/
inductive WorkPhase
  | queued
  | started
  | finished
  | cancelled
deriving DecidableEq

/-- A `tcp_dns_connection::work` until its `after_work_cb` deletes it. The serial stands for its
address; `conn` is the id of the connection `w->c` points to. -/
structure TcpWork where
  serial : Nat
  conn : Nat
  payload : List UInt8
  canceled : Bool
  phase : WorkPhase
deriving DecidableEq

/-- What `do_close` does to a work under its mutex: `uv_cancel`, which succeeds only while the
work is queued, then `canceled = true`. -/
def TcpWork.cancel (w : TcpWork) : TcpWork :=
  { w with canceled := true, phase := if w.phase = .queued then .cancelled else w.phase }

/-- The fields of a `tcp_dns_connection` that its callbacks use: `m_persistent`, `m_closed`,
`m_parser` and `m_pending_works` (the serials of its works). -/
structure TcpDnsConnection where
  persistent : Bool
  closed : Bool
  parser : TcpDnsPayloadParser
  pendingWorks : List Nat

/-- The libuv side of a connection, which outlives it until libuv's `close_cb`: whether
`m_tcp->data` still points to the connection, whether the handle is reading, whether
`m_idle_timer` is running, and the loop time it fires at. -/
structure TcpHandles where
  data : Bool
  reading : Bool
  timerActive : Bool
  deadline : Nat

def TcpHandles.unused : TcpHandles := ⟨false, false, false, 0⟩

/-- A payload `read_cb` queued: the serial of its work, the connection, and the loop time. -/
structure TcpRequest where
  serial : Nat
  conn : Nat
  payload : List UInt8
  time : Nat

/-- A call of `handle_message` by `work_cb`: the work, its connection, argument and result. -/
structure TcpCall where
  serial : Nat
  conn : Nat
  request : List UInt8
  response : List UInt8

/-- A payload `do_write` passed to a `uv_write` that returned 0, with the work it answers. -/
structure TcpSent where
  serial : Nat
  conn : Nat
  payload : List UInt8

/-- The listener: the loop time, whether the listening handle is open, `m_id_counter`,
`m_connections`, the handles of every connection, the works and writes libuv holds (a write by
the id of its connection), and the model's next work serial; then the history. -/
structure ListenerTcp where
  now : Nat
  listening : Bool
  idCounter : Nat
  connections : Nat → Option TcpDnsConnection
  handles : Nat → TcpHandles
  works : List TcpWork
  writes : List Nat
  nextWork : Nat
  received : List (Nat × List UInt8)
  requests : List TcpRequest
  calls : List TcpCall
  sent : List TcpSent

/-- What the code does not rule out: a dereference of a connection the listener destroyed, or
a lock of a work's mutex by the thread that holds it. -/
inductive TcpFault
  | useAfterFree (id : Nat)
  | relock (serial : Nat)
deriving DecidableEq

/-- The callbacks libuv may run: the loop time advancing; `conn_cb` with whether its status,
`uv_tcp_init`, `uv_accept` and `uv_read_start` succeed; `read_cb` with the bytes read, or
`none` for an error (`UV_EOF` included); a pool thread taking a work; `work_cb` with what `handle_message`
returns; `after_work_cb` with whether the `uv_write` it reaches succeeds; `write_cb` of a
connection's oldest write; `idle_timeout_cb`; and `escape_hatch_cb`, which runs `before_stop`. -/
inductive TcpEvent
  | tick (ms : Nat)
  | connCb (status tcpInit accept readStart : Bool)
  | readCb (id : Nat) (nread : Option (List UInt8))
  | pickWork (serial : Nat)
  | workCb (serial : Nat) (response : List UInt8)
  | afterWorkCb (serial : Nat) (writeOk : Bool)
  | writeCb (id : Nat) (ok : Bool)
  | idleTimeoutCb (id : Nat)
  | stop

namespace ListenerTcp

/-- The listener after `before_run`: listening, with no connection. -/
def init : ListenerTcp :=
  ⟨0, true, 0, fun _ => none, fun _ => .unused, [], [], 0, [], [], [], []⟩

/-- The connection object of an id, read through a pointer: a destroyed one is a fault. -/
def deref (l : ListenerTcp) (id : Nat) : Except TcpFault TcpDnsConnection :=
  match l.connections id with
  | some c => .ok c
  | none => .error (.useAfterFree id)

def work? (l : ListenerTcp) (serial : Nat) : Option TcpWork := l.works.find? (·.serial = serial)

def setConn (l : ListenerTcp) (id : Nat) (c : TcpDnsConnection) : ListenerTcp :=
  { l with connections := Function.update l.connections id (some c) }

def setHandles (l : ListenerTcp) (id : Nat) (h : TcpHandles) : ListenerTcp :=
  { l with handles := Function.update l.handles id h }

def setWork (l : ListenerTcp) (w : TcpWork) : ListenerTcp :=
  { l with works := l.works.map fun v => if v.serial = w.serial then w else v }

def deleteWork (l : ListenerTcp) (serial : Nat) : ListenerTcp :=
  { l with works := l.works.filter (·.serial ≠ serial) }

def bytesOf (l : ListenerTcp) (id : Nat) : List UInt8 :=
  ((l.received.filter (·.1 = id)).map (·.2)).flatten

def requestsOf (l : ListenerTcp) (id : Nat) : List TcpRequest :=
  l.requests.filter (·.conn = id)

/-- The calls of `handle_message` for a connection's works. -/
def callsOf (l : ListenerTcp) (id : Nat) : List TcpCall :=
  l.calls.filter (·.conn = id)

def sentOf (l : ListenerTcp) (id : Nat) : List TcpSent :=
  l.sent.filter (·.conn = id)

end ListenerTcp

open ListenerTcp

theorem update_eq_some {α : Type} {f : Nat → Option α} {a j : Nat} {b d : α}
    (h : Function.update f a (some b) j = some d) : (j = a ∧ b = d) ∨ (j ≠ a ∧ f j = some d) := by
  by_cases hj : j = a
  · subst hj
    exact .inl ⟨rfl, by simpa using h⟩
  · exact .inr ⟨hj, by simpa [hj] using h⟩

/-- The loop of `do_close` over `m_pending_works`: lock the work's mutex, `uv_cancel`, set
`canceled`. `held` is the work whose mutex the calling thread holds. -/
def cancelPending (held : Option Nat) (works : List TcpWork) : List Nat → Except TcpFault (List TcpWork)
  | [] => .ok works
  | serial :: rest =>
    if held = some serial then .error (.relock serial)
    else cancelPending held (works.map fun w => if w.serial = serial then w.cancel else w) rest

/-- `do_close`: once only (`m_closed`); stop and close the idle timer, cancel every pending work,
detach and close `m_tcp` (reading stops, `data` becomes nullptr), and call the close callback,
by which the listener erases the connection from `m_connections`. The connection is returned
with `m_closed` set, for a caller that still owns it. -/
def doClose (held : Option Nat) (l : ListenerTcp) (id : Nat) (c : TcpDnsConnection) :
    Except TcpFault (TcpDnsConnection × ListenerTcp) :=
  if c.closed then .ok (c, l)
  else do
    let works ← cancelPending held l.works c.pendingWorks
    pure ({ c with closed := true },
      { l with
        works
        handles := Function.update l.handles id
          { l.handles id with data := false, reading := false, timerActive := false }
        connections := Function.update l.connections id none })

section Callbacks

variable (persistent : Bool) (idleTimeout : Nat)

/-- One turn of the `read_cb` loop for a payload `next_payload` returned: `uv_timer_again`
re-arms the idle timer, and a new work is queued and inserted into `m_pending_works`. -/
def queueWork (id : Nat) (c : TcpDnsConnection) (l : ListenerTcp) (payload : List UInt8) :
    TcpDnsConnection × ListenerTcp :=
  ({ c with pendingWorks := c.pendingWorks ++ [l.nextWork] },
    { l with
      handles := Function.update l.handles id { l.handles id with deadline := l.now + idleTimeout }
      works := l.works ++ [⟨l.nextWork, id, payload, false, .queued⟩]
      nextWork := l.nextWork + 1
      requests := l.requests ++ [⟨l.nextWork, id, payload, l.now⟩] })

/-- The payloads the `read_cb` loop takes from the parser, and the parser after it: all that
`next_payload` returns, or on a non-persistent connection the first, after which it breaks. -/
def takePayloads (persistent : Bool) (p : TcpDnsPayloadParser) :
    List (List UInt8) × TcpDnsPayloadParser :=
  if persistent then p.drain
  else
    match p.nextPayload with
    | (some payload, q) => ([payload], q)
    | (none, q) => ([], q)

/-- `read_cb` with `nread ≥ 0` on connection `c`: push the bytes to the parser, then queue a
work for each payload the loop takes; a non-persistent connection stops reading after its
first payload. -/
def onRead (l : ListenerTcp) (id : Nat) (c : TcpDnsConnection) (chunk : List UInt8) : ListenerTcp :=
  let taken := takePayloads c.persistent (c.parser.pushData chunk)
  let cl := taken.1.foldl (fun cl payload => queueWork idleTimeout id cl.1 cl.2 payload)
    ({ c with parser := taken.2 }, { l with received := l.received ++ [(id, chunk)] })
  let l := if c.persistent = false ∧ taken.1 ≠ [] then
      cl.2.setHandles id { cl.2.handles id with reading := false }
    else cl.2
  l.setConn id cl.1

/-- `read_cb`: the connection is `stream->data`; an error closes it. -/
def readCb (l : ListenerTcp) (id : Nat) : Option (List UInt8) → Except TcpFault ListenerTcp
  | some chunk => (onRead idleTimeout l id · chunk) <$> l.deref id
  | none => l.deref id >>= fun c => (·.2) <$> doClose none l id c

/-- `work_cb`, under the work's mutex: nothing when the work was canceled; else the payload
becomes what `c->m_proxy->handle_message` returned for it. -/
def workCb (l : ListenerTcp) (w : TcpWork) (response : List UInt8) : Except TcpFault ListenerTcp :=
  if w.canceled then .ok (l.setWork { w with phase := .finished })
  else
    (fun _ => { l.setWork { w with payload := response, phase := .finished } with
      calls := l.calls ++ [⟨w.serial, w.conn, w.payload, response⟩] }) <$> l.deref w.conn

/-- `do_write` of a work's payload on connection `c`, which the caller changed in place: a
`uv_write` of its frame; when `uv_write` fails, `do_close` while the caller still holds the
work's mutex. -/
def doWrite (l : ListenerTcp) (id : Nat) (c : TcpDnsConnection) (w : TcpWork) (writeOk : Bool) :
    Except TcpFault ListenerTcp :=
  let l := l.setConn id c
  if writeOk then .ok { l with writes := l.writes ++ [id], sent := l.sent ++ [⟨w.serial, id, w.payload⟩] }
  else (·.2) <$> doClose (some w.serial) l id c

/-- `after_work_cb`, under the work's mutex: when the status is 0 (the work ran) and the work
was not canceled, erase it from `m_pending_works` and `do_write` its payload; then delete it. -/
def afterWorkCb (l : ListenerTcp) (w : TcpWork) (writeOk : Bool) : Except TcpFault ListenerTcp :=
  (·.deleteWork w.serial) <$>
    if w.phase = .finished ∧ w.canceled = false then
      l.deref w.conn >>= fun c =>
        doWrite l w.conn { c with pendingWorks := c.pendingWorks.erase w.serial } w writeOk
    else .ok l

/-- `write_cb` of the oldest write on connection `id`'s handle: the connection is `h->data`,
nullptr once it closed; a non-persistent connection, or a failed write, is closed. -/
def writeCb (l : ListenerTcp) (id : Nat) (ok : Bool) : Except TcpFault ListenerTcp :=
  (fun l => { l with writes := l.writes.erase id }) <$>
    if (l.handles id).data then
      l.deref id >>= fun c =>
        if c.persistent = false ∨ ok = false then (·.2) <$> doClose none l id c else .ok l
    else .ok l

/-- `idle_timeout_cb`: the connection is the timer's `data`; close it. -/
def idleTimeoutCb (l : ListenerTcp) (id : Nat) : Except TcpFault ListenerTcp :=
  l.deref id >>= fun c => (·.2) <$> doClose none l id c

/-- `start` of an accepted connection, ending in `do_read`: `uv_read_start` with `m_tcp->data`
pointing to the connection, then the idle timer; a failed `uv_read_start` closes it. -/
def start (l : ListenerTcp) (id : Nat) (readStart : Bool) :
    Except TcpFault (TcpDnsConnection × ListenerTcp) :=
  let c : TcpDnsConnection := ⟨persistent, false, .new, []⟩
  if readStart then .ok (c, l.setHandles id ⟨true, true, true, l.now + idleTimeout⟩)
  else doClose none (l.setHandles id { l.handles id with data := true }) id c

/-- `conn_cb`: a new connection takes the next id; `start` runs before the connection is stored
in `m_connections`, so when it closes the connection, the close callback's erase finds nothing
and the closed connection is stored after it. -/
def connCb (l : ListenerTcp) (status tcpInit accept readStart : Bool) : Except TcpFault ListenerTcp :=
  if status = false then .ok l
  else
    let id := l.idCounter
    let l := { l with idCounter := id + 1 }
    if tcpInit = false ∨ accept = false then .ok l
    else (fun cl => cl.2.setConn id cl.1) <$> start persistent idleTimeout l id readStart

/-- The `close` of one entry of `m_connections` in `before_stop`'s loop. -/
def closeEntry (l : ListenerTcp) (id : Nat) : Except TcpFault ListenerTcp :=
  match l.connections id with
  | some c => (·.2) <$> doClose none l id c
  | none => .ok l

/-- `before_stop`: close the listening handle, then `close` every connection in
`m_connections`; each close erases its own entry. -/
def beforeStop (l : ListenerTcp) : Except TcpFault ListenerTcp :=
  (List.range l.idCounter).foldlM closeEntry { l with listening := false }

/-- One step: `none` when libuv does not run the callback in the state. -/
def tcpStep (l : ListenerTcp) : TcpEvent → Option (Except TcpFault ListenerTcp)
  | .tick ms => some (.ok { l with now := l.now + ms })
  | .connCb status tcpInit accept readStart =>
    if l.listening then some (connCb persistent idleTimeout l status tcpInit accept readStart) else none
  | .readCb id nread => if (l.handles id).reading then some (readCb idleTimeout l id nread) else none
  | .pickWork serial =>
    match l.work? serial with
    | some w => if w.phase = .queued then some (.ok (l.setWork { w with phase := .started })) else none
    | none => none
  | .workCb serial response =>
    match l.work? serial with
    | some w => if w.phase = .started then some (workCb l w response) else none
    | none => none
  | .afterWorkCb serial writeOk =>
    match l.work? serial with
    | some w =>
      if w.phase = .finished ∨ w.phase = .cancelled then some (afterWorkCb l w writeOk) else none
    | none => none
  | .writeCb id ok => if id ∈ l.writes then some (writeCb l id ok) else none
  | .idleTimeoutCb id =>
    if (l.handles id).timerActive ∧ (l.handles id).deadline ≤ l.now then some (idleTimeoutCb l id)
    else none
  | .stop => if l.listening then some (beforeStop l) else none

inductive TcpReachable : ListenerTcp → Prop
  | init : TcpReachable ListenerTcp.init
  | step {l l' : ListenerTcp} {e : TcpEvent} : TcpReachable l → tcpStep persistent idleTimeout l e = some (.ok l') →
      TcpReachable l'

def tcpRun : ListenerTcp → List TcpEvent → Option (Except TcpFault ListenerTcp)
  | l, [] => some (.ok l)
  | l, e :: rest =>
    match tcpStep persistent idleTimeout l e with
    | some (.ok l') => tcpRun l' rest
    | other => other

end Callbacks

/-! ## What each operation does -/

namespace TcpWork

/-- A work as `do_close`'s loop leaves it, when the loop runs over `pending`. -/
def cancelIn (pending : List Nat) (w : TcpWork) : TcpWork := if w.serial ∈ pending then w.cancel else w

@[simp] theorem cancel_serial (w : TcpWork) : w.cancel.serial = w.serial := rfl
@[simp] theorem cancel_conn (w : TcpWork) : w.cancel.conn = w.conn := rfl
@[simp] theorem cancel_payload (w : TcpWork) : w.cancel.payload = w.payload := rfl
@[simp] theorem cancel_canceled (w : TcpWork) : w.cancel.canceled = true := rfl

theorem cancel_cancel (w : TcpWork) : w.cancel.cancel = w.cancel := by
  by_cases h : w.phase = .queued <;> simp [cancel, h]

theorem cancel_phase_eq_finished (w : TcpWork) : w.cancel.phase = .finished ↔ w.phase = .finished := by
  by_cases h : w.phase = .queued <;> simp [cancel, h]

@[simp] theorem cancelIn_nil : cancelIn [] = id := by
  funext w
  simp [cancelIn]

@[simp] theorem cancelIn_serial (pending : List Nat) (w : TcpWork) : (w.cancelIn pending).serial = w.serial := by
  unfold cancelIn; split <;> rfl

@[simp] theorem cancelIn_conn (pending : List Nat) (w : TcpWork) : (w.cancelIn pending).conn = w.conn := by
  unfold cancelIn; split <;> rfl

@[simp] theorem cancelIn_payload (pending : List Nat) (w : TcpWork) :
    (w.cancelIn pending).payload = w.payload := by
  unfold cancelIn; split <;> rfl

theorem cancelIn_phase (pending : List Nat) (w : TcpWork) :
    (w.cancelIn pending).phase = w.phase ∨ (w.cancelIn pending).phase = .cancelled := by
  unfold cancelIn cancel
  split
  · by_cases h : w.phase = .queued <;> simp [h]
  · exact .inl rfl

theorem cancelIn_phase_eq_finished (pending : List Nat) (w : TcpWork) :
    (w.cancelIn pending).phase = .finished ↔ w.phase = .finished := by
  unfold cancelIn
  split
  · exact cancel_phase_eq_finished w
  · rfl

theorem cancelIn_of_not_mem {pending : List Nat} {w : TcpWork} (h : w.serial ∉ pending) :
    w.cancelIn pending = w :=
  if_neg h

theorem not_mem_of_cancelIn_canceled {pending : List Nat} {w : TcpWork}
    (h : (w.cancelIn pending).canceled = false) : w.serial ∉ pending := by
  intro hMem
  simp [cancelIn, hMem] at h

end TcpWork

theorem cancelPending_eq {held : Option Nat} (works : List TcpWork) {pending : List Nat}
    (h : ∀ s ∈ pending, held ≠ some s) :
    cancelPending held works pending = .ok (works.map (TcpWork.cancelIn pending)) := by
  induction pending generalizing works with
  | nil => simp [cancelPending]
  | cons s rest ih =>
    rw [cancelPending, if_neg (h s (List.mem_cons_self _ _)),
      ih _ fun t ht => h t (List.mem_cons_of_mem _ ht), List.map_map]
    congr 2
    funext w
    by_cases hs : w.serial = s
    · simp [TcpWork.cancelIn, hs, TcpWork.cancel_cancel]
    · simp [TcpWork.cancelIn, hs]

/-- The listener after `do_close` of the open connection `id` with pending works `pending`. -/
def ListenerTcp.closeConn (l : ListenerTcp) (id : Nat) (pending : List Nat) : ListenerTcp :=
  { l with
    works := l.works.map (TcpWork.cancelIn pending)
    handles := Function.update l.handles id
      { l.handles id with data := false, reading := false, timerActive := false }
    connections := Function.update l.connections id none }

theorem ListenerTcp.closeConn_connections (l : ListenerTcp) (id : Nat) (pending : List Nat) (j : Nat) :
    (l.closeConn id pending).connections j = if j = id then none else l.connections j := by
  simp [closeConn, Function.update_apply]

theorem ListenerTcp.closeConn_handles (l : ListenerTcp) (id : Nat) (pending : List Nat) (j : Nat) :
    (l.closeConn id pending).handles j =
      if j = id then { l.handles id with data := false, reading := false, timerActive := false }
      else l.handles j := by
  by_cases hj : j = id <;> simp [closeConn, hj]

theorem doClose_eq {held : Option Nat} (l : ListenerTcp) (id : Nat) {c : TcpDnsConnection}
    (hOpen : c.closed = false) (hHeld : ∀ s ∈ c.pendingWorks, held ≠ some s) :
    doClose held l id c = .ok ({ c with closed := true }, l.closeConn id c.pendingWorks) := by
  simp only [doClose, hOpen, cancelPending_eq _ hHeld]
  rfl

theorem doClose_of_closed {held : Option Nat} (l : ListenerTcp) (id : Nat) {c : TcpDnsConnection}
    (hClosed : c.closed = true) : doClose held l id c = .ok (c, l) := by
  simp [doClose, hClosed]

theorem cancelPending_relock {held : Option Nat} (works : List TcpWork) {pending : List Nat} {s : Nat}
    (hs : s ∈ pending) (hHeld : held = some s) : ∃ f, cancelPending held works pending = .error f := by
  induction pending generalizing works with
  | nil => cases hs
  | cons t rest ih =>
    rw [cancelPending]
    split_ifs with ht
    · exact ⟨_, rfl⟩
    · exact ih _ ((List.mem_cons.mp hs).resolve_left fun h => ht (h ▸ hHeld))

theorem doClose_cases {held : Option Nat} {l l' : ListenerTcp} {id : Nat} {c c' : TcpDnsConnection}
    (h : doClose held l id c = .ok (c', l')) :
    (c.closed = true ∧ c' = c ∧ l' = l) ∨
      (c.closed = false ∧ (∀ s ∈ c.pendingWorks, held ≠ some s) ∧
        c' = { c with closed := true } ∧ l' = l.closeConn id c.pendingWorks) := by
  cases hClosed : c.closed
  · have hHeld : ∀ s ∈ c.pendingWorks, held ≠ some s := by
      intro s hs hEq
      obtain ⟨f, hf⟩ := cancelPending_relock l.works hs hEq
      simp [doClose, hClosed, hf] at h
    rw [doClose_eq l id hClosed hHeld] at h
    obtain ⟨rfl, rfl⟩ := Prod.mk.inj (Except.ok.inj h)
    exact .inr ⟨rfl, hHeld, rfl, rfl⟩
  · rw [doClose_of_closed l id hClosed] at h
    obtain ⟨rfl, rfl⟩ := Prod.mk.inj (Except.ok.inj h)
    exact .inl ⟨rfl, rfl, rfl⟩

namespace ListenerTcp

theorem deref_eq_ok {l : ListenerTcp} {id : Nat} {c : TcpDnsConnection} :
    l.deref id = .ok c ↔ l.connections id = some c := by
  unfold deref
  split <;> simp_all

theorem deref_of_connections {l : ListenerTcp} {id : Nat} {c : TcpDnsConnection}
    (h : l.connections id = some c) : l.deref id = .ok c :=
  deref_eq_ok.mpr h

end ListenerTcp

section Read

variable (idleTimeout : Nat)

theorem foldl_queueWork (id : Nat) (ps : List (List UInt8)) :
    ∀ (c : TcpDnsConnection) (l : ListenerTcp),
      ps.foldl (fun cl payload => queueWork idleTimeout id cl.1 cl.2 payload) (c, l) =
        ({ c with pendingWorks := c.pendingWorks ++ List.range' l.nextWork ps.length },
          { l with
            handles := if ps = [] then l.handles else Function.update l.handles id
              { l.handles id with deadline := l.now + idleTimeout }
            works := l.works ++ (List.enumFrom l.nextWork ps).map fun e => ⟨e.1, id, e.2, false, .queued⟩
            nextWork := l.nextWork + ps.length
            requests := l.requests ++ (List.enumFrom l.nextWork ps).map fun e => ⟨e.1, id, e.2, l.now⟩ }) := by
  induction ps with
  | nil => intro c l; simp
  | cons p ps ih =>
    intro c l
    rw [List.foldl_cons, ih]
    simp only [queueWork, List.length_cons, List.range'_succ, List.enumFrom_cons, List.map_cons,
      List.append_assoc, List.cons_append, List.nil_append, Function.update_same,
      Function.update_idem, reduceCtorEq, if_false, Nat.add_right_comm _ 1 ps.length, Nat.add_assoc]
    split_ifs <;> rfl

theorem onRead_eq (l : ListenerTcp) (id : Nat) (c : TcpDnsConnection) (chunk : List UInt8) :
    onRead idleTimeout l id c chunk =
      { l with
        connections := Function.update l.connections id (some { c with
          parser := (takePayloads c.persistent (c.parser.pushData chunk)).2
          pendingWorks := c.pendingWorks ++
            List.range' l.nextWork (takePayloads c.persistent (c.parser.pushData chunk)).1.length })
        handles := if (takePayloads c.persistent (c.parser.pushData chunk)).1 = [] then l.handles
          else Function.update l.handles id { l.handles id with
            deadline := l.now + idleTimeout, reading := (l.handles id).reading && c.persistent }
        works := l.works ++ (List.enumFrom l.nextWork
          (takePayloads c.persistent (c.parser.pushData chunk)).1).map fun e => ⟨e.1, id, e.2, false, .queued⟩
        nextWork := l.nextWork + (takePayloads c.persistent (c.parser.pushData chunk)).1.length
        received := l.received ++ [(id, chunk)]
        requests := l.requests ++ (List.enumFrom l.nextWork
          (takePayloads c.persistent (c.parser.pushData chunk)).1).map fun e => ⟨e.1, id, e.2, l.now⟩ } := by
  simp only [onRead, foldl_queueWork]
  generalize takePayloads c.persistent (c.parser.pushData chunk) = taken
  by_cases hNil : taken.1 = [] <;> cases hp : c.persistent <;>
    simp [hNil, setHandles, setConn, Function.update_idem]

section ReadEffects

variable (l : ListenerTcp) (id : Nat) (c : TcpDnsConnection) (chunk : List UInt8) (j : Nat)

theorem onRead_bytesOf :
    (onRead idleTimeout l id c chunk).bytesOf j = if j = id then l.bytesOf j ++ chunk else l.bytesOf j := by
  rw [onRead_eq]
  by_cases hj : j = id <;> simp [bytesOf, hj, List.filter_append]

theorem onRead_requestsOf :
    (onRead idleTimeout l id c chunk).requestsOf j = l.requestsOf j ++ if j = id then
      (List.enumFrom l.nextWork (takePayloads c.persistent (c.parser.pushData chunk)).1).map
        fun e => ⟨e.1, id, e.2, l.now⟩ else [] := by
  rw [onRead_eq]
  by_cases hj : j = id
  · subst hj
    simp only [requestsOf, List.filter_append, if_pos rfl]
    congr 1
    exact List.filter_eq_self.mpr fun r hr => by
      obtain ⟨e, -, rfl⟩ := List.mem_map.mp hr
      simp
  · simp only [requestsOf, List.filter_append, if_neg hj, List.append_nil, List.append_right_eq_self]
    exact List.filter_eq_nil_iff.mpr fun r hr => by
      obtain ⟨e, -, rfl⟩ := List.mem_map.mp hr
      simpa using Ne.symm hj

theorem onRead_connections :
    (onRead idleTimeout l id c chunk).connections j = if j = id then
      some { c with
        parser := (takePayloads c.persistent (c.parser.pushData chunk)).2
        pendingWorks := c.pendingWorks ++
          List.range' l.nextWork (takePayloads c.persistent (c.parser.pushData chunk)).1.length }
      else l.connections j := by
  rw [onRead_eq]
  exact Function.update_apply _ _ _ _

theorem onRead_handles :
    (onRead idleTimeout l id c chunk).handles j =
      if j = id ∧ (takePayloads c.persistent (c.parser.pushData chunk)).1 ≠ [] then
        { l.handles id with deadline := l.now + idleTimeout, reading := (l.handles id).reading && c.persistent }
      else l.handles j := by
  rw [onRead_eq]
  by_cases hNil : (takePayloads c.persistent (c.parser.pushData chunk)).1 = [] <;>
    by_cases hj : j = id <;> simp [hNil, hj, Function.update_apply]

end ReadEffects

end Read

/-! ## Inversion: what a callback that returns can have done -/

theorem except_map_eq_ok {ε α β : Type} {f : α → β} {x : Except ε α} {b : β} (h : f <$> x = .ok b) :
    ∃ a, x = .ok a ∧ f a = b := by
  cases x with
  | error e => cases h
  | ok a => exact ⟨a, rfl, Except.ok.inj h⟩

section Inversion

variable {persistent : Bool} {idleTimeout : Nat} {l l' : ListenerTcp}

theorem closeById_eq_ok {id : Nat} (h : (l.deref id >>= fun c => (·.2) <$> doClose none l id c) = .ok l') :
    ∃ c, l.connections id = some c ∧
      (c.closed = true ∧ l' = l ∨ c.closed = false ∧ l' = l.closeConn id c.pendingWorks) := by
  obtain ⟨c, hc, h⟩ := except_bind_eq_ok h
  obtain ⟨⟨c', l₁⟩, hr, rfl⟩ := except_map_eq_ok h
  refine ⟨c, deref_eq_ok.mp hc, ?_⟩
  rcases doClose_cases hr with ⟨hClosed, -, rfl⟩ | ⟨hOpen, -, -, rfl⟩
  · exact .inl ⟨hClosed, rfl⟩
  · exact .inr ⟨hOpen, rfl⟩

theorem readCb_eq_ok {id : Nat} {nread : Option (List UInt8)} (h : readCb idleTimeout l id nread = .ok l') :
    ∃ c, l.connections id = some c ∧
      ((∃ chunk, nread = some chunk ∧ l' = onRead idleTimeout l id c chunk) ∨
        (nread = none ∧ (c.closed = true ∧ l' = l ∨ c.closed = false ∧ l' = l.closeConn id c.pendingWorks))) := by
  cases nread with
  | some chunk =>
    obtain ⟨c, hc, rfl⟩ := except_map_eq_ok h
    exact ⟨c, deref_eq_ok.mp hc, .inl ⟨chunk, rfl, rfl⟩⟩
  | none =>
    obtain ⟨c, hc, hClose⟩ := closeById_eq_ok h
    exact ⟨c, hc, .inr ⟨rfl, hClose⟩⟩

theorem workCb_eq_ok {w : TcpWork} {response : List UInt8} (h : workCb l w response = .ok l') :
    (w.canceled = true ∧ l' = l.setWork { w with phase := .finished }) ∨
      (w.canceled = false ∧ (∃ c, l.connections w.conn = some c) ∧
        l' = { l.setWork { w with payload := response, phase := .finished } with
          calls := l.calls ++ [⟨w.serial, w.conn, w.payload, response⟩] }) := by
  unfold workCb at h
  rcases Bool.eq_false_or_eq_true w.canceled with hCanceled | hCanceled
  · rw [if_pos hCanceled] at h
    exact .inl ⟨hCanceled, (Except.ok.inj h).symm⟩
  · rw [if_neg (by simp [hCanceled])] at h
    obtain ⟨c, hc, rfl⟩ := except_map_eq_ok h
    exact .inr ⟨hCanceled, ⟨c, deref_eq_ok.mp hc⟩, rfl⟩

theorem afterWorkCb_eq_ok {w : TcpWork} {writeOk : Bool} (h : afterWorkCb l w writeOk = .ok l') :
    ((w.phase = .finished → w.canceled = true) ∧ l' = l.deleteWork w.serial) ∨
      (w.phase = .finished ∧ w.canceled = false ∧ ∃ c, l.connections w.conn = some c ∧
        ((writeOk = true ∧ l' = ListenerTcp.deleteWork
            { l.setConn w.conn { c with pendingWorks := c.pendingWorks.erase w.serial } with
              writes := l.writes ++ [w.conn], sent := l.sent ++ [⟨w.serial, w.conn, w.payload⟩] } w.serial) ∨
          (writeOk = false ∧ c.closed = true ∧
            l' = (l.setConn w.conn { c with pendingWorks := c.pendingWorks.erase w.serial }).deleteWork w.serial) ∨
          (writeOk = false ∧ c.closed = false ∧ w.serial ∉ c.pendingWorks.erase w.serial ∧
            l' = ((l.setConn w.conn { c with pendingWorks := c.pendingWorks.erase w.serial }).closeConn w.conn
              (c.pendingWorks.erase w.serial)).deleteWork w.serial))) := by
  obtain ⟨l₁, h₁, rfl⟩ := except_map_eq_ok h
  split_ifs at h₁ with hWrites
  · obtain ⟨c, hc, h₁⟩ := except_bind_eq_ok h₁
    refine .inr ⟨hWrites.1, hWrites.2, c, deref_eq_ok.mp hc, ?_⟩
    dsimp only [doWrite] at h₁
    cases writeOk
    · obtain ⟨⟨c', l₂⟩, hr, rfl⟩ := except_map_eq_ok h₁
      rcases doClose_cases hr with ⟨hClosed, -, rfl⟩ | ⟨hOpen, hHeld, -, rfl⟩
      · exact .inr (.inl ⟨rfl, hClosed, rfl⟩)
      · exact .inr (.inr ⟨rfl, hOpen, fun hs => hHeld _ hs rfl, rfl⟩)
    · rw [if_pos rfl] at h₁
      obtain rfl := Except.ok.inj h₁
      exact .inl ⟨rfl, rfl⟩
  · refine .inl ⟨fun hFinished => ?_, by rw [← Except.ok.inj h₁]⟩
    cases hc : w.canceled
    · exact absurd ⟨hFinished, hc⟩ hWrites
    · rfl

theorem writeCb_eq_ok {id : Nat} {ok : Bool} (h : writeCb l id ok = .ok l') :
    (l' = { l with writes := l.writes.erase id } ∨
      ∃ c, l.connections id = some c ∧ c.closed = false ∧
        l' = { l.closeConn id c.pendingWorks with writes := l.writes.erase id }) := by
  obtain ⟨l₁, h₁, rfl⟩ := except_map_eq_ok h
  split_ifs at h₁
  · obtain ⟨c, hc, h₁⟩ := except_bind_eq_ok h₁
    split_ifs at h₁
    · obtain ⟨⟨c', l₂⟩, hr, rfl⟩ := except_map_eq_ok h₁
      rcases doClose_cases hr with ⟨-, -, rfl⟩ | ⟨hOpen, -, -, rfl⟩
      · exact .inl rfl
      · exact .inr ⟨c, deref_eq_ok.mp hc, hOpen, rfl⟩
    · rw [← Except.ok.inj h₁]
      exact .inl rfl
  · rw [← Except.ok.inj h₁]
    exact .inl rfl

theorem connCb_eq_ok {status tcpInit accept readStart : Bool}
    (h : connCb persistent idleTimeout l status tcpInit accept readStart = .ok l') :
    l' = l ∨ l' = { l with idCounter := l.idCounter + 1 } ∨
      l' = ({ l with idCounter := l.idCounter + 1 }.setHandles l.idCounter
        ⟨true, true, true, l.now + idleTimeout⟩).setConn l.idCounter ⟨persistent, false, .new, []⟩ ∨
      l' = ({ l with idCounter := l.idCounter + 1 }.setHandles l.idCounter
        { l.handles l.idCounter with data := false, reading := false, timerActive := false }).setConn
          l.idCounter ⟨persistent, true, .new, []⟩ := by
  unfold connCb at h
  split_ifs at h
  · exact .inl (Except.ok.inj h).symm
  · exact .inr (.inl (Except.ok.inj h).symm)
  · obtain ⟨cl, hStart, rfl⟩ := except_map_eq_ok h
    unfold start at hStart
    split_ifs at hStart
    · cases hStart
      exact .inr (.inr (.inl rfl))
    · rw [doClose_eq _ _ rfl (List.forall_mem_nil _)] at hStart
      cases hStart
      refine .inr (.inr (.inr ?_))
      simp [closeConn, setHandles, setConn]

theorem closeEntry_eq_ok {id : Nat} (h : closeEntry l id = .ok l') :
    (l' = l ∧ (l.connections id).all (·.closed) = true) ∨
      ∃ c, l.connections id = some c ∧ c.closed = false ∧ l' = l.closeConn id c.pendingWorks := by
  unfold closeEntry at h
  split at h
  · next c hc =>
    obtain ⟨⟨c', l₁⟩, hr, rfl⟩ := except_map_eq_ok h
    rcases doClose_cases hr with ⟨hClosed, -, rfl⟩ | ⟨hOpen, -, -, rfl⟩
    · exact .inl ⟨rfl, by simp [hc, hClosed]⟩
    · exact .inr ⟨c, hc, hOpen, rfl⟩
  · next hc => exact .inl ⟨(Except.ok.inj h).symm, by simp [hc]⟩

end Inversion

theorem ListenerTcp.mem_of_work? {l : ListenerTcp} {serial : Nat} {w : TcpWork} (h : l.work? serial = some w) :
    w ∈ l.works :=
  List.mem_of_find?_eq_some h

section Step

variable {persistent : Bool} {idleTimeout : Nat} {l l' : ListenerTcp}

theorem tcpStep_cases {e : TcpEvent} (h : tcpStep persistent idleTimeout l e = some (.ok l')) :
    (∃ ms, l' = { l with now := l.now + ms }) ∨
    (l.listening = true ∧ ∃ status tcpInit accept readStart,
      connCb persistent idleTimeout l status tcpInit accept readStart = .ok l') ∨
    (∃ id nread, (l.handles id).reading = true ∧ readCb idleTimeout l id nread = .ok l') ∨
    (∃ w ∈ l.works, w.phase = .queued ∧ l' = l.setWork { w with phase := .started }) ∨
    (∃ w ∈ l.works, w.phase = .started ∧ ∃ response, workCb l w response = .ok l') ∨
    (∃ w ∈ l.works, (w.phase = .finished ∨ w.phase = .cancelled) ∧
      ∃ writeOk, afterWorkCb l w writeOk = .ok l') ∨
    (∃ id ok, id ∈ l.writes ∧ writeCb l id ok = .ok l') ∨
    (∃ id, (l.handles id).timerActive = true ∧ (l.handles id).deadline ≤ l.now ∧
      idleTimeoutCb l id = .ok l') ∨
    (l.listening = true ∧ beforeStop l = .ok l') := by
  cases e with
  | tick ms => exact .inl ⟨ms, (Except.ok.inj (Option.some.inj h)).symm⟩
  | connCb status tcpInit accept readStart =>
    simp only [tcpStep] at h
    split_ifs at h with hListening
    exact .inr (.inl ⟨hListening, status, tcpInit, accept, readStart, Option.some.inj h⟩)
  | readCb id nread =>
    simp only [tcpStep] at h
    split_ifs at h with hReading
    exact .inr (.inr (.inl ⟨id, nread, hReading, Option.some.inj h⟩))
  | pickWork serial =>
    simp only [tcpStep] at h
    split at h
    · next w hw =>
      split_ifs at h with hQueued
      exact .inr (.inr (.inr (.inl ⟨w, mem_of_work? hw, hQueued, (Except.ok.inj (Option.some.inj h)).symm⟩)))
    · cases h
  | workCb serial response =>
    simp only [tcpStep] at h
    split at h
    · next w hw =>
      split_ifs at h with hStarted
      exact .inr (.inr (.inr (.inr (.inl ⟨w, mem_of_work? hw, hStarted, response, Option.some.inj h⟩))))
    · cases h
  | afterWorkCb serial writeOk =>
    simp only [tcpStep] at h
    split at h
    · next w hw =>
      split_ifs at h with hDone
      exact .inr (.inr (.inr (.inr (.inr (.inl ⟨w, mem_of_work? hw, hDone, writeOk, Option.some.inj h⟩)))))
    · cases h
  | writeCb id ok =>
    simp only [tcpStep] at h
    split_ifs at h with hWrite
    exact .inr (.inr (.inr (.inr (.inr (.inr (.inl ⟨id, ok, hWrite, Option.some.inj h⟩))))))
  | idleTimeoutCb id =>
    simp only [tcpStep] at h
    split_ifs at h with hTimer
    exact .inr (.inr (.inr (.inr (.inr (.inr (.inr (.inl ⟨id, hTimer.1, hTimer.2, Option.some.inj h⟩)))))))
  | stop =>
    simp only [tcpStep] at h
    split_ifs at h with hListening
    exact .inr (.inr (.inr (.inr (.inr (.inr (.inr (.inr ⟨hListening, Option.some.inj h⟩)))))))

end Step

section Runs

variable {persistent : Bool} {idleTimeout : Nat}

theorem run_cons_ok {l l' : ListenerTcp} {e : TcpEvent} {events : List TcpEvent}
    (h : tcpRun persistent idleTimeout l (e :: events) = some (.ok l')) :
    ∃ l₁, tcpStep persistent idleTimeout l e = some (.ok l₁) ∧ tcpRun persistent idleTimeout l₁ events = some (.ok l') := by
  simp only [tcpRun] at h
  split at h
  · next l₁ hStep => exact ⟨l₁, hStep, h⟩
  · next hOther => exact (hOther _ h).elim

theorem TcpReachable.run {l l' : ListenerTcp} {events : List TcpEvent} (hl : TcpReachable persistent idleTimeout l)
    (h : tcpRun persistent idleTimeout l events = some (.ok l')) : TcpReachable persistent idleTimeout l' := by
  induction events generalizing l with
  | nil =>
    cases h
    exact hl
  | cons e events ih =>
    obtain ⟨l₁, hStep, hRest⟩ := run_cons_ok h
    exact ih (.step hl hStep) hRest

def ListenerTcp.replay (persistent : Bool) (idleTimeout : Nat) (events : List TcpEvent) : ListenerTcp :=
  match tcpRun persistent idleTimeout ListenerTcp.init events with
  | some (.ok l) => l
  | _ => ListenerTcp.init

theorem reachable_replay (events : List TcpEvent) :
    TcpReachable persistent idleTimeout (ListenerTcp.replay persistent idleTimeout events) := by
  unfold ListenerTcp.replay
  split
  · next l h => exact TcpReachable.init.run h
  · exact .init

end Runs

end DnsProxy
