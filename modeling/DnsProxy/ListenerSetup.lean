import Mathlib.Data.List.Basic

/-! # Setting up and tearing down a listener

`create_and_listen`, `listener_base::init` with the protocol's `before_run`, `shutdown` and the
destructor, as they open and close descriptors. The model keeps the descriptors closed so far; what
the system and libuv return is a parameter. The Windows build is left out.
-/

namespace DnsProxy

set_option autoImplicit false

/-- What the calls of the set-up return, in the order the code makes them: `dup` of the given
descriptor (`none` for -1), `socket_address::valid`, whether `uv_loop_new` gives a loop, and
the error codes of `uv_async_init`, of the handle's init, bind and open, and of the call that
starts the handle. -/
structure SetupCalls where
  dup : Option Nat
  addressValid : Bool
  loopNew : Bool
  asyncInit : Int
  handleInit : Int
  bind : Int
  openFd : Int
  start : Int

/-- The libuv functions a protocol's `before_run` calls, by the names its errors print. -/
structure HandleCalls where
  init : String
  bind : String
  openFd : String
  start : String

/-- The listening handle: not initialized, initialized and owning the descriptor `uv_*_open`
took if any, or closed. -/
inductive HandleState
  | uninit
  | live (owned : Option Nat)
  | closed
deriving DecidableEq

def HandleState.owned : HandleState → List Nat
  | .live o => o.toList
  | _ => []

/-- A `listener_base` as its set-up and tear-down see it: `m_settings.fd` (`none` for -1), the
listening handle, whether `m_escape_hatch` is initialized and open, whether `m_loop_thread` runs
the loop; and the descriptors closed so far. -/
structure ListenerBase where
  fd : Option Nat
  handle : HandleState
  hatch : Bool
  running : Bool
  closedFds : List Nat

namespace ListenerBase

/-- `uv_close` of the listening handle; libuv closes the descriptor the handle owns. -/
def closeHandle (b : ListenerBase) : ListenerBase :=
  match b.handle with
  | .live owned => { b with handle := .closed, closedFds := b.closedFds ++ owned.toList }
  | _ => b

/-- The middle of `before_run`: bind the handle to the address when no descriptor was given,
else open it on the descriptor, which the handle then owns; the handle is closed on failure. -/
def bindOrOpen (calls : HandleCalls) (strerror : Int → String) (c : SetupCalls) (b : ListenerBase) :
    ListenerBase × Option String :=
  match b.fd with
  | none =>
    if c.bind < 0 then (b.closeHandle, some (calls.bind ++ " failed: " ++ strerror c.bind))
    else (b, none)
  | some fd =>
    if c.openFd < 0 then (b.closeHandle, some (calls.openFd ++ " failed: " ++ strerror c.openFd))
    else ({ b with handle := .live (some fd), fd := none }, none)

/-- `before_run` of a protocol, by the names of its libuv calls: the listener after it, and the
error it returns. -/
def beforeRun (calls : HandleCalls) (strerror : Int → String) (c : SetupCalls) (b : ListenerBase) :
    ListenerBase × Option String :=
  if c.handleInit < 0 then (b, some (calls.init ++ " failed: " ++ strerror c.handleInit))
  else
    match bindOrOpen calls strerror c { b with handle := .live none } with
    | (b, some err) => (b, some err)
    | (b, none) =>
      if c.start < 0 then (b.closeHandle, some (calls.start ++ " failed: " ++ strerror c.start))
      else (b, none)

/-- `listener_base::init` with the protocol's `before_run`; `proxy` is whether the proxy pointer
is set, `address` the settings' address. After a failed `before_run`, `init` closes the escape
hatch and runs the loop once, so that libuv closes the handles. -/
def init (beforeRun : ListenerBase → ListenerBase × Option String) (strerror : Int → String)
    (c : SetupCalls) (proxy : Bool) (address : String) : ListenerBase × Option String :=
  let b : ListenerBase := ⟨c.dup, .uninit, false, false, []⟩
  if proxy = false then (b, some "Proxy is not set")
  else if b.fd = none ∧ c.addressValid = false then (b, some ("Invalid address: " ++ address))
  else if c.loopNew = false then (b, some "Failed to create uv loop")
  else if c.asyncInit ≠ 0 then (b, some ("uv_async_init failed: " ++ strerror c.asyncInit))
  else
    match beforeRun { b with hatch := true } with
    | (b, some err) => ({ b with hatch := false }, some err)
    | (b, none) => ({ b with running := true }, none)

/-- Every descriptor the listener has had: closed, owned by the handle, or in `m_settings.fd`. -/
def descriptors (b : ListenerBase) : List Nat :=
  b.closedFds ++ b.handle.owned ++ b.fd.toList

end ListenerBase

/-- `listener_udp::before_run`. -/
def ListenerUdp.beforeRun (strerror : Int → String) (c : SetupCalls) :
    ListenerBase → ListenerBase × Option String :=
  ListenerBase.beforeRun ⟨"uv_udp_init", "uv_udp_bind", "uv_udp_open", "uv_udp_recv_start"⟩ strerror c

/-- `listener_tcp::before_run`. -/
def ListenerTcp.beforeRun (strerror : Int → String) (c : SetupCalls) :
    ListenerBase → ListenerBase × Option String :=
  ListenerBase.beforeRun ⟨"uv_tcp_init", "uv_tcp_bind", "uv_tcp_open", "uv_listen"⟩ strerror c

namespace ListenerBase

variable (b : ListenerBase)

@[simp]
theorem closeHandle_fd : b.closeHandle.fd = b.fd := by
  unfold closeHandle; split <;> rfl

/-- What a step of the set-up keeps: every descriptor, each in the same place or closed, the
hatch and the loop thread. -/
structure Keeps (b b' : ListenerBase) : Prop where
  descriptors : b'.descriptors = b.descriptors
  hatch : b'.hatch = b.hatch
  running : b'.running = b.running

theorem Keeps.refl : Keeps b b := ⟨rfl, rfl, rfl⟩

theorem Keeps.trans {b₁ b₂ b₃ : ListenerBase} (h₁ : Keeps b₁ b₂) (h₂ : Keeps b₂ b₃) : Keeps b₁ b₃ :=
  ⟨h₂.descriptors.trans h₁.descriptors, h₂.hatch.trans h₁.hatch, h₂.running.trans h₁.running⟩

end ListenerBase

end DnsProxy
