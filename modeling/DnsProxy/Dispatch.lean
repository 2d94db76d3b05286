import DnsProxy.Config
import Mathlib.Data.List.Sort

/-! # Upstream dispatch

`do_upstream_exchange` tries the primaries, then the fallbacks, each group sorted by `rtt()`, and
asks once more an upstream that failed with anything but a timeout. The network is an oracle.
-/

namespace DnsProxy

set_option autoImplicit false

/-- `upstream::exchange_result`. -/
structure ExchangeResult where
  packet : Option Pkt
  error : Option String

/-- What the environment gives one call: the `rtt()` of each upstream, the outcome and the
duration of the n-th exchange of the dispatcher, the outcome of the A query of DNS64
synthesis, and the id `ldns_pkt_set_random_id` draws for that query. -/
structure Network where
  rtt : Upstream → Nat
  exchange : Nat → ExchangeResult
  elapsed : Nat → Nat
  dns64Exchange : ExchangeResult
  randomId : UInt16

/-- A call on an upstream: an exchange of a request, or `adjust_rtt` with the elapsed time. -/
inductive UpstreamCall
  | exchange (u : Upstream) (request : Pkt)
  | adjustRtt (u : Upstream) (ms : Nat)

/-- `upstream_exchange_result`, with the calls the dispatcher made on upstreams. -/
structure ExchangeOutcome where
  response : Option Pkt
  error : Option String
  upstream : Option Upstream
  calls : List UpstreamCall

/-- The loop variables of `do_upstream_exchange`: the index of the next exchange, `err_str`,
`cur_upstream`, and the calls so far. -/
structure Dispatch where
  next : Nat
  errStr : String
  cur : Option Upstream
  calls : List UpstreamCall

section Exchange

variable (x : Externals) (net : Network) (request : Pkt)

/-- The snapshot of a group sorted by `rtt()`. `std::sort` leaves the order of upstreams with
equal `rtt()` open; the model keeps their order in the group. -/
def sortByRtt (group : List Upstream) : List Upstream :=
  group.insertionSort fun a b => net.rtt a ≤ net.rtt b

theorem sortByRtt_perm (group : List Upstream) : (sortByRtt net group).Perm group :=
  List.perm_insertionSort _ _

theorem sortByRtt_sorted (group : List Upstream) :
    (sortByRtt net group).Sorted fun a b => net.rtt a ≤ net.rtt b :=
  haveI : IsTotal Upstream fun a b => net.rtt a ≤ net.rtt b := ⟨fun _ _ => le_total _ _⟩
  haveI : IsTrans Upstream fun a b => net.rtt a ≤ net.rtt b := ⟨fun _ _ _ => le_trans⟩
  List.sorted_insertionSort _ _

/-- The inner loop of `do_upstream_exchange` over a sorted group: `.inl` is the early return
of a successful exchange, `.inr` the loop variables after the whole group. -/
def tryUpstreams : List Upstream → Dispatch → ExchangeOutcome ⊕ Dispatch
  | [], st => .inr st
  | u :: us, st =>
    let result := net.exchange st.next
    let calls := st.calls ++ [.exchange u request, .adjustRtt u (net.elapsed st.next)]
    match result.error with
    | none => .inl ⟨result.packet, none, some u, calls⟩
    | some err =>
      if err ≠ x.timeoutStr then
        let retry := net.exchange (st.next + 1)
        let calls := calls ++ [.exchange u request]
        match retry.error with
        | none => .inl ⟨retry.packet, none, some u, calls⟩
        | some err₂ =>
          tryUpstreams us ⟨st.next + 2, "Upstream (" ++ u.address ++ ") exchange failed: first reason is " ++
            err ++ ", second is: " ++ err₂, some u, calls⟩
      else tryUpstreams us ⟨st.next + 1, st.errStr, some u, calls⟩

/-- `do_upstream_exchange`. -/
def doUpstreamExchange (fw : Forwarder) : ExchangeOutcome :=
  match tryUpstreams x net request (sortByRtt net fw.upstreams) ⟨0, "", none, []⟩ with
  | .inl out => out
  | .inr st =>
    match tryUpstreams x net request (sortByRtt net fw.fallbacks) st with
    | .inl out => out
    | .inr st => ⟨none, some st.errStr, st.cur, st.calls⟩

/-! ### The dispatch order -/

/-- The upstream an `adjust_rtt` call is made on. -/
def UpstreamCall.rttAdjusted : UpstreamCall → Option Upstream
  | .adjustRtt u _ => some u
  | .exchange _ _ => none

/-- The dispatch as the spec describes it, over the upstreams in the order they are tried: each
gets one exchange and one `adjust_rtt`, and one more exchange right after a first one that failed
with an error other than `TIMEOUT_STR`; the first exchange without error ends the call with its
packet and upstream. `n` counts the exchanges made before. -/
def dispatchSpec : List Upstream → Nat → List UpstreamCall × Option (Option Pkt × Upstream)
  | [], _ => ([], none)
  | u :: us, n =>
    let tried := [UpstreamCall.exchange u request, .adjustRtt u (net.elapsed n)]
    match (net.exchange n).error with
    | none => (tried, some ((net.exchange n).packet, u))
    | some e =>
      if e = x.timeoutStr then
        let rest := dispatchSpec us (n + 1)
        (tried ++ rest.1, rest.2)
      else if (net.exchange (n + 1)).error = none then
        (tried ++ [.exchange u request], some ((net.exchange (n + 1)).packet, u))
      else
        let rest := dispatchSpec us (n + 2)
        (tried ++ [.exchange u request] ++ rest.1, rest.2)

theorem dispatchSpec_rttAdjusted : ∀ (order : List Upstream) (n : Nat),
    (dispatchSpec x net request order n).2 = none →
      (dispatchSpec x net request order n).1.filterMap UpstreamCall.rttAdjusted = order
  | [], _, _ => rfl
  | u :: us, n, h => by
    simp only [dispatchSpec] at h ⊢
    split at h
    · cases h
    · split_ifs at h ⊢ <;> simp only at h <;>
        simp [UpstreamCall.rttAdjusted, dispatchSpec_rttAdjusted us _ h]

/-- A continuation of the dispatch loop that behaves, from every loop state, as the spec's
dispatch over `order`: the calls it adds, and its result. -/
def DispatchesAs (order : List Upstream) (f : Dispatch → ExchangeOutcome) : Prop :=
  ∀ st : Dispatch, (f st).calls = st.calls ++ (dispatchSpec x net request order st.next).1 ∧
    match (dispatchSpec x net request order st.next).2 with
    | some (packet, u) => (f st).response = packet ∧ (f st).error = none ∧ (f st).upstream = some u
    | none => (f st).response = none ∧ (f st).upstream = order.getLast?.or st.cur

theorem getLast?_or_some (u : Upstream) (l : List Upstream) (o : Option Upstream) :
    l.getLast?.or (some u) = (u :: l).getLast?.or o := by
  cases h : l.getLast? <;> simp [List.getLast?_cons, h]

theorem dispatchesAs_nil :
    DispatchesAs x net request [] fun st => ⟨none, some st.errStr, st.cur, st.calls⟩ :=
  fun _ => ⟨(List.append_nil _).symm, rfl, rfl⟩

theorem dispatchesAs_continue {order : List Upstream} {f : Dispatch → ExchangeOutcome}
    (hf : DispatchesAs x net request order f) (u : Upstream) (st : Dispatch) (next : Nat)
    (errStr : String) {calls pre : List UpstreamCall} (hCalls : calls = st.calls ++ pre) :
    (f ⟨next, errStr, some u, calls⟩).calls = st.calls ++ (pre ++ (dispatchSpec x net request order next).1) ∧
    match (dispatchSpec x net request order next).2 with
    | some (packet, w) => (f ⟨next, errStr, some u, calls⟩).response = packet ∧
        (f ⟨next, errStr, some u, calls⟩).error = none ∧ (f ⟨next, errStr, some u, calls⟩).upstream = some w
    | none => (f ⟨next, errStr, some u, calls⟩).response = none ∧
        (f ⟨next, errStr, some u, calls⟩).upstream = (u :: order).getLast?.or st.cur := by
  obtain ⟨hCallsF, hResult⟩ := hf ⟨next, errStr, some u, calls⟩
  refine ⟨by rw [hCallsF, hCalls, List.append_assoc], ?_⟩
  split at hResult <;> rename_i hSpec <;> rw [hSpec]
  · exact hResult
  · rwa [getLast?_or_some u _ st.cur] at hResult

theorem dispatchesAs_tryUpstreams {vs : List Upstream} {rest : Dispatch → ExchangeOutcome}
    (hRest : DispatchesAs x net request vs rest) : ∀ us : List Upstream,
    DispatchesAs x net request (us ++ vs) fun st =>
      match tryUpstreams x net request us st with
      | .inl out => out
      | .inr st' => rest st'
  | [] => hRest
  | u :: us => by
    have ih := dispatchesAs_tryUpstreams hRest us
    rw [List.cons_append]
    intro st
    rcases hFirst : (net.exchange st.next).error with _ | e
    · simp only [tryUpstreams, dispatchSpec, hFirst]
      exact ⟨trivial, trivial, trivial, trivial⟩
    · -- the upstream failed: the loop goes on with the next one, after a retry unless it timed out
      by_cases hTimeout : e = x.timeoutStr
      · simp only [tryUpstreams, dispatchSpec, hFirst, hTimeout, ne_eq, not_true_eq_false, if_false,
          if_true]
        exact dispatchesAs_continue x net request ih u st _ _ rfl
      · rcases hRetry : (net.exchange (st.next + 1)).error with _ | err₂
        · simp [tryUpstreams, dispatchSpec, hFirst, hTimeout, hRetry]
        · simp only [tryUpstreams, dispatchSpec, hFirst, hTimeout, hRetry, ne_eq, not_false_eq_true,
            if_false, if_true, reduceCtorEq]
          exact dispatchesAs_continue x net request ih u st _ _ (List.append_assoc _ _ _)

/-- `do_upstream_exchange` dispatches as the spec says over the primaries sorted by `rtt()` and
then the fallbacks sorted by `rtt()`: the calls on upstreams are the spec's, the first successful
exchange gives the packet, no error and its upstream, and when none succeeds there is no packet,
the upstream is the last of the order, and `adjust_rtt` was called on each upstream in order. -/
theorem doUpstreamExchange_dispatch (fw : Forwarder) :
    (sortByRtt net fw.upstreams).Perm fw.upstreams ∧
    (sortByRtt net fw.upstreams).Sorted (fun a b => net.rtt a ≤ net.rtt b) ∧
    (sortByRtt net fw.fallbacks).Perm fw.fallbacks ∧
    (sortByRtt net fw.fallbacks).Sorted (fun a b => net.rtt a ≤ net.rtt b) ∧
    let order := sortByRtt net fw.upstreams ++ sortByRtt net fw.fallbacks
    let out := doUpstreamExchange x net request fw
    out.calls = (dispatchSpec x net request order 0).1 ∧
    match (dispatchSpec x net request order 0).2 with
    | some (packet, u) => out.response = packet ∧ out.error = none ∧ out.upstream = some u
    | none => out.response = none ∧ out.upstream = order.getLast? ∧
        (dispatchSpec x net request order 0).1.filterMap UpstreamCall.rttAdjusted = order := by
  refine ⟨sortByRtt_perm net _, sortByRtt_sorted net _, sortByRtt_perm net _,
    sortByRtt_sorted net _, ?_⟩
  have hGroups := dispatchesAs_tryUpstreams x net request
    (dispatchesAs_tryUpstreams x net request (dispatchesAs_nil x net request)
      (sortByRtt net fw.fallbacks)) (sortByRtt net fw.upstreams) ⟨0, "", none, []⟩
  rw [List.append_nil] at hGroups
  obtain ⟨hCalls, hResult⟩ := hGroups
  refine ⟨hCalls, ?_⟩
  split at hResult <;> rename_i hSpec <;> rw [hSpec]
  · exact hResult
  · exact ⟨hResult.1, by simpa using hResult.2, dispatchSpec_rttAdjusted x net request _ 0 hSpec⟩

/-! ### The error of a failed dispatch -/

/-- The failure text the spec's dispatch over the order ends with when no exchange succeeds:
that of the last upstream whose exchange and retry both failed, if there is one. -/
def dispatchFailure : List Upstream → Nat → Option String
  | [], _ => none
  | u :: us, n =>
    match (net.exchange n).error with
    | none => none
    | some e =>
      if e = x.timeoutStr then dispatchFailure us (n + 1)
      else match (net.exchange (n + 1)).error with
        | none => none
        | some e₂ => (dispatchFailure us (n + 2)).or
            (some ("Upstream (" ++ u.address ++ ") exchange failed: first reason is " ++ e ++
              ", second is: " ++ e₂))

/-- A continuation of the dispatch loop whose error, from every loop state from which the spec's
dispatch over `order` succeeds nowhere, is the last double failure, or `err_str` as it stands. -/
def ReportsFailure (order : List Upstream) (f : Dispatch → ExchangeOutcome) : Prop :=
  ∀ st : Dispatch, (dispatchSpec x net request order st.next).2 = none →
    (f st).error = some ((dispatchFailure x net order st.next).getD st.errStr)

theorem reportsFailure_nil :
    ReportsFailure x net request [] fun st => ⟨none, some st.errStr, st.cur, st.calls⟩ :=
  fun _ _ => rfl

theorem reportsFailure_tryUpstreams {vs : List Upstream} {rest : Dispatch → ExchangeOutcome}
    (hRest : ReportsFailure x net request vs rest) : ∀ us : List Upstream,
    ReportsFailure x net request (us ++ vs) fun st =>
      match tryUpstreams x net request us st with
      | .inl out => out
      | .inr st' => rest st'
  | [] => hRest
  | u :: us => by
    have ih := reportsFailure_tryUpstreams hRest us
    rw [List.cons_append]
    intro st hNone
    rcases hFirst : (net.exchange st.next).error with _ | e
    · simp [dispatchSpec, hFirst] at hNone
    · by_cases hTimeout : e = x.timeoutStr
      · simp only [dispatchSpec, hFirst, hTimeout, if_true] at hNone
        simp only [tryUpstreams, dispatchFailure, hFirst, hTimeout, ne_eq, not_true_eq_false,
          if_false, if_true]
        exact ih _ hNone
      · rcases hRetry : (net.exchange (st.next + 1)).error with _ | e₂
        · simp [dispatchSpec, hFirst, hTimeout, hRetry] at hNone
        · simp only [dispatchSpec, hFirst, hTimeout, hRetry, if_false, reduceCtorEq] at hNone
          simp only [tryUpstreams, dispatchFailure, hFirst, hTimeout, hRetry, ne_eq,
            not_false_eq_true, if_true, if_false]
          rw [ih _ hNone]
          cases dispatchFailure x net (us ++ vs) (st.next + 2) <;> rfl

end Exchange

def answering (response : Pkt) : Network :=
  { rtt := fun _ => 0, exchange := fun _ => ⟨some response, none⟩, elapsed := fun _ => 0,
    dns64Exchange := ⟨some response, none⟩, randomId := 0 }

def failing : Network :=
  { rtt := fun _ => 0, exchange := fun _ => ⟨none, some "connection refused"⟩,
    elapsed := fun _ => 0, dns64Exchange := ⟨none, some "connection refused"⟩, randomId := 0 }

def secondUpstream : Upstream := ⟨"2.2.2.2", 2⟩

def pairForwarder : Forwarder :=
  { settings := sampleSettings, upstreams := [sampleUpstream, secondUpstream], fallbacks := [],
    has_upstream := .inl (by simp), onRequestProcessed := true }

def timingOut : Network := { failing with exchange := fun _ => ⟨none, some "timeout"⟩ }

def refusedThenTimingOut : Network :=
  { failing with
    exchange := fun n => if n < 2 then ⟨none, some "connection refused"⟩ else ⟨none, some "timeout"⟩ }

/-- When no exchange succeeds, `do_upstream_exchange` reports the failure text of the last upstream,
primaries then fallbacks, whose exchange and retry both failed, and an empty text when there is
none. -/
theorem doUpstreamExchange_error (x : Externals) (net : Network) (request : Pkt) (fw : Forwarder)
    (hNone : (dispatchSpec x net request (sortByRtt net fw.upstreams ++ sortByRtt net fw.fallbacks) 0).2 = none) :
    (doUpstreamExchange x net request fw).error =
      some ((dispatchFailure x net (sortByRtt net fw.upstreams ++ sortByRtt net fw.fallbacks) 0).getD "") := by
  have hGroups := reportsFailure_tryUpstreams x net request
    (reportsFailure_tryUpstreams x net request (reportsFailure_nil x net request)
      (sortByRtt net fw.fallbacks)) (sortByRtt net fw.upstreams)
  rw [List.append_nil] at hGroups
  exact hGroups ⟨0, "", none, []⟩ hNone

/-- The first upstream is refused twice and the second times out: the error is the first one's. -/
theorem doUpstreamExchange_error_refused_then_timeout :
    (dispatchSpec sampleExternals refusedThenTimingOut (sampleQuery goodName RRType.a)
        (sortByRtt refusedThenTimingOut pairForwarder.upstreams ++
          sortByRtt refusedThenTimingOut pairForwarder.fallbacks) 0).2 = none ∧
      (doUpstreamExchange sampleExternals refusedThenTimingOut (sampleQuery goodName RRType.a)
        pairForwarder).error = some
          "Upstream (1.1.1.1) exchange failed: first reason is connection refused, second is: connection refused" :=
  ⟨rfl, (doUpstreamExchange_error sampleExternals refusedThenTimingOut _ pairForwarder rfl).trans rfl⟩

end DnsProxy
