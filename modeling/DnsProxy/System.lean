import DnsProxy.Pipeline

/-! # The forwarder over whole runs

The cache, the registry `async_reqs` and libuv's works, shared by `handle_message`,
`async_request_worker`, `async_request_finalizer` and `deinit`. Each call is one step, and any
interleaving of steps is a run.
-/

namespace DnsProxy

set_option autoImplicit false

/-- Where the `uv_work_t` of a refresh task is: queued, run by the pool, finished by the worker
(its completion callback pending), or cancelled by `uv_cancel` (its completion callback pending
with `UV_ECANCELED`). -/
inductive WorkStatus
  | queued
  | running
  | done
  | cancelled
deriving DecidableEq

/-- A work libuv holds for a refresh task: the serial the model gives it, and the task's key
and request. -/
structure Work where
  serial : Nat
  key : String
  request : Pkt
  status : WorkStatus
deriving DecidableEq

/-- How far `deinit` got: not called, waiting for `async_reqs` to empty, returned. -/
inductive Teardown
  | serving
  | draining
  | finished
deriving DecidableEq

/-- The shared state: the steady clock, the cache, `async_reqs` (each key with the serial of its
task's work), the works whose completion callback has not run, and the next serial. -/
structure Sys where
  now : Int
  cache : Lru CachedResponse
  asyncReqs : List (String × Nat)
  works : List Work
  nextSerial : Nat
  teardown : Teardown

/-- One step of a run: a client's `handle_message`, the steady clock advancing, the pool starting
or finishing the work of a serial, the loop thread running its completion callback, and the two
halves of `deinit`. -/
inductive Action
  | handle (message : List UInt8) (net : Network) (wallClock : Nat)
  | advance (ticks : Nat)
  | startWork (serial : Nat)
  | finishWork (serial : Nat) (net : Network)
  | complete (serial : Nat)
  | deinitCancel
  | deinitReturn

namespace Sys

/-- The forwarder after `init`: an empty cache of capacity `dns_cache_size`, no task. -/
def init (fw : Forwarder) : Sys :=
  ⟨0, Lru.empty fw.settings.dnsCacheSize, [], [], 0, .serving⟩

def work? (s : Sys) (serial : Nat) : Option Work := s.works.find? (·.serial = serial)

def setStatus (s : Sys) (serial : Nat) (status : WorkStatus) : List Work :=
  s.works.map fun w => if w.serial = serial then { w with status } else w

/-- `async_reqs.emplace` and `uv_queue_work` of a new refresh task. -/
def queueRefresh (s : Sys) (key : String) (request : Pkt) : Sys :=
  { s with
    asyncReqs := s.asyncReqs ++ [(key, s.nextSerial)]
    works := s.works ++ [⟨s.nextSerial, key, request, .queued⟩]
    nextSerial := s.nextSerial + 1 }

/-- The loop of `deinit` over `async_reqs`: `uv_cancel` succeeds on a work not yet started, and
then the entry is erased; an entry whose work started stays. -/
def cancelQueued (s : Sys) : Sys :=
  let queued := (s.works.filter (·.status = .queued)).map (·.serial)
  { s with
    asyncReqs := s.asyncReqs.filter (·.2 ∉ queued)
    works := s.works.map fun w =>
      if w.status = .queued ∧ w.serial ∈ s.asyncReqs.map Prod.snd then { w with status := .cancelled }
      else w
    teardown := .draining }

end Sys

section Step

variable (x : Externals) (fw : Forwarder) (prefixes : List (List UInt8))

/-- `async_request_worker`: the task's exchange, then an insert of the fresh response, or the
erase of the key when every upstream failed. -/
def asyncRequestWorker (net : Network) (now : Int) (cache : Lru CachedResponse) (w : Work) :
    Lru CachedResponse :=
  let out := doUpstreamExchange x net w.request fw
  match out.response with
  | none => cache.erase w.key
  | some res => putResponseIntoCache fw.settings now cache w.key res (out.upstream.map (·.id))

/-- One step; `none` when the action cannot happen in the state. -/
def step (s : Sys) : Action → Option Sys
  | .handle message net wallClock =>
    if s.teardown = .serving then
      let h := handleMessage x fw prefixes s.now wallClock net s.cache (s.asyncReqs.map Prod.fst) message
      let s := { s with cache := h.cache }
      some (match h.refresh with
        | some (key, request) => s.queueRefresh key request
        | none => s)
    else none
  | .advance ticks => some { s with now := s.now + ticks }
  | .startWork serial =>
    match s.work? serial with
    | some w => if w.status = .queued then some { s with works := s.setStatus serial .running } else none
    | none => none
  | .finishWork serial net =>
    match s.work? serial with
    | some w =>
      if w.status = .running then
        some { s with cache := asyncRequestWorker x fw net s.now s.cache w, works := s.setStatus serial .done }
      else none
    | none => none
  | .complete serial =>
    match s.work? serial with
    | some w =>
      if w.status = .done ∨ w.status = .cancelled then
        some { s with
          asyncReqs := s.asyncReqs.filter (·.1 ≠ w.key)
          works := s.works.filter (·.serial ≠ serial) }
      else none
    | none => none
  | .deinitCancel => if s.teardown = .serving then some s.cancelQueued else none
  | .deinitReturn =>
    if s.teardown = .draining ∧ s.asyncReqs = [] then
      some { s with cache := s.cache.clear, teardown := .finished }
    else none

inductive Reachable : Sys → Prop
  | init : Reachable (Sys.init fw)
  | step {s s' : Sys} {a : Action} : Reachable s → step x fw prefixes s a = some s' → Reachable s'

def run : Sys → List Action → Option Sys
  | s, [] => some s
  | s, a :: rest => (step x fw prefixes s a).bind (run · rest)

theorem run_reachable : ∀ {s s' : Sys} {actions : List Action},
    Reachable x fw prefixes s → run x fw prefixes s actions = some s' → Reachable x fw prefixes s'
  | _, _, [], hs, h => by cases h; exact hs
  | s, _, a :: rest, hs, h => by
    simp only [run] at h
    cases hStep : step x fw prefixes s a with
    | none => simp [hStep] at h
    | some s₁ =>
      simp only [hStep, Option.bind_some] at h
      exact run_reachable (.step hs hStep) h

theorem reach_of_run (actions : List Action) {P : Sys → Prop} [DecidablePred P]
    (h : (run x fw prefixes (Sys.init fw) actions).map (fun s => decide (P s)) = some true) :
    ∃ s, Reachable x fw prefixes s ∧ P s := by
  cases hRun : run x fw prefixes (Sys.init fw) actions with
  | none => simp [hRun] at h
  | some s =>
    simp only [hRun, Option.map_some', Option.some.injEq, decide_eq_true_eq] at h
    exact ⟨s, run_reachable x fw prefixes .init hRun, h⟩

theorem reachable_run_getD (actions : List Action) (h : (run x fw prefixes (Sys.init fw) actions).isSome) :
    Reachable x fw prefixes ((run x fw prefixes (Sys.init fw) actions).getD (Sys.init fw)) := by
  cases hRun : run x fw prefixes (Sys.init fw) actions with
  | none => simp [hRun] at h
  | some s => exact run_reachable x fw prefixes .init hRun

theorem step_cases {s s' : Sys} {a : Action} (h : step x fw prefixes s a = some s') :
    (∃ message net wallClock, a = .handle message net wallClock ∧ s.teardown = .serving ∧
      let hd := handleMessage x fw prefixes s.now wallClock net s.cache (s.asyncReqs.map Prod.fst) message
      (hd.refresh = none ∧ s' = { s with cache := hd.cache }) ∨
        ∃ key request, hd.refresh = some (key, request) ∧
          s' = ({ s with cache := hd.cache } : Sys).queueRefresh key request) ∨
    (∃ ticks, a = .advance ticks ∧ s' = { s with now := s.now + ticks }) ∨
    (∃ serial w, a = .startWork serial ∧ s.work? serial = some w ∧ w.status = .queued ∧
      s' = { s with works := s.setStatus serial .running }) ∨
    (∃ serial net w, a = .finishWork serial net ∧ s.work? serial = some w ∧ w.status = .running ∧
      s' = { s with cache := asyncRequestWorker x fw net s.now s.cache w, works := s.setStatus serial .done }) ∨
    (∃ serial w, a = .complete serial ∧ s.work? serial = some w ∧
      (w.status = .done ∨ w.status = .cancelled) ∧
      s' = { s with
        asyncReqs := s.asyncReqs.filter (·.1 ≠ w.key)
        works := s.works.filter (·.serial ≠ serial) }) ∨
    (a = .deinitCancel ∧ s.teardown = .serving ∧ s' = s.cancelQueued) ∨
    (a = .deinitReturn ∧ s.teardown = .draining ∧ s.asyncReqs = [] ∧
      s' = { s with cache := s.cache.clear, teardown := .finished }) := by
  cases a with
  | handle message net wallClock =>
    simp only [step] at h
    split_ifs at h with hServing
    refine .inl ⟨message, net, wallClock, rfl, hServing, ?_⟩
    cases h
    dsimp only
    generalize (handleMessage x fw prefixes s.now wallClock net s.cache
      (s.asyncReqs.map Prod.fst) message).refresh = refresh
    rcases refresh with _ | ⟨key, request⟩
    · exact .inl ⟨rfl, rfl⟩
    · exact .inr ⟨key, request, rfl, rfl⟩
  | advance ticks => exact .inr (.inl ⟨ticks, rfl, (Option.some.inj h).symm⟩)
  | startWork serial =>
    simp only [step] at h
    split at h
    · next w hw =>
      split_ifs at h with hQueued
      exact .inr (.inr (.inl ⟨serial, w, rfl, hw, hQueued, (Option.some.inj h).symm⟩))
    · cases h
  | finishWork serial net =>
    simp only [step] at h
    split at h
    · next w hw =>
      split_ifs at h with hRunning
      exact .inr (.inr (.inr (.inl ⟨serial, net, w, rfl, hw, hRunning, (Option.some.inj h).symm⟩)))
    · cases h
  | complete serial =>
    simp only [step] at h
    split at h
    · next w hw =>
      split_ifs at h with hStatus
      exact .inr (.inr (.inr (.inr (.inl ⟨serial, w, rfl, hw, hStatus, (Option.some.inj h).symm⟩))))
    · cases h
  | deinitCancel =>
    simp only [step] at h
    split_ifs at h with hServing
    exact .inr (.inr (.inr (.inr (.inr (.inl ⟨rfl, hServing, (Option.some.inj h).symm⟩)))))
  | deinitReturn =>
    simp only [step] at h
    split_ifs at h with hReturn
    exact .inr (.inr (.inr (.inr (.inr (.inr ⟨rfl, hReturn.1, hReturn.2, (Option.some.inj h).symm⟩)))))

end Step

/-! ## What one step does to the cache -/

section StepCache

variable (x : Externals) (fw : Forwarder) (prefixes : List (List UInt8))

theorem Sys.mem_of_work? {s : Sys} {serial : Nat} {w : Work} (h : s.work? serial = some w) :
    w ∈ s.works :=
  List.mem_of_find?_eq_some h

theorem mem_asyncRequestWorker {net : Network} {now : Int} {cache : Lru CachedResponse} {w : Work}
    {e : String × CachedResponse} (he : e ∈ (asyncRequestWorker x fw net now cache w).entries) :
    e ∈ cache.entries ∨ e.1 = w.key ∧
      ∃ response upstreamId, cachedResponseFor fw.settings now response upstreamId = some e.2 := by
  dsimp only [asyncRequestWorker] at he
  split at he
  · exact .inl (Lru.erase_subset _ _ he)
  · rcases mem_putResponseIntoCache he with he | ⟨hKey, hEntry⟩
    · exact .inl he
    · exact .inr ⟨hKey, _, _, hEntry⟩

/-- The key of a parsed request that `handle_message` does not answer itself. -/
def StoredKey (key : String) : Prop :=
  ∃ message request question qs, x.wire2pkt message = .ok request ∧ request.question = question :: qs ∧
    ¬Answered fw question ∧ key = getCacheKey request

theorem step_cache {s s' : Sys} {a : Action} (h : step x fw prefixes s a = some s') :
    s.now ≤ s'.now ∧ ∀ e ∈ s'.cache.entries, e ∈ s.cache.entries ∨
      (StoredKey x fw e.1 ∨ ∃ w ∈ s.works, e.1 = w.key) ∧
        ∃ response upstreamId, cachedResponseFor fw.settings s.now response upstreamId = some e.2 := by
  rcases step_cases x fw prefixes h with ⟨message, net, wallClock, -, -, hs'⟩ | ⟨ticks, -, rfl⟩ |
    ⟨serial, w, -, -, -, rfl⟩ | ⟨serial, net, w, -, hw, -, rfl⟩ | ⟨serial, w, -, -, -, rfl⟩ |
    ⟨-, -, rfl⟩ | ⟨-, -, -, rfl⟩
  · have hNow : s'.now = s.now ∧ s'.cache = (handleMessage x fw prefixes s.now wallClock net s.cache
        (s.asyncReqs.map Prod.fst) message).cache := by
      rcases hs' with ⟨-, rfl⟩ | ⟨_, _, -, rfl⟩ <;> exact ⟨rfl, rfl⟩
    refine ⟨hNow.1.ge, fun e he => ?_⟩
    rw [hNow.2] at he
    rcases mem_handleMessage_cache x fw prefixes s.now wallClock net he with
      he | ⟨request, question, qs, response, upstreamId, hParse, hq, hAnswered, hKey, hEntry⟩
    · exact .inl he
    · exact .inr ⟨.inl ⟨message, request, question, qs, hParse, hq, hAnswered, hKey⟩, _, _, hEntry⟩
  · exact ⟨by simp, fun e he => .inl he⟩
  · exact ⟨le_rfl, fun e he => .inl he⟩
  · refine ⟨le_rfl, fun e he => ?_⟩
    rcases mem_asyncRequestWorker x fw he with he | ⟨hKey, hEntry⟩
    · exact .inl he
    · exact .inr ⟨.inr ⟨w, Sys.mem_of_work? hw, hKey⟩, hEntry⟩
  · exact ⟨le_rfl, fun e he => .inl he⟩
  · exact ⟨le_rfl, fun e he => .inl he⟩
  · exact ⟨le_rfl, fun e he => .inl (Lru.clear_subset _ he)⟩

theorem Sys.key_of_mem_setStatus {s : Sys} {serial : Nat} {status : WorkStatus} {w : Work}
    (hw : w ∈ s.setStatus serial status) : ∃ w₀ ∈ s.works, w.key = w₀.key := by
  obtain ⟨w₀, hw₀, rfl⟩ := List.mem_map.mp hw
  exact ⟨w₀, hw₀, by split_ifs <;> rfl⟩

theorem step_works {s s' : Sys} {a : Action} (h : step x fw prefixes s a = some s') :
    ∀ w ∈ s'.works, (∃ w₀ ∈ s.works, w.key = w₀.key) ∨ ∃ e ∈ s.cache.entries, w.key = e.1 := by
  intro w hw
  rcases step_cases x fw prefixes h with
    ⟨message, net, wallClock, -, -, ⟨-, rfl⟩ | ⟨key, request, hRefresh, rfl⟩⟩ | ⟨ticks, -, rfl⟩ |
    ⟨serial, w', -, -, -, rfl⟩ | ⟨serial, net, w', -, -, -, rfl⟩ | ⟨serial, w', -, -, -, rfl⟩ |
    ⟨-, -, rfl⟩ | ⟨-, -, -, rfl⟩
  · exact .inl ⟨w, hw, rfl⟩
  · rcases List.mem_append.mp hw with hw | hw
    · exact .inl ⟨w, hw, rfl⟩
    · obtain ⟨-, -, -, entry, hFind⟩ := handleMessage_refresh x fw prefixes s.now wallClock net hRefresh
      rw [List.mem_singleton.mp hw]
      exact .inr ⟨_, Lru.mem_of_find? hFind, rfl⟩
  · exact .inl ⟨w, hw, rfl⟩
  · exact .inl (Sys.key_of_mem_setStatus hw)
  · exact .inl (Sys.key_of_mem_setStatus hw)
  · exact .inl ⟨w, List.mem_of_mem_filter hw, rfl⟩
  · obtain ⟨w₀, hw₀, rfl⟩ := List.mem_map.mp hw
    exact .inl ⟨w₀, hw₀, by split_ifs <;> rfl⟩
  · exact .inl ⟨w, hw, rfl⟩

end StepCache

/-! ## Whole-run invariants of the cache -/

section CacheInvariants

variable (x : Externals) (fw : Forwarder) (prefixes : List (List UInt8))

theorem reachable_cache_valid {s : Sys} (hs : Reachable x fw prefixes s) :
    s.cache.All fun _ entry => entry.Valid s.now := by
  induction hs with
  | init => intro e he; cases he
  | step _ hStep ih =>
    obtain ⟨hNow, hMem⟩ := step_cache x fw prefixes hStep
    intro e he
    rcases hMem e he with he | ⟨-, _, _, hEntry⟩
    · exact (ih e he).mono hNow
    · exact (cachedResponseFor_valid hEntry).mono hNow

theorem reachable_storedKey {s : Sys} (hs : Reachable x fw prefixes s) :
    (∀ e ∈ s.cache.entries, StoredKey x fw e.1) ∧ ∀ w ∈ s.works, StoredKey x fw w.key := by
  induction hs with
  | init => exact ⟨fun e he => (nomatch he), fun w hw => (nomatch hw)⟩
  | step _ hStep ih =>
    refine ⟨fun e he => ?_, fun w hw => ?_⟩
    · rcases (step_cache x fw prefixes hStep).2 e he with he | ⟨hFrom | ⟨w, hw, hKey⟩, -⟩
      · exact ih.1 e he
      · exact hFrom
      · exact hKey ▸ ih.2 w hw
    · rcases step_works x fw prefixes hStep w hw with ⟨w₀, hw₀, hKey⟩ | ⟨e, he, hKey⟩
      · exact hKey ▸ ih.2 w₀ hw₀
      · exact hKey ▸ ih.1 e he

theorem StoredKey.not_aaaa (hBlock : fw.settings.blockIpv6 = true) {key : String}
    (h : StoredKey x fw key) {request : Pkt} {question : RR} {qs : List RR}
    (hq : request.question = question :: qs) (hType : question.type = RRType.aaaa) :
    getCacheKey request ≠ key := by
  obtain ⟨_, request', question', qs', -, hq', hAnswered, rfl⟩ := h
  intro hKey
  exact hAnswered (.inr ⟨hBlock, (getCacheKey_inj hq hq' hKey).1 ▸ hType⟩)

/-- The cache holds only what `put_response_into_cache` admits. In every reachable state every
entry is valid; and a call either leaves the cache as it was, or passed every check and inserted
the response without its question and AA bit, expiring after its least TTL. -/
theorem cache_entries_checked :
    (∀ s, Reachable x fw prefixes s → s.cache.All fun _ entry => entry.Valid s.now) ∧
    ∀ (settings : Settings) (now : Int) (cache : Lru CachedResponse) (key : String) (response : Pkt)
      (upstreamId : Option Int),
      putResponseIntoCache settings now cache key response upstreamId = cache ∨
      settings.dnsCacheSize ≠ 0 ∧ response.tc = false ∧ response.qdcount = 1 ∧
        response.rcode = Rcode.noerror ∧ hasUnsupportedExtensions response = false ∧
        ((response.firstQuestion.type = RRType.a ∨ response.firstQuestion.type = RRType.aaaa) →
          response.answer.any fun rr => rr.type = response.firstQuestion.type) ∧
        0 < computeMinRrTtl response ∧
        putResponseIntoCache settings now cache key response upstreamId =
          cache.insert key ⟨{ response with question := [], aa := false },
            now + computeMinRrTtl response * ticksPerSecond, upstreamId⟩ := by
  refine ⟨fun s hs => reachable_cache_valid x fw prefixes hs,
    fun settings now cache key response upstreamId => ?_⟩
  cases hEntry : cachedResponseFor settings now response upstreamId with
  | none => exact .inl (by simp [putResponseIntoCache, hEntry])
  | some entry =>
    obtain ⟨h₁, h₂, h₃, h₄, h₅, h₆, h₇, rfl⟩ := cachedResponseFor_spec hEntry
    exact .inr ⟨h₁, h₂, h₃, h₄, h₅, h₆, h₇, by simp [putResponseIntoCache, hEntry]⟩

end CacheInvariants

/-! ## Queries the forwarder answers itself -/

section Answered

variable (x : Externals) (fw : Forwarder) (prefixes : List (List UInt8))

theorem find?_eq_none_of_key {s : Sys} {key : String} (hKeys : ∀ e ∈ s.cache.entries, e.1 ≠ key) :
    s.cache.find? key = none := by
  cases hFind : s.cache.find? key with
  | none => rfl
  | some entry => exact absurd rfl (hKeys _ (Lru.mem_of_find? hFind))

/-- With `block_ipv6`, in every reachable state an AAAA query makes no exchange, directly or
through a refresh. It gets the canary's NXDOMAIN, the SOA answer with RETRY 60, or a blocking
response of the pre-filter whose rcode is not NOERROR and which has no answer, or it raises what
`create_blocking_response` raises. -/
theorem handleMessage_aaaa_blocked (hBlock : fw.settings.blockIpv6 = true) {s : Sys}
    (hs : Reachable x fw prefixes s) {message : List UInt8} {request : Pkt} {question : RR}
    {qs : List RR} (hParse : x.wire2pkt message = .ok request)
    (hq : request.question = question :: qs) (hType : question.type = RRType.aaaa)
    (wallClock : Nat) (net : Network) :
    let h := handleMessage x fw prefixes s.now wallClock net s.cache (s.asyncReqs.map Prod.fst) message
    let rules := filterStep x (pureDomain question.owner.toStr) []
    h.calls = [] ∧ h.refresh = none ∧
      (h.reply = .ok (some (createSoaResponse x fw.settings wallClock request soaRetryIpv6Block)) ∨
        question.owner.toStr = mozillaDohHost ∧
          h.reply = .ok (some (createNxdomainResponse x fw.settings wallClock request)) ∨
        (∃ blocking, h.reply = .ok (some blocking) ∧ blocking.rcode ≠ Rcode.noerror ∧
          blocking.answer = [] ∧
          createBlockingResponse x fw.settings wallClock request rules = .ok blocking) ∨
        ∃ e, h.reply = .error e ∧ createBlockingResponse x fw.settings wallClock request rules = .error e) := by
  have hMiss : s.cache.find? (getCacheKey request) = none :=
    find?_eq_none_of_key fun e he hKey =>
      (reachable_storedKey x fw prefixes hs).1 e he |>.not_aaaa x fw hBlock hq hType hKey.symm
  dsimp only
  rw [handleMessage_of_miss x fw prefixes s.now wallClock net hParse hq hMiss]
  obtain ⟨-, hRefresh, hCalls, hReply⟩ :=
    forwardRequest_of_blockIpv6 x fw prefixes s.now wallClock net message request question
      { domain := question.owner.toStr } (getCacheKey request) s.cache hBlock hType
  refine ⟨hCalls, hRefresh, ?_⟩
  rcases hReply with ⟨hName, hNx⟩ | ⟨r, hPre, hSoa⟩ | ⟨e, hPre, hErr⟩
  · exact .inr (.inl ⟨hName, hNx⟩)
  · rw [hSoa]
    cases hb : r.blocked with
    | none => exact .inl rfl
    | some blocking =>
      have hBuilt := applyFilter_blocked x fw wallClock hPre hb
      dsimp only
      by_cases hRcode : blocking.rcode = Rcode.noerror
      · rw [if_pos hRcode]
        exact .inl rfl
      · rw [if_neg hRcode]
        exact .inr (.inr (.inl ⟨blocking, rfl, hRcode,
          createBlockingResponse_answer_of_rcode x fw.settings wallClock request _ hBuilt hRcode, hBuilt⟩))
  · exact .inr (.inr (.inr ⟨e, hErr, applyFilter_error x fw wallClock hPre⟩))

def goodAnsweredRun : List Action :=
  [.handle [4] (answering (sampleAnswer (sampleQuery goodName RRType.a) [aRecord goodName])) 0]

theorem handleMessage_aaaa_blocked_cached :
    let fw := sampleForwarder { sampleSettings with blockIpv6 := true }
    let s := (run sampleExternals fw [] (Sys.init fw) goodAnsweredRun).getD (Sys.init fw)
    let request := sampleQuery goodName RRType.aaaa
    let question : RR := ⟨goodName, ldnsDefaultTtl, RRType.aaaa, classIn, []⟩
    let h := handleMessage sampleExternals fw [] s.now 0 failing s.cache (s.asyncReqs.map Prod.fst) [0]
    fw.settings.blockIpv6 = true ∧ Reachable sampleExternals fw [] s ∧ s.cache.entries ≠ [] ∧
      sampleExternals.wire2pkt [0] = .ok request ∧ request.question = [question] ∧
      question.type = RRType.aaaa ∧ h.calls = [] ∧ h.refresh = none :=
  have hs := reachable_run_getD sampleExternals (sampleForwarder { sampleSettings with blockIpv6 := true }) []
    goodAnsweredRun (by decide)
  have hBlocked := handleMessage_aaaa_blocked sampleExternals _ [] rfl hs
    (show sampleExternals.wire2pkt [0] = .ok (sampleQuery goodName RRType.aaaa) from rfl) rfl rfl 0 failing
  ⟨rfl, hs, by decide, rfl, rfl, rfl, hBlocked.1, hBlocked.2.1⟩

/-- With `block_ipv6`, from the first state, an AAAA query of a name whose effective rules are a
hosts-style rule followed by an adblock-style one raises `std::bad_optional_access` instead of
returning. -/
theorem handleMessage_aaaa_blocked_raises :
    (sampleForwarder { sampleSettings with blockIpv6 := true }).settings.blockIpv6 = true ∧
      let fw := sampleForwarder { sampleSettings with blockIpv6 := true }
      Reachable sampleExternals fw [] (Sys.init fw) ∧
        (handleMessage sampleExternals fw [] (Sys.init fw).now 0 failing (Sys.init fw).cache [] [1]).reply =
          .error "bad optional access" :=
  ⟨rfl, .init, rfl⟩

def canaryVariantRun : List Action :=
  [.handle [2] (answering (sampleAnswer (sampleQuery canaryUpperName RRType.a)
    [aRecord canaryUpperName])) 0]

/-- After one query of `USE-APPLICATION-DNS.NET.`, a query of `use-application-dns.net.` is
answered from the cache with the upstream's NOERROR answer. -/
theorem canary_answered_from_cache :
    ∃ s, Reachable sampleExternals (sampleForwarder sampleSettings) [] s ∧
      (handleMessage sampleExternals (sampleForwarder sampleSettings) [] s.now 0 failing s.cache
        (s.asyncReqs.map Prod.fst) [3]).exit = .cacheHit ∧
      ∃ reply ∈ (handleMessage sampleExternals (sampleForwarder sampleSettings) [] s.now 0 failing
        s.cache (s.asyncReqs.map Prod.fst) [3]).response, reply.rcode = Rcode.noerror ∧ reply.answer ≠ [] :=
  reach_of_run sampleExternals (sampleForwarder sampleSettings) [] canaryVariantRun (by decide)

end Answered

/-! ## Refresh tasks -/

section Refresh

variable (x : Externals) (fw : Forwarder) (prefixes : List (List UInt8))

/-- An entry for `good` that expires, is served stale (queueing refresh 0, which starts), is
evicted by a query of `other`, and is stored afresh by a new query of `good`. -/
def refreshRaceRun : List Action :=
  [.handle [4] (answering (sampleAnswer (sampleQuery goodName RRType.a) [aRecord goodName])) 0,
   .advance 61000000000,
   .handle [4] failing 0,
   .startWork 0,
   .handle [5] (answering (sampleAnswer (sampleQuery otherName RRType.a) [aRecord otherName])) 0,
   .handle [4] (answering (sampleAnswer (sampleQuery goodName RRType.a) [aRecord goodName])) 0]

/-- A refresh whose exchange fails erases an unexpired entry that a later query stored. -/
theorem refresh_failure_erases_fresh_entry :
    ∃ s, Reachable sampleExternals (sampleForwarder sampleSettings) [] s ∧
      (∃ entry ∈ s.cache.find? (getCacheKey (sampleQuery goodName RRType.a)), s.now < entry.expiresAt) ∧
      ∃ s' ∈ step sampleExternals (sampleForwarder sampleSettings) [] s (.finishWork 0 failing),
        s'.cache.find? (getCacheKey (sampleQuery goodName RRType.a)) = none :=
  reach_of_run sampleExternals (sampleForwarder sampleSettings) [] refreshRaceRun (by decide)

/-! ### The registry `async_reqs` -/

/-- What `async_reqs` and libuv's works keep: one entry per key, one work per serial, serials
below the next one, an entry for every work not cancelled, no cancelled work before `deinit`,
and no key shared by a cancelled work and one that is not. -/
structure RegistryInv (s : Sys) : Prop where
  keys_nodup : (s.asyncReqs.map Prod.fst).Nodup
  serials_nodup : (s.works.map Work.serial).Nodup
  serial_lt : ∀ w ∈ s.works, w.serial < s.nextSerial
  registered : ∀ w ∈ s.works, w.status ≠ .cancelled → (w.key, w.serial) ∈ s.asyncReqs
  serving_uncancelled : s.teardown = .serving → ∀ w ∈ s.works, w.status ≠ .cancelled
  cancelled_key : ∀ w ∈ s.works, ∀ w' ∈ s.works, w'.status = .cancelled → w.status ≠ .cancelled →
    w.key ≠ w'.key

theorem RegistryInv.init : RegistryInv (Sys.init fw) where
  keys_nodup := List.nodup_nil
  serials_nodup := List.nodup_nil
  serial_lt w hw := absurd hw (List.not_mem_nil w)
  registered w hw := absurd hw (List.not_mem_nil w)
  serving_uncancelled _ w hw := absurd hw (List.not_mem_nil w)
  cancelled_key w hw := absurd hw (List.not_mem_nil w)

theorem RegistryInv.eq_of_key {s : Sys} (hInv : RegistryInv s) {w w' : Work} (hw : w ∈ s.works)
    (hw' : w' ∈ s.works) (hReg : (w.key, w.serial) ∈ s.asyncReqs)
    (hReg' : (w'.key, w'.serial) ∈ s.asyncReqs) (hKey : w.key = w'.key) : w = w' := by
  have hSerial : w.serial = w'.serial :=
    congrArg Prod.snd (List.inj_on_of_nodup_map hInv.keys_nodup hReg hReg' hKey)
  exact List.inj_on_of_nodup_map hInv.serials_nodup hw hw' hSerial

theorem Sys.mem_setStatus {s : Sys} {serial : Nat} {status : WorkStatus} {w : Work}
    (hw : w ∈ s.setStatus serial status) :
    ∃ w₀ ∈ s.works, w.key = w₀.key ∧ w.serial = w₀.serial ∧
      w.status = if w₀.serial = serial then status else w₀.status := by
  obtain ⟨w₀, hw₀, rfl⟩ := List.mem_map.mp hw
  exact ⟨w₀, hw₀, by split_ifs <;> simp_all⟩

theorem Sys.setStatus_serials (s : Sys) (serial : Nat) (status : WorkStatus) :
    (s.setStatus serial status).map Work.serial = s.works.map Work.serial := by
  simp only [setStatus, List.map_map]
  congr 1
  funext w
  simp only [Function.comp]
  split_ifs <;> rfl

theorem RegistryInv.setStatus {s : Sys} (hInv : RegistryInv s) {serial : Nat} {w : Work}
    (status : WorkStatus) (hw : s.work? serial = some w) (hFrom : w.status ≠ .cancelled)
    (hTo : status ≠ .cancelled) (cache : Lru CachedResponse) :
    RegistryInv { s with cache, works := s.setStatus serial status } := by
  have hSerial : w.serial = serial := by simpa using List.find?_some hw
  have hMem := Sys.mem_of_work? hw
  have hStatus : ∀ {w₂ : Work}, w₂ ∈ s.setStatus serial status → ∃ w₀ ∈ s.works, w₂.key = w₀.key ∧
      w₂.serial = w₀.serial ∧ (w₂.status = .cancelled ↔ w₀.status = .cancelled) := by
    intro w₂ hw₂
    obtain ⟨w₀, hw₀, hKey, hSer, hSt⟩ := Sys.mem_setStatus hw₂
    refine ⟨w₀, hw₀, hKey, hSer, ?_⟩
    split_ifs at hSt with hIs
    · have : w₀ = w := List.inj_on_of_nodup_map hInv.serials_nodup hw₀ hMem (hIs.trans hSerial.symm)
      subst this
      simp only [hSt, hTo, hFrom]
    · rw [hSt]
  refine ⟨hInv.keys_nodup, ?_, ?_, ?_, ?_, ?_⟩
  · exact (Sys.setStatus_serials s serial status).symm ▸ hInv.serials_nodup
  · intro w₂ hw₂
    obtain ⟨w₀, hw₀, -, hSer, -⟩ := hStatus hw₂
    exact hSer ▸ hInv.serial_lt w₀ hw₀
  · intro w₂ hw₂ hNot
    obtain ⟨w₀, hw₀, hKey, hSer, hCan⟩ := hStatus hw₂
    exact hKey ▸ hSer ▸ hInv.registered w₀ hw₀ (mt hCan.mpr hNot)
  · intro hServing w₂ hw₂
    obtain ⟨w₀, hw₀, -, -, hCan⟩ := hStatus hw₂
    exact mt hCan.mp (hInv.serving_uncancelled hServing w₀ hw₀)
  · intro w₂ hw₂ w₃ hw₃ h₃ h₂
    obtain ⟨w₀, hw₀, hKey, -, hCan⟩ := hStatus hw₂
    obtain ⟨w₁, hw₁, hKey', -, hCan'⟩ := hStatus hw₃
    rw [hKey, hKey']
    exact hInv.cancelled_key w₀ hw₀ w₁ hw₁ (hCan'.mp h₃) (mt hCan.mpr h₂)

theorem RegistryInv.queueRefresh {s : Sys} (hInv : RegistryInv s) (hServing : s.teardown = .serving)
    {key : String} {request : Pkt} (hFresh : key ∉ s.asyncReqs.map Prod.fst)
    (cache : Lru CachedResponse) : RegistryInv (({ s with cache } : Sys).queueRefresh key request) := by
  have hNew : s.nextSerial ∉ s.works.map Work.serial := fun h => by
    obtain ⟨w, hw, hEq⟩ := List.mem_map.mp h
    exact absurd (hEq ▸ hInv.serial_lt w hw) (lt_irrefl _)
  refine ⟨?_, ?_, ?_, ?_, ?_, ?_⟩
  · show ((s.asyncReqs ++ [(key, s.nextSerial)]).map Prod.fst).Nodup
    rw [List.map_append, List.nodup_append]
    exact ⟨hInv.keys_nodup, List.nodup_singleton _, List.disjoint_singleton.mpr hFresh⟩
  · show ((s.works ++ [Work.mk s.nextSerial key request .queued]).map Work.serial).Nodup
    rw [List.map_append, List.nodup_append]
    exact ⟨hInv.serials_nodup, List.nodup_singleton _, List.disjoint_singleton.mpr hNew⟩
  · intro w hw
    rcases List.mem_append.mp hw with hw | hw
    · exact (hInv.serial_lt w hw).trans (Nat.lt_succ_self _)
    · rw [List.mem_singleton.mp hw]; exact Nat.lt_succ_self _
  · intro w hw hNot
    rcases List.mem_append.mp hw with hw | hw
    · exact List.mem_append_left _ (hInv.registered w hw hNot)
    · rw [List.mem_singleton.mp hw]; exact List.mem_append_right _ (List.mem_singleton_self _)
  · intro _ w hw
    rcases List.mem_append.mp hw with hw | hw
    · exact hInv.serving_uncancelled hServing w hw
    · rw [List.mem_singleton.mp hw]; exact nofun
  · intro w _ w' hw' hCancelled
    rcases List.mem_append.mp hw' with hw' | hw'
    · exact absurd hCancelled (hInv.serving_uncancelled hServing w' hw')
    · rw [List.mem_singleton.mp hw'] at hCancelled; cases hCancelled

theorem RegistryInv.complete {s : Sys} (hInv : RegistryInv s) {serial : Nat} {w : Work}
    (hw : s.work? serial = some w) (hStatus : w.status = .done ∨ w.status = .cancelled) :
    RegistryInv { s with
      asyncReqs := s.asyncReqs.filter (·.1 ≠ w.key)
      works := s.works.filter (·.serial ≠ serial) } := by
  have hSerial : w.serial = serial := by simpa using List.find?_some hw
  have hMem := Sys.mem_of_work? hw
  refine ⟨hInv.keys_nodup.sublist ((List.filter_sublist _).map _),
    hInv.serials_nodup.sublist ((List.filter_sublist _).map _),
    fun w₂ hw₂ => hInv.serial_lt w₂ (List.mem_of_mem_filter hw₂), ?_,
    fun hServing w₂ hw₂ => hInv.serving_uncancelled hServing w₂ (List.mem_of_mem_filter hw₂),
    fun w₂ hw₂ w₃ hw₃ => hInv.cancelled_key w₂ (List.mem_of_mem_filter hw₂) w₃ (List.mem_of_mem_filter hw₃)⟩
  intro w₂ hw₂ hNot
  obtain ⟨hw₂, hOther⟩ := List.mem_filter.mp hw₂
  have hReg := hInv.registered w₂ hw₂ hNot
  refine List.mem_filter.mpr ⟨hReg, decide_eq_true fun hKey => ?_⟩
  rcases hStatus with hDone | hCancelled
  · have := hInv.eq_of_key hw₂ hMem hReg (hInv.registered w hMem (by rw [hDone]; nofun)) hKey
    subst this
    simp [hSerial] at hOther
  · exact hInv.cancelled_key w₂ hw₂ w hMem hCancelled hNot hKey

theorem RegistryInv.cancelQueued {s : Sys} (hInv : RegistryInv s) (hServing : s.teardown = .serving) :
    RegistryInv s.cancelQueued := by
  -- a work that the loop does not cancel was not queued
  have hKept : ∀ w ∈ s.works, ¬(w.status = .queued ∧ w.serial ∈ s.asyncReqs.map Prod.snd) →
      w.status ≠ .queued := fun w hw hNot hQueued =>
    hNot ⟨hQueued, List.mem_map.mpr ⟨_, hInv.registered w hw (by rw [hQueued]; nofun), rfl⟩⟩
  have hCancel : ∀ w₂ ∈ s.cancelQueued.works, ∃ w ∈ s.works, w₂.key = w.key ∧ w₂.serial = w.serial ∧
      (w₂.status = .cancelled ↔ w.status = .queued) ∧ (w₂.status ≠ .cancelled → w₂ = w) := by
    intro w₂ hw₂
    obtain ⟨w, hw, rfl⟩ := List.mem_map.mp hw₂
    have hNotCancelled := hInv.serving_uncancelled hServing w hw
    by_cases hq : w.status = .queued ∧ w.serial ∈ s.asyncReqs.map Prod.snd
    · simp only [hq, and_self, ↓reduceIte]
      exact ⟨w, hw, rfl, rfl, by simp [hq.1], fun h => absurd rfl h⟩
    · simp only [hq, ↓reduceIte]
      exact ⟨w, hw, rfl, rfl, by simp [hNotCancelled, hKept w hw hq], fun _ => rfl⟩
  refine ⟨hInv.keys_nodup.sublist ((List.filter_sublist _).map _), ?_, ?_, ?_, (fun h => nomatch h), ?_⟩
  · have hSerials : s.cancelQueued.works.map Work.serial = s.works.map Work.serial := by
      simp only [Sys.cancelQueued, List.map_map]
      congr 1
      funext w
      simp only [Function.comp]
      split_ifs <;> rfl
    exact hSerials ▸ hInv.serials_nodup
  · intro w₂ hw₂
    obtain ⟨w, hw, -, hSer, -⟩ := hCancel w₂ hw₂
    exact hSer ▸ hInv.serial_lt w hw
  · intro w₂ hw₂ hNot
    obtain ⟨w, hw, -, -, hCan, hEq⟩ := hCancel w₂ hw₂
    have hSame := hEq hNot
    subst hSame
    refine List.mem_filter.mpr ⟨hInv.registered w₂ hw hNot, decide_eq_true fun hIn => ?_⟩
    obtain ⟨w₃, hw₃, hSer⟩ := List.mem_map.mp hIn
    have hw₃' := (List.mem_filter.mp hw₃)
    have : w₃ = w₂ := List.inj_on_of_nodup_map hInv.serials_nodup hw₃'.1 hw hSer
    subst this
    exact hNot (hCan.mpr (by simpa using hw₃'.2))
  · intro w₂ hw₂ w₃ hw₃ h₃ h₂ hKey
    obtain ⟨w, hw, hKey₂, -, hCan₂, -⟩ := hCancel w₂ hw₂
    obtain ⟨w', hw', hKey₃, -, hCan₃, -⟩ := hCancel w₃ hw₃
    have hQueued' := hCan₃.mp h₃
    have hNotQueued : w.status ≠ .queued := mt hCan₂.mpr h₂
    have := hInv.eq_of_key hw hw' (hInv.registered w hw (hInv.serving_uncancelled hServing w hw))
      (hInv.registered w' hw' (hInv.serving_uncancelled hServing w' hw'))
      (hKey₂.symm.trans (hKey.trans hKey₃))
    subst this
    exact hNotQueued hQueued'

theorem RegistryInv.after_step {s s' : Sys} {a : Action} (hInv : RegistryInv s)
    (h : step x fw prefixes s a = some s') : RegistryInv s' := by
  rcases step_cases x fw prefixes h with
    ⟨message, net, wallClock, -, hServing, ⟨-, rfl⟩ | ⟨key, request, hRefresh, rfl⟩⟩ | ⟨ticks, -, rfl⟩ |
    ⟨serial, w, -, hw, hQueued, rfl⟩ | ⟨serial, net, w, -, hw, hRunning, rfl⟩ |
    ⟨serial, w, -, hw, hStatus, rfl⟩ | ⟨-, hServing, rfl⟩ | ⟨-, -, -, rfl⟩
  · exact { hInv with }
  · exact hInv.queueRefresh hServing
      (handleMessage_refresh x fw prefixes s.now wallClock net hRefresh).2.2.1 _
  · exact { hInv with }
  · exact hInv.setStatus .running hw (by rw [hQueued]; nofun) nofun s.cache
  · exact hInv.setStatus .done hw (by rw [hRunning]; nofun) nofun _
  · exact hInv.complete hw hStatus
  · exact hInv.cancelQueued hServing
  · exact { hInv with serving_uncancelled := fun h => nomatch h }

theorem reachable_registryInv {s : Sys} (hs : Reachable x fw prefixes s) : RegistryInv s := by
  induction hs with
  | init => exact RegistryInv.init fw
  | step _ hStep ih => exact ih.after_step x fw prefixes hStep

/-- In every reachable state, at most one refresh task per cache key is queued or running. -/
theorem reachable_one_refresh_per_key {s : Sys} (hs : Reachable x fw prefixes s) {w w' : Work}
    (hw : w ∈ s.works) (hw' : w' ∈ s.works) (hActive : w.status = .queued ∨ w.status = .running)
    (hActive' : w'.status = .queued ∨ w'.status = .running) (hKey : w.key = w'.key) : w = w' := by
  have hInv := reachable_registryInv x fw prefixes hs
  have hNotCancelled : ∀ {v : Work}, (v.status = .queued ∨ v.status = .running) →
      v.status ≠ .cancelled := by
    rintro v (h | h) <;> rw [h] <;> nofun
  exact hInv.eq_of_key hw hw' (hInv.registered w hw (hNotCancelled hActive))
    (hInv.registered w' hw' (hNotCancelled hActive')) hKey

theorem reachable_one_refresh_per_key_queued :
    let fw := sampleForwarder sampleSettings
    let s := (run sampleExternals fw [] (Sys.init fw) (refreshRaceRun.take 3)).getD (Sys.init fw)
    let w : Work := ⟨0, getCacheKey (sampleQuery goodName RRType.a), sampleQuery goodName RRType.a, .queued⟩
    Reachable sampleExternals fw [] s ∧ w ∈ s.works ∧ (w.status = .queued ∨ w.status = .running) ∧ w = w :=
  have hs := reachable_run_getD sampleExternals (sampleForwarder sampleSettings) [] (refreshRaceRun.take 3)
    (by decide)
  have hw : _ ∈ _ := by decide
  ⟨hs, hw, .inl rfl, reachable_one_refresh_per_key sampleExternals _ [] hs hw hw (.inl rfl) (.inl rfl) rfl⟩

/-- An entry for `good` that expires and is served stale, queueing refresh 0; then `deinit`. -/
def teardownRun : List Action :=
  [.handle [4] (answering (sampleAnswer (sampleQuery goodName RRType.a) [aRecord goodName])) 0,
   .advance 61000000000,
   .handle [4] failing 0,
   .deinitCancel,
   .deinitReturn]

/-- `deinit` cancels a queued refresh and erases its entry, then returns while the cancelled work
still waits for its completion callback, which will find no entry. -/
theorem deinit_returns_before_callback :
    ∃ s, Reachable sampleExternals (sampleForwarder sampleSettings) [] s ∧
      s.teardown = .finished ∧ ∃ w ∈ s.works, (w.key, w.serial) ∉ s.asyncReqs ∧
        (step sampleExternals (sampleForwarder sampleSettings) [] s (.complete w.serial)).isSome :=
  reach_of_run sampleExternals (sampleForwarder sampleSettings) [] teardownRun (by decide)

end Refresh

end DnsProxy
