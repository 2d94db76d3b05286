import DnsProxy.CacheKey
import DnsProxy.Filter
import DnsProxy.Dns64
import DnsProxy.Cache

/-! # The request pipeline

`handle_message`: the cache, the Mozilla canary, the IPv6 block, the filters, the upstreams and
DNS64 synthesis, as a function of the cache, the refresh keys in flight, the network and the clocks.
-/

namespace DnsProxy

set_option autoImplicit false

/-- The return statement of `handle_message` that a call ends at, or the exception it raises. -/
inductive Exit
  | parseError
  | noQuestion
  | cacheHit
  | canary
  | ipv6Block
  | preFilterBlock
  | upstreamFailure
  | postFilterBlock
  | forwarded
  | thrown
deriving DecidableEq

/-- What one call of `handle_message` does: the reply (`none` for the empty vector of a parse
failure) or the exception that escapes, the exit, the calls of `on_request_processed`, the cache
afterwards, the key and request of the refresh task it queued, and its calls on upstreams. -/
structure Handled where
  reply : Except String (Option Pkt)
  exit : Exit
  events : List Event
  cache : Lru CachedResponse
  refresh : Option (String × Pkt)
  calls : List UpstreamCall

def Handled.response (h : Handled) : Option Pkt :=
  match h.reply with
  | .ok reply => reply
  | .error _ => none

section Handle

variable (x : Externals) (fw : Forwarder) (prefixes : List (List UInt8)) (now : Int)
  (wallClock : Nat) (net : Network)

/-- The end of `handle_message` for the response it returns from an upstream: the event, with
the sizes of the request and of the reply, and the cache insert. -/
def deliverResponse (message : List UInt8) (request : Pkt) (event : Event) (cacheKey : String)
    (cache : Lru CachedResponse) (response : Pkt) (upstream : Upstream) (calls : List UpstreamCall) :
    Handled :=
  let event := { event with bytesSent := message.length, bytesReceived := x.wireSize response }
  let event := finalizeProcessedEvent event (some request) (some response) none (some upstream.id) none
  ⟨.ok (some response), .forwarded, fw.fire event,
    putResponseIntoCache fw.settings now cache cacheKey response (some upstream.id), none, calls⟩

/-- `handle_message` once an upstream answered: on NOERROR the CNAME and IP filters over the
answer and, for an AAAA query without AAAA records, DNS64 synthesis. -/
def handleUpstreamResponse (message : List UInt8) (request : Pkt) (question : RR) (event : Event)
    (last : List Rule) (cacheKey : String) (cache : Lru CachedResponse) (response : Pkt)
    (upstream : Upstream) (calls : List UpstreamCall) : Handled :=
  if response.rcode = Rcode.noerror then
    match postFilter x fw wallClock request response response.answer event last with
    | .error e => ⟨.error e, .thrown, [], cache, none, calls⟩
    | .ok r =>
      match r.blocked with
      | some blocking => ⟨.ok (some blocking), .postFilterBlock, r.fired, cache, none, calls⟩
      | none =>
        let synthesized : Dns64Outcome :=
          if fw.settings.dns64 ∧ question.type = RRType.aaaa ∧
              !(response.answer.any fun rr => rr.type = RRType.aaaa) then
            tryDns64AaaaSynthesis x prefixes net upstream request
          else ⟨none, []⟩
        deliverResponse x fw now message request r.event cacheKey cache
          (synthesized.response.getD response) upstream (calls ++ synthesized.calls)
  else deliverResponse x fw now message request event cacheKey cache response upstream calls

/-- `handle_message` from the label `cached_response_expired` on. -/
def forwardRequest (message : List UInt8) (request : Pkt) (question : RR) (event : Event)
    (cacheKey : String) (cache : Lru CachedResponse) : Handled :=
  let domain := question.owner.toStr
  let type := question.type
  if (type = RRType.a ∨ type = RRType.aaaa) ∧ domain = mozillaDohHost then
    let response := createNxdomainResponse x fw.settings wallClock request
    ⟨.ok (some response), .canary,
      fw.fire (finalizeProcessedEvent event (some request) (some response) none none none),
      cache, none, []⟩
  else if fw.settings.blockIpv6 ∧ type = RRType.aaaa then
    let soa := createSoaResponse x fw.settings wallClock request soaRetryIpv6Block
    match applyFilter x fw wallClock (pureDomain domain) request none event [] false with
    | .error e => ⟨.error e, .thrown, [], cache, none, []⟩
    | .ok r =>
      match r.blocked with
      | some blocking =>
        ⟨.ok (some (if blocking.rcode = Rcode.noerror then soa else blocking)), .ipv6Block, [],
          cache, none, []⟩
      | none => ⟨.ok (some soa), .ipv6Block, [], cache, none, []⟩
  else
    match applyFilter x fw wallClock (pureDomain domain) request none event [] true with
    | .error e => ⟨.error e, .thrown, [], cache, none, []⟩
    | .ok r =>
      match r.blocked with
      | some blocking => ⟨.ok (some blocking), .preFilterBlock, r.fired, cache, none, []⟩
      | none =>
        let out := doUpstreamExchange x net request fw
        match out.response, out.upstream with
        | some response, some upstream =>
          handleUpstreamResponse x fw prefixes now wallClock net message request question r.event
            r.last cacheKey cache response upstream out.calls
        | _, _ =>
          let response := createServfailResponse request
          let event := finalizeProcessedEvent r.event (some request) (some response) none
            (out.upstream.map (·.id)) out.error
          ⟨.ok (some response), .upstreamFailure, fw.fire event, cache, none, out.calls⟩

/-- `handle_message`; `asyncKeys` are the keys of `async_reqs`. -/
def handleMessage (cache : Lru CachedResponse) (asyncKeys : List String) (message : List UInt8) :
    Handled :=
  match x.wire2pkt message with
  | .error status =>
    let err := "Failed to parse payload: " ++ x.getErrorstrById status ++ " (" ++ toString status ++ ")"
    ⟨.ok none, .parseError, fw.fire (finalizeProcessedEvent {} none none none none (some err)),
      cache, none, []⟩
  | .ok request =>
    match request.question with
    | [] =>
      let response := createServfailResponse request
      ⟨.ok (some response), .noQuestion,
        fw.fire (finalizeProcessedEvent {} none (some response) none none
          (some "Message has no question section")),
        cache, none, []⟩
    | question :: _ =>
      let event : Event := { domain := question.owner.toStr }
      let cacheKey := getCacheKey request
      let (cached, cache) := createResponseFromCache x fw.settings now cache cacheKey request
      match cached.response with
      | some response =>
        if cached.expired ∧ !fw.settings.optimisticCache then
          forwardRequest x fw prefixes now wallClock net message request question event cacheKey cache
        else
          let refresh := if cached.expired ∧ cacheKey ∉ asyncKeys then some (cacheKey, request) else none
          let event := finalizeProcessedEvent { event with cacheHit := true } (some request)
            (some response) none cached.upstreamId none
          ⟨.ok (some response), .cacheHit, fw.fire event, cache, refresh, []⟩
      | none => forwardRequest x fw prefixes now wallClock net message request question event cacheKey cache

end Handle

/-! ## The processed event -/

/-- What a call reports: one event (when `on_request_processed` is set) on every return but the
IPv6 block, and none on the IPv6 block and on an exception. -/
def Handled.FiresOnce (fw : Forwarder) (h : Handled) : Prop :=
  (h.exit = .thrown ∨ h.exit = .ipv6Block) ∧ h.events = [] ∨
    h.exit ≠ .thrown ∧ h.exit ≠ .ipv6Block ∧ ∃ e, h.events = fw.fire e

section Events

variable (x : Externals) (fw : Forwarder) (prefixes : List (List UInt8)) (now : Int)
  (wallClock : Nat) (net : Network)

theorem Handled.firesOnce_thrown {e : String} {cache : Lru CachedResponse} {calls : List UpstreamCall} :
    Handled.FiresOnce fw ⟨.error e, .thrown, [], cache, none, calls⟩ :=
  .inl ⟨.inl rfl, rfl⟩

theorem Handled.firesOnce_of_fire {reply : Except String (Option Pkt)} {exit : Exit} {event : Event}
    {cache : Lru CachedResponse} {refresh : Option (String × Pkt)} {calls : List UpstreamCall}
    (hThrown : exit ≠ .thrown) (hIpv6 : exit ≠ .ipv6Block) :
    Handled.FiresOnce fw ⟨reply, exit, fw.fire event, cache, refresh, calls⟩ :=
  .inr ⟨hThrown, hIpv6, event, rfl⟩

theorem deliverResponse_firesOnce (message : List UInt8) (request : Pkt) (event : Event)
    (cacheKey : String) (cache : Lru CachedResponse) (response : Pkt) (upstream : Upstream)
    (calls : List UpstreamCall) :
    (deliverResponse x fw now message request event cacheKey cache response upstream calls).FiresOnce
      fw :=
  Handled.firesOnce_of_fire fw nofun nofun

theorem handleUpstreamResponse_firesOnce (message : List UInt8) (request : Pkt) (question : RR)
    (event : Event) (last : List Rule) (cacheKey : String) (cache : Lru CachedResponse)
    (response : Pkt) (upstream : Upstream) (calls : List UpstreamCall) :
    (handleUpstreamResponse x fw prefixes now wallClock net message request question event last
      cacheKey cache response upstream calls).FiresOnce fw := by
  rw [handleUpstreamResponse]
  split
  · split
    · exact Handled.firesOnce_thrown fw
    · next r hPost =>
      have hFired := (postFilter_spec x fw wallClock request response _ _ _ r hPost).1
      split
      · next hBlocked =>
        rw [hBlocked] at hFired
        simpa [hFired] using Handled.firesOnce_of_fire fw (show Exit.postFilterBlock ≠ .thrown from nofun) nofun
      · exact deliverResponse_firesOnce x fw now ..
  · exact deliverResponse_firesOnce x fw now ..

theorem forwardRequest_firesOnce (message : List UInt8) (request : Pkt) (question : RR)
    (event : Event) (cacheKey : String) (cache : Lru CachedResponse) :
    (forwardRequest x fw prefixes now wallClock net message request question event cacheKey
      cache).FiresOnce fw := by
  dsimp only [forwardRequest]
  split_ifs
  · exact Handled.firesOnce_of_fire fw nofun nofun
  · split
    · exact Handled.firesOnce_thrown fw
    · split <;> exact .inl ⟨.inr rfl, rfl⟩
  · split
    · exact Handled.firesOnce_thrown fw
    · next r hPre =>
      have hFired := (applyFilter_spec x fw wallClock hPre).2.2
      split
      · next hBlocked =>
        rw [hBlocked] at hFired
        simpa [hFired] using Handled.firesOnce_of_fire fw (show Exit.preFilterBlock ≠ .thrown from nofun) nofun
      · split
        · exact handleUpstreamResponse_firesOnce x fw prefixes now wallClock net ..
        · exact Handled.firesOnce_of_fire fw nofun nofun

/-- Every call of `handle_message` reports its request once, except on the IPv6 block, which
reports nothing, and except when it raises. -/
theorem handleMessage_firesOnce (cache : Lru CachedResponse) (asyncKeys : List String)
    (message : List UInt8) :
    (handleMessage x fw prefixes now wallClock net cache asyncKeys message).FiresOnce fw := by
  unfold handleMessage
  split
  · exact Handled.firesOnce_of_fire fw nofun nofun
  · split
    · exact Handled.firesOnce_of_fire fw nofun nofun
    · dsimp only
      split
      · split
        · exact forwardRequest_firesOnce x fw prefixes now wallClock net ..
        · exact Handled.firesOnce_of_fire fw nofun nofun
      · exact forwardRequest_firesOnce x fw prefixes now wallClock net ..

/-! ### Well-formed rule records in every reported event -/

def Handled.EventsAligned (h : Handled) : Prop := ∀ ev ∈ h.events, ev.RulesAligned

theorem deliverResponse_eventsAligned (message : List UInt8) (request : Pkt) {event : Event}
    (cacheKey : String) (cache : Lru CachedResponse) (response : Pkt) (upstream : Upstream)
    (calls : List UpstreamCall) (hEvent : event.RulesAligned) :
    (deliverResponse x fw now message request event cacheKey cache response upstream calls).EventsAligned :=
  fw.fire_rulesAligned hEvent

theorem handleUpstreamResponse_eventsAligned (message : List UInt8) (request : Pkt) (question : RR)
    {event : Event} (last : List Rule) (cacheKey : String) (cache : Lru CachedResponse)
    (response : Pkt) (upstream : Upstream) (calls : List UpstreamCall) (hEvent : event.RulesAligned) :
    (handleUpstreamResponse x fw prefixes now wallClock net message request question event last
      cacheKey cache response upstream calls).EventsAligned := by
  rw [handleUpstreamResponse]
  split
  · split
    · exact List.forall_mem_nil _
    · next r hPost =>
      have hPosted := postFilter_rulesAligned x fw wallClock request response _ _ _ r hPost hEvent
      split
      · exact hPosted.2
      · exact deliverResponse_eventsAligned x fw now _ _ _ _ _ _ _ hPosted.1
  · exact deliverResponse_eventsAligned x fw now _ _ _ _ _ _ _ hEvent

theorem forwardRequest_eventsAligned (message : List UInt8) (request : Pkt) (question : RR)
    {event : Event} (cacheKey : String) (cache : Lru CachedResponse) (hEvent : event.RulesAligned) :
    (forwardRequest x fw prefixes now wallClock net message request question event cacheKey
      cache).EventsAligned := by
  dsimp only [forwardRequest]
  split_ifs
  · exact fw.fire_rulesAligned hEvent
  · split
    · exact List.forall_mem_nil _
    · split <;> exact List.forall_mem_nil _
  · split
    · exact List.forall_mem_nil _
    · next r hPre =>
      have hFiltered := applyFilter_rulesAligned x fw wallClock hPre hEvent
      split
      · exact hFiltered.2
      · split
        · exact handleUpstreamResponse_eventsAligned x fw prefixes now wallClock net _ _ _ _ _ _ _ _ _
            hFiltered.1
        · exact fw.fire_rulesAligned hFiltered.1

/-- On every path of `handle_message`, every event it reports records each applied rule text once,
with one filter id per text. -/
theorem handleMessage_eventsAligned (cache : Lru CachedResponse) (asyncKeys : List String)
    (message : List UInt8) :
    (handleMessage x fw prefixes now wallClock net cache asyncKeys message).EventsAligned := by
  unfold handleMessage
  split
  · exact fw.fire_rulesAligned ⟨List.nodup_nil, rfl⟩
  · split
    · exact fw.fire_rulesAligned ⟨List.nodup_nil, rfl⟩
    · dsimp only
      split
      · split
        · exact forwardRequest_eventsAligned x fw prefixes now wallClock net _ _ _ _ _ ⟨List.nodup_nil, rfl⟩
        · exact fw.fire_rulesAligned ⟨List.nodup_nil, rfl⟩
      · exact forwardRequest_eventsAligned x fw prefixes now wallClock net _ _ _ _ _ ⟨List.nodup_nil, rfl⟩

/-- With `block_ipv6`, an AAAA query returns the IPv6-block answer, and `on_request_processed`,
although set, is never called. -/
theorem handleMessage_ipv6_block_reports_nothing :
    (sampleForwarder { sampleSettings with blockIpv6 := true }).onRequestProcessed = true ∧
      let fw := sampleForwarder { sampleSettings with blockIpv6 := true }
      let h := handleMessage sampleExternals fw [] 0 0 failing (Lru.empty 1) [] [0]
      h.exit = .ipv6Block ∧
        h.reply = .ok (some (createSoaResponse sampleExternals fw.settings 0
          (sampleQuery goodName RRType.aaaa) soaRetryIpv6Block)) ∧ h.events = [] :=
  ⟨rfl, by decide, rfl, by decide⟩

end Events

/-! ## Which path a call takes -/

section Paths

variable (x : Externals) (fw : Forwarder) (prefixes : List (List UInt8)) (now : Int)
  (wallClock : Nat) (net : Network)

theorem handleMessage_eq_forwardRequest {cache : Lru CachedResponse} {asyncKeys : List String}
    {message : List UInt8} {request : Pkt} {question : RR} {qs : List RR}
    (hParse : x.wire2pkt message = .ok request) (hq : request.question = question :: qs)
    (hExit : (handleMessage x fw prefixes now wallClock net cache asyncKeys message).exit ≠ .cacheHit) :
    handleMessage x fw prefixes now wallClock net cache asyncKeys message =
      forwardRequest x fw prefixes now wallClock net message request question
        { domain := question.owner.toStr } (getCacheKey request)
        (createResponseFromCache x fw.settings now cache (getCacheKey request) request).2 := by
  unfold handleMessage at hExit ⊢
  simp only [hParse, hq] at hExit ⊢
  generalize createResponseFromCache x fw.settings now cache (getCacheKey request) request = lookup
    at hExit ⊢
  obtain ⟨⟨_ | response, expired, upstreamId⟩, cache'⟩ := lookup
  · rfl
  · dsimp only at hExit ⊢
    split_ifs at hExit ⊢
    · rfl
    all_goals exact absurd rfl hExit

theorem handleMessage_of_miss {cache : Lru CachedResponse} {asyncKeys : List String}
    {message : List UInt8} {request : Pkt} {question : RR} {qs : List RR}
    (hParse : x.wire2pkt message = .ok request) (hq : request.question = question :: qs)
    (hMiss : cache.find? (getCacheKey request) = none) :
    handleMessage x fw prefixes now wallClock net cache asyncKeys message =
      forwardRequest x fw prefixes now wallClock net message request question
        { domain := question.owner.toStr } (getCacheKey request) cache := by
  simp only [handleMessage, hParse, hq,
    createResponseFromCache_of_find?_eq_none x fw.settings now request hMiss]

theorem forwardRequest_of_forwarded {message : List UInt8} {request : Pkt} {question : RR}
    {event : Event} {cacheKey : String} {cache : Lru CachedResponse}
    (hExit : (forwardRequest x fw prefixes now wallClock net message request question event cacheKey
      cache).exit = .forwarded) :
    ∃ r response upstream,
      applyFilter x fw wallClock (pureDomain question.owner.toStr) request none event [] true = .ok r ∧
      r.blocked = none ∧
      forwardRequest x fw prefixes now wallClock net message request question event cacheKey cache =
        handleUpstreamResponse x fw prefixes now wallClock net message request question r.event r.last
          cacheKey cache response upstream (doUpstreamExchange x net request fw).calls := by
  dsimp only [forwardRequest] at hExit ⊢
  split_ifs at hExit ⊢
  · split at hExit
    · cases hExit
    · split at hExit <;> cases hExit
  · cases hPre : applyFilter x fw wallClock (pureDomain question.owner.toStr) request none event [] true with
    | error e => rw [hPre] at hExit; cases hExit
    | ok r =>
      rw [hPre] at hExit
      dsimp only at hExit ⊢
      cases hb : r.blocked with
      | some b => rw [hb] at hExit; cases hExit
      | none =>
        rw [hb] at hExit
        dsimp only at hExit ⊢
        generalize doUpstreamExchange x net request fw = out at hExit ⊢
        obtain ⟨_ | response, error, _ | upstream, calls⟩ := out
        all_goals first | cases hExit | exact ⟨r, response, upstream, rfl, hb, rfl⟩

theorem forwardRequest_of_blockIpv6 (message : List UInt8) (request : Pkt) (question : RR)
    (event : Event) (cacheKey : String) (cache : Lru CachedResponse)
    (hBlock : fw.settings.blockIpv6 = true) (hType : question.type = RRType.aaaa) :
    let h := forwardRequest x fw prefixes now wallClock net message request question event cacheKey cache
    let soa := createSoaResponse x fw.settings wallClock request soaRetryIpv6Block
    h.cache = cache ∧ h.refresh = none ∧ h.calls = [] ∧
      (question.owner.toStr = mozillaDohHost ∧
          h.reply = .ok (some (createNxdomainResponse x fw.settings wallClock request)) ∨
        (∃ r, applyFilter x fw wallClock (pureDomain question.owner.toStr) request none event [] false =
            .ok r ∧
          h.reply = .ok (some (match r.blocked with
            | some blocking => if blocking.rcode = Rcode.noerror then soa else blocking
            | none => soa))) ∨
        ∃ e, applyFilter x fw wallClock (pureDomain question.owner.toStr) request none event [] false =
            .error e ∧ h.reply = .error e) := by
  dsimp only [forwardRequest]
  by_cases hName : question.owner.toStr = mozillaDohHost
  · simp only [hType, hName, or_true, and_self, ↓reduceIte, true_and, true_or]
  · rw [if_neg fun h => hName h.2, if_pos ⟨hBlock, hType⟩]
    cases applyFilter x fw wallClock (pureDomain question.owner.toStr) request none event [] false with
    | error e => exact ⟨rfl, rfl, rfl, .inr (.inr ⟨e, rfl, rfl⟩)⟩
    | ok r =>
      refine ⟨?_, ?_, ?_, .inr (.inl ⟨r, rfl, ?_⟩)⟩ <;> dsimp only <;> cases r.blocked <;> rfl

end Paths

/-! ## Upstream failures -/

section Failures

/-- `err_str` is only written after a second failure: when every upstream times out the error is
empty, and when the last upstream times out after an earlier one failed twice, the SERVFAIL event
names the last upstream but carries the earlier upstream's failure. -/
theorem doUpstreamExchange_error_not_of_upstream :
    (doUpstreamExchange sampleExternals timingOut (sampleQuery goodName RRType.a)
        (sampleForwarder sampleSettings)).error = some "" ∧
      (doUpstreamExchange sampleExternals timingOut (sampleQuery goodName RRType.a)
        (sampleForwarder sampleSettings)).upstream = some sampleUpstream ∧
      let h := handleMessage sampleExternals pairForwarder [] 0 0 refusedThenTimingOut (Lru.empty 1) [] [4]
      h.exit = .upstreamFailure ∧
        h.events.map (fun ev => (ev.upstreamId, ev.error)) = [(some secondUpstream.id,
          "Upstream (1.1.1.1) exchange failed: first reason is connection refused, second is: connection refused")] :=
  ⟨rfl, rfl, by decide, rfl⟩

end Failures

/-! ## Forwarded answers and the filter chain -/

section Forwarded

variable (x : Externals) (fw : Forwarder) (prefixes : List (List UInt8)) (now : Int)
  (wallClock : Nat) (net : Network)

theorem handleUpstreamResponse_passes {message : List UInt8} {request : Pkt} {question : RR}
    {event : Event} {last : List Rule} {cacheKey : String} {cache : Lru CachedResponse}
    {response : Pkt} {upstream : Upstream} {calls : List UpstreamCall} {reply : Pkt}
    (hExit : (handleUpstreamResponse x fw prefixes now wallClock net message request question event
      last cacheKey cache response upstream calls).exit = .forwarded)
    (hReply : (handleUpstreamResponse x fw prefixes now wallClock net message request question event
      last cacheKey cache response upstream calls).reply = .ok (some reply))
    (hNoerror : reply.rcode = Rcode.noerror)
    (hNo64 : ¬(fw.settings.dns64 = true ∧ question.type = RRType.aaaa)) :
    reply = response ∧ chainBlocks x (response.answer.filterMap (recordHostname x)) last = false := by
  unfold handleUpstreamResponse at hExit hReply
  by_cases hRcode : response.rcode = Rcode.noerror
  · rw [if_pos hRcode] at hExit hReply
    cases hPost : postFilter x fw wallClock request response response.answer event last with
    | error e => rw [hPost] at hExit; cases hExit
    | ok r =>
      rw [hPost] at hExit hReply
      have hChain := (postFilter_spec x fw wallClock request response _ _ _ r hPost).2
      cases hb : r.blocked with
      | some b => simp only [hb] at hExit; cases hExit
      | none =>
        have hNoSynth : ¬(fw.settings.dns64 = true ∧ question.type = RRType.aaaa ∧
            (!response.answer.any fun rr => rr.type = RRType.aaaa) = true) :=
          fun h => hNo64 ⟨h.1, h.2.1⟩
        simp only [hb, deliverResponse, if_neg hNoSynth, Option.getD_none, Except.ok.injEq,
          Option.some.injEq] at hReply
        exact ⟨hReply.symm, hChain hb⟩
  · rw [if_neg hRcode] at hReply
    simp only [deliverResponse, Except.ok.injEq, Option.some.injEq] at hReply
    exact absurd (hReply ▸ hNoerror) hRcode

/-- Every NOERROR reply that `handle_message` forwards from an upstream, where DNS64 synthesis
cannot apply, passes the whole filter chain of the query. -/
theorem handleMessage_forwarded_passes {cache : Lru CachedResponse} {asyncKeys : List String}
    {message : List UInt8} {request reply : Pkt}
    (hParse : x.wire2pkt message = .ok request)
    (hExit : (handleMessage x fw prefixes now wallClock net cache asyncKeys message).exit = .forwarded)
    (hReply : (handleMessage x fw prefixes now wallClock net cache asyncKeys message).reply =
      .ok (some reply))
    (hNoerror : reply.rcode = Rcode.noerror)
    (hNo64 : ¬(fw.settings.dns64 = true ∧ request.firstQuestion.type = RRType.aaaa)) :
    FilterChainPasses x request reply := by
  cases hq : request.question with
  | nil => simp [handleMessage, hParse, hq] at hExit
  | cons question qs =>
    have hFirst : request.firstQuestion = question := by simp [Pkt.firstQuestion, hq]
    have hEq := handleMessage_eq_forwardRequest x fw prefixes now wallClock net hParse hq
      (by rw [hExit]; decide)
    rw [hEq] at hExit hReply
    obtain ⟨r, response, upstream, hPre, hNotBlocked, hFwd⟩ :=
      forwardRequest_of_forwarded x fw prefixes now wallClock net hExit
    rw [hFwd] at hExit hReply
    obtain ⟨rfl, hChain⟩ := handleUpstreamResponse_passes x fw prefixes now wallClock net hExit hReply
      hNoerror (hFirst ▸ hNo64)
    obtain ⟨hLast, hBlocks, -⟩ := applyFilter_spec x fw wallClock hPre
    rw [hNotBlocked] at hBlocks
    rw [hLast] at hChain
    simp only [FilterChainPasses, hFirst, chainBlocks, ← hBlocks, hChain]
    rfl

theorem handleMessage_forwarded_passes_good :
    let request := sampleQuery goodName RRType.a
    let reply := sampleAnswer request [aRecord goodName]
    let fw := sampleForwarder sampleSettings
    let h := handleMessage sampleExternals fw [] 0 0 (answering reply) (Lru.empty 1) [] [4]
    sampleExternals.wire2pkt [4] = .ok request ∧ h.exit = .forwarded ∧ h.reply = .ok (some reply) ∧
      reply.rcode = Rcode.noerror ∧ ¬(fw.settings.dns64 = true ∧ request.firstQuestion.type = RRType.aaaa) ∧
      FilterChainPasses sampleExternals request reply :=
  have hExit : (handleMessage sampleExternals (sampleForwarder sampleSettings) [] 0 0
      (answering (sampleAnswer (sampleQuery goodName RRType.a) [aRecord goodName])) (Lru.empty 1) [] [4]).exit =
      .forwarded := by decide
  ⟨rfl, hExit, rfl, rfl, by decide,
    handleMessage_forwarded_passes sampleExternals _ [] 0 0 _
      (show sampleExternals.wire2pkt [4] = .ok (sampleQuery goodName RRType.a) from rfl) hExit rfl rfl
      (by decide)⟩

/-- The well-known DNS64 prefix `64:ff9b::/96`. -/
def wellKnownPrefix : List UInt8 := [0, 0x64, 0xff, 0x9b, 0, 0, 0, 0, 0, 0, 0, 0]

def cnameToBadNetwork : Network :=
  { answering (sampleAnswer (sampleQuery goodName RRType.aaaa) []) with
    dns64Exchange :=
      ⟨some (sampleAnswer (sampleQuery goodName RRType.a) [cnameRecord goodName badName, aRecord badName]),
        none⟩ }

/-- A DNS64 answer is never filtered: the synthesized reply to an AAAA query of `good` carries a
CNAME to the blocked name `bad`. -/
theorem handleMessage_dns64_answer_skips_filter :
    (sampleForwarder { sampleSettings with dns64 := true }).settings.dns64 = true ∧
      let h := handleMessage sampleExternals (sampleForwarder { sampleSettings with dns64 := true })
        [wellKnownPrefix] 0 0 cnameToBadNetwork (Lru.empty 1) [] [0]
      ∃ reply, h.reply = .ok (some reply) ∧ h.exit = .forwarded ∧ reply.rcode = Rcode.noerror ∧
        ¬FilterChainPasses sampleExternals (sampleQuery goodName RRType.aaaa) reply :=
  ⟨rfl, _, rfl, by decide, by decide, by decide⟩

end Forwarded

/-! ## What a call leaves behind -/

section Effects

variable (x : Externals) (fw : Forwarder) (prefixes : List (List UInt8)) (now : Int)
  (wallClock : Nat) (net : Network)

theorem handleUpstreamResponse_effects (message : List UInt8) (request : Pkt) (question : RR)
    (event : Event) (last : List Rule) (cacheKey : String) (cache : Lru CachedResponse)
    (response : Pkt) (upstream : Upstream) (calls : List UpstreamCall) :
    let h := handleUpstreamResponse x fw prefixes now wallClock net message request question event
      last cacheKey cache response upstream calls
    h.refresh = none ∧ (h.cache = cache ∨
      ∃ reply upstreamId, h.cache = putResponseIntoCache fw.settings now cache cacheKey reply upstreamId) := by
  unfold handleUpstreamResponse
  split
  · split
    · exact ⟨rfl, .inl rfl⟩
    · split
      · exact ⟨rfl, .inl rfl⟩
      · exact ⟨rfl, .inr ⟨_, _, rfl⟩⟩
  · exact ⟨rfl, .inr ⟨_, _, rfl⟩⟩

/-- The queries that `handle_message` answers itself past the cache lookup: the canary, and an
AAAA query under `block_ipv6`. -/
def Answered (fw : Forwarder) (question : RR) : Prop :=
  (question.type = RRType.a ∨ question.type = RRType.aaaa) ∧ question.owner.toStr = mozillaDohHost ∨
    fw.settings.blockIpv6 = true ∧ question.type = RRType.aaaa

theorem forwardRequest_effects (message : List UInt8) (request : Pkt) (question : RR)
    (event : Event) (cacheKey : String) (cache : Lru CachedResponse) :
    let h := forwardRequest x fw prefixes now wallClock net message request question event cacheKey cache
    h.refresh = none ∧ (h.cache = cache ∨ ¬Answered fw question ∧
      ∃ reply upstreamId, h.cache = putResponseIntoCache fw.settings now cache cacheKey reply upstreamId) := by
  dsimp only [forwardRequest]
  split_ifs with hCanary hBlock
  · exact ⟨rfl, .inl rfl⟩
  · split
    · exact ⟨rfl, .inl rfl⟩
    · split <;> exact ⟨rfl, .inl rfl⟩
  · split
    · exact ⟨rfl, .inl rfl⟩
    · split
      · exact ⟨rfl, .inl rfl⟩
      · split
        · obtain ⟨hRefresh, hCache⟩ := handleUpstreamResponse_effects x fw prefixes now wallClock net ..
          exact ⟨hRefresh, hCache.imp_right fun h => ⟨not_or.mpr ⟨hCanary, hBlock⟩, h⟩⟩
        · exact ⟨rfl, .inl rfl⟩

theorem mem_handleMessage_cache {cache : Lru CachedResponse} {asyncKeys : List String}
    {message : List UInt8} {e : String × CachedResponse}
    (he : e ∈ (handleMessage x fw prefixes now wallClock net cache asyncKeys message).cache.entries) :
    e ∈ cache.entries ∨ ∃ request question qs response upstreamId,
      x.wire2pkt message = .ok request ∧ request.question = question :: qs ∧ ¬Answered fw question ∧
      e.1 = getCacheKey request ∧ cachedResponseFor fw.settings now response upstreamId = some e.2 := by
  unfold handleMessage at he
  split at he
  · exact .inl he
  · next request hParse =>
    split at he
    · exact .inl he
    · next question qs hq =>
      have hSub := createResponseFromCache_subset x fw.settings now cache (getCacheKey request) request
      have hForward : ∀ {c : Lru CachedResponse}, c.entries ⊆ cache.entries →
          e ∈ (forwardRequest x fw prefixes now wallClock net message request question
            { domain := question.owner.toStr } (getCacheKey request) c).cache.entries →
          e ∈ cache.entries ∨ ∃ request question qs response upstreamId,
            x.wire2pkt message = .ok request ∧ request.question = question :: qs ∧
            ¬Answered fw question ∧
            e.1 = getCacheKey request ∧ cachedResponseFor fw.settings now response upstreamId = some e.2 := by
        intro c hc he
        rcases (forwardRequest_effects x fw prefixes now wallClock net message request question
          { domain := question.owner.toStr } (getCacheKey request) c).2 with hEq | ⟨hBlock, _, _, hEq⟩
        · exact .inl (hc (hEq ▸ he))
        · rw [hEq] at he
          rcases mem_putResponseIntoCache he with he | ⟨hKey, hEntry⟩
          · exact .inl (hc he)
          · exact .inr ⟨request, question, qs, _, _, hParse, hq, hBlock, hKey, hEntry⟩
      dsimp only at he
      split at he
      · split at he
        · exact hForward hSub he
        · exact .inl (hSub he)
      · exact hForward hSub he

theorem handleMessage_refresh {cache : Lru CachedResponse} {asyncKeys : List String}
    {message : List UInt8} {key : String} {request : Pkt}
    (h : (handleMessage x fw prefixes now wallClock net cache asyncKeys message).refresh =
      some (key, request)) :
    x.wire2pkt message = .ok request ∧ key = getCacheKey request ∧ key ∉ asyncKeys ∧
      ∃ entry, cache.find? key = some entry := by
  unfold handleMessage at h
  split at h
  · cases h
  · next request' hParse =>
    split at h
    · cases h
    · dsimp only at h
      split at h
      · next response hHit =>
        split_ifs at h with hForward hQueue
        · rw [(forwardRequest_effects x fw prefixes now wallClock net ..).1] at h; cases h
        · cases h
          exact ⟨hParse, rfl, hQueue.2, find?_of_createResponseFromCache x fw.settings now cache _ _
            (by rw [hHit]; exact Option.some_ne_none _)⟩
      · rw [(forwardRequest_effects x fw prefixes now wallClock net ..).1] at h; cases h

end Effects

end DnsProxy
