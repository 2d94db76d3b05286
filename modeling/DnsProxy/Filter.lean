import DnsProxy.Responses

/-! # Filtering and the processed event

`apply_filter` on the query's name and, through the CNAME and IP filters, on each record of the
answer; the chain those calls make is `chainBlocks`.
-/

namespace DnsProxy

set_option autoImplicit false

/-- `dns_request_processed_event`, without the clock fields `start_time` and `elapsed`. The
printed fields keep what is printed: the type, the rcode and the answer records. -/
structure Event where
  domain : String := ""
  type : Option Nat := none
  status : Option Nat := none
  answer : Option (List RR) := none
  originalAnswer : Option (List RR) := none
  upstreamId : Option Int := none
  rules : List String := []
  filterListIds : List Int := []
  whitelist : Bool := false
  cacheHit : Bool := false
  bytesSent : Nat := 0
  bytesReceived : Nat := 0
  error : String := ""
deriving DecidableEq

/-- The body of the loop of `event_append_rules`: a rule whose text is not recorded yet is put in
front, together with its filter id. -/
def appendRule (event : Event) (rule : Rule) : Event :=
  if rule.text ∈ event.rules then event
  else { event with rules := rule.text :: event.rules, filterListIds := rule.filterId :: event.filterListIds }

/-- `event_append_rules`: from the last rule to the first, each text not yet recorded is put in
front together with its filter id; `whitelist` follows the first rule. -/
def eventAppendRules (x : Externals) (event : Event) (additionalRules : List Rule) : Event :=
  match additionalRules with
  | [] => event
  | first :: _ =>
    let event := additionalRules.reverse.foldl appendRule event
    { event with whitelist := first.isException x }

/-! ### The rules an event records -/

theorem foldl_appendRule : ∀ (visited : List Rule) (event : Event), ∃ new : List Rule,
    new.reverse.Sublist visited ∧
    (visited.foldl appendRule event).rules = new.map Rule.text ++ event.rules ∧
    (visited.foldl appendRule event).filterListIds = new.map Rule.filterId ++ event.filterListIds ∧
    (event.rules.Nodup → (visited.foldl appendRule event).rules.Nodup) ∧
    ∀ r ∈ visited, r.text ∈ (visited.foldl appendRule event).rules
  | [], _ => ⟨[], .slnil, rfl, rfl, id, nofun⟩
  | rule :: rest, event => by
    obtain ⟨new, hSub, hRules, hIds, hNodup, hCovers⟩ := foldl_appendRule rest (appendRule event rule)
    simp only [List.foldl_cons, List.forall_mem_cons]
    by_cases hMem : rule.text ∈ event.rules
    · simp only [appendRule, if_pos hMem] at hRules hIds hNodup hCovers ⊢
      exact ⟨new, hSub.cons rule, hRules, hIds, hNodup, by simp [hRules, hMem], hCovers⟩
    · simp only [appendRule, if_neg hMem] at hRules hIds hNodup hCovers ⊢
      refine ⟨new ++ [rule], by simpa using hSub.cons₂ rule, by simpa using hRules,
        by simpa using hIds, fun h => hNodup (List.nodup_cons.mpr ⟨hMem, h⟩), by simp [hRules],
        hCovers⟩

theorem eventAppendRules_records (x : Externals) (event : Event) (additionalRules : List Rule) :
    ∃ new : List Rule, new.Sublist additionalRules ∧
      (eventAppendRules x event additionalRules).rules = new.map Rule.text ++ event.rules ∧
      (eventAppendRules x event additionalRules).filterListIds =
        new.map Rule.filterId ++ event.filterListIds ∧
      (event.rules.Nodup → (eventAppendRules x event additionalRules).rules.Nodup) ∧
      ∀ r ∈ additionalRules, r.text ∈ (eventAppendRules x event additionalRules).rules := by
  cases additionalRules with
  | nil => exact ⟨[], .slnil, rfl, rfl, id, nofun⟩
  | cons first rest =>
    obtain ⟨new, hSub, hRules, hIds, hNodup, hCovers⟩ :=
      foldl_appendRule (first :: rest).reverse event
    exact ⟨new, List.reverse_sublist.mp hSub, hRules, hIds, hNodup,
      fun r hr => hCovers r (List.mem_reverse.mpr hr)⟩

/-- What the records of an event say once some rules were seen: no text twice, one filter id per
text, the text of every rule seen, and with each text the filter id of a rule seen with it. -/
structure RulesRecorded (seen : List Rule) (event : Event) : Prop where
  nodup : event.rules.Nodup
  aligned : event.rules.length = event.filterListIds.length
  covers : ∀ r ∈ seen, r.text ∈ event.rules
  sourced : ∀ p ∈ event.rules.zip event.filterListIds, ∃ r ∈ seen, r.text = p.1 ∧ r.filterId = p.2

theorem RulesRecorded.eventAppendRules (x : Externals) {seen : List Rule} {event : Event}
    (h : RulesRecorded seen event) (additionalRules : List Rule) :
    RulesRecorded (seen ++ additionalRules) (DnsProxy.eventAppendRules x event additionalRules) := by
  obtain ⟨new, hSub, hRules, hIds, hNodup, hCovers⟩ := eventAppendRules_records x event additionalRules
  have hZip : (new.map Rule.text ++ event.rules).zip (new.map Rule.filterId ++ event.filterListIds) =
      new.map (fun r => (r.text, r.filterId)) ++ event.rules.zip event.filterListIds := by
    rw [List.zip_append (by simp), List.zip_map']
  refine ⟨hNodup h.nodup, by simp [hRules, hIds, h.aligned], ?_, ?_⟩
  · simp only [List.mem_append]
    rintro r (hr | hr)
    · rw [hRules]; exact List.mem_append_right _ (h.covers r hr)
    · exact hCovers r hr
  · rw [hRules, hIds, hZip]
    simp only [List.mem_append, List.mem_map]
    rintro p (⟨r, hr, rfl⟩ | hp)
    · exact ⟨r, .inr (hSub.subset hr), rfl, rfl⟩
    · obtain ⟨r, hr, hText, hId⟩ := h.sourced p hp
      exact ⟨r, .inl hr, hText, hId⟩

/-- Over any sequence of `event_append_rules` calls, the records stay duplicate-free and aligned,
record every text passed, and give each text the filter id of a rule passed with it. -/
theorem RulesRecorded.foldl_eventAppendRules (x : Externals) : ∀ (calls : List (List Rule))
    {seen : List Rule} {event : Event}, RulesRecorded seen event →
    RulesRecorded (seen ++ calls.flatten) (calls.foldl (DnsProxy.eventAppendRules x) event)
  | [], _, _, h => by simpa using h
  | rules :: calls, _, _, h => by
    simpa using RulesRecorded.foldl_eventAppendRules x calls (h.eventAppendRules x rules)

/-- A fresh event, then the rules of a pre-filter and of a post-filter call. -/
theorem foldl_eventAppendRules_fresh :
    RulesRecorded [] ({} : Event) ∧
      RulesRecorded ([] ++ [[adblockRule], [hostsRule, adblockRule]].flatten)
        ([[adblockRule], [hostsRule, adblockRule]].foldl (eventAppendRules sampleExternals) {}) :=
  have hFresh : RulesRecorded [] ({} : Event) := ⟨List.nodup_nil, rfl, nofun, nofun⟩
  ⟨hFresh, RulesRecorded.foldl_eventAppendRules sampleExternals _ hFresh⟩

def Event.RulesAligned (event : Event) : Prop :=
  event.rules.Nodup ∧ event.rules.length = event.filterListIds.length

theorem Event.RulesAligned.eventAppendRules (x : Externals) {event : Event} (h : event.RulesAligned)
    (additionalRules : List Rule) : (DnsProxy.eventAppendRules x event additionalRules).RulesAligned := by
  obtain ⟨new, -, hRules, hIds, hNodup, -⟩ := eventAppendRules_records x event additionalRules
  exact ⟨hNodup h.1, by simp [hRules, hIds, h.2]⟩

/-- Two rules with one text: the loop runs from the last rule, so the text is recorded at the
place and with the filter id of its last occurrence, after a text that first occurs later. -/
theorem eventAppendRules_keeps_last_occurrence :
    (eventAppendRules sampleExternals {}
        [⟨"||a^", 1, none, 0⟩, ⟨"||b^", 1, none, 0⟩, ⟨"||a^", 2, none, 0⟩]).rules = ["||b^", "||a^"] ∧
      (eventAppendRules sampleExternals {}
        [⟨"||a^", 1, none, 0⟩, ⟨"||b^", 1, none, 0⟩, ⟨"||a^", 2, none, 0⟩]).filterListIds = [1, 2] :=
  ⟨rfl, rfl⟩

/-- `finalize_processed_event`, without the call of `on_request_processed`. -/
def finalizeProcessedEvent (event : Event) (request response originalResponse : Option Pkt)
    (upstreamId : Option Int) (error : Option String) : Event :=
  { event with
    type := request.map (·.firstQuestion.type)
    status := response.map (·.rcode)
    answer := response.map (·.answer)
    originalAnswer := originalResponse.map (·.answer)
    upstreamId
    error := error.getD "" }

/-- The calls of `on_request_processed` that a finalized event makes: one when it is set. -/
def Forwarder.fire (fw : Forwarder) (event : Event) : List Event :=
  if fw.onRequestProcessed then [event] else []

/-- The scan of `ldns_dname_str_absolute` through escapes, once a `\` precedes the final `.`. -/
def absoluteScan : List Char → Bool
  | [] => false
  | ['.'] => true
  | '\\' :: a :: tail@(b :: c :: rest) =>
    if a.isDigit && b.isDigit && c.isDigit then absoluteScan rest
    else if a.isDigit then false else absoluteScan tail
  | '\\' :: a :: rest => if a.isDigit then false else absoluteScan rest
  | ['\\'] => false
  | _ :: rest => absoluteScan rest

/-- `ldns_dname_str_absolute`: whether a presentation name ends in an unescaped `.`. -/
def ldnsDnameStrAbsolute (s : String) : Bool :=
  let cs := s.data
  if cs = ['.'] then true
  else if cs.length < 2 then false
  else if cs.getLast? ≠ some '.' then false
  else if cs[cs.length - 2]? ≠ some '\\' then true
  else absoluteScan cs

/-- A presentation name with its trailing dot dropped, as `handle_message` and
`apply_cname_filter` pass it to the filter. -/
def pureDomain (name : String) : String :=
  if ldnsDnameStrAbsolute name then name.dropRight 1 else name

/-! ## The filter chain -/

/-- The effective rules of one `apply_filter` call. -/
def filterStep (x : Externals) (hostname : String) (last : List Rule) : List Rule :=
  x.getEffectiveRules (x.filterMatch hostname ++ last)

/-- Whether effective rules block: there is a decisive rule and it is not an exception. -/
def blocks (x : Externals) : List Rule → Bool
  | [] => false
  | first :: _ => !first.isException x

/-- The hostname the CNAME or IP filter of `handle_message` checks for an answer record. -/
def recordHostname (x : Externals) (rr : RR) : Option String :=
  if rr.type = RRType.cname then
    match rr.rdfs with
    | rdf :: _ => rdf.toStr?.map pureDomain
    | [] => none
  else if rr.type = RRType.a ∨ rr.type = RRType.aaaa then
    match rr.rdfs with
    | rdf :: _ => if rdf.data.length = 4 ∨ rdf.data.length = 16 then some (x.addrToStr rdf.data) else none
    | [] => none
  else none

/-- The filter chain: each hostname in turn, the effective rules carried from one to the next;
`true` when some decisive rule blocks. -/
def chainBlocks (x : Externals) : List String → List Rule → Bool
  | [], _ => false
  | hostname :: rest, last =>
    blocks x (filterStep x hostname last) || chainBlocks x rest (filterStep x hostname last)

/-- The chain of `handle_message` for a request and a reply: the query's name, then every
CNAME target and A/AAAA address of the reply's answer, in order. -/
def FilterChainPasses (x : Externals) (request reply : Pkt) : Prop :=
  chainBlocks x (pureDomain request.firstQuestion.owner.toStr :: reply.answer.filterMap (recordHostname x))
    [] = false

instance (x : Externals) (request reply : Pkt) : Decidable (FilterChainPasses x request reply) :=
  inferInstanceAs (Decidable (_ = false))

/-! ## `apply_filter` and the post-filter loop -/

/-- What an `apply_filter` call leaves: the blocking response when the decisive rule blocks,
the event, `last_effective_rules`, and the `on_request_processed` calls it made. -/
structure FilterResult where
  blocked : Option Pkt
  event : Event
  last : List Rule
  fired : List Event

section Apply

variable (x : Externals) (fw : Forwarder) (wallClock : Nat)

/-- `apply_filter`; `fireEvent` is its `fire_event` and the rcode of `blocked` its `out_rcode`. -/
def applyFilter (hostname : String) (request : Pkt) (originalResponse : Option Pkt)
    (event : Event) (lastEffectiveRules : List Rule) (fireEvent : Bool) : Except String FilterResult :=
  let effectiveRules := x.getEffectiveRules (x.filterMatch hostname ++ lastEffectiveRules)
  let event := eventAppendRules x event effectiveRules
  if blocks x effectiveRules then do
    let response ← createBlockingResponse x fw.settings wallClock request effectiveRules
    let finalized := finalizeProcessedEvent event (some request) (some response) originalResponse none none
    if fireEvent then .ok ⟨some response, finalized, effectiveRules, fw.fire finalized⟩
    else .ok ⟨some response, event, effectiveRules, []⟩
  else .ok ⟨none, event, effectiveRules, []⟩

/-- `apply_cname_filter`. -/
def applyCnameFilter (cnameRr : RR) (request response : Pkt) (event : Event)
    (lastEffectiveRules : List Rule) : Except String FilterResult :=
  match cnameRr.rdfs with
  | [] => .ok ⟨none, event, lastEffectiveRules, []⟩
  | rdf :: _ =>
    match rdf.toStr? with
    | none => .ok ⟨none, event, lastEffectiveRules, []⟩
    | some cname => applyFilter x fw wallClock (pureDomain cname) request (some response) event
        lastEffectiveRules true

/-- `apply_ip_filter`; `ipv4_address_size` and `ipv6_address_size` are 4 and 16. -/
def applyIpFilter (rr : RR) (request response : Pkt) (event : Event)
    (lastEffectiveRules : List Rule) : Except String FilterResult :=
  match rr.rdfs with
  | [] => .ok ⟨none, event, lastEffectiveRules, []⟩
  | rdf :: _ =>
    if rdf.data.length ≠ 4 ∧ rdf.data.length ≠ 16 then .ok ⟨none, event, lastEffectiveRules, []⟩
    else applyFilter x fw wallClock (x.addrToStr rdf.data) request (some response) event
      lastEffectiveRules true

/-- The loop of `handle_message` over the answer records: the CNAME filter, then the IP
filter, stopping at the first blocking response. -/
def postFilter (request response : Pkt) : List RR → Event → List Rule → Except String FilterResult
  | [], event, last => .ok ⟨none, event, last, []⟩
  | rr :: rrs, event, last => do
    let r ← if rr.type = RRType.cname then applyCnameFilter x fw wallClock rr request response event last
      else .ok ⟨none, event, last, []⟩
    match r.blocked with
    | some _ => .ok r
    | none =>
      let r ← if rr.type = RRType.a ∨ rr.type = RRType.aaaa then
          applyIpFilter x fw wallClock rr request response r.event r.last
        else .ok ⟨none, r.event, r.last, []⟩
      match r.blocked with
      | some _ => .ok r
      | none => postFilter request response rrs r.event r.last

/-- The one `apply_filter` call the post-filter loop makes for a record, if any. -/
def recordFilter (request response : Pkt) (rr : RR) (event : Event) (last : List Rule) :
    Except String FilterResult :=
  match recordHostname x rr with
  | some hostname => applyFilter x fw wallClock hostname request (some response) event last true
  | none => .ok ⟨none, event, last, []⟩

theorem except_bind_ok {ε α β : Type} (a : α) (f : α → Except ε β) :
    (Except.ok a >>= f) = f a := rfl

theorem postFilter_cons (request response : Pkt) (rr : RR) (rrs : List RR) (event : Event)
    (last : List Rule) :
    postFilter x fw wallClock request response (rr :: rrs) event last =
      (recordFilter x fw wallClock request response rr event last >>= fun r =>
        match r.blocked with
        | some _ => .ok r
        | none => postFilter x fw wallClock request response rrs r.event r.last) := by
  have hCname : RRType.cname ≠ RRType.a ∧ RRType.cname ≠ RRType.aaaa := by decide
  simp only [postFilter, recordFilter, recordHostname, applyCnameFilter, applyIpFilter]
  by_cases hc : rr.type = RRType.cname
  · simp only [hc, if_true, hCname, or_self, if_false]
    cases rr.rdfs with
    | nil => rfl
    | cons rdf _ =>
      dsimp only
      cases rdf.toStr? with
      | none => rfl
      | some cname =>
        dsimp only [Option.map_some']
        cases applyFilter x fw wallClock (pureDomain cname) request (some response) event last true with
        | error e => rfl
        | ok r => cases r.blocked <;> rfl
  · simp only [hc, if_false, except_bind_ok]
    by_cases hip : rr.type = RRType.a ∨ rr.type = RRType.aaaa
    · simp only [hip, if_true]
      cases rr.rdfs with
      | nil => rfl
      | cons rdf _ =>
        dsimp only
        by_cases hs : rdf.data.length = 4 ∨ rdf.data.length = 16
        · rw [if_neg (by omega), if_pos hs]
        · rw [if_pos (by omega), if_neg hs]
    · simp only [hip, if_false]
      rfl

theorem applyFilter_spec {hostname : String} {request : Pkt} {originalResponse : Option Pkt}
    {event : Event} {last : List Rule} {fireEvent : Bool} {r : FilterResult}
    (h : applyFilter x fw wallClock hostname request originalResponse event last fireEvent = .ok r) :
    r.last = filterStep x hostname last ∧ r.blocked.isSome = blocks x (filterStep x hostname last) ∧
      r.fired = if r.blocked.isSome && fireEvent then fw.fire r.event else [] := by
  dsimp only [applyFilter] at h
  split_ifs at h with hb hf
  · obtain ⟨_, -, h⟩ := except_bind_eq_ok h
    cases h
    simp [filterStep, hb, hf]
  · obtain ⟨_, -, h⟩ := except_bind_eq_ok h
    cases h
    simp [filterStep, hb, hf]
  · cases h
    simp [filterStep, hb]

theorem applyFilter_blocked {hostname : String} {request : Pkt} {originalResponse : Option Pkt}
    {event : Event} {last : List Rule} {fireEvent : Bool} {r : FilterResult} {b : Pkt}
    (h : applyFilter x fw wallClock hostname request originalResponse event last fireEvent = .ok r)
    (hb : r.blocked = some b) :
    createBlockingResponse x fw.settings wallClock request (filterStep x hostname last) = .ok b := by
  dsimp only [applyFilter] at h
  split_ifs at h
  · obtain ⟨response, hResponse, h⟩ := except_bind_eq_ok h
    cases h; cases hb; exact hResponse
  · obtain ⟨response, hResponse, h⟩ := except_bind_eq_ok h
    cases h; cases hb; exact hResponse
  · cases h; cases hb

theorem applyFilter_error {hostname : String} {request : Pkt} {originalResponse : Option Pkt}
    {event : Event} {last : List Rule} {fireEvent : Bool} {e : String}
    (h : applyFilter x fw wallClock hostname request originalResponse event last fireEvent = .error e) :
    createBlockingResponse x fw.settings wallClock request (filterStep x hostname last) = .error e := by
  dsimp only [applyFilter] at h
  split_ifs at h
  all_goals
    cases hc : createBlockingResponse x fw.settings wallClock request (filterStep x hostname last) <;>
      simp only [filterStep] at hc <;> rw [hc] at h <;> cases h
  all_goals rfl

theorem recordFilter_spec {request response : Pkt} {rr : RR} {event : Event} {last : List Rule}
    {r : FilterResult} (h : recordFilter x fw wallClock request response rr event last = .ok r) :
    r.fired = (if r.blocked.isSome then fw.fire r.event else []) ∧
      match recordHostname x rr with
      | some hostname => r.last = filterStep x hostname last ∧
          r.blocked.isSome = blocks x (filterStep x hostname last)
      | none => r = ⟨none, event, last, []⟩ := by
  unfold recordFilter at h
  cases hHost : recordHostname x rr with
  | none => rw [hHost] at h; cases h; simp
  | some hostname =>
    rw [hHost] at h
    obtain ⟨hLast, hBlocked, hFired⟩ := applyFilter_spec x fw wallClock h
    exact ⟨by simpa using hFired, hLast, hBlocked⟩

theorem postFilter_spec (request response : Pkt) :
    ∀ (rrs : List RR) (event : Event) (last : List Rule) (r : FilterResult),
      postFilter x fw wallClock request response rrs event last = .ok r →
      r.fired = (if r.blocked.isSome then fw.fire r.event else []) ∧
      (r.blocked = none → chainBlocks x (rrs.filterMap (recordHostname x)) last = false)
  | [], event, last, r, h => by cases h; simp [chainBlocks]
  | rr :: rrs, event, last, r, h => by
    rw [postFilter_cons] at h
    obtain ⟨r₁, h₁, h⟩ := except_bind_eq_ok h
    obtain ⟨hFired₁, hStep⟩ := recordFilter_spec x fw wallClock h₁
    cases hb : r₁.blocked with
    | some _ =>
      rw [hb] at h
      cases h
      exact ⟨hFired₁, by simp [hb]⟩
    | none =>
      rw [hb] at h
      obtain ⟨hFired, hChain⟩ := postFilter_spec request response rrs r₁.event r₁.last r h
      refine ⟨hFired, fun hNone => ?_⟩
      have hRest := hChain hNone
      cases hHost : recordHostname x rr with
      | none =>
        rw [hHost] at hStep
        subst hStep
        simpa [List.filterMap_cons, hHost] using hRest
      | some hostname =>
        rw [hHost] at hStep
        obtain ⟨hLast, hBlocked⟩ := hStep
        rw [hb, hLast.symm] at hBlocked
        simp only [List.filterMap_cons, hHost, chainBlocks, ← hLast, ← hBlocked, hRest]
        rfl

/-! ### Well-formed rule records along the filter calls -/

theorem Forwarder.fire_rulesAligned {event : Event} (h : event.RulesAligned) :
    ∀ ev ∈ fw.fire event, ev.RulesAligned := by
  unfold Forwarder.fire
  split
  · simpa using h
  · exact List.forall_mem_nil _

theorem applyFilter_rulesAligned {hostname : String} {request : Pkt} {originalResponse : Option Pkt}
    {event : Event} {last : List Rule} {fireEvent : Bool} {r : FilterResult}
    (h : applyFilter x fw wallClock hostname request originalResponse event last fireEvent = .ok r)
    (hEvent : event.RulesAligned) : r.event.RulesAligned ∧ ∀ ev ∈ r.fired, ev.RulesAligned := by
  have hAppended := hEvent.eventAppendRules x (x.getEffectiveRules (x.filterMatch hostname ++ last))
  dsimp only [applyFilter] at h
  split_ifs at h
  · obtain ⟨_, -, h⟩ := except_bind_eq_ok h
    cases h
    exact ⟨hAppended, fw.fire_rulesAligned hAppended⟩
  · obtain ⟨_, -, h⟩ := except_bind_eq_ok h
    cases h
    exact ⟨hAppended, List.forall_mem_nil _⟩
  · cases h
    exact ⟨hAppended, List.forall_mem_nil _⟩

theorem recordFilter_rulesAligned {request response : Pkt} {rr : RR} {event : Event}
    {last : List Rule} {r : FilterResult}
    (h : recordFilter x fw wallClock request response rr event last = .ok r)
    (hEvent : event.RulesAligned) : r.event.RulesAligned ∧ ∀ ev ∈ r.fired, ev.RulesAligned := by
  unfold recordFilter at h
  split at h
  · exact applyFilter_rulesAligned x fw wallClock h hEvent
  · cases h
    exact ⟨hEvent, List.forall_mem_nil _⟩

theorem postFilter_rulesAligned (request response : Pkt) :
    ∀ (rrs : List RR) (event : Event) (last : List Rule) (r : FilterResult),
      postFilter x fw wallClock request response rrs event last = .ok r → event.RulesAligned →
      r.event.RulesAligned ∧ ∀ ev ∈ r.fired, ev.RulesAligned
  | [], _, _, _, h, hEvent => by
    cases h
    exact ⟨hEvent, List.forall_mem_nil _⟩
  | rr :: rrs, event, last, r, h, hEvent => by
    rw [postFilter_cons] at h
    obtain ⟨r₁, h₁, h⟩ := except_bind_eq_ok h
    have hStep := recordFilter_rulesAligned x fw wallClock h₁ hEvent
    cases hb : r₁.blocked with
    | some _ =>
      rw [hb] at h
      cases h
      exact hStep
    | none =>
      rw [hb] at h
      exact postFilter_rulesAligned request response rrs r₁.event r₁.last r h hStep.1

end Apply

/-! ## Custom blocking addresses along `apply_filter` -/

section CustomAddress

variable (x : Externals) (wallClock : Nat)

/-- After a successful `init`, no call of `create_blocking_response` or `apply_filter` fails an
assertion. On the custom-address path an A or AAAA query gets the SOA response when its custom
address is empty, and otherwise a record of that address, which is valid. -/
theorem createBlockingResponse_asserts_of_init {settings : Settings}
    {upstreams fallbacks : List (Except String Upstream)} {filter : Except (Option String) Unit}
    {onRequestProcessed : Bool} {fw : Forwarder}
    (hInit : init x settings upstreams fallbacks filter onRequestProcessed = .ok fw)
    (request : Pkt) (rule : Rule) (rules : List Rule) :
    (∀ expr, createBlockingResponse x fw.settings wallClock request (rule :: rules) ≠
      .error (assertionFailed expr)) ∧
    (∀ hostname originalResponse event last fireEvent expr,
      applyFilter x fw wallClock hostname request originalResponse event last fireEvent ≠
        .error (assertionFailed expr)) ∧
    (fw.settings.blockingMode = .customAddress →
      (rule.ip = none ∨ rulesContainBlockingIp (rule :: rules) = true) →
      (request.firstQuestion.type = RRType.a →
        fw.settings.customBlockingIpv4 = "" ∧
          createBlockingResponse x fw.settings wallClock request (rule :: rules) =
            .ok (createSoaResponse x fw.settings wallClock request soaRetryDefault) ∨
        fw.settings.customBlockingIpv4 ≠ "" ∧ x.isValidIp4 fw.settings.customBlockingIpv4 = true ∧
          createBlockingResponse x fw.settings wallClock request (rule :: rules) =
            .ok ((createResponseByRequest request).pushAnswer
              { owner := request.firstQuestion.owner, ttl := fw.settings.blockedResponseTtlSecs,
                type := RRType.a, cls := request.firstQuestion.cls,
                rdfs := [x.rdfNewFrmStr .a fw.settings.customBlockingIpv4] })) ∧
      (request.firstQuestion.type = RRType.aaaa →
        fw.settings.customBlockingIpv6 = "" ∧
          createBlockingResponse x fw.settings wallClock request (rule :: rules) =
            .ok (createSoaResponse x fw.settings wallClock request soaRetryDefault) ∨
        fw.settings.customBlockingIpv6 ≠ "" ∧ x.isValidIp6 fw.settings.customBlockingIpv6 = true ∧
          createBlockingResponse x fw.settings wallClock request (rule :: rules) =
            .ok ((createResponseByRequest request).pushAnswer
              { owner := request.firstQuestion.owner, ttl := fw.settings.blockedResponseTtlSecs,
                type := RRType.aaaa, cls := request.firstQuestion.cls,
                rdfs := [x.rdfNewFrmStr .aaaa fw.settings.customBlockingIpv6] }))) := by
  obtain ⟨rfl, hValid⟩ := init_validates hInit
  have hNoAssert := createBlockingResponse_ne_assertionFailed x fw.settings wallClock hValid request
  refine ⟨hNoAssert _, fun hostname originalResponse event last fireEvent expr h =>
    hNoAssert _ expr (applyFilter_error x fw wallClock h), fun hCustom hPath => ⟨fun hA => ?_, fun hAaaa => ?_⟩⟩
  · rw [createBlockingResponse_eq_unspec x fw.settings wallClock hCustom hPath (.inl hA),
      createUnspecOrCustomAddressResponse_customA x fw.settings wallClock hCustom hA]
    exact customAddress_outcome ((hValid hCustom).1)
  · rw [createBlockingResponse_eq_unspec x fw.settings wallClock hCustom hPath (.inr hAaaa),
      createUnspecOrCustomAddressResponse_customAaaa x fw.settings wallClock hCustom hAaaa]
    exact customAddress_outcome ((hValid hCustom).2)

def customSettings : Settings :=
  { sampleSettings with blockingMode := .customAddress, customBlockingIpv4 := "1.2.3.4" }

theorem createBlockingResponse_asserts_of_init_custom :
    init sampleExternals customSettings [.ok sampleUpstream] [] (.ok ()) true =
        .ok (sampleForwarder customSettings) ∧
      createBlockingResponse sampleExternals customSettings 0 (sampleQuery goodName RRType.a) [adblockRule] =
        .ok ((createResponseByRequest (sampleQuery goodName RRType.a)).pushAnswer
          { owner := goodName, ttl := customSettings.blockedResponseTtlSecs, type := RRType.a, cls := classIn,
            rdfs := [sampleExternals.rdfNewFrmStr .a "1.2.3.4"] }) ∧
      createBlockingResponse sampleExternals customSettings 0 (sampleQuery goodName RRType.aaaa) [adblockRule] =
        .ok (createSoaResponse sampleExternals customSettings 0 (sampleQuery goodName RRType.aaaa)
          soaRetryDefault) := by
  have hInit : init sampleExternals customSettings [.ok sampleUpstream] [] (.ok ()) true =
      .ok (sampleForwarder customSettings) := rfl
  refine ⟨hInit, ?_, ?_⟩
  · rcases ((createBlockingResponse_asserts_of_init sampleExternals 0 hInit (sampleQuery goodName RRType.a)
      adblockRule []).2.2 rfl (.inl rfl)).1 rfl with ⟨hEmpty, -⟩ | ⟨-, -, h⟩
    · exact absurd hEmpty (by decide)
    · exact h
  · rcases ((createBlockingResponse_asserts_of_init sampleExternals 0 hInit (sampleQuery goodName RRType.aaaa)
      adblockRule []).2.2 rfl (.inl rfl)).2 rfl with ⟨-, h⟩ | ⟨hNe, -⟩
    · exact h
    · exact absurd rfl hNe

end CustomAddress

end DnsProxy
