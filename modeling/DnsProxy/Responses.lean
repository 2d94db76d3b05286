import DnsProxy.Config

/-! # Synthesized responses

The replies the forwarder makes up itself, all built on `create_response_by_request`, and
`create_blocking_response`, which picks a builder by the query type, the blocking mode and the
decisive rule.
-/

namespace DnsProxy

set_option autoImplicit false

/-- `MOZILLA_DOH_HOST`. -/
def mozillaDohHost : String := "use-application-dns.net."

/-- `SOA_RETRY_DEFAULT`. -/
def soaRetryDefault : Nat := 900

/-- `SOA_RETRY_IPV6_BLOCK`. -/
def soaRetryIpv6Block : Nat := 60

/-- The root name, read only where the source would dereference a missing question. -/
def DName.root : DName := ⟨[], by simp, by simp⟩

/-- `ldns_rr_list_rr(ldns_pkt_question(request), 0)` for a request with a question; the
forwarder builds the responses below only after checking that it has one. -/
def Pkt.firstQuestion (p : Pkt) : RR :=
  p.question.headD { owner := DName.root, ttl := ldnsDefaultTtl, type := 0, cls := 0, rdfs := [] }

/-- `ldns_pkt_push_rr` into the answer section. -/
def Pkt.pushAnswer (p : Pkt) (rr : RR) : Pkt := { p with answer := p.answer ++ [rr] }

/-- `ldns_pkt_push_rr` into the authority section. -/
def Pkt.pushAuthority (p : Pkt) (rr : RR) : Pkt := { p with authority := p.authority ++ [rr] }

/-- `create_response_by_request`. -/
def createResponseByRequest (request : Pkt) : Pkt :=
  let response := match request.question with
    | question :: _ =>
      ldnsPktQueryNew question.owner (if question.type ≠ RRType.aaaa then RRType.a else RRType.aaaa)
        classIn (ldnsRd ||| ldnsRa)
    | [] => Pkt.setFlags {} (ldnsRd ||| ldnsRa)
  { response with id := request.id, qr := true, question := request.question }

/-- `get_mbox`. -/
def getMbox (request : Pkt) : String :=
  let zone := request.firstQuestion.owner.toStr
  "hostmaster." ++ if 0 < zone.length ∧ zone.front ≠ '.' then zone else ""

/-- `rules[i]->ip.value()`, which throws `std::bad_optional_access` for a rule without an IP. -/
def Rule.ipValue (r : Rule) : Except String String :=
  match r.ip with
  | some ip => .ok ip
  | none => .error "bad optional access"

/-- `BLOCKING_IPS`. -/
def blockingIps : List String := ["0.0.0.0", "127.0.0.1", "::", "::1", "[::]", "[::1]"]

/-- `rules_contain_blocking_ip`. -/
def rulesContainBlockingIp (rules : List Rule) : Bool :=
  rules.any fun r => match r.ip with
    | some ip => decide (ip ∈ blockingIps)
    | none => false

section Builders

variable (x : Externals) (settings : Settings) (wallClock : Nat)

/-- `create_soa`; `wallClock` is `time(nullptr)`. -/
def createSoa (request : Pkt) (retrySecs : Nat) : RR :=
  { owner := request.firstQuestion.owner, ttl := settings.blockedResponseTtlSecs,
    type := RRType.soa, cls := classIn,
    rdfs := [x.dnameNewFrmStr "fake-for-negative-caching.adguard.com.",
      x.dnameNewFrmStr (getMbox request), .int32 .time (wallClock + 100500), .int32 .period 1800,
      .int32 .period retrySecs, .int32 .period 604800, .int32 .period 86400] }

/-- `create_nxdomain_response`. -/
def createNxdomainResponse (request : Pkt) : Pkt :=
  Pkt.pushAuthority { createResponseByRequest request with rcode := Rcode.nxdomain }
    (createSoa x settings wallClock request 900)

/-- `create_refused_response`. -/
def createRefusedResponse (request : Pkt) : Pkt :=
  { createResponseByRequest request with rcode := Rcode.refused }

/-- `create_soa_response`. -/
def createSoaResponse (request : Pkt) (retrySecs : Nat) : Pkt :=
  Pkt.pushAuthority { createResponseByRequest request with rcode := Rcode.noerror }
    (createSoa x settings wallClock request retrySecs)

/-- `create_servfail_response`. -/
def createServfailResponse (request : Pkt) : Pkt :=
  { createResponseByRequest request with rcode := Rcode.servfail }

/-- `create_arecord_response` and `create_aaaarecord_response`: one record of the query's
owner carrying one address field per rule. The rules given have an IP. -/
def createAddressRecordResponse (type : Nat) (kind : RdfKind) (request : Pkt) (rules : List Rule) :
    Pkt :=
  (createResponseByRequest request).pushAnswer
    { owner := request.firstQuestion.owner, ttl := settings.blockedResponseTtlSecs, type,
      cls := classIn, rdfs := rules.map fun r => x.rdfNewFrmStr kind (r.ip.getD "") }

/-- `create_arecord_response`. -/
def createArecordResponse (request : Pkt) (rules : List Rule) : Pkt :=
  createAddressRecordResponse x settings RRType.a .a request rules

/-- `create_aaaarecord_response`. -/
def createAaaarecordResponse (request : Pkt) (rules : List Rule) : Pkt :=
  createAddressRecordResponse x settings RRType.aaaa .aaaa request rules

/-- `create_response_with_ips`. -/
def createResponseWithIps (request : Pkt) (rules : List Rule) : Except String Pkt :=
  let type := request.firstQuestion.type
  let empty := createSoaResponse x settings wallClock request soaRetryDefault
  if type = RRType.a then do
    let ipv4Rules ← rules.filterM fun r => return x.isValidIp4 (← r.ipValue)
    pure (if 0 < ipv4Rules.length then createArecordResponse x settings request ipv4Rules else empty)
  else if type = RRType.aaaa then do
    let ipv6Rules ← rules.filterM fun r => return !x.isValidIp4 (← r.ipValue)
    pure (if 0 < ipv6Rules.length then createAaaarecordResponse x settings request ipv6Rules else empty)
  else .ok empty

/-- A failed `assert(expr)`: the process stops with the asserted expression. -/
def assertionFailed (expr : String) : String := "Assertion failed: " ++ expr

/-- `create_unspec_or_custom_address_response`; a failed `assert` ends it with `assertionFailed`. -/
def createUnspecOrCustomAddressResponse (request : Pkt) : Except String Pkt :=
  let question := request.firstQuestion
  let type := question.type
  let custom := settings.blockingMode = .customAddress
  if ¬(type = RRType.a ∨ type = RRType.aaaa) then
    .error (assertionFailed "type == LDNS_RR_TYPE_A || type == LDNS_RR_TYPE_AAAA")
  else if custom ∧ type = RRType.a ∧ settings.customBlockingIpv4 = "" then
    .ok (createSoaResponse x settings wallClock request soaRetryDefault)
  else if custom ∧ type = RRType.aaaa ∧ settings.customBlockingIpv6 = "" then
    .ok (createSoaResponse x settings wallClock request soaRetryDefault)
  else do
    let rdf ←
      if type = RRType.a then
        if custom then
          if x.isValidIp4 settings.customBlockingIpv4 then .ok (x.rdfNewFrmStr .a settings.customBlockingIpv4)
          else .error (assertionFailed "utils::is_valid_ip4(settings->custom_blocking_ipv4)")
        else .ok (x.rdfNewFrmStr .a "0.0.0.0")
      else
        if custom then
          if x.isValidIp6 settings.customBlockingIpv6 then .ok (x.rdfNewFrmStr .aaaa settings.customBlockingIpv6)
          else .error (assertionFailed "utils::is_valid_ip6(settings->custom_blocking_ipv6)")
        else .ok (x.rdfNewFrmStr .aaaa "::")
    pure ((createResponseByRequest request).pushAnswer
      { owner := question.owner, ttl := settings.blockedResponseTtlSecs, type, cls := question.cls,
        rdfs := [rdf] })

/-- `create_blocking_response`; `rules` is never empty here, and its first rule decides. -/
def createBlockingResponse (request : Pkt) (rules : List Rule) : Except String Pkt :=
  let adblock := match rules with
    | effectiveRule :: _ => effectiveRule.ip.isNone
    | [] => true
  let type := request.firstQuestion.type
  if type ≠ RRType.a ∧ type ≠ RRType.aaaa then
    .ok <| match settings.blockingMode with
      | .default =>
        if adblock then createRefusedResponse request
        else createSoaResponse x settings wallClock request soaRetryDefault
      | .refused => createRefusedResponse request
      | .nxdomain => createNxdomainResponse x settings wallClock request
      | .unspecifiedAddress | .customAddress =>
        createSoaResponse x settings wallClock request soaRetryDefault
  else if adblock then
    match settings.blockingMode with
      | .default | .refused => .ok (createRefusedResponse request)
      | .nxdomain => .ok (createNxdomainResponse x settings wallClock request)
      | .unspecifiedAddress | .customAddress => createUnspecOrCustomAddressResponse x settings wallClock request
  else if rulesContainBlockingIp rules then
    match settings.blockingMode with
      | .refused => .ok (createRefusedResponse request)
      | .nxdomain => .ok (createNxdomainResponse x settings wallClock request)
      | .default | .unspecifiedAddress | .customAddress =>
        createUnspecOrCustomAddressResponse x settings wallClock request
  else
    createResponseWithIps x settings wallClock request rules

end Builders

/-! ## Shapes of the synthesized responses -/

@[simp] theorem createResponseByRequest_answer (request : Pkt) :
    (createResponseByRequest request).answer = [] := by
  unfold createResponseByRequest; split <;> rfl

@[simp] theorem createResponseByRequest_authority (request : Pkt) :
    (createResponseByRequest request).authority = [] := by
  unfold createResponseByRequest; split <;> rfl

@[simp] theorem createResponseByRequest_rcode (request : Pkt) :
    (createResponseByRequest request).rcode = Rcode.noerror := by
  unfold createResponseByRequest; split <;> rfl

@[simp] theorem createResponseByRequest_id (request : Pkt) :
    (createResponseByRequest request).id = request.id := rfl

@[simp] theorem createResponseByRequest_question (request : Pkt) :
    (createResponseByRequest request).question = request.question := rfl

section Shapes

variable (x : Externals) (settings : Settings) (wallClock : Nat) (request : Pkt)

theorem createNxdomainResponse_shape :
    (createNxdomainResponse x settings wallClock request).rcode = Rcode.nxdomain ∧
      (createNxdomainResponse x settings wallClock request).answer = [] ∧
      (createNxdomainResponse x settings wallClock request).authority =
        [createSoa x settings wallClock request 900] := by
  simp [createNxdomainResponse, Pkt.pushAuthority]

theorem createSoaResponse_shape (retrySecs : Nat) :
    (createSoaResponse x settings wallClock request retrySecs).rcode = Rcode.noerror ∧
      (createSoaResponse x settings wallClock request retrySecs).answer = [] ∧
      (createSoaResponse x settings wallClock request retrySecs).authority =
        [createSoa x settings wallClock request retrySecs] := by
  simp [createSoaResponse, Pkt.pushAuthority]

theorem createRefusedResponse_shape :
    (createRefusedResponse request).rcode = Rcode.refused ∧
      (createRefusedResponse request).answer = [] := by
  simp [createRefusedResponse]

theorem except_bind_eq_ok {ε α β : Type} {m : Except ε α} {f : α → Except ε β} {b : β}
    (h : (m >>= f) = .ok b) : ∃ a, m = .ok a ∧ f a = .ok b := by
  cases m with
  | error e => cases h
  | ok a => exact ⟨a, rfl, h⟩

theorem createResponseWithIps_rcode {response : Pkt} (rules : List Rule)
    (h : createResponseWithIps x settings wallClock request rules = .ok response) :
    response.rcode = Rcode.noerror := by
  have hSoa := (createSoaResponse_shape x settings wallClock request soaRetryDefault).1
  dsimp only [createResponseWithIps] at h
  split_ifs at h
  · obtain ⟨_, _, h⟩ := except_bind_eq_ok h
    cases h
    split_ifs <;> simp [createArecordResponse, createAddressRecordResponse, Pkt.pushAnswer, hSoa]
  · obtain ⟨_, _, h⟩ := except_bind_eq_ok h
    cases h
    split_ifs <;> simp [createAaaarecordResponse, createAddressRecordResponse, Pkt.pushAnswer, hSoa]
  · cases h
    exact hSoa

theorem createUnspecOrCustomAddressResponse_rcode {response : Pkt}
    (h : createUnspecOrCustomAddressResponse x settings wallClock request = .ok response) :
    response.rcode = Rcode.noerror := by
  have hSoa := (createSoaResponse_shape x settings wallClock request soaRetryDefault).1
  dsimp only [createUnspecOrCustomAddressResponse] at h
  -- the type assert, then the SOA answers for an empty custom address
  obtain ⟨-, h⟩ | ⟨-, h⟩ := ite_eq_iff.mp h
  · cases h
  obtain ⟨-, h⟩ | ⟨-, h⟩ := ite_eq_iff.mp h
  · cases h; exact hSoa
  obtain ⟨-, h⟩ | ⟨-, h⟩ := ite_eq_iff.mp h
  · cases h; exact hSoa
  split_ifs at h <;> cases h <;> exact createResponseByRequest_rcode request

theorem createBlockingResponse_cases (rules : List Rule) :
    createBlockingResponse x settings wallClock request rules = .ok (createRefusedResponse request) ∨
    createBlockingResponse x settings wallClock request rules =
      .ok (createNxdomainResponse x settings wallClock request) ∨
    createBlockingResponse x settings wallClock request rules =
      .ok (createSoaResponse x settings wallClock request soaRetryDefault) ∨
    ((request.firstQuestion.type = RRType.a ∨ request.firstQuestion.type = RRType.aaaa) ∧
      createBlockingResponse x settings wallClock request rules =
        createUnspecOrCustomAddressResponse x settings wallClock request) ∨
    createBlockingResponse x settings wallClock request rules =
      createResponseWithIps x settings wallClock request rules := by
  dsimp only [createBlockingResponse]
  by_cases hType : request.firstQuestion.type ≠ RRType.a ∧ request.firstQuestion.type ≠ RRType.aaaa
  · rw [if_pos hType]
    split_ifs <;> rcases settings.blockingMode <;> simp
  · have hFamily : request.firstQuestion.type = RRType.a ∨ request.firstQuestion.type = RRType.aaaa :=
      (em _).imp_right fun hA => not_not.mp fun hAaaa => hType ⟨hA, hAaaa⟩
    rw [if_neg hType]
    split_ifs <;> rcases settings.blockingMode <;> simp [hFamily]

theorem createBlockingResponse_answer_of_rcode {response : Pkt} (rules : List Rule)
    (h : createBlockingResponse x settings wallClock request rules = .ok response)
    (hRcode : response.rcode ≠ Rcode.noerror) : response.answer = [] := by
  rcases createBlockingResponse_cases x settings wallClock request rules with
    hb | hb | hb | ⟨-, hb⟩ | hb <;> rw [hb] at h
  · cases h; exact (createRefusedResponse_shape request).2
  · cases h; exact (createNxdomainResponse_shape x settings wallClock request).2.1
  · cases h; exact absurd (createSoaResponse_shape x settings wallClock request _).1 hRcode
  · exact absurd (createUnspecOrCustomAddressResponse_rcode x settings wallClock request h) hRcode
  · exact absurd (createResponseWithIps_rcode x settings wallClock request rules h) hRcode

end Shapes

/-! ## Hosts-style rules -/

section HostsRules

variable (x : Externals) (settings : Settings) (wallClock : Nat)

theorem filterAuxM_ipValue (p : String → Bool) : ∀ rules acc : List Rule,
    List.filterAuxM (fun r => return p (← r.ipValue)) rules acc =
      if ∃ r ∈ rules, r.ip = none then .error "bad optional access"
      else .ok ((rules.filter fun r => p (r.ip.getD "")).reverse ++ acc)
  | [], acc => rfl
  | r :: rs, acc => by
    obtain ⟨text, filterId, _ | ip, props⟩ := r
    · simp [List.filterAuxM, Rule.ipValue, bind, Except.bind]
    · have ih := filterAuxM_ipValue p rs (cond (p ip) (⟨text, filterId, some ip, props⟩ :: acc) acc)
      simp only [List.filterAuxM, Rule.ipValue, bind, Except.bind, pure, Except.pure] at ih ⊢
      rw [ih]
      cases hp : p ip <;> simp [List.filter_cons, hp]

theorem filterM_ipValue (p : String → Bool) (rules : List Rule) :
    rules.filterM (fun r => return p (← r.ipValue)) =
      if ∃ r ∈ rules, r.ip = none then .error "bad optional access"
      else .ok (rules.filter fun r => p (r.ip.getD "")) := by
  simp only [List.filterM, filterAuxM_ipValue, List.append_nil]
  split
  · rfl
  · exact congrArg Except.ok (List.reverse_reverse _)

theorem filterM_ipValue_bind (p : String → Bool) (rules : List Rule) (build : List Rule → Pkt)
    (empty : Pkt) :
    (rules.filterM (fun r => return p (← r.ipValue)) >>= fun family =>
        pure (if 0 < family.length then build family else empty)) =
      if ∃ r ∈ rules, r.ip = none then .error "bad optional access"
      else if rules.filter (fun r => p (r.ip.getD "")) = [] then .ok empty
      else .ok (build (rules.filter fun r => p (r.ip.getD ""))) := by
  rw [filterM_ipValue]
  split
  · rfl
  · by_cases hFamily : rules.filter (fun r => p (r.ip.getD "")) = []
    · rw [if_pos hFamily, hFamily]; rfl
    · rw [if_neg hFamily]
      exact congrArg Except.ok (if_pos (List.length_pos.mpr hFamily))

/-- A hosts-style decision with no blocking IP answers an A or AAAA query with one record that
carries, as its fields and in order, the IPs of the rules of the query's family, or with the SOA
response when no rule is of that family. A rule without an IP anywhere in the list makes
`r->ip.value()` throw. -/
theorem createBlockingResponse_of_hostsRules {request : Pkt} {r : Rule} {rs : List Rule}
    (hIp : r.ip ≠ none) (hNoBlocking : rulesContainBlockingIp (r :: rs) = false)
    (hType : request.firstQuestion.type = RRType.a ∨ request.firstQuestion.type = RRType.aaaa) :
    let isA := decide (request.firstQuestion.type = RRType.a)
    let family := (r :: rs).filter fun rule => x.isValidIp4 (rule.ip.getD "") == isA
    createBlockingResponse x settings wallClock request (r :: rs) =
      if ∃ rule ∈ r :: rs, rule.ip = none then .error "bad optional access"
      else if family = [] then .ok (createSoaResponse x settings wallClock request soaRetryDefault)
      else .ok ((createResponseByRequest request).pushAnswer
        { owner := request.firstQuestion.owner, ttl := settings.blockedResponseTtlSecs,
          type := request.firstQuestion.type, cls := classIn,
          rdfs := family.map fun rule => x.rdfNewFrmStr (if isA then .a else .aaaa) (rule.ip.getD "") }) := by
  have hAdblock : r.ip.isNone = false := by cases h : r.ip <;> simp_all
  have hHosts : createBlockingResponse x settings wallClock request (r :: rs) =
      createResponseWithIps x settings wallClock request (r :: rs) := by
    simp only [createBlockingResponse, hAdblock, hNoBlocking, Bool.false_eq_true, if_false]
    rw [if_neg (by rcases hType with h | h <;> simp [h])]
  rw [hHosts]
  rcases hType with hA | hAaaa
  · simp only [createResponseWithIps, hA, if_true, decide_True, beq_true, filterM_ipValue_bind,
      createArecordResponse, createAddressRecordResponse]
  · have hNotA : request.firstQuestion.type ≠ RRType.a := by rw [hAaaa]; decide
    simp only [createResponseWithIps, hNotA, if_false, decide_False, beq_false]
    simp only [hAaaa, if_true, filterM_ipValue_bind, createAaaarecordResponse,
      createAddressRecordResponse, Bool.false_eq_true, if_false]

def cdnName : DName := ⟨[asciiLabel "cdn", asciiLabel "example"], by decide, by decide⟩

def cdnRules : List Rule :=
  [⟨"10.0.0.1 cdn.example", 1, some "10.0.0.1", 0⟩, ⟨"10.0.0.2 cdn.example", 1, some "10.0.0.2", 0⟩]

def cdnExternals : Externals :=
  { sampleExternals with isValidIp4 := fun ip => ip == "10.0.0.1" || ip == "10.0.0.2" }

theorem createBlockingResponse_of_hostsRules_cdn :
    (some "10.0.0.1" : Option String) ≠ none ∧
      rulesContainBlockingIp cdnRules = false ∧
      (sampleQuery cdnName RRType.a).firstQuestion.type = RRType.a ∧
      createBlockingResponse cdnExternals sampleSettings 0 (sampleQuery cdnName RRType.a) cdnRules =
        .ok ((createResponseByRequest (sampleQuery cdnName RRType.a)).pushAnswer
          { owner := cdnName, ttl := 10, type := RRType.a, cls := classIn,
            rdfs := [.raw .a [], .raw .a []] }) :=
  ⟨nofun, rfl, rfl,
    (createBlockingResponse_of_hostsRules cdnExternals sampleSettings 0
      (show (some "10.0.0.1" : Option String) ≠ none from nofun)
      (show rulesContainBlockingIp cdnRules = false from rfl)
      (show (sampleQuery cdnName RRType.a).firstQuestion.type = RRType.a ∨ _ from .inl rfl)).trans rfl⟩

/-- The spec's example gets one record carrying both addresses, not one record per rule; and
an A query whose rules are a hosts-style rule for another family and an adblock-style rule
throws instead of skipping the rule without an IP. -/
theorem createBlockingResponse_hosts_single_record :
    (∃ response, createBlockingResponse cdnExternals sampleSettings 0 (sampleQuery cdnName RRType.a)
        cdnRules = .ok response ∧ response.answer.map (·.rdfs.length) = [2]) ∧
      createBlockingResponse sampleExternals sampleSettings 0 (sampleQuery mixedName RRType.a)
        [hostsRule, adblockRule] = .error "bad optional access" :=
  ⟨⟨_, rfl, by decide⟩, rfl⟩

end HostsRules

/-! ## Custom blocking addresses -/

section CustomAddress

variable (x : Externals) (settings : Settings) (wallClock : Nat)

theorem assertionFailed_ne_badOptionalAccess (expr : String) : assertionFailed expr ≠ "bad optional access" := by
  intro h
  have := congrArg (fun s => s.data.head?) h
  simp [assertionFailed] at this

theorem createResponseWithIps_error {request : Pkt} {rules : List Rule} {e : String}
    (h : createResponseWithIps x settings wallClock request rules = .error e) : e = "bad optional access" := by
  dsimp only [createResponseWithIps] at h
  split_ifs at h
  all_goals
    rw [filterM_ipValue_bind] at h
    split_ifs at h
    exact (Except.error.inj h).symm

theorem createUnspecOrCustomAddressResponse_customA {request : Pkt}
    (hCustom : settings.blockingMode = .customAddress) (hA : request.firstQuestion.type = RRType.a) :
    createUnspecOrCustomAddressResponse x settings wallClock request =
      if settings.customBlockingIpv4 = "" then .ok (createSoaResponse x settings wallClock request soaRetryDefault)
      else if x.isValidIp4 settings.customBlockingIpv4 then
        .ok ((createResponseByRequest request).pushAnswer
          { owner := request.firstQuestion.owner, ttl := settings.blockedResponseTtlSecs, type := RRType.a,
            cls := request.firstQuestion.cls, rdfs := [x.rdfNewFrmStr .a settings.customBlockingIpv4] })
      else .error (assertionFailed "utils::is_valid_ip4(settings->custom_blocking_ipv4)") := by
  have hNotAaaa : RRType.a ≠ RRType.aaaa := by decide
  by_cases hEmpty : settings.customBlockingIpv4 = "" <;>
    by_cases hValid : x.isValidIp4 settings.customBlockingIpv4 <;>
    simp [createUnspecOrCustomAddressResponse, hCustom, hA, hNotAaaa, hEmpty, hValid]

theorem createUnspecOrCustomAddressResponse_customAaaa {request : Pkt}
    (hCustom : settings.blockingMode = .customAddress) (hAaaa : request.firstQuestion.type = RRType.aaaa) :
    createUnspecOrCustomAddressResponse x settings wallClock request =
      if settings.customBlockingIpv6 = "" then .ok (createSoaResponse x settings wallClock request soaRetryDefault)
      else if x.isValidIp6 settings.customBlockingIpv6 then
        .ok ((createResponseByRequest request).pushAnswer
          { owner := request.firstQuestion.owner, ttl := settings.blockedResponseTtlSecs, type := RRType.aaaa,
            cls := request.firstQuestion.cls, rdfs := [x.rdfNewFrmStr .aaaa settings.customBlockingIpv6] })
      else .error (assertionFailed "utils::is_valid_ip6(settings->custom_blocking_ipv6)") := by
  have hNotA : RRType.aaaa ≠ RRType.a := by decide
  by_cases hEmpty : settings.customBlockingIpv6 = "" <;>
    by_cases hValid : x.isValidIp6 settings.customBlockingIpv6 <;>
    simp [createUnspecOrCustomAddressResponse, hCustom, hAaaa, hNotA, hEmpty, hValid]

theorem customAddress_outcome {addr : String} {valid : Bool} {soa record : Pkt} {err : String}
    (hValid : addr ≠ "" → valid = true) :
    addr = "" ∧ (if addr = "" then .ok soa else if valid then .ok record else .error err) =
        (.ok soa : Except String Pkt) ∨
      addr ≠ "" ∧ valid = true ∧
        (if addr = "" then .ok soa else if valid then .ok record else .error err) = (.ok record : Except String Pkt) := by
  by_cases hEmpty : addr = ""
  · exact .inl ⟨hEmpty, if_pos hEmpty⟩
  · have h := hValid hEmpty
    exact .inr ⟨hEmpty, h, by rw [if_neg hEmpty, if_pos h]⟩

theorem createUnspecOrCustomAddressResponse_ne_assertionFailed {request : Pkt}
    (hType : request.firstQuestion.type = RRType.a ∨ request.firstQuestion.type = RRType.aaaa)
    (hValid : settings.blockingMode = .customAddress →
      (settings.customBlockingIpv4 ≠ "" → x.isValidIp4 settings.customBlockingIpv4) ∧
      (settings.customBlockingIpv6 ≠ "" → x.isValidIp6 settings.customBlockingIpv6))
    (expr : String) :
    createUnspecOrCustomAddressResponse x settings wallClock request ≠ .error (assertionFailed expr) := by
  by_cases hCustom : settings.blockingMode = .customAddress
  · rcases hType with hA | hAaaa
    · rw [createUnspecOrCustomAddressResponse_customA x settings wallClock hCustom hA]
      rcases customAddress_outcome (hValid hCustom).1 with ⟨-, h⟩ | ⟨-, -, h⟩ <;> rw [h] <;> nofun
    · rw [createUnspecOrCustomAddressResponse_customAaaa x settings wallClock hCustom hAaaa]
      rcases customAddress_outcome (hValid hCustom).2 with ⟨-, h⟩ | ⟨-, -, h⟩ <;> rw [h] <;> nofun
  · rcases hType with hA | hAaaa
    · simp [createUnspecOrCustomAddressResponse, hCustom, hA]
    · have hNotA : RRType.aaaa ≠ RRType.a := by decide
      simp [createUnspecOrCustomAddressResponse, hCustom, hAaaa, hNotA]

theorem createBlockingResponse_ne_assertionFailed
    (hValid : settings.blockingMode = .customAddress →
      (settings.customBlockingIpv4 ≠ "" → x.isValidIp4 settings.customBlockingIpv4) ∧
      (settings.customBlockingIpv6 ≠ "" → x.isValidIp6 settings.customBlockingIpv6))
    (request : Pkt) (rules : List Rule) (expr : String) :
    createBlockingResponse x settings wallClock request rules ≠ .error (assertionFailed expr) := by
  intro h
  rcases createBlockingResponse_cases x settings wallClock request rules with
    hb | hb | hb | ⟨hType, hb⟩ | hb <;> rw [hb] at h
  · cases h
  · cases h
  · cases h
  · exact createUnspecOrCustomAddressResponse_ne_assertionFailed x settings wallClock hType hValid expr h
  · exact assertionFailed_ne_badOptionalAccess expr (createResponseWithIps_error x settings wallClock h)

theorem createBlockingResponse_eq_unspec {request : Pkt} {rule : Rule} {rules : List Rule}
    (hCustom : settings.blockingMode = .customAddress)
    (hPath : rule.ip = none ∨ rulesContainBlockingIp (rule :: rules) = true)
    (hType : request.firstQuestion.type = RRType.a ∨ request.firstQuestion.type = RRType.aaaa) :
    createBlockingResponse x settings wallClock request (rule :: rules) =
      createUnspecOrCustomAddressResponse x settings wallClock request := by
  have hFamily : ¬(request.firstQuestion.type ≠ RRType.a ∧ request.firstQuestion.type ≠ RRType.aaaa) := by
    rcases hType with h | h <;> simp [h]
  rcases hIp : rule.ip with _ | ip
  · simp [createBlockingResponse, hFamily, hIp, hCustom]
  · have hBlocking : rulesContainBlockingIp (rule :: rules) = true := by simpa [hIp] using hPath
    simp [createBlockingResponse, hFamily, hIp, hBlocking, hCustom]

end CustomAddress

end DnsProxy
