import DnsProxy.Wire

/-! # Settings, rules and the collaborators of the forwarder

`dnsproxy_settings`, the upstreams `init` created, and the collaborators whose code is not part of
the forwarder (the filter engine, `ag::utils`, DNS64 synthesis, ldns parsers), gathered in
`Externals`, over which every theorem quantifies.
-/

namespace DnsProxy

set_option autoImplicit false

/-- `dnsproxy_blocking_mode`. -/
inductive BlockingMode
  | default
  | refused
  | nxdomain
  | unspecifiedAddress
  | customAddress
deriving DecidableEq

/-- The fields of `dnsproxy_settings` that the forwarder reads after `init`. `dns64` is
`settings.dns64.has_value()`. -/
structure Settings where
  blockingMode : BlockingMode
  blockedResponseTtlSecs : UInt32
  customBlockingIpv4 : String
  customBlockingIpv6 : String
  dnsCacheSize : Nat
  optimisticCache : Bool
  blockIpv6 : Bool
  dns64 : Bool

/-- A `dnsfilter::rule`; `props` is its property bitset. -/
structure Rule where
  text : String
  filterId : Int
  ip : Option String
  props : Nat
deriving DecidableEq

/-- An upstream as the forwarder uses it: `options().address` and `options().id`. -/
structure Upstream where
  address : String
  id : Int
deriving DecidableEq

/-- The collaborators of the forwarder. -/
structure Externals where
  /-- `dnsfilter::match` on the forwarder's filter handle. -/
  filterMatch : String → List Rule
  /-- `dnsfilter::get_effective_rules`. -/
  getEffectiveRules : List Rule → List Rule
  /-- The bit `dnsfilter::RP_EXCEPTION` of a rule's properties. -/
  rpException : Nat
  /-- `utils::is_valid_ip4` and `utils::is_valid_ip6`. -/
  isValidIp4 : String → Bool
  isValidIp6 : String → Bool
  /-- `utils::addr_to_str` of the 4 or 16 octets of an address. -/
  addrToStr : List UInt8 → String
  /-- `ldns_rdf_new_frm_str` for an address field; the source asserts that it succeeds. -/
  rdfNewFrmStr : RdfKind → String → Rdf
  /-- `ldns_dname_new_frm_str`. -/
  dnameNewFrmStr : String → Rdf
  /-- `dns64::synthesize_ipv4_embedded_ipv6_address`: a prefix and an IPv4 address give
  the 16 octets of an IPv6 address, or fail. -/
  synthesize : List UInt8 → List UInt8 → Option (List UInt8)
  /-- `TIMEOUT_STR`, the error text of a timed-out exchange. -/
  timeoutStr : String
  /-- `ag::UDP_RECV_BUF_SIZE`. -/
  udpRecvBufSize : Nat
  /-- The length of the wire form `ldns_pkt2buffer_wire` writes. -/
  wireSize : Pkt → Nat
  /-- `ldns_wire2pkt`: a packet, or the `ldns_status` of the parse error. -/
  wire2pkt : List UInt8 → Except Nat Pkt
  /-- `ldns_get_errorstr_by_id`. -/
  getErrorstrById : Nat → String

/-- Whether a rule is an exception (`props.test(RP_EXCEPTION)`). -/
def Rule.isException (x : Externals) (r : Rule) : Bool := r.props.testBit x.rpException

/-- The forwarder after a successful `init`: its settings, the upstreams and fallbacks
that the factory created (not both empty, or `init` fails), and whether
`on_request_processed` is set. -/
structure Forwarder where
  settings : Settings
  upstreams : List Upstream
  fallbacks : List Upstream
  has_upstream : upstreams ≠ [] ∨ fallbacks ≠ []
  onRequestProcessed : Bool

/-- `dns_forwarder::init`, up to the start of DNS64 discovery. `upstreams` and `fallbacks` are
what the upstream factory returns for each configured upstream, `filter` what `filter.create`
returns (a handle, or no handle and its message), and `onRequestProcessed` whether that event is
set. The error is the `err_string` of the `{false, err}` pair. -/
def init (x : Externals) (settings : Settings) (upstreams fallbacks : List (Except String Upstream))
    (filter : Except (Option String) Unit) (onRequestProcessed : Bool) : Except (Option String) Forwarder :=
  if settings.blockingMode = .customAddress ∧ settings.customBlockingIpv4 ≠ "" ∧
      !x.isValidIp4 settings.customBlockingIpv4 then
    .error (some ("Invalid custom blocking IPv4 address: " ++ settings.customBlockingIpv4))
  else if settings.blockingMode = .customAddress ∧ settings.customBlockingIpv6 ≠ "" ∧
      !x.isValidIp6 settings.customBlockingIpv6 then
    .error (some ("Invalid custom blocking IPv6 address: " ++ settings.customBlockingIpv6))
  else
    let created := upstreams.filterMap Except.toOption
    let createdFallbacks := fallbacks.filterMap Except.toOption
    if hNone : created = [] ∧ createdFallbacks = [] then .error (some "Failed to initialize any upstream")
    else match filter with
      | .error errOrWarn => .error errOrWarn
      | .ok () =>
        .ok { settings, upstreams := created, fallbacks := createdFallbacks,
              has_upstream := not_and_or.mp hNone, onRequestProcessed }

theorem init_validates {x : Externals} {settings : Settings}
    {upstreams fallbacks : List (Except String Upstream)} {filter : Except (Option String) Unit}
    {onRequestProcessed : Bool} {fw : Forwarder}
    (h : init x settings upstreams fallbacks filter onRequestProcessed = .ok fw) :
    fw.settings = settings ∧
      (settings.blockingMode = .customAddress →
        (settings.customBlockingIpv4 ≠ "" → x.isValidIp4 settings.customBlockingIpv4) ∧
        (settings.customBlockingIpv6 ≠ "" → x.isValidIp6 settings.customBlockingIpv6)) := by
  dsimp only [init] at h
  split_ifs at h with hIp4 hIp6
  split at h
  · cases h
  cases h
  simp only [not_and, Bool.not_eq_true', Bool.not_eq_false] at hIp4 hIp6
  exact ⟨rfl, fun hCustom => ⟨fun hNe => by simpa using hIp4 hCustom hNe,
      fun hNe => by simpa using hIp6 hCustom hNe⟩⟩

/-! ## A sample deployment -/

def asciiLabel (s : String) : List UInt8 := s.toList.map (·.toNat.toUInt8)

def goodName : DName := ⟨[asciiLabel "good"], by decide, by decide⟩
def badName : DName := ⟨[asciiLabel "bad"], by decide, by decide⟩
def mixedName : DName := ⟨[asciiLabel "mixed"], by decide, by decide⟩
def otherName : DName := ⟨[asciiLabel "other"], by decide, by decide⟩
def canaryName : DName := ⟨[asciiLabel "use-application-dns", asciiLabel "net"], by decide, by decide⟩
def canaryUpperName : DName :=
  ⟨[asciiLabel "USE-APPLICATION-DNS", asciiLabel "NET"], by decide, by decide⟩

def adblockRule : Rule := ⟨"||bad^", 1, none, 0⟩

def hostsRule : Rule := ⟨"2001:db8::1 mixed", 1, some "2001:db8::1", 0⟩

def sampleQuery (name : DName) (type : Nat) : Pkt :=
  { ldnsPktQueryNew name type classIn ldnsRd with id := 1 }

def sampleAnswer (request : Pkt) (records : List RR) : Pkt :=
  { request with qr := true, answer := records }

def cnameRecord (owner target : DName) : RR :=
  { owner, ttl := 60, type := RRType.cname, cls := classIn, rdfs := [.dname target] }

def aRecord (owner : DName) : RR :=
  { owner, ttl := 60, type := RRType.a, cls := classIn, rdfs := [.raw .a [1, 2, 3, 4]] }

def sampleRequests : List Pkt :=
  [sampleQuery goodName RRType.aaaa, sampleQuery mixedName RRType.aaaa,
    sampleQuery canaryUpperName RRType.a, sampleQuery canaryName RRType.a,
    sampleQuery goodName RRType.a, sampleQuery otherName RRType.a]

def sampleExternals : Externals where
  filterMatch hostname :=
    if hostname = "bad" then [adblockRule]
    else if hostname = "mixed" then [hostsRule, adblockRule]
    else []
  getEffectiveRules rules := rules
  rpException := 0
  isValidIp4 ip := ip = "1.2.3.4"
  isValidIp6 ip := ip = "2001:db8::1"
  addrToStr _ := "1.2.3.4"
  rdfNewFrmStr kind _ := .raw kind []
  dnameNewFrmStr _ := .raw (.other 0) []
  synthesize pref ip4 := some (pref ++ ip4)
  timeoutStr := "timeout"
  udpRecvBufSize := 4096
  wireSize _ := 0
  wire2pkt message := match message with
    | [i] => match sampleRequests[i.toNat]? with
      | some request => .ok request
      | none => .error 1
    | _ => .error 1
  getErrorstrById _ := "error"

def sampleSettings : Settings :=
  { blockingMode := .default, blockedResponseTtlSecs := 10, customBlockingIpv4 := "",
    customBlockingIpv6 := "", dnsCacheSize := 1, optimisticCache := true, blockIpv6 := false,
    dns64 := false }

def sampleUpstream : Upstream := ⟨"1.1.1.1", 1⟩

def sampleForwarder (settings : Settings) : Forwarder :=
  { settings, upstreams := [sampleUpstream], fallbacks := [], has_upstream := .inl (by simp),
    onRequestProcessed := true }

end DnsProxy
