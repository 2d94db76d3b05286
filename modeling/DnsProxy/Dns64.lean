import DnsProxy.Dispatch

/-! # DNS64 synthesis

`try_dns64_aaaa_synthesis` asks the upstream for the A records of an AAAA query that got none and
embeds each address into every known prefix.
-/

namespace DnsProxy

set_option autoImplicit false

section Synthesis

variable (x : Externals) (prefixes : List (List UInt8))

/-- The records one answer record of the A response gives: itself when it is not an A
record, none when it has no field, else one AAAA copy per prefix that `synthesize` accepts,
its last field replaced by the 16 synthesized octets. -/
def synthesizeFrom (rr : RR) : List RR :=
  if rr.type ≠ RRType.a then [rr]
  else match rr.rdfs with
    | [] => []
    | rdf :: _ => prefixes.filterMap fun pref =>
        (x.synthesize pref rdf.data).map fun ip6 =>
          { rr with type := RRType.aaaa, rdfs := rr.rdfs.dropLast ++ [.raw .aaaa ip6] }

/-- The AAAA records `synthesizeFrom` made for a record, counted as `aaaa_rr_count` counts. -/
def synthesizedCount (rr : RR) : Nat :=
  if rr.type ≠ RRType.a then 0 else (synthesizeFrom x prefixes rr).length

/-- What `try_dns64_aaaa_synthesis` did: the synthesized response, if any, and its exchange. -/
structure Dns64Outcome where
  response : Option Pkt
  calls : List UpstreamCall

/-- `try_dns64_aaaa_synthesis`; the network gives the id of the A query and the outcome of its
exchange. An exchange without error and without packet, where the source would read a null
packet, gives nothing. -/
def tryDns64AaaaSynthesis (net : Network) (upstream : Upstream) (request : Pkt) : Dns64Outcome :=
  if prefixes = [] then ⟨none, []⟩ else
  match request.question with
  | [] => ⟨none, []⟩
  | question :: _ =>
    let requestA :=
      { ldnsPktQueryNew question.owner RRType.a classIn 0 with
        cd := request.cd, rd := request.rd, id := net.randomId }
    let calls := [UpstreamCall.exchange upstream requestA]
    match net.dns64Exchange.error, net.dns64Exchange.packet with
    | some _, _ => ⟨none, calls⟩
    | none, none => ⟨none, calls⟩
    | none, some responseA =>
      if responseA.answer.length = 0 then ⟨none, calls⟩ else
      let rrList := responseA.answer.flatMap (synthesizeFrom x prefixes)
      let aaaaCount := (responseA.answer.map (synthesizedCount x prefixes)).sum
      if aaaaCount = 0 then ⟨none, calls⟩ else
      ⟨some { id := request.id, rd := request.rd, ra := responseA.ra, cd := responseA.cd, qr := true,
              question := request.question, answer := rrList }, calls⟩

/-! ### The synthesized answer the spec describes -/

/-- The AAAA records the spec has DNS64 make from an A record: none without rdata, else, for each
prefix in order that `synthesize` accepts with the record's address, a copy of the record with
type AAAA and the synthesized address as its one field. -/
def dns64Synthesized (rr : RR) : List RR :=
  match rr.rdfs with
  | [] => []
  | rdf :: _ => prefixes.filterMap fun pref =>
      (x.synthesize pref rdf.data).map fun ip6 => { rr with type := RRType.aaaa, rdfs := [.raw .aaaa ip6] }

def dns64Records (rr : RR) : List RR :=
  if rr.type = RRType.a then dns64Synthesized x prefixes rr else [rr]

theorem synthesizeFrom_eq_dns64Records {rr : RR} (h : rr.type = RRType.a → rr.rdfs.length ≤ 1) :
    synthesizeFrom x prefixes rr = dns64Records x prefixes rr := by
  by_cases hA : rr.type = RRType.a
  · have hLen := h hA
    rcases hr : rr.rdfs with _ | ⟨rdf, _ | ⟨_, _⟩⟩ <;> rw [hr] at hLen
    · simp [synthesizeFrom, dns64Records, dns64Synthesized, hA, hr]
    · simp [synthesizeFrom, dns64Records, dns64Synthesized, hA, hr]
    · simp at hLen
  · simp [synthesizeFrom, dns64Records, hA]

theorem aaaaCount_eq_zero {answer : List RR}
    (h : ∀ rr ∈ answer, rr.type = RRType.a → rr.rdfs.length ≤ 1) :
    (answer.map (synthesizedCount x prefixes)).sum = 0 ↔
      ∀ rr ∈ answer, rr.type = RRType.a → dns64Synthesized x prefixes rr = [] := by
  induction answer with
  | nil => simp
  | cons rr rest ih =>
    have hRecord : synthesizedCount x prefixes rr = 0 ↔
        (rr.type = RRType.a → dns64Synthesized x prefixes rr = []) := by
      by_cases hA : rr.type = RRType.a <;>
        simp [synthesizedCount, synthesizeFrom_eq_dns64Records x prefixes (h rr (.head _)),
          dns64Records, hA]
    simp only [List.map_cons, List.sum_cons, Nat.add_eq_zero_iff, hRecord,
      ih fun r hr => h r (.tail _ hr), List.forall_mem_cons]

/-- DNS64 synthesis sends one A query for the owner with the request's RD and CD, and answers
with the spec's records of each A answer record in order, or with nothing when the exchange fails
or no record is synthesized. -/
theorem tryDns64AaaaSynthesis_spec (net : Network) (upstream : Upstream) {request : Pkt}
    {question : RR} {qs : List RR} (hQuestion : request.question = question :: qs)
    (hPrefixes : prefixes ≠ []) :
    (∃ requestA : Pkt,
      (tryDns64AaaaSynthesis x prefixes net upstream request).calls = [.exchange upstream requestA] ∧
      requestA.question =
        [{ owner := question.owner, ttl := ldnsDefaultTtl, type := RRType.a, cls := classIn, rdfs := [] }] ∧
      requestA.rd = request.rd ∧ requestA.cd = request.cd) ∧
    (net.dns64Exchange.error ≠ none → (tryDns64AaaaSynthesis x prefixes net upstream request).response = none) ∧
    ∀ responseA : Pkt, net.dns64Exchange = ⟨some responseA, none⟩ →
      (∀ rr ∈ responseA.answer, rr.type = RRType.a → rr.rdfs.length ≤ 1) →
      (tryDns64AaaaSynthesis x prefixes net upstream request).response =
        if ∀ rr ∈ responseA.answer, rr.type = RRType.a → dns64Synthesized x prefixes rr = [] then none
        else some
          { id := request.id, rd := request.rd, ra := responseA.ra, cd := responseA.cd, qr := true,
            rcode := Rcode.noerror, question := request.question,
            answer := responseA.answer.flatMap (dns64Records x prefixes) } := by
  let requestA : Pkt := { ldnsPktQueryNew question.owner RRType.a classIn 0 with
    cd := request.cd, rd := request.rd, id := net.randomId }
  have hQuery : requestA.question =
      [{ owner := question.owner, ttl := ldnsDefaultTtl, type := RRType.a, cls := classIn, rdfs := [] }] ∧
      requestA.rd = request.rd ∧ requestA.cd = request.cd := ⟨rfl, rfl, rfl⟩
  simp only [tryDns64AaaaSynthesis, if_neg hPrefixes, hQuestion]
  refine ⟨⟨requestA, ?_, hQuery⟩, fun hError => ?_, fun responseA hResult hParsed => ?_⟩
  · split <;> (try split_ifs) <;> rfl
  · obtain ⟨e, hE⟩ := Option.ne_none_iff_exists'.mp hError
    simp only [hE]
  · simp only [hResult]
    by_cases hNone : ∀ rr ∈ responseA.answer, rr.type = RRType.a → dns64Synthesized x prefixes rr = []
    · simp only [(aaaaCount_eq_zero x prefixes hParsed).mpr hNone, if_pos hNone]
      split_ifs <;> rfl
    · have hCount := mt (aaaaCount_eq_zero x prefixes hParsed).mp hNone
      have hLen : responseA.answer.length ≠ 0 := fun h0 =>
        hNone fun rr hr => absurd (List.length_eq_zero.mp h0 ▸ hr) (List.not_mem_nil rr)
      simp only [hLen, hCount, if_neg hNone, if_false,
        List.flatMap_congr fun rr hr => synthesizeFrom_eq_dns64Records x prefixes (hParsed rr hr)]
      rfl

/-- The A answer of `good` under the prefix `64:ff9b::/96` gives one AAAA record. -/
theorem tryDns64AaaaSynthesis_spec_good :
    (sampleQuery goodName RRType.aaaa).question =
      [{ owner := goodName, ttl := ldnsDefaultTtl, type := RRType.aaaa, cls := classIn, rdfs := [] }] ∧
    [[0, 0x64, 0xff, 0x9b, 0, 0, 0, 0, 0, 0, 0, 0]] ≠ ([] : List (List UInt8)) ∧
    (tryDns64AaaaSynthesis sampleExternals [[0, 0x64, 0xff, 0x9b, 0, 0, 0, 0, 0, 0, 0, 0]]
      { failing with
        dns64Exchange := ⟨some (sampleAnswer (sampleQuery goodName RRType.a) [aRecord goodName]), none⟩ }
      sampleUpstream (sampleQuery goodName RRType.aaaa)).response =
      some
        { id := 1, rd := true, qr := true, question := (sampleQuery goodName RRType.aaaa).question,
          answer := [{ aRecord goodName with
            type := RRType.aaaa, rdfs := [.raw .aaaa [0, 0x64, 0xff, 0x9b, 0, 0, 0, 0, 0, 0, 0, 0, 1, 2, 3, 4]] }] } :=
  ⟨rfl, nofun, ((tryDns64AaaaSynthesis_spec sampleExternals _ _ sampleUpstream
    (show (sampleQuery goodName RRType.aaaa).question =
      [{ owner := goodName, ttl := ldnsDefaultTtl, type := RRType.aaaa, cls := classIn, rdfs := [] }] from rfl)
    (show [[(0 : UInt8), 0x64, 0xff, 0x9b, 0, 0, 0, 0, 0, 0, 0, 0]] ≠ [] from nofun)).2.2
    (sampleAnswer (sampleQuery goodName RRType.a) [aRecord goodName]) rfl (by decide)).trans rfl⟩

end Synthesis

end DnsProxy
