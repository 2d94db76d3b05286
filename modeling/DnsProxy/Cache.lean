import DnsProxy.Responses
import Mathlib.Data.List.Nodup

/-! # The response cache

An LRU map from cache keys to `cached_response`: `put_response_into_cache` admits what passes the
cacheability checks, and `create_response_from_cache` patches a stored template for the request.
-/

namespace DnsProxy

set_option autoImplicit false

/-! ## The LRU container -/

/-- Modelled from the spec: `lru_cache`, whose code is not in this repository. A bounded map
from keys to values, the most recently used entry first. A lookup makes its entry the most
recently used and `make_lru` the least; an insert drops the least recently used entries past
the capacity. -/
structure Lru (α : Type) where
  entries : List (String × α)
  capacity : Nat
  keys_nodup : (entries.map Prod.fst).Nodup
  length_le : entries.length ≤ capacity

namespace Lru

variable {α : Type}

/-- An empty cache of the given capacity (`set_capacity` on a fresh cache). -/
def empty (capacity : Nat) : Lru α := ⟨[], capacity, List.nodup_nil, Nat.zero_le _⟩

def find? (c : Lru α) (key : String) : Option α :=
  (c.entries.find? fun e => e.1 = key).map Prod.snd

def others (c : Lru α) (key : String) : List (String × α) :=
  c.entries.filter fun e => e.1 ≠ key

theorem others_keys_nodup (c : Lru α) (key : String) : ((c.others key).map Prod.fst).Nodup :=
  c.keys_nodup.sublist ((List.filter_sublist _).map _)

theorem key_not_mem_others (c : Lru α) (key : String) : key ∉ (c.others key).map Prod.fst := by
  simp [others]

theorem mem_of_find? {c : Lru α} {key : String} {v : α} (h : c.find? key = some v) :
    (key, v) ∈ c.entries := by
  obtain ⟨e, he, rfl⟩ := Option.map_eq_some'.mp h
  have hKey : e.1 = key := by simpa using List.find?_some he
  exact hKey ▸ List.mem_of_find?_eq_some he

theorem others_length_lt {c : Lru α} {key : String} {v : α} (h : c.find? key = some v) :
    (c.others key).length < c.entries.length :=
  List.length_filter_lt_length_iff_exists.mpr ⟨_, mem_of_find? h, by simp⟩

/-- `get`: the value of a key; a hit becomes the most recently used entry. -/
def get (c : Lru α) (key : String) : Option α × Lru α :=
  match h : c.find? key with
  | none => (none, c)
  | some v =>
    (some v, ⟨(key, v) :: c.others key, c.capacity,
      List.nodup_cons.mpr ⟨c.key_not_mem_others key, c.others_keys_nodup key⟩,
      by have := others_length_lt h; have := c.length_le; simp only [List.length_cons]; omega⟩)

/-- `make_lru`: the entry of a key becomes the least recently used. -/
def makeLru (c : Lru α) (key : String) : Lru α :=
  match h : c.find? key with
  | none => c
  | some v =>
    ⟨c.others key ++ [(key, v)], c.capacity,
      by
        rw [List.map_append, List.nodup_append]
        exact ⟨c.others_keys_nodup key, List.nodup_singleton _,
          List.disjoint_singleton.mpr (c.key_not_mem_others key)⟩,
      by have := others_length_lt h; have := c.length_le; simp only [List.length_append,
        List.length_singleton]; omega⟩

/-- `insert`: the key's value becomes the most recently used entry, replacing an older one;
past the capacity the least recently used entries are dropped. -/
def insert (c : Lru α) (key : String) (v : α) : Lru α :=
  ⟨((key, v) :: c.others key).take c.capacity, c.capacity,
    (List.nodup_cons.mpr ⟨c.key_not_mem_others key, c.others_keys_nodup key⟩).sublist
      ((List.take_sublist _ _).map _),
    List.length_take_le _ _⟩

/-- `erase`. -/
def erase (c : Lru α) (key : String) : Lru α :=
  ⟨c.others key, c.capacity, c.others_keys_nodup key,
    (List.length_filter_le _ _).trans c.length_le⟩

/-- `clear`. -/
def clear (c : Lru α) : Lru α := ⟨[], c.capacity, List.nodup_nil, Nat.zero_le _⟩

@[simp] theorem get_fst (c : Lru α) (key : String) : (c.get key).1 = c.find? key := by
  unfold get; split <;> simp_all

theorem get_of_find?_eq_none {c : Lru α} {key : String} (h : c.find? key = none) :
    c.get key = (none, c) := by
  unfold get; split <;> simp_all

@[simp] theorem capacity_insert (c : Lru α) (key : String) (v : α) :
    (c.insert key v).capacity = c.capacity := rfl

theorem find?_insert_self (c : Lru α) (key : String) (v : α) (hCap : 0 < c.capacity) :
    (c.insert key v).find? key = some v := by
  obtain ⟨n, hn⟩ := Nat.exists_eq_succ_of_ne_zero hCap.ne'
  simp [insert, find?, hn]

/-! ### What the operations keep -/

def All (P : String → α → Prop) (c : Lru α) : Prop := ∀ e ∈ c.entries, P e.1 e.2

theorem others_subset (c : Lru α) (key : String) : c.others key ⊆ c.entries :=
  (List.filter_sublist _).subset

theorem get_subset (c : Lru α) (key : String) : (c.get key).2.entries ⊆ c.entries := by
  unfold get
  split
  · exact List.Subset.refl _
  · next v h => exact List.cons_subset.mpr ⟨mem_of_find? h, others_subset c key⟩

theorem makeLru_subset (c : Lru α) (key : String) : (c.makeLru key).entries ⊆ c.entries := by
  unfold makeLru
  split
  · exact List.Subset.refl _
  · next v h => exact List.append_subset.mpr ⟨others_subset c key, by simpa using mem_of_find? h⟩

theorem erase_subset (c : Lru α) (key : String) : (c.erase key).entries ⊆ c.entries :=
  others_subset c key

theorem clear_subset (c : Lru α) : c.clear.entries ⊆ c.entries := List.nil_subset _

theorem mem_insert {c : Lru α} {key : String} {v : α} {e : String × α}
    (he : e ∈ (c.insert key v).entries) : e = (key, v) ∨ e ∈ c.entries := by
  rcases List.mem_cons.mp ((List.take_sublist _ _).subset he) with rfl | he
  · exact .inl rfl
  · exact .inr (others_subset c key he)

theorem All.insert {P : String → α → Prop} {c : Lru α} (hc : c.All P) {key : String} {v : α}
    (hv : P key v) : (c.insert key v).All P := by
  intro e he
  rcases mem_insert he with rfl | he
  · exact hv
  · exact hc e he

end Lru

/-! ## Cached responses -/

/-- Ticks of `ag::steady_clock` in a second: the clock counts nanoseconds. -/
def ticksPerSecond : Int := 1000000000

/-- `UINT32_MAX`. -/
def uint32Max : Nat := 4294967295

/-- `cached_response`: the template, its expiry on the steady clock, and the upstream's id. -/
structure CachedResponse where
  response : Pkt
  expiresAt : Int
  upstreamId : Option Int
deriving DecidableEq

/-- `cache_result`. -/
structure CacheResult where
  response : Option Pkt
  expired : Bool
  upstreamId : Option Int
deriving DecidableEq

/-- `has_unsupported_extensions`. -/
def hasUnsupportedExtensions (p : Pkt) : Bool :=
  p.ednsData.isSome || p.ednsExtendedRcode != 0 || p.ednsUnassigned

/-- `compute_min_rr_ttl`: the least TTL of the answer, additional and authority records, with
`UINT32_MAX` read as "no record" and turned into 0. -/
def computeMinRrTtl (p : Pkt) : Nat :=
  let minRrTtl := (p.answer ++ p.additional ++ p.authority).foldl (fun m rr => min m rr.ttl.toNat)
    uint32Max
  if minRrTtl = uint32Max then 0 else minRrTtl

/-- The checks of `put_response_into_cache`, and the entry it stores when they pass. -/
def cachedResponseFor (settings : Settings) (now : Int) (response : Pkt)
    (upstreamId : Option Int) : Option CachedResponse :=
  if settings.dnsCacheSize = 0 then none
  else if response.tc || response.qdcount != 1 || response.rcode != Rcode.noerror ||
      hasUnsupportedExtensions response then none
  else
    let type := response.firstQuestion.type
    if (type = RRType.a ∨ type = RRType.aaaa) ∧ !(response.answer.any fun rr => rr.type = type) then
      none
    else
      let response := { response with question := [], aa := false }
      let minRrTtl := computeMinRrTtl response
      if minRrTtl = 0 then none
      else some ⟨response, now + minRrTtl * ticksPerSecond, upstreamId⟩

/-- `put_response_into_cache`. -/
def putResponseIntoCache (settings : Settings) (now : Int) (cache : Lru CachedResponse)
    (key : String) (response : Pkt) (upstreamId : Option Int) : Lru CachedResponse :=
  match cachedResponseFor settings now response upstreamId with
  | some entry => cache.insert key entry
  | none => cache

/-- `ceil<seconds>` of a steady-clock duration. -/
def ceilSeconds (d : Int) : Int := -((-d) / ticksPerSecond)

/-- `ldns_rr_set_ttl`. -/
def RR.setTtl (rr : RR) (ttl : UInt32) : RR := { rr with ttl }

/-- `create_response_from_cache`: the result, and the cache with the recency the lookup left. -/
def createResponseFromCache (x : Externals) (settings : Settings) (now : Int)
    (cache : Lru CachedResponse) (key : String) (request : Pkt) : CacheResult × Lru CachedResponse :=
  if settings.dnsCacheSize = 0 then (⟨none, false, none⟩, cache)
  else if hasUnsupportedExtensions request then (⟨none, false, none⟩, cache)
  else match cache.get key with
    | (none, cache) => (⟨none, false, none⟩, cache)
    | (some cached, cache) =>
      let cachedResponseTtl := ceilSeconds (cached.expiresAt - now)
      let expired := decide (cachedResponseTtl ≤ 0)
      let ttl : UInt32 := if expired then 1 else UInt32.ofNat cachedResponseTtl.toNat
      let response := cached.response
      let response := { response with
        id := request.id
        ednsUdpSize := if response.edns then x.udpRecvBufSize else response.ednsUdpSize
        question := request.question
        answer := response.answer.map (·.setTtl ttl)
        authority := response.authority.map (·.setTtl ttl)
        additional := response.additional.map (·.setTtl ttl) }
      (⟨some response, expired, cached.upstreamId⟩, if expired then cache.makeLru key else cache)

/-! ## Facts about the stored entries -/

theorem foldl_min_ttl_le (records : List RR) (m : Nat) :
    records.foldl (fun m rr => min m rr.ttl.toNat) m ≤ m := by
  induction records generalizing m with
  | nil => exact le_rfl
  | cons rr rest ih => exact (ih _).trans (min_le_left _ _)

theorem computeMinRrTtl_lt (p : Pkt) : computeMinRrTtl p < uint32Max := by
  have := foldl_min_ttl_le (p.answer ++ p.additional ++ p.authority) uint32Max
  dsimp only [computeMinRrTtl]
  split_ifs <;> simp only [uint32Max] at * <;> omega

theorem records_ne_nil_of_computeMinRrTtl_pos {p : Pkt} (h : 0 < computeMinRrTtl p) :
    p.answer ++ p.additional ++ p.authority ≠ [] := by
  intro hNil
  simp [computeMinRrTtl, hNil] at h

theorem cachedResponseFor_spec {settings : Settings} {now : Int} {response : Pkt}
    {upstreamId : Option Int} {entry : CachedResponse}
    (h : cachedResponseFor settings now response upstreamId = some entry) :
    settings.dnsCacheSize ≠ 0 ∧ response.tc = false ∧ response.qdcount = 1 ∧
      response.rcode = Rcode.noerror ∧ hasUnsupportedExtensions response = false ∧
      ((response.firstQuestion.type = RRType.a ∨ response.firstQuestion.type = RRType.aaaa) →
        response.answer.any (fun rr => rr.type = response.firstQuestion.type)) ∧
      0 < computeMinRrTtl response ∧
      entry = ⟨{ response with question := [], aa := false },
        now + computeMinRrTtl response * ticksPerSecond, upstreamId⟩ := by
  dsimp only [cachedResponseFor] at h
  split_ifs at h with hSize hChecks hType hTtl
  cases h
  simp only [Bool.not_eq_true, Bool.or_eq_false_iff, bne_eq_false_iff_eq] at hChecks
  obtain ⟨⟨⟨hTc, hCount⟩, hRcode⟩, hExt⟩ := hChecks
  refine ⟨hSize, hTc, hCount, hRcode, hExt, fun hAorAaaa => ?_, Nat.pos_of_ne_zero hTtl, rfl⟩
  simpa using not_and.mp hType hAorAaaa

/-- What every stored entry satisfies, `now` being the current steady time. -/
structure CachedResponse.Valid (entry : CachedResponse) (now : Int) : Prop where
  question_nil : entry.response.question = []
  aa_false : entry.response.aa = false
  tc_false : entry.response.tc = false
  rcode_noerror : entry.response.rcode = Rcode.noerror
  no_edns_data : entry.response.ednsData = none
  no_extended_rcode : entry.response.ednsExtendedRcode = 0
  no_unassigned_flags : entry.response.ednsUnassigned = false
  has_record : entry.response.answer ++ entry.response.additional ++ entry.response.authority ≠ []
  min_ttl_pos : 0 < computeMinRrTtl entry.response
  expires_at : ∃ t0 ≤ now, entry.expiresAt = t0 + computeMinRrTtl entry.response * ticksPerSecond

theorem CachedResponse.Valid.mono {entry : CachedResponse} {now now' : Int}
    (h : entry.Valid now) (hLe : now ≤ now') : entry.Valid now' :=
  { h with expires_at := by obtain ⟨t0, hT0, hExp⟩ := h.expires_at; exact ⟨t0, hT0.trans hLe, hExp⟩ }

theorem cachedResponseFor_valid {settings : Settings} {now : Int} {response : Pkt}
    {upstreamId : Option Int} {entry : CachedResponse}
    (h : cachedResponseFor settings now response upstreamId = some entry) : entry.Valid now := by
  obtain ⟨-, hTc, -, hRcode, hExt, -, hPos, rfl⟩ := cachedResponseFor_spec h
  simp only [hasUnsupportedExtensions, Bool.or_eq_false_iff, bne_eq_false_iff_eq] at hExt
  obtain ⟨⟨hData, hRcodeExt⟩, hUnassigned⟩ := hExt
  exact ⟨rfl, rfl, hTc, hRcode, by simpa using hData, hRcodeExt, hUnassigned,
    records_ne_nil_of_computeMinRrTtl_pos hPos, hPos, now, le_rfl, rfl⟩

theorem mem_putResponseIntoCache {settings : Settings} {now : Int} {cache : Lru CachedResponse}
    {key : String} {response : Pkt} {upstreamId : Option Int} {e : String × CachedResponse}
    (he : e ∈ (putResponseIntoCache settings now cache key response upstreamId).entries) :
    e ∈ cache.entries ∨ e.1 = key ∧ cachedResponseFor settings now response upstreamId = some e.2 := by
  unfold putResponseIntoCache at he
  split at he
  · next entry hEntry =>
    rcases Lru.mem_insert he with rfl | he
    · exact .inr ⟨rfl, hEntry⟩
    · exact .inl he
  · exact .inl he

/-! ## Serving a stored entry -/

theorem ceilSeconds_pos_iff (d : Int) : 0 < ceilSeconds d ↔ 0 < d := by
  unfold ceilSeconds ticksPerSecond; omega

theorem ceilSeconds_le {d n : Int} (h : d ≤ n * ticksPerSecond) : ceilSeconds d ≤ n := by
  unfold ceilSeconds ticksPerSecond at *; omega

@[simp] theorem computeMinRrTtl_strip (p : Pkt) :
    computeMinRrTtl { p with question := [], aa := false } = computeMinRrTtl p := rfl

theorem find?_putResponseIntoCache {settings : Settings} {now : Int} {cache : Lru CachedResponse}
    {key : String} {response : Pkt} {upstreamId : Option Int} {entry : CachedResponse}
    (h : cachedResponseFor settings now response upstreamId = some entry)
    (hCap : cache.capacity = settings.dnsCacheSize) :
    (putResponseIntoCache settings now cache key response upstreamId).find? key = some entry := by
  rw [putResponseIntoCache, h]
  exact cache.find?_insert_self key entry (hCap ▸ Nat.pos_of_ne_zero (cachedResponseFor_spec h).1)

theorem createResponseFromCache_of_find? (x : Externals) {settings : Settings} {now : Int}
    {cache : Lru CachedResponse} {key : String} {request : Pkt} {entry : CachedResponse}
    (hSize : settings.dnsCacheSize ≠ 0) (hExt : hasUnsupportedExtensions request = false)
    (hFind : cache.find? key = some entry) :
    let ttl : UInt32 := if ceilSeconds (entry.expiresAt - now) ≤ 0 then 1
      else UInt32.ofNat (ceilSeconds (entry.expiresAt - now)).toNat
    (createResponseFromCache x settings now cache key request).1 =
      ⟨some { entry.response with
          id := request.id
          ednsUdpSize := if entry.response.edns then x.udpRecvBufSize else entry.response.ednsUdpSize
          question := request.question
          answer := entry.response.answer.map (·.setTtl ttl)
          authority := entry.response.authority.map (·.setTtl ttl)
          additional := entry.response.additional.map (·.setTtl ttl) },
        decide (ceilSeconds (entry.expiresAt - now) ≤ 0), entry.upstreamId⟩ := by
  obtain ⟨c', hGet⟩ : ∃ c', cache.get key = (some entry, c') :=
    ⟨_, Prod.ext (by simp [hFind]) rfl⟩
  simp only [createResponseFromCache, hSize, hExt, hGet, Bool.false_eq_true, ↓reduceIte,
    decide_eq_true_eq]

theorem createResponseFromCache_of_find?_eq_none (x : Externals) (settings : Settings) (now : Int)
    {cache : Lru CachedResponse} {key : String} (request : Pkt) (h : cache.find? key = none) :
    createResponseFromCache x settings now cache key request = (⟨none, false, none⟩, cache) := by
  simp only [createResponseFromCache, Lru.get_of_find?_eq_none h]
  split_ifs <;> rfl

theorem createResponseFromCache_subset (x : Externals) (settings : Settings) (now : Int)
    (cache : Lru CachedResponse) (key : String) (request : Pkt) :
    (createResponseFromCache x settings now cache key request).2.entries ⊆ cache.entries := by
  unfold createResponseFromCache
  split_ifs
  · exact List.Subset.refl _
  · exact List.Subset.refl _
  · have hGet := Lru.get_subset cache key
    generalize cache.get key = lookup at hGet
    obtain ⟨_ | cached, cache'⟩ := lookup
    · exact hGet
    · dsimp only
      split_ifs
      · exact (Lru.makeLru_subset cache' key).trans hGet
      · exact hGet

theorem find?_of_createResponseFromCache (x : Externals) (settings : Settings) (now : Int)
    (cache : Lru CachedResponse) (key : String) (request : Pkt)
    (h : (createResponseFromCache x settings now cache key request).1.response ≠ none) :
    ∃ entry, cache.find? key = some entry := by
  cases hFind : cache.find? key with
  | some entry => exact ⟨entry, rfl⟩
  | none => simp [createResponseFromCache_of_find?_eq_none x settings now request hFind] at h

/-- A response stored at `t0` is served at any later `t`, while its entry stays, with the
request's id and question, AA cleared, the EDNS UDP size raised, and every TTL the seconds left
rounded up, at least 1 and at most the least TTL it was stored with. -/
theorem createResponseFromCache_after_put (x : Externals) {settings : Settings} {t0 t : Int}
    {R Q : Pkt} {upstreamId : Option Int} {cache₀ cache : Lru CachedResponse} {key : String}
    (hCap : cache₀.capacity = settings.dnsCacheSize)
    (hStored : cachedResponseFor settings t0 R upstreamId ≠ none)
    (hKept : cache.find? key = (putResponseIntoCache settings t0 cache₀ key R upstreamId).find? key)
    (hLater : t0 ≤ t) (hQ : hasUnsupportedExtensions Q = false) :
    ∃ ttl : UInt32,
      (ttl.toNat : Int) = max (ceilSeconds (t0 + computeMinRrTtl R * ticksPerSecond - t)) 1 ∧
      1 ≤ ttl.toNat ∧ ttl.toNat ≤ computeMinRrTtl R ∧
      (createResponseFromCache x settings t cache key Q).1 =
        ⟨some { R with
            id := Q.id, aa := false, question := Q.question
            ednsUdpSize := if R.edns then x.udpRecvBufSize else R.ednsUdpSize
            answer := R.answer.map (·.setTtl ttl)
            authority := R.authority.map (·.setTtl ttl)
            additional := R.additional.map (·.setTtl ttl) },
          decide (t0 + computeMinRrTtl R * ticksPerSecond ≤ t), upstreamId⟩ := by
  obtain ⟨entry, hEntry⟩ := Option.ne_none_iff_exists'.mp hStored
  obtain ⟨hSize, -, -, -, -, -, hPos, rfl⟩ := cachedResponseFor_spec hEntry
  rw [createResponseFromCache_of_find? x hSize hQ
    (hKept.trans (find?_putResponseIntoCache hEntry hCap))]
  simp only [computeMinRrTtl_strip]
  have hMax := computeMinRrTtl_lt R
  have hExpired : ceilSeconds (t0 + computeMinRrTtl R * ticksPerSecond - t) ≤ 0 ↔
      t0 + computeMinRrTtl R * ticksPerSecond ≤ t := by
    rw [← not_lt, ceilSeconds_pos_iff]; omega
  have hLeft : ceilSeconds (t0 + computeMinRrTtl R * ticksPerSecond - t) ≤ computeMinRrTtl R :=
    ceilSeconds_le (by omega)
  by_cases hExp : t0 + computeMinRrTtl R * ticksPerSecond ≤ t
  · have hCeil := hExpired.mpr hExp
    refine ⟨1, by rw [show (1 : UInt32).toNat = 1 from rfl]; omega, le_rfl, hPos, ?_⟩
    simp only [hCeil, hExp, ↓reduceIte]
    rfl
  · have hCeil : ¬ ceilSeconds (t0 + computeMinRrTtl R * ticksPerSecond - t) ≤ 0 :=
      mt hExpired.mp hExp
    have hLt : (ceilSeconds (t0 + computeMinRrTtl R * ticksPerSecond - t)).toNat < 2 ^ 32 := by
      simp only [uint32Max] at hMax; omega
    refine ⟨UInt32.ofNat (ceilSeconds (t0 + computeMinRrTtl R * ticksPerSecond - t)).toNat,
      ?_, ?_, ?_, ?_⟩
    all_goals try rw [UInt32.toNat_ofNat_of_lt hLt]
    · omega
    · omega
    · omega
    · simp only [hCeil, hExp, ↓reduceIte]
      rfl

theorem createResponseFromCache_after_put_sample :
    let R := sampleAnswer (sampleQuery goodName RRType.a) [aRecord goodName]
    let Q := sampleQuery goodName RRType.a
    let cache := putResponseIntoCache sampleSettings 0 (Lru.empty 1) "k" R (some 1)
    (Lru.empty 1 : Lru CachedResponse).capacity = sampleSettings.dnsCacheSize ∧
    cachedResponseFor sampleSettings 0 R (some 1) ≠ none ∧ (0 : Int) ≤ 0 ∧
    hasUnsupportedExtensions Q = false ∧
    ∃ ttl : UInt32,
      (ttl.toNat : Int) = max (ceilSeconds (0 + computeMinRrTtl R * ticksPerSecond - 0)) 1 ∧
      1 ≤ ttl.toNat ∧ ttl.toNat ≤ computeMinRrTtl R ∧
      (createResponseFromCache sampleExternals sampleSettings 0 cache "k" Q).1 =
        ⟨some { R with
            id := Q.id, aa := false, question := Q.question
            ednsUdpSize := if R.edns then sampleExternals.udpRecvBufSize else R.ednsUdpSize
            answer := R.answer.map (·.setTtl ttl)
            authority := R.authority.map (·.setTtl ttl)
            additional := R.additional.map (·.setTtl ttl) },
          decide (0 + computeMinRrTtl R * ticksPerSecond ≤ 0), some 1⟩ :=
  ⟨rfl, by decide, le_rfl, by decide,
    createResponseFromCache_after_put sampleExternals rfl (by decide) rfl le_rfl (by decide)⟩

end DnsProxy
