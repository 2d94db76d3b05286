import Mathlib.Data.List.Basic

/-! # DNS over TCP framing

Replies are written as a 2-byte big-endian length and the payload; requests are read through
`tcp_dns_payload_parser`, compared here with `decodeFrames`.
-/

namespace DnsProxy

set_option autoImplicit false

/-- The states of `tcp_dns_payload_parser`. -/
inductive ParserState
  | rdSize
  | rdPayload
deriving DecidableEq

/-- `tcp_dns_payload_parser`: its state, `m_size` and the buffered bytes `m_data`. -/
structure TcpDnsPayloadParser where
  state : ParserState
  size : Nat
  data : List UInt8
deriving DecidableEq

namespace TcpDnsPayloadParser

def new : TcpDnsPayloadParser := ⟨.rdSize, 0, []⟩

/-- `push_data`. -/
def pushData (p : TcpDnsPayloadParser) (data : List UInt8) : TcpDnsPayloadParser :=
  { p with data := p.data ++ data }

/-- The `RD_PAYLOAD` half of `next_payload`. -/
def readPayload (p : TcpDnsPayloadParser) : Option (List UInt8) × TcpDnsPayloadParser :=
  if p.data.length < 2 + p.size then (none, p)
  else (some ((p.data.drop 2).take p.size), { p with data := p.data.drop (2 + p.size), state := .rdSize })

/-- `next_payload`: the next payload, or `none` when more data is needed. The size is read as
`ntohs` of the first two bytes. -/
def nextPayload (p : TcpDnsPayloadParser) : Option (List UInt8) × TcpDnsPayloadParser :=
  match p.state, p.data with
  | .rdSize, b0 :: b1 :: _ =>
    readPayload { p with size := b0.toNat * 256 + b1.toNat, state := .rdPayload }
  | .rdSize, _ => (none, p)
  | .rdPayload, _ => readPayload p

theorem readPayload_data_lt {p q : TcpDnsPayloadParser} {payload : List UInt8}
    (h : p.readPayload = (some payload, q)) : q.data.length < p.data.length := by
  unfold readPayload at h
  split_ifs at h with hLen
  · cases h
  · obtain ⟨-, rfl⟩ := Prod.mk.inj h
    show (p.data.drop (2 + p.size)).length < _
    rw [List.length_drop]
    omega

theorem nextPayload_data_lt {p q : TcpDnsPayloadParser} {payload : List UInt8}
    (h : p.nextPayload = (some payload, q)) : q.data.length < p.data.length := by
  unfold nextPayload at h
  split at h
  · exact (readPayload_data_lt h :)
  · cases h
  · exact readPayload_data_lt h

/-- The loop of `read_cb`: `next_payload` until it returns false. -/
def drain (p : TcpDnsPayloadParser) : List (List UInt8) × TcpDnsPayloadParser :=
  match h : p.nextPayload with
  | (some payload, q) =>
    have := nextPayload_data_lt h
    let rest := q.drain
    (payload :: rest.1, rest.2)
  | (none, q) => ([], q)
termination_by p.data.length

/-- `read_cb` on a persistent connection: push the chunk, then drain. -/
def readChunk (p : TcpDnsPayloadParser) (chunk : List UInt8) :
    List (List UInt8) × TcpDnsPayloadParser :=
  (p.pushData chunk).drain

/-- Chunks read in order: the payloads taken, and the parser after the last chunk. -/
def readChunks : TcpDnsPayloadParser → List (List UInt8) → List (List UInt8) × TcpDnsPayloadParser
  | p, [] => ([], p)
  | p, chunk :: chunks =>
    let first := p.readChunk chunk
    let rest := first.2.readChunks chunks
    (first.1 ++ rest.1, rest.2)

end TcpDnsPayloadParser

/-- The bytes `tcp_dns_connection::write` sends for a payload: `bufs[0]`, the size cut to 16
bits in network order, then `bufs[1]`, the payload. -/
def writeFrame (payload : List UInt8) : List UInt8 :=
  let sizeBe := payload.length % 65536
  [(sizeBe / 256).toUInt8, (sizeBe % 256).toUInt8] ++ payload

/-! ## The frames of a byte stream -/

/-- The first complete frame of a stream and what follows it. -/
def frameAt : List UInt8 → Option (List UInt8 × List UInt8)
  | b0 :: b1 :: rest =>
    let size := b0.toNat * 256 + b1.toNat
    if size ≤ rest.length then some (rest.take size, rest.drop size) else none
  | _ => none

theorem frameAt_length_lt {bytes payload rest : List UInt8}
    (h : frameAt bytes = some (payload, rest)) : rest.length < bytes.length := by
  unfold frameAt at h
  split at h
  · dsimp only at h
    split_ifs at h
    cases h
    simp only [List.length_drop, List.length_cons]
    omega
  · cases h

/-- The complete frames of a stream, in order, and the bytes after the last one. -/
def decodeFrames (bytes : List UInt8) : List (List UInt8) × List UInt8 :=
  match h : frameAt bytes with
  | some (payload, rest) =>
    have := frameAt_length_lt h
    let r := decodeFrames rest
    (payload :: r.1, r.2)
  | none => ([], bytes)
termination_by bytes.length

theorem decodeFrames_of_frameAt {bytes payload rest : List UInt8}
    (h : frameAt bytes = some (payload, rest)) :
    decodeFrames bytes = (payload :: (decodeFrames rest).1, (decodeFrames rest).2) := by
  rw [decodeFrames]
  split <;> simp_all

theorem decodeFrames_of_frameAt_none {bytes : List UInt8} (h : frameAt bytes = none) :
    decodeFrames bytes = ([], bytes) := by
  rw [decodeFrames]
  split <;> simp_all

@[simp]
theorem decodeFrames_nil : decodeFrames [] = ([], []) := decodeFrames_of_frameAt_none rfl

theorem frameAt_append {bytes payload rest : List UInt8} (more : List UInt8)
    (h : frameAt bytes = some (payload, rest)) :
    frameAt (bytes ++ more) = some (payload, rest ++ more) := by
  unfold frameAt at h
  split at h
  · next b0 b1 tail =>
    dsimp only at h
    split_ifs at h with hLen
    cases h
    simp only [List.cons_append, frameAt, List.length_append, List.take_append_of_le_length hLen,
      List.drop_append_of_le_length hLen]
    rw [if_pos (by omega)]
  · cases h

theorem decodeFrames_append (bytes more : List UInt8) :
    decodeFrames (bytes ++ more) =
      ((decodeFrames bytes).1 ++ (decodeFrames ((decodeFrames bytes).2 ++ more)).1,
        (decodeFrames ((decodeFrames bytes).2 ++ more)).2) := by
  induction bytes using decodeFrames.induct with
  | case1 bytes payload rest h _ ih =>
    rw [decodeFrames_of_frameAt h, decodeFrames_of_frameAt (frameAt_append more h), ih]
    rfl
  | case2 bytes h =>
    rw [decodeFrames_of_frameAt_none h]
    rfl

theorem toUInt8_toNat_eq_mod (n : Nat) : n.toUInt8.toNat = n % 256 := rfl

theorem writeFrame_size (payload : List UInt8) (hSize : payload.length < 65536) :
    (payload.length % 65536 / 256).toUInt8.toNat * 256 + (payload.length % 65536 % 256).toUInt8.toNat =
      payload.length := by
  simp only [toUInt8_toNat_eq_mod]
  omega

theorem frameAt_writeFrame (payload tail : List UInt8) (hSize : payload.length < 65536) :
    frameAt (writeFrame payload ++ tail) = some (payload, tail) := by
  simp only [writeFrame, List.cons_append, List.nil_append, frameAt, writeFrame_size payload hSize,
    List.length_append, Nat.le_add_right, ↓reduceIte, List.take_left', List.drop_left']

theorem decodeFrames_writeFrames (payloads : List (List UInt8))
    (hSize : ∀ p ∈ payloads, p.length < 65536) (tail : List UInt8) :
    decodeFrames (payloads.flatMap writeFrame ++ tail) =
      (payloads ++ (decodeFrames tail).1, (decodeFrames tail).2) := by
  induction payloads with
  | nil => rfl
  | cons p ps ih =>
    have hTail := ih fun q hq => hSize q (List.mem_cons_of_mem p hq)
    rw [List.flatMap_cons, List.append_assoc,
      decodeFrames_of_frameAt (frameAt_writeFrame p _ (hSize p (List.mem_cons_self p ps))), hTail]
    rfl

theorem frameAt_of_lt_writeFrame {payload part : List UInt8} (hSize : payload.length < 65536)
    (hPrefix : part <+: writeFrame payload) (hShort : part.length < (writeFrame payload).length) :
    frameAt part = none := by
  obtain ⟨rest, hRest⟩ := hPrefix
  match part, hRest, hShort with
  | b0 :: b1 :: tail, hRest, hShort =>
    simp only [writeFrame, List.cons_append, List.nil_append, List.cons.injEq] at hRest
    obtain ⟨rfl, rfl, -⟩ := hRest
    simp only [writeFrame, List.length_cons, List.length_nil, List.length_append] at hShort
    simp only [frameAt, writeFrame_size payload hSize]
    rw [if_neg (by omega)]
  | [], _, _ => rfl
  | [_], _, _ => rfl

theorem decodeFrames_of_prefix (payloads : List (List UInt8))
    (hSize : ∀ p ∈ payloads, p.length < 65536) {bytes : List UInt8}
    (hPrefix : bytes <+: payloads.flatMap writeFrame) :
    ∃ k ≤ payloads.length, (decodeFrames bytes).1 = payloads.take k ∧
      (payloads.take k).flatMap writeFrame ++ (decodeFrames bytes).2 = bytes ∧
      ∀ p ∈ (payloads.drop k).head?, (decodeFrames bytes).2.length < (writeFrame p).length := by
  induction payloads generalizing bytes with
  | nil =>
    obtain rfl := List.prefix_nil.mp hPrefix
    exact ⟨0, le_rfl, by simp, by simp, nofun⟩
  | cons p ps ih =>
    have hp := hSize p (List.mem_cons_self p ps)
    rw [List.flatMap_cons, List.prefix_iff_eq_take] at hPrefix
    by_cases hShort : bytes.length < (writeFrame p).length
    · -- the bytes stop inside the first frame
      rw [List.take_append_of_le_length hShort.le] at hPrefix
      have hNone := frameAt_of_lt_writeFrame hp (hPrefix ▸ List.take_prefix _ _) hShort
      rw [decodeFrames_of_frameAt_none hNone]
      refine ⟨0, Nat.zero_le _, rfl, rfl, ?_⟩
      simpa using hShort
    · -- the first frame is complete: decode it, then what follows
      rw [List.take_append_eq_append_take, List.take_of_length_le (by omega)] at hPrefix
      obtain ⟨k, hk, hOut, hBytes, hNext⟩ :=
        ih (fun q hq => hSize q (List.mem_cons_of_mem p hq)) (List.take_prefix _ _)
      rw [hPrefix, decodeFrames_of_frameAt (frameAt_writeFrame p _ hp)]
      refine ⟨k + 1, Nat.succ_le_succ hk, congrArg (p :: ·) hOut, ?_, hNext⟩
      rw [List.take_succ_cons, List.flatMap_cons, List.append_assoc, hBytes]

/-! ## The parser reads the frames -/

namespace TcpDnsPayloadParser

/-- The parser state that `next_payload` leaves: `m_size` was read from the buffer's front. -/
def Consistent (p : TcpDnsPayloadParser) : Prop :=
  match p.state, p.data with
  | .rdSize, _ => True
  | .rdPayload, b0 :: b1 :: _ => p.size = b0.toNat * 256 + b1.toNat
  | .rdPayload, _ => False

theorem consistent_of_rdSize {p : TcpDnsPayloadParser} (h : p.state = .rdSize) : p.Consistent := by
  unfold Consistent
  rw [h]
  trivial

theorem Consistent.state_of_data_nil {p : TcpDnsPayloadParser} (hp : p.Consistent)
    (h : p.data = []) : p.state = .rdSize := by
  obtain ⟨state, size, data⟩ := p
  subst h
  cases state with
  | rdSize => rfl
  | rdPayload => exact (hp : False).elim

theorem new_consistent : new.Consistent := trivial

theorem Consistent.pushData {p : TcpDnsPayloadParser} (hp : p.Consistent) (chunk : List UInt8) :
    (p.pushData chunk).Consistent := by
  obtain ⟨state, size, data⟩ := p
  match state, data, hp with
  | .rdSize, _, _ => trivial
  | .rdPayload, _ :: _ :: _, hp => exact hp

theorem readPayload_cons_cons (state : ParserState) (size : Nat) (b0 b1 : UInt8) (tail : List UInt8) :
    readPayload ⟨state, size, b0 :: b1 :: tail⟩ =
      if tail.length < size then (none, ⟨state, size, b0 :: b1 :: tail⟩)
      else (some (tail.take size), ⟨.rdSize, size, tail.drop size⟩) := by
  simp only [readPayload, List.length_cons, List.drop_succ_cons, Nat.add_comm 2, List.drop]
  split_ifs <;> first | rfl | omega

theorem nextPayload_cons_cons {state : ParserState} {size : Nat} {b0 b1 : UInt8} {tail : List UInt8}
    (hp : Consistent ⟨state, size, b0 :: b1 :: tail⟩) :
    nextPayload ⟨state, size, b0 :: b1 :: tail⟩ =
      readPayload ⟨.rdPayload, b0.toNat * 256 + b1.toNat, b0 :: b1 :: tail⟩ := by
  cases state with
  | rdSize => rfl
  | rdPayload =>
    simp only [Consistent] at hp
    subst hp
    rfl

theorem nextPayload_of_frameAt {p : TcpDnsPayloadParser} {payload rest : List UInt8}
    (hp : p.Consistent) (h : frameAt p.data = some (payload, rest)) :
    ∃ q, p.nextPayload = (some payload, q) ∧ q.data = rest ∧ q.state = .rdSize := by
  obtain ⟨state, size, data⟩ := p
  match data, h with
  | b0 :: b1 :: tail, h =>
    simp only [frameAt] at h
    split_ifs at h with hLen
    obtain ⟨rfl, rfl⟩ := Prod.mk.inj (Option.some.inj h)
    rw [nextPayload_cons_cons hp, readPayload_cons_cons, if_neg (Nat.not_lt.mpr hLen)]
    exact ⟨_, rfl, rfl, rfl⟩

theorem nextPayload_of_frameAt_none {p : TcpDnsPayloadParser} (hp : p.Consistent)
    (h : frameAt p.data = none) :
    ∃ q, p.nextPayload = (none, q) ∧ q.data = p.data ∧ q.Consistent := by
  obtain ⟨state, size, data⟩ := p
  match state, data, hp with
  | .rdSize, [], _ | .rdSize, [_], _ => exact ⟨_, rfl, rfl, trivial⟩
  | _, b0 :: b1 :: tail, hp =>
    simp only [frameAt] at h
    split_ifs at h with hLen
    rw [nextPayload_cons_cons hp, readPayload_cons_cons, if_pos (Nat.lt_of_not_le hLen)]
    exact ⟨_, rfl, rfl, rfl⟩

theorem drain_of_nextPayload {p q : TcpDnsPayloadParser} {payload : List UInt8}
    (h : p.nextPayload = (some payload, q)) : p.drain = (payload :: q.drain.1, q.drain.2) := by
  rw [drain]
  split <;> simp_all

theorem drain_of_nextPayload_none {p q : TcpDnsPayloadParser} (h : p.nextPayload = (none, q)) :
    p.drain = ([], q) := by
  rw [drain]
  split <;> simp_all

theorem drain_eq_decodeFrames (p : TcpDnsPayloadParser) (hp : p.Consistent) :
    p.drain.1 = (decodeFrames p.data).1 ∧ p.drain.2.data = (decodeFrames p.data).2 ∧
      p.drain.2.Consistent ∧ frameAt p.drain.2.data = none := by
  induction p using drain.induct with
  | case1 p payload q h _ ih =>
    cases hFrame : frameAt p.data with
    | none =>
      obtain ⟨q', h', -⟩ := nextPayload_of_frameAt_none hp hFrame
      rw [h] at h'
      cases h'
    | some frame =>
      obtain ⟨q', h', hData, hState⟩ := nextPayload_of_frameAt hp hFrame
      rw [h] at h'
      obtain ⟨⟨⟩, rfl⟩ := Prod.mk.inj h'
      obtain ⟨hOut, hRest, hCons, hNone⟩ := ih (consistent_of_rdSize hState)
      rw [drain_of_nextPayload h, decodeFrames_of_frameAt hFrame, ← hData]
      exact ⟨congrArg _ hOut, hRest, hCons, hNone⟩
  | case2 p q h =>
    cases hFrame : frameAt p.data with
    | some frame =>
      obtain ⟨q', h', -⟩ := nextPayload_of_frameAt hp hFrame
      rw [h] at h'
      cases h'
    | none =>
      obtain ⟨q', h', hData, hCons⟩ := nextPayload_of_frameAt_none hp hFrame
      rw [h] at h'
      obtain ⟨-, rfl⟩ := Prod.mk.inj h'
      rw [drain_of_nextPayload_none h, decodeFrames_of_frameAt_none hFrame]
      exact ⟨rfl, hData, hCons, hData ▸ hFrame⟩

theorem readChunks_eq_decodeFrames (p : TcpDnsPayloadParser) (hp : p.Consistent)
    (hIdle : frameAt p.data = none) (chunks : List (List UInt8)) :
    (p.readChunks chunks).1 = (decodeFrames (p.data ++ chunks.flatten)).1 ∧
      (p.readChunks chunks).2.data = (decodeFrames (p.data ++ chunks.flatten)).2 ∧
      (p.readChunks chunks).2.Consistent := by
  induction chunks generalizing p with
  | nil =>
    rw [List.flatten_nil, List.append_nil, decodeFrames_of_frameAt_none hIdle]
    exact ⟨rfl, rfl, hp⟩
  | cons chunk chunks ih =>
    obtain ⟨hOut, hData, hCons, hNone⟩ := drain_eq_decodeFrames _ (hp.pushData chunk)
    obtain ⟨hOut', hData', hCons'⟩ := ih _ hCons hNone
    have hBytes : p.data ++ (chunk :: chunks).flatten = (p.pushData chunk).data ++ chunks.flatten :=
      (List.append_assoc _ _ _).symm
    simp only [readChunks, readChunk]
    rw [hBytes, decodeFrames_append, ← hOut, ← hData, ← hOut', ← hData']
    exact ⟨rfl, rfl, hCons'⟩

end TcpDnsPayloadParser

open TcpDnsPayloadParser in
/-- Whatever chunks the stream of frames arrives in, a persistent connection's parser returns
the payloads in order, and on a start of the stream it returns the payloads whose frames are
complete and keeps the rest buffered. -/
theorem readChunks_writeFrames (payloads : List (List UInt8))
    (hSize : ∀ p ∈ payloads, p.length < 65536) (chunks : List (List UInt8)) :
    (chunks.flatten = payloads.flatMap writeFrame →
      (new.readChunks chunks).1 = payloads ∧ (new.readChunks chunks).2.state = .rdSize ∧
        (new.readChunks chunks).2.data = []) ∧
    (chunks.flatten <+: payloads.flatMap writeFrame →
      ∃ k ≤ payloads.length, (new.readChunks chunks).1 = payloads.take k ∧
        (payloads.take k).flatMap writeFrame ++ (new.readChunks chunks).2.data = chunks.flatten ∧
        ∀ p ∈ (payloads.drop k).head?, (new.readChunks chunks).2.data.length < (writeFrame p).length) := by
  obtain ⟨hOut, hData, hCons⟩ := readChunks_eq_decodeFrames new new_consistent rfl chunks
  rw [show new.data = [] from rfl, List.nil_append] at hOut hData
  constructor
  · intro hStream
    have hAll := decodeFrames_writeFrames payloads hSize []
    rw [List.append_nil, decodeFrames_nil, ← hStream] at hAll
    rw [hAll, List.append_nil] at hOut
    rw [hAll] at hData
    exact ⟨hOut, hCons.state_of_data_nil hData, hData⟩
  · intro hPrefix
    rw [hOut, hData]
    exact decodeFrames_of_prefix payloads hSize hPrefix

theorem readChunks_writeFrames_split_size : (∀ p ∈ ([[1, 2, 3]] : List (List UInt8)), p.length < 65536) ∧
    (TcpDnsPayloadParser.new.readChunks [[0], [3, 1], [2, 3]]).1 = [[1, 2, 3]] ∧
    (TcpDnsPayloadParser.new.readChunks [[0], [3, 1], [2, 3]]).2.data = [] :=
  have hRound := (readChunks_writeFrames [[1, 2, 3]] (by decide) [[0], [3, 1], [2, 3]]).1 (by decide)
  ⟨by decide, hRound.1, hRound.2.2⟩

end DnsProxy
