import Mathlib.Data.List.Basic
import Mathlib.Algebra.Order.Ring.Nat

/-! # ldns packets as the forwarder reads and builds them

The parts of `ldns_pkt` that `dns_forwarder.cpp` reads or writes; a section count is the length of
its section list.
-/

namespace DnsProxy

set_option autoImplicit false

/-- A domain name as `ldns_wire2pkt` produces it: labels of 1 to 63 octets, at most
255 octets in wire form. -/
structure DName where
  labels : List (List UInt8)
  label_size : ∀ l ∈ labels, 0 < l.length ∧ l.length ≤ 63
  wire_size : (labels.map (·.length + 1)).sum + 1 ≤ 255
deriving DecidableEq

namespace DName

/-- The rdf data of a name: each label behind its length octet, then the zero octet. -/
def wire (n : DName) : List UInt8 :=
  n.labels.flatMap (fun l => l.length.toUInt8 :: l) ++ [0]

end DName

/-- One octet of a label as `ldns_rdf2buffer_str_dname` prints it. -/
def escapeOctet (c : UInt8) : List Char :=
  if c = 0x2E ∨ c = 0x3B ∨ c = 0x28 ∨ c = 0x29 ∨ c = 0x5C then ['\\', Char.ofNat c.toNat]
  else if c < 0x21 ∨ 0x7E < c then
    ['\\', Nat.digitChar (c.toNat / 100), Nat.digitChar (c.toNat / 10 % 10),
      Nat.digitChar (c.toNat % 10)]
  else [Char.ofNat c.toNat]

/-- `ldns_rdf2str` of a name: `.` for the root, else each label escaped and followed by `.`. -/
def DName.toStr (n : DName) : String :=
  if n.labels = [] then "." else ⟨n.labels.flatMap (fun l => l.flatMap escapeOctet ++ ['.'])⟩

inductive RdfKind
  | a
  | aaaa
  | time
  | period
  | other (n : Nat)
deriving DecidableEq

/-- An `ldns_rdf`: a name, or the octets of a field of another type. -/
inductive Rdf
  | dname (n : DName)
  | raw (kind : RdfKind) (data : List UInt8)
deriving DecidableEq

namespace Rdf

/-- `ldns_rdf_data`. -/
def data : Rdf → List UInt8
  | .dname n => n.wire
  | .raw _ d => d

/-- `ldns_native2rdf_int32`: the value as an `uint32_t`, four octets in network order. -/
def int32 (kind : RdfKind) (v : Nat) : Rdf :=
  .raw kind [(v / 2 ^ 24 % 256).toUInt8, (v / 2 ^ 16 % 256).toUInt8, (v / 256 % 256).toUInt8,
    (v % 256).toUInt8]

/-- `ldns_rdf2str` on the rdata of a CNAME, which ldns always parses as a name rdf. -/
def toStr? : Rdf → Option String
  | .dname n => some n.toStr
  | .raw _ _ => none

end Rdf

/-- An `ldns_rr`. The TTL is the record's `uint32_t` field. -/
structure RR where
  owner : DName
  ttl : UInt32
  type : Nat
  cls : Nat
  rdfs : List Rdf
deriving DecidableEq

-- The `ldns_rr_type` values the forwarder compares against.
namespace RRType

def a : Nat := 1
def cname : Nat := 5
def soa : Nat := 6
def aaaa : Nat := 28

end RRType

/-- `LDNS_RR_CLASS_IN`. -/
def classIn : Nat := 1

/-- `LDNS_DEFAULT_TTL`, the TTL `ldns_rr_new` gives a record. -/
def ldnsDefaultTtl : UInt32 := 3600

-- The `ldns_pkt_rcode` values the forwarder produces or tests.
namespace Rcode

def noerror : Nat := 0
def servfail : Nat := 2
def nxdomain : Nat := 3
def refused : Nat := 5

end Rcode

/-- An `ldns_pkt`; the defaults are those of `ldns_pkt_new`. -/
structure Pkt where
  id : UInt16 := 0
  qr : Bool := false
  aa : Bool := false
  tc : Bool := false
  rd : Bool := false
  cd : Bool := false
  ra : Bool := false
  ad : Bool := false
  opcode : Nat := 0
  rcode : Nat := 0
  question : List RR := []
  answer : List RR := []
  authority : List RR := []
  additional : List RR := []
  ednsUdpSize : Nat := 0
  ednsExtendedRcode : Nat := 0
  ednsVersion : Nat := 0
  ednsZ : Nat := 0
  ednsData : Option (List UInt8) := none
  ednsPresent : Bool := false
deriving DecidableEq

/-- The header flag masks `LDNS_RD` and `LDNS_RA`. -/
def ldnsRd : Nat := 8
def ldnsRa : Nat := 32

namespace Pkt

/-- `ldns_pkt_set_flags`: sets the header bits present in an `LDNS_QR | LDNS_AA | ...` mask. -/
def setFlags (p : Pkt) (flags : Nat) : Pkt :=
  { p with qr := p.qr || flags.testBit 0, aa := p.aa || flags.testBit 1,
           tc := p.tc || flags.testBit 2, rd := p.rd || flags.testBit 3,
           cd := p.cd || flags.testBit 4, ra := p.ra || flags.testBit 5,
           ad := p.ad || flags.testBit 6 }

/-- `ldns_pkt_edns_do`: bit `0x8000` of the EDNS flags. -/
def ednsDo (p : Pkt) : Bool := p.ednsZ.testBit 15

/-- `ldns_pkt_edns_unassigned`: any of the bits `0x7FFF` of the EDNS flags. -/
def ednsUnassigned (p : Pkt) : Bool := p.ednsZ % 0x8000 != 0

/-- `ldns_pkt_edns`: whether the packet carries an OPT record. -/
def edns (p : Pkt) : Bool :=
  0 < p.ednsUdpSize || 0 < p.ednsExtendedRcode || p.ednsData.isSome || p.ednsDo || p.ednsPresent

/-- `ldns_pkt_qdcount`. -/
def qdcount (p : Pkt) : Nat := p.question.length

end Pkt

/-- `ldns_pkt_query_new`: a packet whose one question asks `type` and `cls` of `owner`. -/
def ldnsPktQueryNew (owner : DName) (type cls flags : Nat) : Pkt :=
  { Pkt.setFlags {} flags with
    question := [{ owner, ttl := ldnsDefaultTtl, type := if type = 0 then RRType.a else type,
                   cls := if cls = 0 then classIn else cls, rdfs := [] }] }

end DnsProxy
