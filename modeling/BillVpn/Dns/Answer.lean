import BillVpn.Policy.Plan
import BillVpn.Go.Conn
import BillVpn.FakeIP.Runs

/-!
# Answering DNS queries with fake addresses

`handleDNSQuery` asks the upstream server, and for a name with a rule or on the built-in list puts
the fake address of the name in the place of each real one.

* `Msg`, `RR`                        the parts of a DNS message that are read or written;
* `DnsState`                         the two stores, the recorded answers, the reverse cache;
* `rewriteAnswers`                   the loop over the answer section;
* `buildFakeAddressResponse`, `handleDNSQuery`, `lookupFakeDomainByIP`   as in the source.

The clock is read once per call (`now`); `exchange` is what the upstream server answers during it.
-/

set_option linter.unusedVariables false

namespace Bill
open Go Proc

/-! ## messages -/

def typeA : Nat := 1
def typeAAAA : Nat := 28
def typeHTTPS : Nat := 65
def classINET : Nat := 1
def rcodeSuccess : Nat := 0

structure RRHeader where
  name : Bytes
  rrtype : Nat
  cls : Nat
  ttl : Nat
deriving DecidableEq, Repr

/-- the Go type of a record and what it carries; only addresses are looked at -/
inductive RData where
  | a (ip : IP)
  | aaaa (ip : IP)
  | other (rdata : Bytes)
deriving DecidableEq, Repr

structure RR where
  hdr : RRHeader
  data : RData
deriving DecidableEq, Repr

structure Question where
  name : Bytes
  qtype : Nat
  qclass : Nat
deriving DecidableEq, Repr

/-- the header without its `Rcode` -/
structure MsgHdr where
  id : Nat := 0
  response : Bool := false
  opcode : Nat := 0
  authoritative : Bool := false
  truncated : Bool := false
  recursionDesired : Bool := false
  recursionAvailable : Bool := false
  zero : Bool := false
  authenticatedData : Bool := false
  checkingDisabled : Bool := false
deriving DecidableEq, Repr

structure Msg where
  question : List Question
  hdr : MsgHdr := {}
  rcode : Nat := rcodeSuccess
  compress : Bool := false
  answer : List RR := []
  ns : List RR := []
  extra : List RR := []
deriving DecidableEq, Repr

/-! ## state -/

structure RecordedDNSResult where
  ipv4 : Bytes := []
  ipv4Expire : Int := 0
  ipv6 : Bytes := []
  ipv6Expire : Int := 0
deriving DecidableEq, Repr

structure DnsState where
  v4 : FakeIPStore := defaultFakeIPv4Store
  v6 : FakeIPStore := defaultFakeIPv6Store
  recordedDNSIPs : GoMap Bytes RecordedDNSResult := ∅
  /-- the `AddWithLifetime(ip, domain, dnsCacheTTL)` calls; `none` without a cache -/
  ipDomainCache : Option (List (Bytes × Bytes)) := none

section
variable {σ : Type} (env : Env σ) (dnsCacheTTL : Int)

def onV4 {α : Type} (x : Proc FakeIPStore α) : Proc DnsState α :=
  zoom (·.v4) (fun t s => { s with v4 := t }) x

def onV6 {α : Type} (x : Proc FakeIPStore α) : Proc DnsState α :=
  zoom (·.v6) (fun t s => { s with v6 := t }) x

/-! ## recorded answers -/

def ttlOrDefault (ttl : Nat) : Nat := if ttl = 0 then 300 else ttl

def rememberDomainIPMapping (domain ip : Bytes) (s : DnsState) : DnsState :=
  if domain = [] ∨ ip = [] then s
  else { s with ipDomainCache := s.ipDomainCache.map (· ++ [(ip, domain)]) }

/-- one answer: the entry of the domain, and the reverse cache -/
def rememberAnswer (domain : Bytes) (now : Int) (st : RecordedDNSResult × DnsState) (rr : RR) :
    RecordedDNSResult × DnsState :=
  let expire := now + ttlOrDefault rr.hdr.ttl * second
  match rr.data with
  | .a ip =>
    ({ st.1 with ipv4 := ipString ip, ipv4Expire := expire },
      rememberDomainIPMapping domain (ipString ip) st.2)
  | .aaaa ip =>
    ({ st.1 with ipv6 := ipString ip, ipv6Expire := expire },
      rememberDomainIPMapping domain (ipString ip) st.2)
  | .other _ => st

def rememberRecordedDNSAnswers (domain : Bytes) (answers : List RR) (now : Int) (s : DnsState) :
    DnsState :=
  if domain = [] ∨ answers = [] then s
  else
    let domain := env.lower domain
    let entry := (s.recordedDNSIPs.get domain).getD {}
    let (entry, s) := answers.foldl (rememberAnswer domain now) (entry, s)
    if entry.ipv4 = [] ∧ entry.ipv6 = [] then s
    else { s with recordedDNSIPs := s.recordedDNSIPs.set domain entry }

/-! ## fake addresses -/

def fakeIPLifetime (ttl : Nat) : Int :=
  let lifetime : Int := (if ttl = 0 then defaultFakeTTL else ttl : Nat) * second
  if lifetime < dnsCacheTTL then dnsCacheTTL else lifetime

/-- `Allocate` as a procedure (that it returns is `allocate_outcome`) -/
def allocateIn (domain : Bytes) (lifetime now : Int) : Proc FakeIPStore Bytes := fun s =>
  match s.allocate env.lower domain lifetime now with
  | none => (.panic, s)
  | some (r, s') => (.ofExcept r, s')

def allocateFakeIP (domain : Bytes) (qtype ttl : Nat) (now : Int) : Proc DnsState Bytes :=
  let lifetime := fakeIPLifetime dnsCacheTTL ttl
  if qtype = typeA then onV4 (allocateIn env domain lifetime now)
  else if qtype = typeAAAA then onV6 (allocateIn env domain lifetime now)
  else fail "unsupported fake ip qtype"

def lookupIn (ip : Bytes) (now : Int) : Proc FakeIPStore (Option Bytes) := fun s =>
  (.ok (s.lookupDomain ip now).1, (s.lookupDomain ip now).2)

def lookupFakeDomainByIP (ip : Bytes) (now : Int) : Proc DnsState (Option Bytes) := do
  match ← onV4 (lookupIn ip now) with
  | some domain => pure (some domain)
  | none => onV6 (lookupIn ip now)

def shouldUseFakeIP (domain : Bytes) : Bool :=
  match classifyDomainRoute env domain with
  | .rule => true
  | .gfw => true
  | .plain => false

/-! ## answers -/

/-- the TTL that a fake record carries -/
def fakeTTL (ttl : Nat) : Nat := if ttl = 0 then defaultFakeTTL else ttl

def buildFakeAnswerRR (header : RRHeader) (fakeIP : Bytes) : Res RR :=
  let hdr := { header with ttl := fakeTTL header.ttl }
  if header.rrtype = typeA then
    let ip := to4 (parseIP fakeIP)
    if ip = [] then .err "invalid fake ipv4 address" else .ok ⟨hdr, .a ip⟩
  else if header.rrtype = typeAAAA then
    let ip := parseIP fakeIP
    if ip = [] ∨ to4 ip ≠ [] then .err "invalid fake ipv6 address" else .ok ⟨hdr, .aaaa ip⟩
  else .err "unsupported fake answer type"

def buildQuestionFakeAnswerRR (question : Question) (fakeIP : Bytes) (ttl : Nat) : Res RR :=
  buildFakeAnswerRR ⟨question.name, question.qtype, question.qclass, ttl⟩ fakeIP

/-- `consider`: the least TTL so far, where 0 is none -/
def considerTTL (minTTL : Nat) (rr : RR) : Nat :=
  if rr.hdr.ttl = 0 then minTTL
  else if minTTL = 0 ∨ rr.hdr.ttl < minTTL then rr.hdr.ttl
  else minTTL

def fallbackFakeTTL (resp : Msg) : Nat :=
  let minTTL := (resp.answer ++ resp.ns ++ resp.extra).foldl considerTTL 0
  if minTTL = 0 then defaultFakeTTL else minTTL

/-- the variables of the loop over the answers -/
structure Rewriting where
  fakeIP : Bytes := []
  replacedNames : List Bytes := []
  answer : List RR := []
  replaced : Bool := false

/-- the fake address is allocated at the first record of the queried type -/
def ensureFakeIP (domain : Bytes) (qtype : Nat) (now : Int) (fakeIP : Bytes) (header : RRHeader) :
    Proc DnsState Bytes :=
  if fakeIP = [] then
    (allocateFakeIP env dnsCacheTTL domain qtype header.ttl now).wrap "allocate fake ip"
  else pure fakeIP

/-- the first record of each owner name is kept, with the fake address -/
def replaceRR (w : Rewriting) (fakeIP : Bytes) (rr : RR) : Res Rewriting :=
  if rr.hdr.name ∈ w.replacedNames then .ok { w with fakeIP := fakeIP, replaced := true }
  else do
    let fakeRR ← buildFakeAnswerRR rr.hdr fakeIP
    pure ⟨fakeIP, rr.hdr.name :: w.replacedNames, w.answer ++ [fakeRR], true⟩

def rewriteRR (domain : Bytes) (qtype : Nat) (now : Int) (w : Rewriting) (rr : RR) :
    Proc DnsState Rewriting :=
  if rr.hdr.rrtype ≠ qtype then pure { w with answer := w.answer ++ [rr] }
  else do
    let fakeIP ← ensureFakeIP env dnsCacheTTL domain qtype now w.fakeIP rr.hdr
    lift (replaceRR w fakeIP rr)

def rewriteAnswers (domain : Bytes) (qtype : Nat) (now : Int) :
    List RR → Rewriting → Proc DnsState Rewriting
  | [], w => pure w
  | rr :: rrs, w => do
    let w ← rewriteRR env dnsCacheTTL domain qtype now w rr
    rewriteAnswers domain qtype now rrs w

/-- no record of the queried type: one answer for the question itself -/
def fallbackAnswer (domain : Bytes) (qtype : Nat) (now : Int) (question : Question)
    (upstreamResp : Msg) : Proc DnsState Msg := do
  let fakeIP ← (allocateFakeIP env dnsCacheTTL domain qtype (fallbackFakeTTL upstreamResp) now).wrap
    "allocate fallback fake ip"
  let fakeRR ← lift (buildQuestionFakeAnswerRR question fakeIP (fallbackFakeTTL upstreamResp))
  pure { upstreamResp with answer := [fakeRR] }

def fakeReply (domain : Bytes) (qtype : Nat) (now : Int) (question : Question) (upstreamResp : Msg) :
    Proc DnsState Msg := do
  let w ← rewriteAnswers env dnsCacheTTL domain qtype now upstreamResp.answer {}
  if w.replaced then pure { upstreamResp with answer := w.answer }
  else fallbackAnswer env dnsCacheTTL domain qtype now question upstreamResp

def answerFrom (domain : Bytes) (qtype : Nat) (now : Int) (question : Question)
    (upstreamResp : Msg) : Proc DnsState Msg :=
  if upstreamResp.rcode ≠ rcodeSuccess then pure upstreamResp
  else do
    modify (rememberRecordedDNSAnswers env domain upstreamResp.answer now)
    if shouldUseFakeIP env domain then
      fakeReply env dnsCacheTTL domain qtype now question upstreamResp
    else pure upstreamResp

def buildFakeAddressResponse (exchange : Msg → Res Msg) (req : Msg) (domain : Bytes) (qtype : Nat)
    (now : Int) (question : Question) : Proc DnsState Msg := do
  let upstreamResp ← (lift (exchange req)).wrap "upstream dns exchange"
  answerFrom env dnsCacheTTL domain qtype now question upstreamResp

/-- `strings.TrimSuffix(name, ".")` -/
def trimDot (name : Bytes) : Bytes := if name.getLast? = some dot then name.dropLast else name

def queryDomain (question : Question) : Bytes := env.lower (trimDot question.name)

def handleDNSQuery (exchange : Msg → Res Msg) (now : Int) (req : Msg) : Proc DnsState Msg :=
  match req.question with
  | [question] =>
    if question.qclass ≠ classINET then lift (exchange req)
    else if question.qtype = typeA ∨ question.qtype = typeAAAA then
      buildFakeAddressResponse env dnsCacheTTL exchange req (queryDomain env question)
        question.qtype now question
    else lift (exchange req)
  | _ => lift (exchange req)

end

end Bill
