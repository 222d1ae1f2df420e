import BillVpn.Go.Netip

/-!
# `host:port` texts

`net.JoinHostPort`, `net.SplitHostPort`, the decimal numbers of `strconv`, and the two ways in
which the libraries print an address with a port: `netip.AddrPort` and `net.UDPAddr`.
-/

set_option linter.unusedVariables false

namespace Go

def lbracket : UInt8 := 91
def rbracket : UInt8 := 93

/-- `strconv.Itoa` -/
def itoaInt (n : Int) : Bytes := if n < 0 then 45 :: itoa n.natAbs else itoa n.natAbs

/-- `strconv.Atoi`: an optional sign and decimal digits, in the range of `int64` -/
def atoi (s : Bytes) : Option Int :=
  let neg := s.head? = some 45
  let ds := if s.head? = some 45 ∨ s.head? = some 43 then s.drop 1 else s
  if ds ≠ [] ∧ ds.all isDigit then
    let n : Int := if neg then -(digitsVal 10 ds : Int) else digitsVal 10 ds
    if -2 ^ 63 ≤ n ∧ n < 2 ^ 63 then some n else none
  else none

/-- `net.JoinHostPort` -/
def joinHostPort (host port : Bytes) : Bytes :=
  if colon ∈ host then lbracket :: host ++ [rbracket, colon] ++ port else host ++ [colon] ++ port

/-- `net.SplitHostPort`: the port follows the last colon; a host in brackets may hold colons -/
def splitHostPort (hostport : Bytes) : Option (Bytes × Bytes) :=
  if colon ∉ hostport then none
  else
    let port := (hostport.reverse.takeWhile (· != colon)).reverse
    let before := hostport.take (hostport.length - port.length - 1)
    if hostport.head? = some lbracket then
      let host := (hostport.drop 1).takeWhile (· != rbracket)
      -- the first closing bracket stands right before the last colon
      if rbracket ∈ hostport ∧ before.length = host.length + 2 then
        if lbracket ∈ hostport.drop 1 ∨ rbracket ∈ hostport.drop (host.length + 2) then none
        else some (host, port)
      else none
    else if colon ∈ before then none
    else if lbracket ∈ hostport ∨ rbracket ∈ hostport then none
    else some (before, port)

/-- `strconv.ParseUint(s, 10, 16)` -/
def parsePort (s : Bytes) : Option Nat :=
  if s ≠ [] ∧ s.all isDigit ∧ digitsVal 10 s < 65536 then some (digitsVal 10 s) else none

/-- `netip.ParseAddrPort`: brackets are for IPv6 addresses, and only for these -/
def parseAddrPort (s : Bytes) : Option (Addr × Nat) :=
  if colon ∉ s then none
  else
    let port := (s.reverse.takeWhile (· != colon)).reverse
    let ip := s.take (s.length - port.length - 1)
    let v6 := ip.head? = some lbracket
    if ip = [] ∨ port = [] ∨ (v6 ∧ (ip.length < 2 ∨ ip.getLast? ≠ some rbracket)) then none
    else
      match parsePort port, parseAddr (if v6 then (ip.drop 1).dropLast else ip) with
      | some n, some a => if v6 ↔ a.is4 = false then some (a, n) else none
      | _, _ => none

/-- `netip.AddrPort.String`: a mapped address keeps its `::ffff:` -/
def addrPortText (a : Addr) (port : Nat) : Bytes :=
  if a.is4 then a.text ++ [colon] ++ itoa port
  else lbracket :: a.text ++ [rbracket, colon] ++ itoa port

/-! ## UDP addresses -/

structure UDPAddr where
  ip : IP
  port : Int
  zone : Bytes := []
deriving DecidableEq, Repr

/-- `UDPAddr.String()`: a mapped address is printed in dotted form, a `nil` one as nothing -/
def UDPAddr.text (a : UDPAddr) : Bytes :=
  let ip := if a.ip = [] then [] else ipString a.ip
  joinHostPort (if a.zone = [] then ip else ip ++ [percent] ++ a.zone) (itoaInt a.port)

/-- `Addr.AsSlice()` -/
def Addr.asSlice : Addr → IP
  | .v4 n => toBytes 4 n.val
  | .v6 n _ => toBytes 16 n.val

/-- `net.UDPAddrFromAddrPort` -/
def udpAddrFromAddrPort (a : Addr) (port : Nat) : UDPAddr := ⟨a.asSlice, port, a.zone⟩

example : splitHostPort (lit "example.com:443") = some (lit "example.com", lit "443") := by decide
example : splitHostPort (lit "[2001:db8::1]:53") = some (lit "2001:db8::1", lit "53") := by decide
example : splitHostPort (lit "2001:db8::1") = none := by decide
example : parseAddrPort (lit "[2001:db8::1]:53") = (parseAddr (lit "2001:db8::1")).map (·, 53) := by
  decide

end Go
