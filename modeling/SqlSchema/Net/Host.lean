import SqlSchema.Net.Domain
import SqlSchema.Net.Ipv6
import SqlSchema.Text.Percent

/-! Hosts of addresses. A host in brackets is an address of the sixth version. Any other is kept as
it is written, unless its scheme is one of the web or that of files: then it is a domain, and one
whose last label is a number must be an address of the fourth version. -/

namespace SqlSchema.Net

open SqlSchema.Number SqlSchema.Text

/-- Why a text is not an address of a resource. -/
inductive UrlFault
  | relative
  | emptyHost
  | invalidPort
  | invalidIpv4
  | invalidIpv6
  | invalidDomainName
  | invalidHostCharacter
  deriving Repr, DecidableEq

def UrlFault.message : UrlFault → String
  | .relative => "relative URL without a base"
  | .emptyHost => "empty host"
  | .invalidPort => "invalid port number"
  | .invalidIpv4 => "invalid IPv4 address"
  | .invalidIpv6 => "invalid IPv6 address"
  | .invalidDomainName => "invalid international domain name"
  | .invalidHostCharacter => "invalid domain character"

def isForbiddenInHost (c : Char) : Bool :=
  c == '\x00' || c == '\t' || c == '\n' || c == '\r' || c == ' ' || c == '#' || c == '/'
    || c == ':' || c == '<' || c == '>' || c == '?' || c == '@' || c == '[' || c == '\\'
    || c == ']' || c == '^' || c == '|'

/-- A host that stands in brackets, if it starts with one. -/
def bracketed? (cs : List Char) : Option (Except UrlFault String) :=
  match cs with
  | '[' :: rest =>
    some (match rest.getLast? with
      | some ']' =>
        match ipv6? rest.dropLast with
        | some pieces => .ok ("[" ++ ipv6Text pieces ++ "]")
        | none => .error .invalidIpv6
      | _ => .error .invalidIpv6)
  | _ => none

/-- A host that is kept as it is written, its controls and what is beyond ASCII being encoded. -/
def opaqueHost (cs : List Char) : Except UrlFault String :=
  match bracketed? cs with
  | some host => host
  | none =>
    if cs.any isForbiddenInHost then .error .invalidHostCharacter
    else .ok (String.ofList (percentEncode isControl cs))

/-- A number of an address of the fourth version: decimal, octal behind `0`, or hexadecimal behind
`0x`. -/
def ipv4Number? (cs : List Char) : Option Nat :=
  let value (base : Nat) (digits : List Char) : Option Nat :=
    digits.foldlM
      (fun n c => (hexValue? c).bind fun d => if d < base then some (base * n + d) else none) 0
  match cs with
  | [] => none
  | '0' :: mark :: digits =>
    if mark == 'x' || mark == 'X' then value 16 digits else value 8 (mark :: digits)
  | digits => value 10 digits

/-- The labels of a domain; a point at its end is not counted. -/
def labels (cs : List Char) : List (List Char) :=
  let all := splitAt (· == '.') cs
  if 1 < all.length && all.getLast? == some [] then all.dropLast else all

/-- Whether a domain must be an address of the fourth version. -/
def endsInNumber (cs : List Char) : Bool :=
  match (labels cs).getLast? with
  | some last => (!last.isEmpty && last.all isDigit) || (ipv4Number? last).isSome
  | none => false

/-- Whether a domain is an address of the fourth version: at most four numbers, each but the last
one of a byte, and the last one of the bytes that are left. -/
def isIpv4 (cs : List Char) : Bool :=
  match (labels cs).mapM ipv4Number? with
  | some numbers =>
    numbers.length ≤ 4 && numbers.dropLast.all (· ≤ 255)
      && (numbers.getLast?.getD 0) < powerOfTwo (8 * (5 - numbers.length))
  | none => false

def isForbiddenInDomain (c : Char) : Bool :=
  isForbiddenInHost c || isControl c || c == '%'

def domainHost (cs : List Char) : Except UrlFault String :=
  if cs.isEmpty then .error .emptyHost
  else match bracketed? cs with
    | some host => host
    | none =>
      match utf8Decode (percentDecode (utf8Encode (String.ofList cs))) with
      | .error _ => .error .invalidDomainName
      | .ok s =>
        match Domain.plain? s.toList with
        | none => .error .invalidDomainName
        | some domain =>
          if domain.any isForbiddenInDomain then .error .invalidDomainName
          else if domain.isEmpty then .error .emptyHost
          else if endsInNumber domain && !isIpv4 domain then .error .invalidIpv4
          else .ok (String.ofList domain)

end SqlSchema.Net
