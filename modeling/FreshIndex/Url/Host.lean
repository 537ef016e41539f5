import FreshIndex.Text.Percent
import FreshIndex.Url.Address

/-!
This module contains the hosts of URLs. The host of a special scheme is a domain or an address; the
host of any other scheme is kept as it is, save for controls.
-/

namespace FreshIndex.Url

open Text

inductive UrlError
  | noScheme
  | emptyHost
  | invalidPort
  | invalidDomain
  | invalidHostCharacter
  | invalidIpv4
  | invalidIpv6
  deriving Repr, DecidableEq

def UrlError.message : UrlError → String
  | noScheme => "relative URL without a base"
  | emptyHost => "empty host"
  | invalidPort => "invalid port number"
  | invalidDomain => "invalid international domain name"
  | invalidHostCharacter => "invalid domain character"
  | invalidIpv4 => "invalid IPv4 address"
  | invalidIpv6 => "invalid IPv6 address"

inductive Host
  | empty
  | name (text : List Char)
  | ipv4 (address : Nat)
  | ipv6 (pieces : List Nat)
  deriving Repr, DecidableEq

namespace Host

def text : Host → List Char
  | empty => []
  | name text => text
  | ipv4 address => Ipv4.text address
  | ipv6 pieces => '[' :: (Ipv6.text pieces ++ [']'])

def isForbidden (c : Char) : Bool :=
  c == '\x00' || c == '\t' || c == '\n' || c == '\r' || c == ' ' || c == '#' || c == '/' ||
    c == ':' || c == '<' || c == '>' || c == '?' || c == '@' || c == '[' || c == '\\' || c == ']' ||
    c == '^' || c == '|'

def isForbiddenInDomain (c : Char) : Bool :=
  isForbidden c || c == '%' || Percent.control c

/-- The address between brackets, if a host starts with a bracket. -/
def bracketed? : (cs : List Char) → Option (Except UrlError Host)
  | '[' :: rest =>
    if rest.getLast? = some ']' then
      match Ipv6.parse? rest.dropLast with
      | some pieces => some (.ok (ipv6 pieces))
      | none => some (.error .invalidIpv6)
    else
      some (.error .invalidIpv6)
  | _ => none

def parseSpecial (cs : List Char) : Except UrlError Host :=
  match bracketed? cs with
  | some host => host
  | none =>
    let domain := (ofOctets (Percent.decode cs)).toList.map Char.toLower
    if domain.any isForbiddenInDomain then .error .invalidDomain
    else if domain.isEmpty then .error .emptyHost
    else if Ipv4.endsInNumber domain then
      match Ipv4.parse? domain with
      | some address => .ok (ipv4 address)
      | none => .error .invalidIpv4
    else
      .ok (name domain)

def parsePlain (cs : List Char) : Except UrlError Host :=
  match bracketed? cs with
  | some host => host
  | none =>
    if cs.any isForbidden then .error .invalidHostCharacter
    else if cs.isEmpty then .ok empty
    else .ok (name (Percent.encode Percent.control cs))

end Host

end FreshIndex.Url
