import ShaderAnalysis.Files.PercentEncoding
import ShaderAnalysis.Host.Address
import ShaderAnalysis.Host.Name

/-!
# Hosts

The host in a URL: a name or an address. Under schemes that are known to have hosts a name is brought
into its usual form, and one that ends in a number has to be an address. Under other schemes names
are kept as they are.
-/

namespace ShaderAnalysis

/-- What is wrong with a URL. -/
inductive UriFault where
  | noScheme
  | noHost
  | badName
  | badCharacter
  | badIpv4
  | badIpv6
  | badPort
  deriving DecidableEq, Repr

/-- The text of a fault. -/
def UriFault.message : UriFault → String
  | noScheme => "relative URL without a base"
  | noHost => "empty host"
  | badName => "invalid international domain name"
  | badCharacter => "invalid domain character"
  | badIpv4 => "invalid IPv4 address"
  | badIpv6 => "invalid IPv6 address"
  | badPort => "invalid port number"

/-- The host in a URL. -/
inductive Host where
  | named (name : String)
  | ipv4 (address : Ipv4)
  | ipv6 (address : Ipv6)
  deriving DecidableEq, Repr

namespace Host

/-- A host as text; an address of eight groups is put in brackets. -/
def text : Host → String
  | named s => s
  | ipv4 a => a.text
  | ipv6 a => "[" ++ a.text ++ "]"

/-- The name of the machine that is asked. -/
def thisMachine : Host :=
  .named "localhost"

/-- The address between brackets. -/
def readBracketed (cs : List Char) : Except UriFault Host :=
  match if cs.getLast? == some ']' then Ipv6.read? (cs.drop 1).dropLast else none with
  | some a => .ok (.ipv6 a)
  | none => .error .badIpv6

/-- A name in its usual form, or an address. -/
def read (cs : List Char) : Except UriFault Host :=
  if cs.head? == some '[' then readBracketed cs
  else
    match (Percent.decode? cs).bind fun s => HostName.toAscii? s.toList with
    | none => .error .badName
    | some [] => .error .noHost
    | some name =>
      if Ipv4.isMeant name then
        match Ipv4.read? name with
        | some a => .ok (.ipv4 a)
        | none => .error .badIpv4
      else
        .ok (.named (String.ofList name))

/-- Characters that do not occur in a name that is kept as it is. -/
def isMisplaced (c : Char) : Bool :=
  ['\x00', '\t', '\n', '\r', ' ', '#', '/', ':', '<', '>', '?', '@', '[', '\\', ']', '^', '|'].contains c

/-- A name as it is, or an address of eight groups. -/
def readOpaque (cs : List Char) : Except UriFault Host :=
  if cs.head? == some '[' then readBracketed cs
  else if cs.any isMisplaced then .error .badCharacter
  else .ok (.named (String.ofList (Percent.encode Percent.isControl cs)))

end Host

end ShaderAnalysis
