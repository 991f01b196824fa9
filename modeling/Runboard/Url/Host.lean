import Runboard.Text.Printable
import Runboard.Url.Address
import Runboard.Url.Punycode

namespace Runboard.Url

inductive Error
  | noScheme
  | emptyHost
  | badPort
  | badIpv4
  | badIpv6
  | badDomain
  | badHostCharacter
deriving DecidableEq, Repr

def Error.message : Error → String
  | .noScheme => "relative URL without a base"
  | .emptyHost => "empty host"
  | .badPort => "invalid port number"
  | .badIpv4 => "invalid IPv4 address"
  | .badIpv6 => "invalid IPv6 address"
  | .badDomain => "invalid international domain name"
  | .badHostCharacter => "invalid domain character"

/-- A host. The name may be empty where the scheme allows it. -/
inductive Host
  | name (text : String)
  | ipv4 (value : Nat)
  | ipv6 (groups : List Nat)
deriving DecidableEq, Repr

def Host.text : Host → String
  | .name text => text
  | .ipv4 value => ipv4Text value
  | .ipv6 groups => "[" ++ ipv6Text groups ++ "]"

def isDenied (c : Char) : Bool :=
  c.toNat ≤ 0x20 || c.toNat = 0x7f ||
    ['%', '#', '/', ':', '<', '>', '?', '@', '[', '\\', ']', '^', '|'].contains c

def isIgnored (c : Char) : Bool :=
  c.toNat = 0xad || c.toNat = 0x200b || c.toNat = 0x2060 || c.toNat = 0xfeff ||
    (0xfe00 ≤ c.toNat && c.toNat ≤ 0xfe0f)

/-- A character of a name in lower case and ordinary width. -/
def foldChar (c : Char) : Char :=
  let n := c.toNat
  if n < 0x80 then c.toLower
  else if (0xc0 ≤ n && n ≤ 0xde && n ≠ 0xd7) || (0x391 ≤ n && n ≤ 0x3ab) ||
      (0x410 ≤ n && n ≤ 0x42f) then
    Char.ofNat (n + 0x20)
  else if 0x400 ≤ n && n ≤ 0x40f then Char.ofNat (n + 0x50)
  else if 0xff01 ≤ n && n ≤ 0xff5e then (Char.ofNat (n - 0xff01 + 0x21)).toLower
  else if n = 0x3002 || n = 0xff0e || n = 0xff61 then '.'
  else c

/-- A character that a name may hold after folding. -/
def isAllowed (c : Char) : Bool :=
  if c.toNat < 0x80 then !isDenied c
  else Text.isPrintable c && foldChar c = c && !isIgnored c && c.toNat ≠ 0xfffd

/-- A label that claims to be in ASCII form stands for a label that needs it. -/
def isAsciiForm (rest : List Char) : Bool :=
  match Punycode.decode? rest with
  | some label => label.all isAllowed && label.any (0x80 ≤ ·.toNat)
  | none => false

def asciiLabel (label : List Char) : Except Error (List Char) :=
  if ¬ label.all isAllowed then .error .badDomain
  else if label.any (0x80 ≤ ·.toNat) then .ok ("xn--".toList ++ Punycode.encode label)
  else
    match label with
    | 'x' :: 'n' :: '-' :: '-' :: rest => if isAsciiForm rest then .ok label else .error .badDomain
    | _ => .ok label

def asciiName (cs : List Char) : Except Error (List Char) := do
  let folded := (cs.filter (!isIgnored ·)).map foldChar
  let labels ← (Text.splitAtMark '.' folded).mapM asciiLabel
  return ['.'].intercalate labels

def bracketHost (cs : List Char) : Except Error Host :=
  match cs.getLast? with
  | some ']' =>
    match ipv6? cs.dropLast with
    | some groups => .ok (.ipv6 groups)
    | none => .error .badIpv6
  | _ => .error .badIpv6

/-- The host of an address of the web: escapes are read and names brought into ASCII form. A name
that ends in a number has to be an internet address. -/
def webHost : List Char → Except Error Host
  | '[' :: rest => bracketHost rest
  | cs => do
    let some plain := unescaped? cs | .error .badDomain
    let name ← asciiName plain
    if name.isEmpty then .error .emptyHost
    else if endsInNumber name then
      match ipv4? name with
      | some value => .ok (.ipv4 value)
      | none => .error .badIpv4
    else .ok (.name (String.ofList name))

/-- Characters that cannot stand in a host of any other address. -/
def isForbidden (c : Char) : Bool :=
  ['\x00', '\t', '\n', '\r', ' ', '#', '/', ':', '<', '>', '?', '@', '[', '\\', ']', '^',
    '|'].contains c

/-- The host of any other address, kept as it is written. -/
def plainHost : List Char → Except Error Host
  | '[' :: rest => bracketHost rest
  | cs =>
    if cs.any isForbidden then .error .badHostCharacter
    else .ok (.name (String.ofList (escaped neverPlain cs)))

end Runboard.Url
