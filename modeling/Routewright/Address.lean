import Routewright.Address.Numeric
import Routewright.Domain.Name
import Routewright.Text.Case
import Routewright.Text.Quoted

/-!
# Addresses

The address of a document on another machine: a scheme, the machine, and the way to the document on
it. Only what names the machine is looked at here. A machine is named by numbers or by a domain
name, and it may be followed by a port.
-/

namespace Routewright

/-- Why there is no document at an address. -/
inductive AddressFault
  | malformed
  /-- No machine is named. -/
  | noHost
  /-- The machine is named by labels in ASCII that stand for no others. -/
  | label (fault : Domain.LabelFault)
  deriving DecidableEq, Repr

/-- The wording of a fault. -/
def AddressFault.message : AddressFault → String
  | .malformed => "the address is malformed"
  | .noHost => "the address names no host"
  | .label _ => "the address names a host that cannot be read"

namespace Address

/-- The most characters of an address. -/
def longest : Nat := 65536

/-- Whether a character is a control of ASCII. -/
def isControl (c : Char) : Bool :=
  c.toNat < 0x20 || c.toNat = 0x7F

/-- What follows the two slashes behind the scheme. -/
def afterScheme : List Char → List Char
  | [] => []
  | '/' :: '/' :: cs => cs
  | _ :: cs => afterScheme cs

/-- The part of an address that names the machine, with its port, without the user. -/
def authority (address : List Char) : List Char :=
  let whole := (afterScheme address).takeWhile fun c => c ≠ '/' && c ≠ '?' && c ≠ '#'
  (whole.reverse.takeWhile (· ≠ '@')).reverse

/-- The name of the machine in an authority. One in brackets goes up to the last bracket. -/
def host (authority : List Char) : List Char :=
  if authority.head? = some '[' && authority.contains ']' then
    (authority.reverse.dropWhile (· ≠ ']')).reverse
  else authority.takeWhile (· ≠ ':')

/-- The text of the port in an authority. -/
def portText (authority : List Char) : List Char :=
  match authority.drop (host authority).length with
  | ':' :: cs => cs
  | cs => cs

/-- Whether the text of a port is an integer, or left out. -/
def isPort (cs : List Char) : Bool :=
  cs.isEmpty || (Text.integerIn? 10 cs).isSome

/-- The code points of a text in lower case. -/
def lowered (cs : List Char) : List Nat :=
  (Text.lower cs).map Char.toNat

/-- The characters of ASCII that do not stand in the name of a machine as they are. -/
def escapedChars : List Char :=
  [' ', '<', '>', '[', ']', '^']

/-- The name of a machine in ASCII as it is asked for: characters that do not stand in it are
written by their numbers. -/
def escaped (host : List Char) : List Char :=
  host.flatMap fun c => if escapedChars.contains c then '%' :: Text.hex 2 c.toNat else [c]

/-- Checks the name of a machine. -/
def checkHost (host : List Char) : Except AddressFault Unit :=
  if host.isEmpty then .ok ()
  else if looksLikeNumbers host then
    if isFourNumbers host then .ok () else .error .malformed
  else if host.head? = some '[' && host.getLast? = some ']' then
    if isEightNumbers (host.drop 1).dropLast then .ok () else .error .malformed
  else if host.all fun c => c.toNat < 0x80 then
    if Domain.asciiPrefix.isPrefixOf (lowered host) then
      ((Domain.decoded (lowered (escaped host))).map fun _ => ()).mapError .label
    else .ok ()
  else ((Domain.encoded (lowered host)).map fun _ => ()).mapError fun _ => .malformed

/-- Checks an address before something is asked for at it. -/
def check (address : String) : Except AddressFault Unit :=
  let cs := address.toList
  if longest < cs.length || cs.any isControl || !isPort (portText (authority cs)) then
    .error .malformed
  else checkHost (host (authority cs))

/-- Whether an address names a machine. -/
def namesHost (address : String) : Bool :=
  !(host (authority address.toList)).isEmpty

end Address

end Routewright
