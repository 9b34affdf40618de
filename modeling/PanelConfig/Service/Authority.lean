import PanelConfig.Text.Cut
import PanelConfig.Text.Integer
import PanelConfig.Text.LowerCase
import PanelConfig.Text.Percent
import PanelConfig.Text.Punycode

/-! The authority of an address: an optional user before an at sign, a host, and an optional port
after a colon. Hosts are sent in lower case and in ASCII. -/

namespace PanelConfig.Service

open Text

/-- An authority by its parts. An empty part is the same as none. -/
structure Authority where
  user : List Char
  host : List Char
  port : List Char
  deriving DecidableEq, Repr

namespace Authority

def none : Authority := ⟨[], [], []⟩

/-- The characters without a colon at the front. -/
def afterColon : List Char → List Char
  | ':' :: cs => cs
  | cs => cs

/-- The host and the port. A host in square brackets may hold colons. -/
def splitPort (cs : List Char) : List Char × List Char :=
  match cs, cutAtLast? ']' cs with
  | '[' :: _, some (host, port) => (host ++ [']'], afterColon port)
  | _, _ => (cutAt? [':'] cs).getD (cs, [])

/-- The parts of an authority as it is written. The last at sign ends the user. -/
def ofChars (cs : List Char) : Authority :=
  let (user, place) := (cutAtLast? '@' cs).getD ([], cs)
  let (host, port) := splitPort place
  ⟨user, host, port⟩

def isHostSafe : Char → Bool :=
  printableBut [' ', '#', '/', ':', '<', '>', '?', '@', '[', ']', '^']

/-- The full stops that part the labels of a host, in the scripts that have their own. -/
def labelStops : List Char := ['.', '\u3002', '\uFF0E', '\uFF61']

def asciiLabel (cs : List Char) : List Char :=
  if cs.all Punycode.isAscii then cs else 'x' :: 'n' :: '-' :: '-' :: Punycode.encode cs

/-- The host in lower case and in ASCII. One in square brackets stands as it is. -/
def plainHost (a : Authority) : List Char :=
  let lowered := (lower (String.ofList a.host)).toList
  if a.host.head? = some '[' ∧ a.host.getLast? = some ']' then a.host
  else if a.host.all Punycode.isAscii then percentEncode isHostSafe lowered
  else
    let stopped := lowered.map fun c => if labelStops.contains c then '.' else c
    ['.'].intercalate ((stopped.splitOn '.').map asciiLabel)

def schemePort? (scheme : String) : Option Int :=
  [("ftp", 21), ("http", 80), ("https", 443), ("ws", 80), ("wss", 443)].lookup scheme

/-- The port, unless it is the one that the scheme stands for. The scheme is taken as it is written:
one in capitals stands for no port. -/
def plainPort? (a : Authority) (scheme : String) : Option Int :=
  (readInteger (String.ofList a.port)).filter fun port => schemePort? scheme ≠ some port

/-- The host and the port, as they are sent. -/
def text (a : Authority) (scheme : String) : String :=
  String.ofList a.plainHost ++ match a.plainPort? scheme with
    | some port => ":" ++ toString port
    | .none => ""

end Authority

end PanelConfig.Service
