import PanelConfig.Service.Address

/-! The target of a request as the service sees it: where the request is sent to, the decoded path
and the query. -/

namespace PanelConfig.Service

open Text

/-- A target as the service sees it. -/
structure Target where
  /-- The scheme and the host that the request is sent to. -/
  origin : String
  path : String
  /-- The query, encoded; an empty one is the same as none. -/
  query : String
  deriving DecidableEq, Repr

namespace Target

/-- Where a request is sent to if its address does not say. -/
def baseOrigin : String := "http://testserver"

def ofText (text : String) : Target :=
  let a := Address.ofText text
  { origin := if a.isAbsolute then a.origin else baseOrigin
    path := String.ofList (percentDecode a.sentPath)
    query := a.sentQuery }

def address (t : Target) : String :=
  t.origin ++ t.path ++ (if t.query = "" then "" else "?" ++ t.query)

end Target

/-- A character may stand in an address that is handed back. -/
def isLocationSafe : Char → Bool :=
  printableBut [' ', '"', '<', '>', '\x60', '\x7b', '\x7d', '\\', '^', '|']

/-- An address as it is handed back to be asked for instead. -/
def locationOf (address : String) : String :=
  String.ofList (percentEncode isLocationSafe address.toList)

end PanelConfig.Service
