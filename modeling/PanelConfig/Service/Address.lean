import PanelConfig.Service.Authority

/-! Addresses, as they are written and as they are sent: an optional scheme before a colon, an
optional authority after two slashes, a path, and a query after a question mark. What follows a
number sign is not sent. -/

namespace PanelConfig.Service

open Text

def isQuerySafe : Char → Bool := printableBut [' ', '"', '#', '<', '>']

def isPathSafe : Char → Bool :=
  printableBut [' ', '"', '#', '<', '>', '?', '\x60', '\x7b', '\x7d']

/-- The names of a path without single dots, and without each `..` and the name before it. `done`
holds the names so far, the last one first. -/
def withoutDots (done : List (List Char)) : List (List Char) → List (List Char)
  | [] => done.reverse
  | name :: names =>
    if name = ['.'] then withoutDots done names
    else if name = ['.', '.'] then
      withoutDots (if done = [] ∨ done = [[]] then done else done.tail) names
    else withoutDots (name :: done) names

/-- The path of an address without dots that lead nowhere. -/
def plainPath (cs : List Char) : List Char :=
  let names := cs.splitOn '/'
  if names.contains ['.'] || names.contains ['.', '.'] then
    ['/'].intercalate (withoutDots [] names)
  else cs

/-- The characters make up a scheme: a letter, then letters, digits and three signs. No characters
at all will do as well. -/
def isScheme : List Char → Bool
  | [] => true
  | c :: cs => c.isAlpha && cs.all fun d => d.isAlphanum || d = '+' || d = '.' || d = '-'

def splitScheme (cs : List Char) : List Char × List Char :=
  match cutAt? [':'] cs with
  | some (scheme, rest) => if isScheme scheme then (scheme, rest) else ([], cs)
  | none => ([], cs)

/-- The authority after two slashes, and what comes after it. -/
def splitAuthority : List Char → List Char × List Char
  | '/' :: '/' :: cs => (cs.takeWhile (· ≠ '/'), cs.dropWhile (· ≠ '/'))
  | cs => ([], cs)

/-- An address by its parts. An empty part is the same as none. -/
structure Address where
  scheme : List Char
  authority : Authority
  path : List Char
  query : List Char

namespace Address

def ofText (text : String) : Address :=
  let sent := text.toList.takeWhile (· ≠ '#')
  let (place, query) := (cutAt? ['?'] sent).getD (sent, [])
  let (scheme, rest) := splitScheme place
  let (authority, path) := splitAuthority rest
  ⟨scheme, .ofChars authority, path, query⟩

variable (a : Address)

/-- The address leads to a host of its own. -/
def isAbsolute : Bool := a.scheme ≠ [] && a.authority.host ≠ []

/-- The scheme, the host and the port, as they are sent. -/
def origin : String :=
  String.ofList (a.scheme.map Char.toLower) ++ "://" ++ a.authority.text (String.ofList a.scheme)

/-- The path as it is sent. Dots are taken out as soon as it is known where the path starts: after a
scheme or an authority, or else at the root of the service. -/
def sentPath : List Char :=
  let path := percentEncode isPathSafe
    (if a.scheme = [] ∧ a.authority = .none then a.path else plainPath a.path)
  if a.isAbsolute then path else plainPath ('/' :: path.dropWhile (· = '/'))

def sentQuery : String := String.ofList (percentEncode isQuerySafe a.query)

end Address

end PanelConfig.Service
