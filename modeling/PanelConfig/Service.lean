import PanelConfig.Json
import PanelConfig.Service.Target
import PanelConfig.Snapshot

/-! The service of the panel: three routes that report on it, all of them read with `GET`, and the
answers to requests that no route takes. Pages that document the service are left out. -/

namespace PanelConfig.Service

inductive Route where
  | health
  | version
  | config
  deriving DecidableEq, Repr

namespace Route

def all : List Route := [.health, .version, .config]

def path : Route → String
  | .health => "/health"
  | .version => "/version"
  | .config => "/config"

/-- The route that a path leads to. One line feed after its own path makes no difference. -/
def ofPath? (path : String) : Option Route :=
  all.find? fun r => path = r.path || path = r.path ++ "\n"

end Route

structure Request where
  method : String
  target : String
  deriving DecidableEq, Repr

structure Response where
  status : Nat
  contentType : Option String
  allow : Option String
  location : Option String
  body : String
  deriving DecidableEq, Repr

namespace Response

def json (status : Nat) (v : Value) : Response :=
  ⟨status, some "application/json", none, none, Json.text Json.compact v⟩

/-- An answer with a detail on what went wrong. -/
def detail (status : Nat) (text : String) : Response :=
  json status (.mapping [("detail", .text text)])

def notFound : Response := detail 404 "Not Found"

def methodNotAllowed : Response := { detail 405 "Method Not Allowed" with allow := some "GET" }

/-- The answer to a request that has to be sent elsewhere. -/
def redirect (address : String) : Response := ⟨307, none, none, some (locationOf address), ""⟩

/-- The answer to a request that breaks. -/
def broken : Response := detail 500 "Internal server error"

def withoutBody (r : Response) : Response := { r with body := "" }

end Response

def trimSlashes (path : String) : String :=
  String.ofList (path.toList.reverse.dropWhile (· = '/')).reverse

def healthValue : Value := .mapping [("status", .text "healthy")]

variable (m : Machine)

/-- The value that reports who the panel is. -/
def versionValue : Value := .mapping [("name", .text m.name), ("version", .text m.version)]

/-- The answer of a route to a request that it takes, and what it logs: a failure that is not
expected is logged and contained. -/
def answerRoute (t : Target) : Route → Response × List Record
  | .health => (.json 200 healthValue, [])
  | .version => (.json 200 (versionValue m), [])
  | .config =>
    match m.snapshot none with
    | .ok s => (.json 200 s.value, [])
    | .error .incompleteDatabase => (.detail 500 Failure.incompleteDatabase.message, [])
    | .error e =>
      (.broken,
        [⟨.error, .service,
          s!"Unhandled exception for {t.address}: {e.message}"⟩])

/-- The answer to a request whose path is that of no route: a path with too many slashes at its end
is sent to the route without them. -/
def answerUnrouted (t : Target) : Response :=
  if t.path.toList.getLast? = some '/' ∧ (Route.ofPath? (trimSlashes t.path)).isSome then
    .redirect { t with path := trimSlashes t.path }.address
  else .notFound

/-- The answer to a request, and what it logs. -/
def answer (r : Request) : Response × List Record :=
  let t := Target.ofText r.target
  let method := r.method.toUpper
  let (response, records) :=
    match Route.ofPath? t.path with
    | some route => if method = "GET" then answerRoute m t route else (.methodNotAllowed, [])
    | none => (answerUnrouted t, [])
  (if method = "HEAD" then response.withoutBody else response, records)

end PanelConfig.Service
