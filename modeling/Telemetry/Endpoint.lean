import Telemetry.Options

/-!
Where a collector listens, and how that place is named in requests.
-/

namespace Telemetry

inductive Scheme
  | secure
  | plain
  deriving DecidableEq, Repr

def Scheme.name : Scheme → String
  | .secure => "https"
  | .plain => "http"

structure Endpoint where
  scheme : Scheme
  host : String
  port : Nat
  path : String
  deriving DecidableEq, Repr

namespace Endpoint

/-- A path begins with a slash. -/
def rooted (path : String) : String :=
  if path.toList.head? = some '/' then path else "/" ++ path

def make (scheme : Scheme) (host : String) (port : Nat) (path : String) : Endpoint :=
  ⟨scheme, host, port, rooted path⟩

def ofOptions (options : Options) : Endpoint :=
  make (if options.secure then .secure else .plain) options.serviceHost
    options.effectivePort options.servicePath

/-- Port 80 goes without saying. -/
def hostHeader (endpoint : Endpoint) : String :=
  if endpoint.port = 80 then endpoint.host
  else endpoint.host ++ ":" ++ toString endpoint.port

def url (endpoint : Endpoint) : String :=
  endpoint.scheme.name ++ "://" ++ endpoint.host ++ ":" ++ toString endpoint.port ++
    endpoint.path

end Endpoint

end Telemetry
