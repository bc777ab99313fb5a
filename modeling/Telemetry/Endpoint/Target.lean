import Telemetry.Endpoint
import Telemetry.Http.Target

/-!
What an HTTP client asks an endpoint for.
-/

namespace Telemetry.Endpoint

/-- The target of a request to this endpoint, to which its path is the whole end of
the address. -/
def target (endpoint : Endpoint) : Http.Target :=
  Http.Target.ofText endpoint.path.toList

end Telemetry.Endpoint
