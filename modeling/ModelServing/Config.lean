import ModelServing.Time.Duration

/-!
# Configuration

What the controller needs to know besides the cluster itself.

* `IngressConfig.url` is the address of a service for the world outside.
-/

namespace ModelServing

/-- How the outside addresses of services are formed. -/
structure IngressConfig where
  domain : String := "example.com"
  urlScheme : String := "http"
deriving DecidableEq, Inhabited

/-- The outside address of a service. -/
def IngressConfig.url (c : IngressConfig) (name ns : String) : String :=
  c.urlScheme ++ "://" ++ name ++ "." ++ ns ++ "." ++ c.domain

/-- The configuration of a controller; the last two are the first and the longest delay after a failure. -/
structure Config where
  ingress : IngressConfig := {}
  clusterDomain : String := "cluster.local"
  requeueBase : Duration := Duration.ofSecs 5
  requeueMax : Duration := Duration.ofSecs 300
deriving DecidableEq, Inhabited

end ModelServing
