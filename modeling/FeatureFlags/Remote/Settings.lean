import FeatureFlags.Settings.Lookup
import FeatureFlags.Url.Reader

/-!
# Settings of remote providers

Where the service is, how long a request may take (in milliseconds), and the headers that every
request carries.
-/
namespace FeatureFlags.Remote

structure RemoteSettings where
  baseUrl : String
  timeout : Nat := 10000
  headers : List (String × String) := []
  apiKey : Option String := none
  bearerToken : Option String := none

namespace RemoteSettings

/-- The address of the service is the only variable that has to be set. -/
def ofLookup (lookup : Lookup) : Except SetupError RemoteSettings :=
  match lookup.text? "OFREP_ENDPOINT" with
  | none => .error (.missing "OFREP_ENDPOINT")
  | some baseUrl =>
    match Url.ofText? baseUrl with
    | none => .error .malformedBaseUrl
    | some _ => do
      let timeout ← lookup.number? "OFREP_TIMEOUT_MS"
      let headers ← lookup.pairs? "OFREP_HEADERS"
      return {
        baseUrl
        timeout := timeout.getD 10000
        headers
        apiKey := lookup.text? "OFREP_API_KEY"
        bearerToken := lookup.text? "OFREP_BEARER_TOKEN" }

/-- All headers of a request: the free ones first, then the credentials. -/
def requestHeaders (s : RemoteSettings) : List (String × String) :=
  let bearer := s.bearerToken.map fun token => ("Authorization", "Bearer " ++ token)
  let key := s.apiKey.map fun key => ("X-API-Key", key)
  s.headers ++ bearer.toList ++ key.toList

end RemoteSettings

end FeatureFlags.Remote
