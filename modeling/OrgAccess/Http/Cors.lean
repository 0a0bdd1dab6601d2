import OrgAccess.Authentication
import OrgAccess.Http.Message

/-!
# Requests from other origins

Which origins may use the interface from a browser. With a wildcard everyone may, without
credentials; otherwise exactly the listed origins, with credentials. A preflight, which is any
request with the method `OPTIONS`, is answered from the policy alone.
-/

namespace OrgAccess.Http

/-- Which origins may use the interface. -/
inductive CorsPolicy where
  | any
  | listed (origins : List (List UInt8))
deriving DecidableEq

namespace CorsPolicy

/-- The policy for configured origins; one that cannot stand in a header is left out. -/
def ofOrigins (origins : List String) : CorsPolicy :=
  if origins.contains "*" then any
  else listed ((origins.map Text.utf8).filter fun origin => origin.all isHeaderByte)

/-- The header that tells which origin may see a response. -/
def originHeaders (policy : CorsPolicy) (origin : Option (List UInt8)) : List Header :=
  match policy with
  | any => [.ofText "access-control-allow-origin" "*"]
  | listed origins =>
    match origin with
    | some origin =>
      if origins.contains origin then [⟨"access-control-allow-origin", origin⟩] else []
    | none => []

/-- The header that lets a browser send credentials. -/
def credentialHeaders : CorsPolicy → List Header
  | any => []
  | listed _ => [.ofText "access-control-allow-credentials" "true"]

/-- The headers of a request on which a response depends. -/
def varyHeader : Header :=
  .ofText "vary" "origin, access-control-request-method, access-control-request-headers"

/-- The headers that answer a browser which asks before it sends a request. -/
def preflightHeaders (policy : CorsPolicy) (origin : Option (List UInt8)) : List Header :=
  policy.originHeaders origin ++ policy.credentialHeaders ++ [varyHeader] ++
    match policy with
    | any =>
      [.ofText "access-control-allow-methods" "*", .ofText "access-control-allow-headers" "*"]
    | listed _ =>
      [.ofText "access-control-allow-methods" "GET,POST,PUT,DELETE,OPTIONS",
        .ofText "access-control-allow-headers" "authorization,content-type",
        .ofText "access-control-max-age" "3600"]

/-- The headers that every other response gets. -/
def responseHeaders (policy : CorsPolicy) (origin : Option (List UInt8)) : List Header :=
  policy.originHeaders origin ++ policy.credentialHeaders ++ [varyHeader] ++
    match policy with
    | any => [.ofText "access-control-expose-headers" "*"]
    | listed _ => []

end CorsPolicy

end OrgAccess.Http
