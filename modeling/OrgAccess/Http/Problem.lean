import OrgAccess.Authentication
import OrgAccess.Failure
import OrgAccess.Http.Message

/-!
# Problems

What a client is told when a request fails: a status, a code and a message, and the faulty fields
where an input breaks its rules. The reason of an internal problem is kept from the client.
-/

namespace OrgAccess.Http

/-- A field of an input that breaks a rule. -/
structure FieldFault where
  field : String
  message : String
deriving DecidableEq

/-- A fault of a field in the body of a response. -/
def FieldFault.toJson (fault : FieldFault) : Json :=
  .object [("field", .text fault.field), ("message", .text fault.message)]

/-- Why a request is answered with an error. -/
inductive Problem where
  | badRequest (reason : String)
  | unauthorized (reason : String)
  | forbidden (reason : String)
  | notFound (reason : String)
  | conflict (reason : String)
  | invalidFields (faults : List FieldFault)
  | internal (reason : String)
deriving DecidableEq

namespace Problem

/-- The written form for diagnostics. -/
def describe : Problem → String
  | badRequest reason => "Bad request: " ++ reason
  | unauthorized reason => "Unauthorized: " ++ reason
  | forbidden reason => "Forbidden: " ++ reason
  | notFound reason => "Not found: " ++ reason
  | conflict reason => "Conflict: " ++ reason
  | invalidFields faults => "Validation failed: " ++ toString faults.length ++ " errors"
  | internal reason => "Internal error: " ++ reason

/-- The status with which a request is answered. -/
def status : Problem → Nat
  | badRequest _ => 400
  | unauthorized _ => 401
  | forbidden _ => 403
  | notFound _ => 404
  | conflict _ => 409
  | invalidFields _ => 400
  | internal _ => 500

/-- The word by which a program can tell what is wrong. -/
def code : Problem → String
  | badRequest _ => "bad_request"
  | unauthorized _ => "unauthorized"
  | forbidden _ => "forbidden"
  | notFound _ => "not_found"
  | conflict _ => "conflict"
  | invalidFields _ => "validation_error"
  | internal _ => "internal_error"

/-- What the reader of a response is told; an internal fault keeps its reason to itself. -/
def message : Problem → String
  | badRequest reason | unauthorized reason | forbidden reason | notFound reason
  | conflict reason => reason
  | invalidFields _ => "requête invalide"
  | internal _ => "An internal error occurred"

/-- The faulty fields in the body of the response, if it tells of fields. -/
def details : Problem → List (String × Json)
  | invalidFields faults => [("details", .list (faults.map FieldFault.toJson))]
  | _ => []

/-- The response to a request that has this problem. -/
def response (problem : Problem) : Response :=
  .of problem.status (.json (.object
    ([("error", .text problem.code), ("message", .text problem.message)] ++ problem.details)))

/-- What a failure of a workflow means for the client. -/
def ofFailure : Failure → Problem
  | .invalid reason => badRequest reason
  | .unknownRole => badRequest Failure.unknownRole.message
  | .unauthorized reason => unauthorized reason
  | .forbidden reason => forbidden reason
  | .notFound reason => notFound reason
  | .conflict reason => conflict reason
  | .internal reason => internal reason

/-- What an authentication error means for the client. -/
def ofAuthError : AuthError → Problem
  | .store reason => internal ("Store error: " ++ reason)
  | error => unauthorized error.message

end Problem

end OrgAccess.Http
