import OrgAccess.Json.Value
import OrgAccess.Text.Fields
import OrgAccess.Text.Utf8

/-!
# Requests and responses

A request as it arrives, and a response before it is written out. The names of headers are in
lower case; their values are bytes.
-/

namespace OrgAccess.Http

/-- The method of a request. -/
inductive Method where
  | get
  | head
  | post
  | put
  | delete
  | options
  | other (name : String)
deriving DecidableEq

namespace Method

/-- The methods that have a constructor of their own. -/
def known : List Method := [get, head, post, put, delete, options]

/-- The name under which a method is written. -/
def name : Method → String
  | get => "GET"
  | head => "HEAD"
  | post => "POST"
  | put => "PUT"
  | delete => "DELETE"
  | options => "OPTIONS"
  | other name => name

/-- The method of a name, be it one that the server knows or not. -/
def ofName (name : String) : Method :=
  (known.find? fun method => method.name == name).getD (other name)

end Method

/-- A header: its name in lower case and its value. -/
structure Header where
  name : String
  value : List UInt8
deriving DecidableEq

/-- A header whose value is a text. -/
def Header.ofText (name value : String) : Header :=
  ⟨name, Text.utf8 value⟩

/-- A request. -/
structure Request where
  method : Method
  target : String
  headers : List Header
  body : List UInt8
deriving DecidableEq

namespace Request

/-- The values of the headers with a name, in order. -/
def headerValues (request : Request) (name : String) : List (List UInt8) :=
  (request.headers.filter fun header => header.name == name).map Header.value

/-- The first value of a header. -/
def header? (request : Request) (name : String) : Option (List UInt8) :=
  (request.headerValues name).head?

/-- Whether a character may stand in the scheme of a target. -/
def isSchemeCharacter (character : Char) : Bool :=
  character.isAlphanum || "+-.~".toList.contains character

/-- The rest of a target after its scheme and two slashes, if it begins with a scheme. -/
def afterScheme? (target : List Char) : Option (List Char) :=
  match target.dropWhile isSchemeCharacter with
  | ':' :: '/' :: '/' :: rest => some rest
  | _ => none

/-- What stands before the query and the fragment. -/
def beforeQuery (target : List Char) : List Char :=
  target.takeWhile fun character => character != '?' && character != '#'

/--
The path without its query. A target with a scheme has a host before the path, and its path is the
root if there is none.
-/
def path (request : Request) : List Char :=
  match afterScheme? request.target.toList with
  | some rest =>
    match (beforeQuery rest).dropWhile fun character => character != '/' with
    | [] => ['/']
    | path => path
  | none => beforeQuery request.target.toList

/-- The parts of the path between slashes, if it begins with one. -/
def segments? (request : Request) : Option (List (List Char)) :=
  match Text.fields '/' request.path with
  | [] :: segments => some segments
  | _ => none

end Request

/-- What a response carries. -/
inductive Body where
  | empty
  | json (value : Json)
  | plain (text : String)

namespace Body

/-- How a body is sent. -/
def text : Body → String
  | empty => ""
  | json value => value.compact
  | plain text => text

/-- The header that tells what kind of content a body has. -/
def contentType : Body → List Header
  | empty => []
  | json _ => [.ofText "content-type" "application/json"]
  | plain _ => [.ofText "content-type" "text/plain; charset=utf-8"]

end Body

/-- A response. -/
structure Response where
  status : Nat
  headers : List Header
  body : Body

namespace Response

/-- The response with a status and a body; the headers tell the kind of the body. -/
def of (status : Nat) (body : Body) : Response where
  status := status
  headers := body.contentType
  body := body

/-- Adds headers after those that are there. -/
def addHeaders (response : Response) (headers : List Header) : Response :=
  { response with headers := response.headers ++ headers }

@[simp]
theorem status_addHeaders (response : Response) (headers : List Header) :
    (response.addHeaders headers).status = response.status := rfl

/-- The response with the number of bytes of its body in a header. -/
def withLength (response : Response) : Response :=
  response.addHeaders
    [.ofText "content-length" (toString response.body.text.utf8ByteSize)]

@[simp]
theorem status_withLength (response : Response) : response.withLength.status = response.status :=
  rfl

/-- The response without its body; its headers stay. -/
def withoutBody (response : Response) : Response :=
  { response with body := .empty }

@[simp]
theorem status_withoutBody (response : Response) : response.withoutBody.status = response.status :=
  rfl

/-- The values of the headers with a name, in order. -/
def headerValues (response : Response) (name : String) : List (List UInt8) :=
  (response.headers.filter fun header => header.name == name).map Header.value

end Response

end OrgAccess.Http
