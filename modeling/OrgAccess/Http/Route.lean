import OrgAccess.Http.Message

/-!
# Routes

The paths of the interface, and what each method does on a path. Some paths are for everyone and
one is for registration; the rest is for members, who present an access token. An identifier in a
path stands there in percent encoding and is taken as it is written, so that a path leads somewhere
whatever its identifiers are; only at the end of a path it may not be empty.
-/

namespace OrgAccess.Http

/-- A path for everyone. -/
inductive SharedResource where
  | health
  | login
  | refresh
deriving DecidableEq

/-- A path for members, with the identifiers in it as they are written. -/
inductive MemberResource where
  | logout
  | profile
  | users
  | user (id : List Char)
  | teams
  | team (id : List Char)
  | managers (teamId : List Char)
  | manager (teamId managerId : List Char)
deriving DecidableEq

/-- What a path leads to. -/
inductive Resource where
  | shared (resource : SharedResource)
  /-- The path on which accounts are created. -/
  | registration
  | member (resource : MemberResource)
deriving DecidableEq

/-- What a member asks for. -/
inductive MemberAction where
  | logout
  | showProfile
  | listUsers
  | showUser (id : List Char)
  | updateUser (id : List Char)
  | deleteUser (id : List Char)
  | listTeams
  | createTeam
  | showTeam (id : List Char)
  | updateTeam (id : List Char)
  | deleteTeam (id : List Char)
  | addManager (teamId : List Char)
  | removeManager (teamId managerId : List Char)
deriving DecidableEq

/-- The one method of a resource that is open to all. -/
def SharedResource.method : SharedResource → Method
  | health => .get
  | login | refresh => .post

/-- The methods of a path for members, with what they ask for. -/
def MemberResource.actions : MemberResource → List (Method × MemberAction)
  | logout => [(.post, .logout)]
  | profile => [(.get, .showProfile)]
  | users => [(.get, .listUsers)]
  | user id => [(.get, .showUser id), (.put, .updateUser id), (.delete, .deleteUser id)]
  | teams => [(.get, .listTeams), (.post, .createTeam)]
  | team id => [(.get, .showTeam id), (.put, .updateTeam id), (.delete, .deleteTeam id)]
  | managers teamId => [(.post, .addManager teamId)]
  | manager teamId managerId => [(.delete, .removeManager teamId managerId)]

/-- The method whose answer a request gets; asking for the headers alone is a way of getting. -/
def Method.served : Method → Method
  | head => get
  | method => method

/-- What a method asks for on a resource. -/
def MemberResource.action? (resource : MemberResource) (method : Method) : Option MemberAction :=
  resource.actions.lookup method.served

namespace Resource

/-- The resource that the segments of a path lead to. -/
def ofSegments? (segments : List (List Char)) : Option Resource :=
  match segments with
  | [name] =>
    if name = "health".toList then some (shared .health)
    else if name = "login".toList then some (shared .login)
    else if name = "refresh".toList then some (shared .refresh)
    else if name = "register".toList then some registration
    else if name = "logout".toList then some (member .logout)
    else if name = "me".toList then some (member .profile)
    else if name = "users".toList then some (member .users)
    else if name = "teams".toList then some (member .teams)
    else none
  | [name, id] =>
    if id.isEmpty then none
    else if name = "users".toList then some (member (.user id))
    else if name = "teams".toList then some (member (.team id))
    else none
  | [name, id, part] =>
    if name = "teams".toList ∧ part = "managers".toList then some (member (.managers id))
    else none
  | [name, id, part, other] =>
    if name = "teams".toList ∧ part = "managers".toList ∧ !other.isEmpty then
      some (member (.manager id other))
    else none
  | _ => none

/-- The methods that a resource serves. -/
def methods : Resource → List Method
  | shared resource => [resource.method]
  | registration => [.post]
  | member resource => resource.actions.map Prod.fst

/-- Whether a resource serves a method; what serves GET serves HEAD. -/
def serves (resource : Resource) (method : Method) : Bool :=
  resource.methods.contains method.served

/-- The header that tells what methods a resource serves. -/
def allowHeader (resource : Resource) : Header :=
  .ofText "allow" (",".intercalate (resource.methods.map fun method =>
    if method = .get then "GET,HEAD" else method.name))

end Resource

/-- The resource that the target of a request leads to. -/
def Request.resource? (request : Request) : Option Resource :=
  request.segments?.bind Resource.ofSegments?

end OrgAccess.Http
