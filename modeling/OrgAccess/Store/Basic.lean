import OrgAccess.Moment
import OrgAccess.Permission

/-!
# The identity store

Users, teams and manager links, each in the order in which they were added. A deleted record
keeps its place with a tombstone, and every question and every change passes over it. Each
operation below is one atomic step: it takes the whole store and gives the whole store back.

The lookups `liveUser?` and `liveTeam?` find the first live record with an identifier, and
`modifyUser` and `modifyTeam` change exactly that one.
-/

namespace OrgAccess

/-- A link that lets a manager see a team. -/
structure ManagerLink where
  team : Uuid
  manager : Uuid
deriving DecidableEq

/-- Everything that is stored. -/
structure Store where
  /-- All users, oldest first, deleted ones included. -/
  users : List User := []
  /-- All teams, oldest first, deleted ones included. -/
  teams : List Team := []
  /-- The links between teams and managers, without repetition. -/
  links : List ManagerLink := []
deriving DecidableEq

/-- Why the store did not answer. -/
inductive StoreError where
  | conflict (reason : String)
  | unavailable (reason : String)
  | database (reason : String)
deriving DecidableEq

/-- How an error of the store reads. -/
def StoreError.message : StoreError → String
  | conflict reason => reason
  | unavailable reason => "Store unavailable: " ++ reason
  | database reason => "Database error: " ++ reason

/-- What is told when an address belongs to another live user. -/
def StoreError.emailTaken : StoreError :=
  conflict "email déjà utilisé"

namespace Store

/-- Changes the first element that satisfies a test and leaves the others. -/
def updateFirst {α : Type} (test : α → Bool) (change : α → α) : List α → List α
  | [] => []
  | item :: items =>
    if test item then change item :: items else item :: updateFirst test change items

/-- Whether a user is the live one with this identifier. -/
def isLiveUser (id : Uuid) (user : User) : Bool :=
  user.id == id && user.isLive

/-- Whether a team is the live one with this identifier. -/
def isLiveTeam (id : Uuid) (team : Team) : Bool :=
  team.id == id && team.isLive

/-- The live user with an identifier. -/
def liveUser? (store : Store) (id : Uuid) : Option User :=
  store.users.find? (isLiveUser id)

/-- The live team with an identifier. -/
def liveTeam? (store : Store) (id : Uuid) : Option Team :=
  store.teams.find? (isLiveTeam id)

/-- The live user with an address. -/
def liveUserByEmail? (store : Store) (email : String) : Option User :=
  store.users.find? fun user => user.isLive && user.email == email

/-- The live users, oldest first. -/
def liveUsers (store : Store) : List User :=
  store.users.filter User.isLive

/-- The live teams, oldest first. -/
def liveTeams (store : Store) : List Team :=
  store.teams.filter Team.isLive

/-- Whether a live user other than `exempt` has this address. -/
def emailTaken (store : Store) (email : String) (exempt : Option Uuid) : Bool :=
  store.users.any fun user => user.isLive && user.email == email && some user.id != exempt

/-- Whether a manager is linked to a team. -/
def isLinked (store : Store) (team manager : Uuid) : Bool :=
  store.links.contains ⟨team, manager⟩

/-- Changes the live user with an identifier. -/
def modifyUser (store : Store) (id : Uuid) (change : User → User) : Store :=
  { store with users := updateFirst (isLiveUser id) change store.users }

/-- Changes the live team with an identifier. -/
def modifyTeam (store : Store) (id : Uuid) (change : Team → Team) : Store :=
  { store with teams := updateFirst (isLiveTeam id) change store.teams }

/-! ## Users -/

/-- Whether there is a live admin. -/
def adminExists (store : Store) : Bool :=
  store.users.any fun user => user.isLive && user.isAdmin

/-- The row of a user who is created at a moment. -/
def newUserRecord (moment : Moment) (data : NewUser) : User where
  id := moment.freshId
  email := data.email
  passwordHash := data.passwordHash
  firstName := data.firstName
  lastName := data.lastName
  phoneNumber := data.phoneNumber
  role := data.role
  createdBy := data.createdBy
  teamId := data.teamId
  refreshToken := none
  refreshExpiresAt := none
  createdAt := moment.now
  updatedAt := moment.now
  deletedAt := none

/-- Adds a user unless a live user has the address. -/
def createUser (store : Store) (moment : Moment) (data : NewUser) :
    Except StoreError User × Store :=
  if store.emailTaken data.email none then (.error .emailTaken, store)
  else
    let user := newUserRecord moment data
    (.ok user, { store with users := store.users ++ [user] })

/-- The live users that a visibility permits, oldest first. -/
def listUsers (store : Store) (visibility : UserVisibility) : List User :=
  store.users.filter fun user => user.isLive && visibility.permits user

/--
Changes a live user and answers with the record as it is afterwards. A role that cannot manage
teams takes the user's manager links away in the same step.
-/
def updateUser (store : Store) (moment : Moment) (id : Uuid) (changes : UserChanges) :
    Except StoreError (Option User) × Store :=
  if changes.email.any (store.emailTaken · (some id)) then
    (.error .emailTaken, store)
  else match store.liveUser? id with
    | none => (.ok none, store)
    | some user =>
      let changed := store.modifyUser id (changes.apply moment.now)
      let links :=
        if changes.leavesManagerRole then
          changed.links.filter fun link => link.manager != id
        else changed.links
      (.ok (some (changes.apply moment.now user)), { changed with links })

/-- Marks a live user as deleted; answers whether there was one. -/
def deleteUser (store : Store) (moment : Moment) (id : Uuid) : Bool × Store :=
  match store.liveUser? id with
  | none => (false, store)
  | some _ =>
    (true, store.modifyUser id fun user => { user with deletedAt := some moment.now })

/-- Starts a session on a user: the token becomes its only refresh token. -/
def openSession (token : String) (expiresAt : Instant) (user : User) : User :=
  { user with refreshToken := some token, refreshExpiresAt := some expiresAt }

/-- Forgets the refresh token of a user. -/
def closeSession (user : User) : User :=
  { user with refreshToken := none, refreshExpiresAt := none }

/-- Gives a live user a new refresh token whatever it had; answers whether there was a user. -/
def storeRefreshToken (store : Store) (id : Uuid) (token : String) (expiresAt : Instant) :
    Bool × Store :=
  match store.liveUser? id with
  | none => (false, store)
  | some _ => (true, store.modifyUser id (openSession token expiresAt))

/--
Swaps the refresh token of a live user for a new one, if the old one is presented and has not
expired; answers whether the swap happened.
-/
def rotateRefreshToken (store : Store) (moment : Moment) (id : Uuid) (old new : String)
    (expiresAt : Instant) : Bool × Store :=
  match store.liveUser? id with
  | none => (false, store)
  | some user =>
    if user.refreshTokenMatches old moment.now then
      (true, store.modifyUser id (openSession new expiresAt))
    else (false, store)

/-- Ends the session of a live user, if there is one. -/
def revokeRefreshToken (store : Store) (id : Uuid) : Store :=
  store.modifyUser id closeSession

/-! ## Teams -/

/-- The row of a team with the stamp that was read for it. -/
def newTeamRecord (moment : Moment) (data : NewTeam) : Team where
  id := moment.freshId
  name := data.name
  description := data.description
  createdBy := data.createdBy
  createdAt := moment.now
  updatedAt := moment.now
  deletedAt := none

/-- Adds a team at the end. -/
def createTeam (store : Store) (moment : Moment) (data : NewTeam) : Team × Store :=
  let team := newTeamRecord moment data
  (team, { store with teams := store.teams ++ [team] })

/-- The live teams that a visibility permits, oldest first. -/
def listTeams (store : Store) (visibility : TeamVisibility) : List Team :=
  store.teams.filter fun team => team.isLive && visibility.permits team.id

/-- Changes a live team and answers with the record as it is afterwards. -/
def updateTeam (store : Store) (moment : Moment) (id : Uuid) (changes : TeamChanges) :
    Option Team × Store :=
  match store.liveTeam? id with
  | none => (none, store)
  | some team =>
    (some (changes.apply moment.now team), store.modifyTeam id (changes.apply moment.now))

/-- Marks a live team as deleted; answers whether there was one. -/
def deleteTeam (store : Store) (moment : Moment) (id : Uuid) : Bool × Store :=
  match store.liveTeam? id with
  | none => (false, store)
  | some _ =>
    (true, store.modifyTeam id fun team => { team with deletedAt := some moment.now })

/-! ## Manager links -/

/-- The live teams linked to a manager, oldest first. -/
def managedTeamIds (store : Store) (manager : Uuid) : List Uuid :=
  (store.teams.filter fun team => team.isLive && store.isLinked team.id manager).map Team.id

/-- The live employees of a team, oldest first. -/
def listEmployees (store : Store) (team : Uuid) : List User :=
  store.users.filter fun user => user.isLive && user.isEmployeeOf team

/-- The live managers linked to a team, oldest first. -/
def listManagers (store : Store) (team : Uuid) : List User :=
  store.users.filter fun user =>
    user.isLive && user.role == .manager && store.isLinked team user.id

/-- Links a manager to a team; a link that is there already stays as it is. -/
def addManager (store : Store) (team manager : Uuid) : Store :=
  if store.isLinked team manager then store
  else { store with links := store.links ++ [⟨team, manager⟩] }

/-- Takes the link between a manager and a team away, if there is one. -/
def removeManager (store : Store) (team manager : Uuid) : Store :=
  { store with links := store.links.filter fun link => link != ⟨team, manager⟩ }

end Store

end OrgAccess
