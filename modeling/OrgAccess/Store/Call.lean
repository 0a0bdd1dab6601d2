import OrgAccess.Store.Basic

/-!
# Calls on the store

Every question and every change that the store answers, as data. `Store.perform` carries a call out
in one step, so two calls never overlap.
-/

namespace OrgAccess

/-- One call on the store. -/
inductive StoreCall where
  | adminExists
  | createUser (data : NewUser)
  | findUser (id : Uuid)
  | findUserByEmail (email : String)
  | listUsers (visibility : UserVisibility)
  | updateUser (id : Uuid) (changes : UserChanges)
  | deleteUser (id : Uuid)
  | storeRefreshToken (id : Uuid) (token : String) (expiresAt : Instant)
  | rotateRefreshToken (id : Uuid) (old new : String) (expiresAt : Instant)
  | revokeRefreshToken (id : Uuid)
  | createTeam (stamp : Moment) (data : NewTeam)
  | findTeam (id : Uuid)
  | listTeams (visibility : TeamVisibility)
  | updateTeam (id : Uuid) (changes : TeamChanges)
  | deleteTeam (id : Uuid)
  | managedTeamIds (manager : Uuid)
  | listEmployees (team : Uuid)
  | listManagers (team : Uuid)
  | addManager (team manager : Uuid)
  | removeManager (team manager : Uuid)
  | ping

/-- What a call is answered with when the store can be reached. -/
abbrev StoreCall.Answer : StoreCall → Type
  | adminExists => Bool
  | createUser _ => User
  | findUser _ => Option User
  | findUserByEmail _ => Option User
  | listUsers _ => List User
  | updateUser _ _ => Option User
  | deleteUser _ => Bool
  | storeRefreshToken _ _ _ => Bool
  | rotateRefreshToken _ _ _ _ => Bool
  | revokeRefreshToken _ => Unit
  | createTeam _ _ => Team
  | findTeam _ => Option Team
  | listTeams _ => List Team
  | updateTeam _ _ => Option Team
  | deleteTeam _ => Bool
  | managedTeamIds _ => List Uuid
  | listEmployees _ => List User
  | listManagers _ => List User
  | addManager _ _ => Unit
  | removeManager _ _ => Unit
  | ping => Unit

/-- The answer to a call that cannot fail. -/
def answered {α : Type} (step : α × Store) : Except StoreError α × Store :=
  (.ok step.1, step.2)

/-- Carries out a call at a moment. -/
def Store.perform (store : Store) (moment : Moment) :
    (call : StoreCall) → Except StoreError call.Answer × Store
  | .adminExists => (.ok store.adminExists, store)
  | .createUser data => store.createUser moment data
  | .findUser id => (.ok (store.liveUser? id), store)
  | .findUserByEmail email => (.ok (store.liveUserByEmail? email), store)
  | .listUsers visibility => (.ok (store.listUsers visibility), store)
  | .updateUser id changes => store.updateUser moment id changes
  | .deleteUser id => answered (store.deleteUser moment id)
  | .storeRefreshToken id token expiresAt =>
    answered (store.storeRefreshToken id token expiresAt)
  | .rotateRefreshToken user old new expiresAt =>
    answered (store.rotateRefreshToken moment user old new expiresAt)
  | .revokeRefreshToken id => (.ok (), store.revokeRefreshToken id)
  | .createTeam stamp data => answered (store.createTeam stamp data)
  | .findTeam id => (.ok (store.liveTeam? id), store)
  | .listTeams visibility => (.ok (store.listTeams visibility), store)
  | .updateTeam id changes => answered (store.updateTeam moment id changes)
  | .deleteTeam id => answered (store.deleteTeam moment id)
  | .managedTeamIds manager => (.ok (store.managedTeamIds manager), store)
  | .listEmployees team => (.ok (store.listEmployees team), store)
  | .listManagers team => (.ok (store.listManagers team), store)
  | .addManager team manager => (.ok (), store.addManager team manager)
  | .removeManager team manager => (.ok (), store.removeManager team manager)
  | .ping => (.ok (), store)

end OrgAccess
