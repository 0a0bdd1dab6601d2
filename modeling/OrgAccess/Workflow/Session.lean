import OrgAccess.Workflow.Caller

/-!
# Sessions

A login opens a session, which is one refresh token on the user; a later login replaces it. Each
refresh swaps the token for a new one in a single step of the store, so a token buys one pair and
no more.
-/

namespace OrgAccess

/-- A pair of tokens for the one who asked. -/
structure Renewal where
  token : String
  refreshToken : String
deriving DecidableEq

/-- A new session with its user. -/
structure Login where
  token : String
  refreshToken : String
  user : PublicUser
deriving DecidableEq

/-- A user with its live team or teams. -/
structure Profile where
  user : PublicUser
  team : Option Team
  teams : List Team
deriving DecidableEq

namespace Workflow

/-- Opens a session for who knows the password of a live user. -/
def login (email password : String) : Workflow Login := do
  let user ← require .invalidCredentials (← store (.findUserByEmail email))
  let isRight ← verifyPassword user.passwordHash password
  if !isRight then throw .invalidCredentials
  let pair ← issueTokens user.id
  let isStored ← store (.storeRefreshToken user.id pair.refreshToken pair.refreshExpiresAt)
  if !isStored then throw .invalidCredentials
  return { token := pair.accessToken, refreshToken := pair.refreshToken, user := user.toPublic }

/-- Exchanges the refresh token of the current session for a new pair. -/
def refresh (token : String) : Workflow Renewal := do
  let claims ← lift (fun _ => .refreshTokenUnusable) (Program.effect (.checkToken .refresh token))
  let pair ← issueTokens claims.userId
  let isRotated ← store
    (.rotateRefreshToken claims.userId token pair.refreshToken pair.refreshExpiresAt)
  if !isRotated then throw .refreshTokenRejected
  return { token := pair.accessToken, refreshToken := pair.refreshToken }

/-- Whether a token is the refresh token of a user's current session. -/
def isCurrentRefreshToken (user : Uuid) (token : String) : Workflow Bool := do
  let user ← require .userNotFound (← store (.findUser user))
  let moment ← ExceptT.lift (Program.effect .readMoment)
  return user.refreshTokenMatches token moment.now

/-- Closes the session of a user. -/
def logout (user : Uuid) : Workflow Unit :=
  store (.revokeRefreshToken user)

/-- A user's own record with its live team or teams. -/
def profile (caller : Uuid) : Workflow Profile := do
  let user ← require .userNotFound (← store (.findUser caller))
  let actor ← resolveActor caller
  let team ← match actor.teamId with
    | some team => store (.findTeam team)
    | none => pure none
  let teams ← actor.managedTeamIds.mapM fun team => store (.findTeam team)
  return { user := user.toPublic, team, teams := teams.filterMap id }

end Workflow

end OrgAccess
