import OrgAccess.Time.Instant
import OrgAccess.Uuid

/-!
# Moments

What one step takes from outside the program: the time at which it happens and the random values
that it may need.
-/

namespace OrgAccess

/-- The time of a step and the random values drawn for it. -/
structure Moment where
  /-- The instant at which the step happens. -/
  now : Instant
  freshId : Uuid
  /-- The salt under which a password is hashed. -/
  salt : List UInt8
  accessTokenId : Uuid
  refreshTokenId : Uuid

end OrgAccess
