/-!
# Roles

The three roles of an organisation and their order: an admin stands above managers, a manager
above employees. `Role.ofName?` reads back exactly the names that `Role.name` writes.
-/

namespace OrgAccess

/-- What a member of the organisation may do. -/
inductive Role where
  /-- Belongs to at most one team and reads only. -/
  | employee
  /-- Is linked to any number of teams and reads only. -/
  | manager
  | admin
deriving DecidableEq

namespace Role

/-- The name under which a role is written. -/
def name : Role → String
  | employee => "employee"
  | manager => "manager"
  | admin => "admin"

/-- Every role, lowest first. -/
def all : List Role := [employee, manager, admin]

/-- The role that is written with this exact name. -/
def ofName? (name : String) : Option Role :=
  all.find? fun role => role.name == name

/-- The place of a role in the hierarchy; a higher role has a higher level. -/
def level : Role → Nat
  | employee => 1
  | manager => 2
  | admin => 3

/-- Whether only an admin may give this role to a new user. -/
def isPrivileged : Role → Bool
  | employee => false
  | manager | admin => true

@[simp]
theorem ofName?_name (role : Role) : ofName? role.name = some role := by
  cases role <;> rfl

theorem name_of_ofName? {name : String} {role : Role} (found : ofName? name = some role) :
    role.name = name := by
  simpa using List.find?_some found

theorem name_injective {first second : Role} (same : first.name = second.name) :
    first = second := by
  have := ofName?_name first
  rw [same, ofName?_name] at this
  exact (Option.some.inj this).symm

end Role

end OrgAccess
