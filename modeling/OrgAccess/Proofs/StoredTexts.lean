import Mathlib.Data.List.Induction
import OrgAccess.Proofs.Answering
import OrgAccess.Proofs.PasswordHashes

/-!
# The texts of stored records

What is demanded of the texts of users and teams is a rule for each field (`TextRules`). A write
keeps the rules if its input supplies texts that meet them, so it is enough to know what the inputs
are like: those of a request obey the rules of its form, and an operation refuses a blank text where
a text is required (`Operation.supplies_filled`). A registration is the exception. It checks the
lengths of the two names only.
-/

namespace OrgAccess

namespace Text

/-- Whether a text holds a character that is not blank. -/
def IsFilled (text : String) : Prop :=
  ∃ character ∈ text.toList, isBlank character = false

instance (text : String) : Decidable (IsFilled text) :=
  List.decidableBEx (fun character => isBlank character = false) text.toList

theorem isFilled_iff {text : String} : IsFilled text ↔ isBlankText text = false := by
  simp [IsFilled, isBlankText]

theorem IsFilled.length_pos {text : String} (filled : IsFilled text) : 1 ≤ text.length := by
  rcases filled with ⟨character, mem, _⟩
  rw [← String.length_toList]
  exact List.length_pos_of_mem mem

end Text

/-! ## Rules for stored texts -/

/-- What is demanded of the texts of stored records. -/
structure TextRules where
  email : String → Prop
  passwordHash : String → Prop
  firstName : String → Prop
  lastName : String → Prop
  phoneNumber : String → Prop
  teamName : String → Prop
  description : String → Prop

namespace TextRules

/-- No telephone number, no name of a team and no description is blank. -/
def filledOptions : TextRules where
  email := fun _ => True
  passwordHash := fun _ => True
  firstName := fun _ => True
  lastName := fun _ => True
  phoneNumber := Text.IsFilled
  teamName := Text.IsFilled
  description := Text.IsFilled

/-- No name, no telephone number and no description is blank. -/
def filled : TextRules :=
  { filledOptions with firstName := Text.IsFilled, lastName := Text.IsFilled }

/-- The texts fit into the columns of the database. -/
def columns : TextRules where
  email := fun text => text.length ≤ 255
  passwordHash := fun _ => True
  firstName := fun text => 1 ≤ text.length ∧ text.length ≤ 100
  lastName := fun text => 1 ≤ text.length ∧ text.length ≤ 100
  phoneNumber := fun text => text.length ≤ 20
  teamName := fun text => 1 ≤ text.length ∧ text.length ≤ 100
  description := fun text => text.length ≤ 500

/-- The hashes of passwords are as demanded. -/
def ofHashes (demanded : String → Prop) : TextRules where
  email := fun _ => True
  passwordHash := demanded
  firstName := fun _ => True
  lastName := fun _ => True
  phoneNumber := fun _ => True
  teamName := fun _ => True
  description := fun _ => True

end TextRules

variable {rules : TextRules}

/-- The texts of a user satisfy the rules. -/
structure User.Meets (rules : TextRules) (user : User) : Prop where
  email : rules.email user.email
  passwordHash : rules.passwordHash user.passwordHash
  firstName : rules.firstName user.firstName
  lastName : rules.lastName user.lastName
  phoneNumber : ∀ number, user.phoneNumber = some number → rules.phoneNumber number

/-- The texts of a team satisfy the rules. -/
structure Team.Meets (rules : TextRules) (team : Team) : Prop where
  name : rules.teamName team.name
  description : ∀ text, team.description = some text → rules.description text

/-- All records meet the rules, the deleted ones included. -/
structure Store.Meets (rules : TextRules) (store : Store) : Prop where
  users : ∀ user ∈ store.users, user.Meets rules
  teams : ∀ team ∈ store.teams, team.Meets rules

/-- The texts that an operation is given meet the rules. -/
def Operation.Supplies (rules : TextRules) : Operation → Prop
  | register _ input =>
    rules.email input.email ∧ rules.firstName input.firstName ∧ rules.lastName input.lastName ∧
      ∀ number, Workflow.optionalText input.phoneNumber = some number → rules.phoneNumber number
  | updateUser _ _ patch =>
    (∀ text, patch.email = some text → rules.email text) ∧
      (∀ text, patch.firstName = some text → rules.firstName text) ∧
        (∀ text, patch.lastName = some text → rules.lastName text) ∧
          ∀ number, Workflow.optionalText patch.phoneNumber = some number →
            rules.phoneNumber number
  | createTeam _ draft =>
    rules.teamName draft.name ∧
      ∀ text, Workflow.optionalText draft.description = some text → rules.description text
  | updateTeam _ _ patch =>
    (∀ text, patch.name = some text → rules.teamName text) ∧
      ∀ text, Workflow.optionalText patch.description = some text → rules.description text
  | _ => True

/-! ## Writes keep the rules -/

namespace Workflow

theorem isFilled_of_optionalText {value : Option String} {text : String}
    (given : optionalText value = some text) : Text.IsFilled text := by
  rcases Option.filter_eq_some_iff.mp given with ⟨_, filled⟩
  exact Text.isFilled_iff.mpr (by simpa using filled)

theorem eq_of_optionalText {value : Option String} {text : String}
    (given : optionalText value = some text) : value = some text :=
  (Option.filter_eq_some_iff.mp given).1

theorem optionalText_of_clearableText {value : Option String} {text : String}
    (given : clearableText value = some (some text)) : optionalText value = some text := by
  rcases Option.map_eq_some_iff.mp given with ⟨written, rfl, chosen⟩
  split at chosen
  · cases chosen
  · rename_i filled
    cases chosen
    simp [optionalText, filled]

end Workflow

/-- A field that is left alone or set meets its rule. -/
theorem rule_getD {rule : String → Prop} {old : String} {new : Option String} (kept : rule old)
    (given : ∀ text, new = some text → rule text) : rule (new.getD old) := by
  cases new with
  | none => exact kept
  | some text => exact given text rfl

/-- An optional field that is left alone, cleared or set meets its rule. -/
theorem rule_clearable {rule : String → Prop} {old value : Option String} {text : String}
    (kept : ∀ text, old = some text → rule text)
    (given : ∀ text, Workflow.optionalText value = some text → rule text)
    (set : (Workflow.clearableText value).getD old = some text) : rule text := by
  cases chosen : Workflow.clearableText value with
  | none =>
      rw [chosen] at set
      exact kept text set
  | some new =>
      rw [chosen] at set
      obtain rfl : new = some text := set
      exact given text (Workflow.optionalText_of_clearableText chosen)

theorem User.Meets.apply {hasher : Hasher} {user target : User} {caller id : Uuid}
    {patch : UserPatch} {changes : UserChanges} (meets : user.Meets rules)
    (hashes : ∀ hash password, hasher.Hashes hash password → rules.passwordHash hash)
    (supplies : (Operation.updateUser caller id patch).Supplies rules)
    (asks : patch.Asks hasher target changes) (now : Instant) :
    (changes.apply now user).Meets rules := by
  rcases supplies with ⟨email, firstName, lastName, phoneNumber⟩
  refine ⟨?_, ?_, ?_, ?_, fun number given => ?_⟩
  · exact rule_getD meets.email fun text given => email text (asks.email.symm.trans given)
  · refine rule_getD meets.passwordHash fun hash given => ?_
    have made := asks.password
    rw [given] at made
    generalize patch.password = password at made
    cases made with
    | some made => exact hashes _ _ made
  · exact rule_getD meets.firstName fun text given =>
      firstName text (asks.firstName.symm.trans given)
  · exact rule_getD meets.lastName fun text given =>
      lastName text (asks.lastName.symm.trans given)
  · refine rule_clearable meets.phoneNumber phoneNumber ?_
    rw [← asks.phoneNumber]
    exact given

namespace Store.Meets

variable {store : Store}

theorem modifyUser (meets : store.Meets rules) {id : Uuid} {change : User → User}
    (keeps : ∀ user : User, user.Meets rules → (change user).Meets rules) :
    (store.modifyUser id change).Meets rules := by
  refine ⟨fun user mem => ?_, meets.teams⟩
  rcases mem_updateFirst mem with mem | ⟨old, found, rfl⟩
  · exact meets.users user mem
  · exact keeps old (meets.users old (List.mem_of_find?_eq_some found))

theorem modifyTeam (meets : store.Meets rules) {id : Uuid} {change : Team → Team}
    (keeps : ∀ team : Team, team.Meets rules → (change team).Meets rules) :
    (store.modifyTeam id change).Meets rules := by
  refine ⟨meets.users, fun team mem => ?_⟩
  rcases mem_updateFirst mem with mem | ⟨old, found, rfl⟩
  · exact meets.teams team mem
  · exact keeps old (meets.teams old (List.mem_of_find?_eq_some found))

/-- A successful operation keeps the rules that its input and the hashes that are made meet. -/
theorem achieves {hasher : Hasher} {tokens : TokenService} {moments : Nat → Moment}
    {operation : Operation} {value : operation.Value} {later : Store} (meets : store.Meets rules)
    (hashes : ∀ hash password, hasher.Hashes hash password → rules.passwordHash hash)
    (supplies : operation.Supplies rules)
    (achieves : operation.Achieves hasher tokens moments store value later) :
    later.Meets rules := by
  cases achieves with
  | shown reads => exact meets
  | @registered createdBy input data tick asks free =>
      refine ⟨fun user mem => ?_, meets.teams⟩
      rcases List.mem_append.mp mem with mem | mem
      · exact meets.users user mem
      · rw [List.mem_singleton.mp mem]
        rcases supplies with ⟨email, firstName, lastName, phoneNumber⟩
        exact {
          email := (congrArg rules.email asks.email).mpr email
          passwordHash := hashes _ _ asks.password
          firstName := (congrArg rules.firstName asks.firstName).mpr firstName
          lastName := (congrArg rules.lastName asks.lastName).mpr lastName
          phoneNumber := fun number given =>
            phoneNumber number (asks.phoneNumber.symm.trans given) }
  | loggedIn tick found verified issued =>
      exact meets.modifyUser fun user kept =>
        ⟨kept.email, kept.passwordHash, kept.firstName, kept.lastName, kept.phoneNumber⟩
  | refreshed issuing rotating found current issued =>
      exact meets.modifyUser fun user kept =>
        ⟨kept.email, kept.passwordHash, kept.firstName, kept.lastName, kept.phoneNumber⟩
  | loggedOut =>
      exact meets.modifyUser fun user kept =>
        ⟨kept.email, kept.passwordHash, kept.firstName, kept.lastName, kept.phoneNumber⟩
  | userUnchanged found asks => exact meets
  | @userUpdated caller id patch user changes tick found asks free =>
      have changed : (store.modifyUser id (changes.apply (moments tick).now)).Meets rules :=
        meets.modifyUser fun user kept => kept.apply hashes supplies asks (moments tick).now
      exact ⟨changed.users, changed.teams⟩
  | userDeleted tick found =>
      exact meets.modifyUser fun user kept =>
        ⟨kept.email, kept.passwordHash, kept.firstName, kept.lastName, kept.phoneNumber⟩
  | @teamCreated caller draft data tick name description =>
      refine ⟨meets.users, fun team mem => ?_⟩
      rcases List.mem_append.mp mem with mem | mem
      · exact meets.teams team mem
      · rw [List.mem_singleton.mp mem]
        refine ⟨(congrArg rules.teamName name).mpr supplies.1, fun text given => ?_⟩
        exact supplies.2 text (description.symm.trans given)
  | @teamUpdated caller id patch team changes tick found name description =>
      refine meets.modifyTeam fun team kept => ⟨?_, fun text given => ?_⟩
      · exact rule_getD kept.name fun text given => supplies.1 text (name.symm.trans given)
      · refine rule_clearable kept.description supplies.2 ?_
        rw [← description]
        exact given
  | teamDeleted tick found => exact meets.modifyTeam fun team kept => ⟨kept.name, kept.description⟩
  | managerAdded =>
      unfold Store.addManager
      split
      · exact meets
      · exact ⟨meets.users, meets.teams⟩
  | managerRemoved => exact ⟨meets.users, meets.teams⟩

end Store.Meets

/-! ## What operations are given -/

namespace Workflow

variable {handler : Handler} {world later : World}

theorem Gives.isFilled_of_requiredText {field : String} {value given : Option String}
    (gives : Gives handler world (Workflow.requiredText field value) given later) {text : String}
    (written : value = some text) : Text.IsFilled text := by
  have accepted := (gives_guard.mp gives).1
  rw [written] at accepted
  exact Text.isFilled_iff.mpr (eq_false_of_ne_true accepted)

theorem Gives.names_of_updateUser {caller id : Uuid} {patch : UserPatch} {value : PublicUser}
    (gives : Gives handler world (updateUser caller id patch) value later) :
    (∀ text, patch.firstName = some text → Text.IsFilled text) ∧
      ∀ text, patch.lastName = some text → Text.IsFilled text := by
  unfold updateUser at gives
  rcases gives_bind.mp gives with ⟨_, _, _, gives⟩
  rcases gives_bind.mp gives with ⟨_, _, _, gives⟩
  rcases gives_require_bind.mp gives with ⟨target, _, gives⟩
  rcases gives_bind.mp gives with ⟨_, _, _, gives⟩
  rcases gives_bind.mp gives with ⟨_, _, _, gives⟩
  rcases gives_bind.mp gives with ⟨_, _, _, gives⟩
  rcases gives_bind.mp gives with ⟨_, _, _, gives⟩
  rcases gives_bind.mp gives with ⟨_, _, firstName, gives⟩
  rcases gives_bind.mp gives with ⟨_, _, lastName, gives⟩
  exact ⟨fun _ => firstName.isFilled_of_requiredText, fun _ => lastName.isFilled_of_requiredText⟩

theorem Gives.name_of_createTeam {caller : Uuid} {draft : TeamDraft} {value : Team}
    (gives : Gives handler world (createTeam caller draft) value later) :
    Text.IsFilled draft.name := by
  unfold createTeam at gives
  rcases gives_bind.mp gives with ⟨actor, _, _, gives⟩
  exact Text.isFilled_iff.mpr (eq_false_of_ne_true (gives_guard.mp gives).1)

theorem Gives.name_of_updateTeam {caller team : Uuid} {patch : TeamPatch} {value : Team}
    (gives : Gives handler world (updateTeam caller team patch) value later) {text : String}
    (written : patch.name = some text) : Text.IsFilled text := by
  unfold updateTeam at gives
  rcases gives_bind.mp gives with ⟨_, _, _, gives⟩
  rcases gives_bind.mp gives with ⟨_, _, name, gives⟩
  exact name.isFilled_of_requiredText written

end Workflow

namespace Operation

variable {operation : Operation} {handler : Handler} {start later : World}
  {value : operation.Value}

/-- A successful operation that creates no account was given no blank text where one is required. -/
theorem supplies_filled (registers : operation.registers = false)
    (ran : operation.program.run handler start = (.ok value, later)) :
    operation.Supplies .filled := by
  have option {given : Option String} (text : String)
      (written : Workflow.optionalText given = some text) : Text.IsFilled text :=
    Workflow.isFilled_of_optionalText written
  cases operation with
  | register createdBy input => cases registers
  | updateUser caller id patch =>
      have names := Workflow.Gives.names_of_updateUser ran
      exact ⟨fun _ _ => trivial, names.1, names.2, option⟩
  | createTeam caller draft => exact ⟨Workflow.Gives.name_of_createTeam ran, option⟩
  | updateTeam caller team patch =>
      exact ⟨fun text => Workflow.Gives.name_of_updateTeam ran, option⟩
  | _ => trivial

theorem supplies_ofHashes (operation : Operation) (demanded : String → Prop) :
    operation.Supplies (.ofHashes demanded) := by
  cases operation <;> simp [Supplies, TextRules.ofHashes]

theorem supplies_filledOptions
    (ran : operation.program.run handler start = (.ok value, later)) :
    operation.Supplies .filledOptions := by
  cases operation with
  | register createdBy input =>
      exact ⟨trivial, trivial, trivial, fun _ => Workflow.isFilled_of_optionalText⟩
  | updateUser caller id patch =>
      exact ⟨fun _ _ => trivial, fun _ _ => trivial, fun _ _ => trivial,
        fun _ => Workflow.isFilled_of_optionalText⟩
  | createTeam caller draft => exact supplies_filled rfl ran
  | updateTeam caller team patch => exact supplies_filled rfl ran
  | _ => trivial

end Operation

/-! ## Salts of one length -/

/-- The hasher for salts of a given number of bytes. -/
def Hasher.salted (hasher : Hasher) (size : Nat) : Hasher where
  hash := fun salt password =>
    if salt.length = size then hasher.hash salt password else .error (.hashing "Invalid salt")
  verify := hasher.verify

theorem Hasher.of_salted {hasher : Hasher} {size : Nat} {salt : List UInt8}
    {password hash : String} (hashed : (hasher.salted size).hash salt password = .ok hash) :
    salt.length = size ∧ hasher.hash salt password = .ok hash := by
  simp only [salted] at hashed
  split at hashed
  · rename_i sized
    exact ⟨sized, hashed⟩
  · cases hashed

theorem System.handler_salted {hasher : Hasher} {tokens : TokenService} {moments : Nat → Moment}
    {size : Nat} (salts : ∀ tick, (moments tick).salt.length = size) :
    (System.inMemory (hasher.salted size) tokens).handler moments =
      (System.inMemory hasher tokens).handler moments := by
  funext tick effect store
  cases effect with
  | hashPassword password =>
      simp [System.handler, System.answer, System.inMemory, Hasher.salted, salts tick]
  | checkToken kind token => cases kind <;> rfl
  | _ => rfl

namespace Http

namespace Rule

variable {field : String} {rules : List Rule} {value : String}

theorem holds_of_faults (noFault : faults field rules value = []) {rule : Rule}
    (mem : rule ∈ rules) : rule.holds value = true := by
  have passes : (rules.filter fun rule => !rule.holds value) = [] := List.map_eq_nil_iff.mp noFault
  simpa using List.filter_eq_nil_iff.mp passes rule mem

theorem bounds_of_faults {least greatest : Nat} {message : String}
    (noFault : faults field (length least (some greatest) message :: rules) value = []) :
    least ≤ value.length ∧ value.length ≤ greatest := by
  simpa [length] using holds_of_faults noFault List.mem_cons_self

theorem bounds_of_optionalFaults {least greatest : Nat} {message : String} {given : Option String}
    (noFault :
      optionalFaults field (length least (some greatest) message :: rules) given = [])
    (written : given = some value) : least ≤ value.length ∧ value.length ≤ greatest := by
  rw [written] at noFault
  exact bounds_of_faults noFault

end Rule

/-- What a request submits fits into the columns, if it is not blank where it has to be filled. -/
theorem Request.Submits.supplies_columns {request : Request} {operation : Operation}
    (submits : request.Submits operation)
    (filled : operation.registers = false → operation.Supplies .filled) :
    operation.Supplies .columns := by
  cases operation with
  | register createdBy input =>
      have noFaults := Form.faults_of_read submits
      simp only [Form.registration, List.append_eq_nil_iff] at noFaults
      rcases noFaults with ⟨⟨⟨⟨email, firstName⟩, lastName⟩, _⟩, phoneNumber⟩
      refine ⟨(Rule.bounds_of_faults email).2, Rule.bounds_of_faults firstName,
        Rule.bounds_of_faults lastName, fun number given => ?_⟩
      exact (Rule.bounds_of_optionalFaults phoneNumber (Workflow.eq_of_optionalText given)).2
  | updateUser caller id patch =>
      have noFaults := Form.faults_of_read submits
      simp only [Form.userPatch, List.append_eq_nil_iff] at noFaults
      rcases noFaults with ⟨⟨⟨⟨email, firstName⟩, lastName⟩, _⟩, phoneNumber⟩
      -- The form has upper bounds only; what is not blank has a character.
      rcases filled rfl with ⟨_, firstName_filled, lastName_filled, _⟩
      refine ⟨fun text given => ?_, fun text given => ?_, fun text given => ?_,
        fun number given => ?_⟩
      · exact (Rule.bounds_of_optionalFaults email given).2
      · exact ⟨(firstName_filled text given).length_pos,
          (Rule.bounds_of_optionalFaults firstName given).2⟩
      · exact ⟨(lastName_filled text given).length_pos,
          (Rule.bounds_of_optionalFaults lastName given).2⟩
      · exact (Rule.bounds_of_optionalFaults phoneNumber (Workflow.eq_of_optionalText given)).2
  | createTeam caller draft =>
      have noFaults := Form.faults_of_read submits
      simp only [Form.team, List.append_eq_nil_iff] at noFaults
      rcases noFaults with ⟨description, name⟩
      refine ⟨Rule.bounds_of_faults name, fun text given => ?_⟩
      exact (Rule.bounds_of_optionalFaults description (Workflow.eq_of_optionalText given)).2
  | updateTeam caller team patch =>
      have noFaults := Form.faults_of_read submits
      simp only [Form.teamPatch, List.append_eq_nil_iff] at noFaults
      rcases noFaults with ⟨description, name⟩
      refine ⟨fun text given => ?_, fun text given => ?_⟩
      · exact ⟨((filled rfl).1 text given).length_pos,
          (Rule.bounds_of_optionalFaults name given).2⟩
      · exact (Rule.bounds_of_optionalFaults description (Workflow.eq_of_optionalText given)).2
  | _ => trivial

section Runs

variable {hasher : Hasher} {tokens : TokenService} {moments : Nat → Moment} {policy : CorsPolicy}

/-- A request keeps the rules that the hashes and the input of its operation meet. -/
theorem Answered.meets {request : Request} {store : Store} {answered : Response × World}
    (answers : Answered request ((System.inMemory hasher tokens).handler moments) store answered)
    (meets : store.Meets rules)
    (hashes : ∀ hash password, hasher.Hashes hash password → rules.passwordHash hash)
    (supplies : ∀ (operation : Operation) (value : operation.Value) start,
      request.Asks operation → answered.1.status < 400 →
        operation.program.run ((System.inMemory hasher tokens).handler moments) start =
            (.ok value, answered.2) →
          operation.Supplies rules) :
    answered.2.store.Meets rules := by
  cases answers with
  | refused bad unchanged => exact unchanged ▸ meets
  | told other fine unchanged => exact unchanged ▸ meets
  | @failed operation failure start response later asks same ran status =>
      have unchanged := operation.run_explains hasher tokens moments start
      rw [ran] at unchanged
      exact (show later.store = store from unchanged.trans same) ▸ meets
  | @succeeded operation value start response later asks same ran status =>
      have achieved := operation.achieving start.store start.tick value later ran
      rw [same] at achieved
      refine meets.achieves hashes (supplies operation value start asks ?_ ran) achieved
      change response.status < 400
      omega

theorem worldAfter_concat (earlier : List Request) (request : Request) :
    worldAfter hasher tokens moments policy (earlier ++ [request]) =
      ((answer policy request).run ((System.inMemory hasher tokens).handler moments)
        (worldAfter hasher tokens moments policy earlier)).2 := by
  rw [worldAfter_append]
  rfl

theorem meets_worldAfter (requests : List Request)
    (hashes : ∀ hash password, hasher.Hashes hash password → rules.passwordHash hash)
    (supplies : ∀ (request : Request) (operation : Operation) (value : operation.Value) start later,
      request.Asks operation →
        operation.program.run ((System.inMemory hasher tokens).handler moments) start =
            (.ok value, later) →
          operation.Supplies rules) :
    (worldAfter hasher tokens moments policy requests).store.Meets rules := by
  have empty : Store.Meets rules {} := ⟨by simp, by simp⟩
  refine Program.runEach_keeps (fun program mem world meets => ?_) empty
  rcases List.mem_map.mp mem with ⟨request, _, rfl⟩
  exact (answered policy request world).meets meets hashes
    fun operation value start asks _ ran => supplies request operation value start _ asks ran

theorem hashes_worldAfter (demanded : String → Prop) (requests : List Request)
    (salts : ∀ tick, (moments tick).salt.length = 16)
    (made : ∀ salt password hash, salt.length = 16 → hasher.hash salt password = .ok hash →
      demanded hash) :
    ∀ user ∈ (worldAfter hasher tokens moments policy requests).store.users,
      demanded user.passwordHash := by
  -- The salts are those of the moments, so a hasher that refuses all others does the same.
  have meets : (worldAfter (hasher.salted 16) tokens moments policy requests).store.Meets
      (.ofHashes demanded) := by
    refine meets_worldAfter requests ?_ fun _ operation _ _ _ _ _ =>
      operation.supplies_ofHashes demanded
    rintro hash password ⟨salt, hashed⟩
    rcases Hasher.of_salted hashed with ⟨sixteen, hashed⟩
    exact made salt password hash sixteen hashed
  rw [worldAfter, System.handler_salted salts] at meets
  exact fun user mem => (meets.users user mem).passwordHash

end Runs

/--
Whatever requests are made, the texts of all records fit into the columns of the database. So do
the hashes of passwords, if the hasher is the memory-hard one and its salts have sixteen bytes.
-/
theorem stored_texts_fit (hasher : Hasher) (tokens : TokenService) (moments : Nat → Moment)
    (policy : CorsPolicy) (requests : List Request) :
    let after := worldAfter hasher tokens moments policy requests
    after.store.Meets .columns ∧
      ∀ costs : Argon2.Costs, costs.Accepted → Hasher.argon2 costs = .ok hasher →
        (∀ tick, (moments tick).salt.length = 16) →
          ∀ user ∈ after.store.users, user.passwordHash.length ≤ 255 := by
  intro after
  constructor
  · refine meets_worldAfter requests (fun _ _ _ => trivial) ?_
    intro request operation value start later asks ran
    exact asks.submits.supplies_columns fun registers => operation.supplies_filled registers ran
  · intro costs accepted built salts
    refine hashes_worldAfter (fun hash => hash.length ≤ 255) requests salts ?_
    intro salt password hash sixteen made
    exact Hasher.length_of_hash built accepted sixteen made

/-- A moment whose identifiers are a number, with a salt of sixteen bytes. -/
def saltedMoment (number : Nat) : Moment :=
  { Moment.numbered number with salt := List.replicate 16 0 }

theorem firstRegistration_fits :
    let after := worldAfter .cheapest .unsigned saltedMoment .any [firstRegistration]
    after.store.users.length = 1 ∧ after.store.Meets .columns ∧
      ∀ user ∈ after.store.users, user.passwordHash.length ≤ 255 := by
  have fits := stored_texts_fit .cheapest .unsigned saltedMoment .any [firstRegistration]
  refine ⟨by decide +kernel, fits.1, ?_⟩
  exact fits.2 Argon2.Costs.least Argon2.Costs.least_accepted Hasher.argon2_least fun _ => rfl

/-! ## Blank names -/

/-- The request is a registration with a blank first name or a blank family name. -/
def Request.RegistersBlank (request : Request) : Prop :=
  request.Registers ∧ ∃ input, Form.registration.read request = .ok input ∧
    ¬(Text.IsFilled input.firstName ∧ Text.IsFilled input.lastName)

/-- A blank name that a registration gives is stored, if the registration is accepted. -/
theorem Answered.not_filled_of_registersBlank {hasher : Hasher} {tokens : TokenService}
    {moments : Nat → Moment} {request : Request} {store : Store} {answered : Response × World}
    (answers : Answered request ((System.inMemory hasher tokens).handler moments) store answered)
    (blank : request.RegistersBlank) (accepted : answered.1.status < 400) :
    ¬answered.2.store.Meets .filled := by
  rcases blank with ⟨registers, input, read, blank⟩
  cases answers with
  | refused bad unchanged => exact absurd accepted (Nat.not_lt.mpr bad.1)
  | told other fine unchanged => exact absurd registers other
  | @failed operation failure start response later asks same ran status =>
      have refused := (Problem.ofFailure failure).le_status
      rw [← status] at refused
      exact absurd accepted (Nat.not_lt.mpr refused)
  | @succeeded operation value start response later asks same ran status =>
      have achieved := operation.achieving start.store start.tick value later ran
      have isRegistration := asks.registers.mpr registers
      cases operation with
      | register createdBy given =>
          obtain rfl : given = input := Except.ok.inj (asks.submits.symm.trans read)
          have created : ∃ user ∈ later.store.users,
              user.firstName = given.firstName ∧ user.lastName = given.lastName := by
            generalize later.store = after at achieved
            cases achieved with
            | shown reads => cases reads
            | registered tick asks free =>
                exact ⟨_, List.mem_append_right _ List.mem_cons_self, asks.firstName,
                  asks.lastName⟩
          rcases created with ⟨user, mem, firstName, lastName⟩
          intro meets
          refine blank ⟨?_, ?_⟩
          · exact firstName ▸ (meets.users user mem).firstName
          · exact lastName ▸ (meets.users user mem).lastName
      | _ => cases isRegistration

theorem filled_worldAfter {hasher : Hasher} {tokens : TokenService} {moments : Nat → Moment}
    {policy : CorsPolicy} {requests : List Request}
    (refused : ∀ earlier request, earlier ++ [request] <+: requests → request.RegistersBlank →
      ¬((System.inMemory hasher tokens).run moments (answer policy request)
        (worldAfter hasher tokens moments policy earlier)).1.status < 400) :
    (worldAfter hasher tokens moments policy requests).store.Meets .filled := by
  induction requests using List.reverseRecOn with
  | nil => exact ⟨by simp [worldAfter, Program.runEach], by simp [worldAfter, Program.runEach]⟩
  | append_singleton earlier request ih =>
      have before := ih fun first next longer =>
        refused first next (longer.trans (List.prefix_append earlier [request]))
      rw [worldAfter_concat]
      refine (answered policy request _).meets before (fun _ _ _ => trivial) ?_
      intro operation value start asks accepted ran
      cases registers : operation.registers with
      | false => exact operation.supplies_filled registers ran
      | true =>
          cases operation with
          | register createdBy input =>
              have names : Text.IsFilled input.firstName ∧ Text.IsFilled input.lastName := by
                by_contra blank
                exact refused earlier request (List.prefix_refl _)
                  ⟨asks.registers.mp registers, input, asks.submits, blank⟩ accepted
              exact ⟨trivial, names.1, names.2, fun _ => Workflow.isFilled_of_optionalText⟩
          | _ => cases registers

/--
Whatever requests are made, no telephone number, no name of a team and no description is stored
blank. The names of users are not blank either, as long as no registration with a blank name is
accepted, and only so long.
-/
theorem stored_texts_filled_iff (hasher : Hasher) (tokens : TokenService) (moments : Nat → Moment)
    (policy : CorsPolicy) (requests : List Request) :
    let after := worldAfter hasher tokens moments policy
    (after requests).store.Meets .filledOptions ∧
      ((∀ earlier, earlier <+: requests → (after earlier).store.Meets .filled) ↔
        ∀ earlier request, earlier ++ [request] <+: requests → request.RegistersBlank →
          ¬((System.inMemory hasher tokens).run moments (answer policy request)
            (after earlier)).1.status < 400) := by
  intro after
  refine ⟨meets_worldAfter requests (fun _ _ _ => trivial) ?_, fun filled => ?_, fun refused => ?_⟩
  · intro request operation value start later asks ran
    exact operation.supplies_filledOptions ran
  · intro earlier request made blank accepted
    have stored := filled (earlier ++ [request]) made
    rw [show after (earlier ++ [request]) = _ from worldAfter_concat earlier request] at stored
    exact (answered policy request (after earlier)).not_filled_of_registersBlank blank accepted
      stored
  · intro earlier made
    exact filled_worldAfter fun first next longer => refused first next (longer.trans made)

/-- A registration whose first name is one space. -/
def blankRegistration : Request where
  method := .post
  target := "/register"
  headers := [.ofText "content-type" "application/json"]
  body := Text.utf8 ("\x7b\"email\":\"ada@example.org\",\"password\":\"correct horse\"," ++
    "\"first_name\":\" \",\"last_name\":\"Byron\"\x7d")

/-- The registration is accepted, and the blank name is stored. -/
theorem blankRegistration_stored :
    let after := worldAfter .plain .unsigned .numbered .any
    ((System.inMemory .plain .unsigned).run .numbered (answer .any blankRegistration)
        (after [])).1.status = 201 ∧
      ¬(after [blankRegistration]).store.Meets .filled := by
  refine ⟨by decide +kernel, fun meets => ?_⟩
  have blank : ∃ user ∈ (worldAfter .plain .unsigned .numbered .any
      [blankRegistration]).store.users, ¬Text.IsFilled user.firstName := by
    decide +kernel
  rcases blank with ⟨user, mem, blank⟩
  exact blank (meets.users user mem).firstName

end Http

end OrgAccess
