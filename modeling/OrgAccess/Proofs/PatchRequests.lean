import OrgAccess.Proofs.PatchReading
import OrgAccess.Proofs.PatchRules
import OrgAccess.Proofs.WriteGate

/-!
# Requests that patch a user

From the JSON object in the body of a request to the row of a user: the members of the object spell
the patch, the tables decide whether it is carried out, and the row is amended field by field.

All of this holds of reachable stores. Only what an empty patch does rests on the rule that only
employees have a team, which is kept by operations that come one after the other
(`Store.MadeInTurn`).
-/

namespace OrgAccess

/-- What operations have made of the empty store one after the other. -/
def Store.MadeInTurn (store : Store) : Prop :=
  ∃ (hasher : Hasher) (tokens : TokenService) (moments : Nat → Moment)
    (operations : List Operation),
    (Program.runEach ((System.inMemory hasher tokens).handler moments)
      (operations.map Operation.outcome) {}).2.store = store

theorem Store.MadeInTurn.consistent {store : Store} (inTurn : store.MadeInTurn) :
    store.Consistent := by
  obtain ⟨hasher, tokens, moments, operations, rfl⟩ := inTurn
  refine Program.runEach_keeps (fun program mem world consistent => ?_) Store.consistent_empty
  obtain ⟨operation, _, rfl⟩ := List.mem_map.mp mem
  exact operation.run_consistent world consistent

theorem Store.Consistent.placed {store : Store} {id : Uuid} {user : User}
    (consistent : store.Consistent) (found : store.liveUser? id = some user) :
    user.role = .employee ∨ user.teamId = none := by
  cases place : user.teamId with
  | none => exact Or.inr rfl
  | some team => exact Or.inl (consistent.members user (mem_of_liveUser? found) team place).1

/-- The memory-hard hasher makes only hashes that their passwords fit. -/
theorem Hasher.hashesFit {costs : Argon2.Costs} {hasher : Hasher} {moments : Nat → Moment}
    (accepted : costs.Accepted) (built : Hasher.argon2 costs = .ok hasher)
    (salts : ∀ tick, (moments tick).salt.length = 16) :
    Workflow.HashesFit hasher moments := by
  intro tick password
  obtain ⟨hashes, verifies⟩ := Hasher.eq_of_argon2 built
  have sixteen := salts tick
  rw [hashes, verifies]
  refine ⟨_, rfl, ?_⟩
  rw [Argon2.verify_hash Argon2.length_digest accepted (by omega) (by omega), beq_self_eq_true]

namespace Http

/-- The body of a request is an object whose members spell a patch. -/
def Request.Spells (request : Request) (patch : UserPatch) : Prop :=
  ∃ tail members, Json.fromToken (Text.decodeUtf8 request.body) = some '{' :: tail ∧
    Json.Lists true tail members ∧ patch.SpelledBy members

/-- A request puts a JSON object, read as a patch, on the path of a user. -/
structure Request.Patches (request : Request) (id : Uuid) (patch : UserPatch) : Prop where
  method : request.method = .put
  path : ∃ written text, request.resource? = some (.member (.user written)) ∧
    segmentText "id" written = .ok text ∧ identifier "ID invalide" text = .ok id
  isObject : ∃ tail, Json.fromToken (Text.decodeUtf8 request.body) = some '{' :: tail
  accepted : Form.userPatch.read request = .ok patch

namespace Request.Patches

variable {request : Request} {id : Uuid} {patch : UserPatch}

theorem spells (patches : request.Patches id patch) : request.Spells patch := by
  obtain ⟨tail, isObject⟩ := patches.isObject
  obtain ⟨members, lists, spelled⟩ := Form.exists_spelling isObject patches.accepted
  exact ⟨tail, members, isObject, lists, spelled⟩

theorem long (patches : request.Patches id patch) (text : String)
    (given : patch.password = some text) : Workflow.leastPasswordLength ≤ text.length := by
  have noFaults := Form.faults_of_read patches.accepted
  simp only [Form.userPatch, List.append_eq_nil_iff] at noFaults
  have noFault := noFaults.1.2
  rw [given] at noFault
  have holds := Rule.holds_of_faults noFault List.mem_cons_self
  simpa [Rule.length, Workflow.leastPasswordLength] using holds

theorem serve_eq (patches : request.Patches id patch) :
    serve request = identify request >>= fun caller =>
      Handling.ofWorkflow (Workflow.updateUser caller.userId id patch) >>= fun user =>
        pure (jsonResponse 200 user.toJson) := by
  obtain ⟨written, text, leads, decoded, parsed⟩ := patches.path
  have action : MemberResource.action? (.user written) request.method =
      some (.updateUser written) := by
    rw [patches.method]
    rfl
  have named : Handling.pathId written = pure id := by
    unfold Handling.pathId Handling.segment
    rw [decoded]
    change Handling.identifier "ID invalide" text = pure id
    rw [Handling.identifier, parsed]
    rfl
  have read : Handling.readForm .userPatch request = pure patch := by
    rw [Handling.readForm, patches.accepted]
    rfl
  unfold serve
  rw [leads]
  refine bind_congr fun caller => ?_
  rw [action]
  change (Handling.pathId written >>= fun id => Handling.readForm .userPatch request >>= fun patch =>
    Handling.ofWorkflow (Workflow.updateUser caller.userId id patch) >>= fun user =>
      pure (jsonResponse 200 user.toJson)) = _
  rw [named, pure_bind, read, pure_bind]

end Request.Patches

section Answer

variable {hasher : Hasher} {tokens : TokenService} {clock : Nat → Moment} {store : Store}
  {condition : Prop} {ends : World → Prop}

theorem Handling.response_settles (operation : Operation) (toResponse : operation.Value → Response)
    (success : ∀ value, (toResponse value).status = 200)
    (settles : Workflow.Settles hasher tokens clock store operation.workflow condition ends)
    (tick : Nat) :
    let ended := (ofWorkflow operation.workflow >>= fun value => pure (toResponse value)).response.run
      ((System.inMemory hasher tokens).handler clock) ⟨store, tick⟩
    (ended.1.status = 200 ↔ condition) ∧ (condition → ends ended.2) ∧
      (¬condition → ended.2.store = store) := by
  intro ended
  let handler := (System.inMemory hasher tokens).handler clock
  have parted : ended = _ :=
    congrArg (Program.run handler · ⟨store, tick⟩) (response_performs operation toResponse)
  rw [Program.run_bind] at parted
  rcases settles tick with ⟨holds, value, later, ran, reached⟩ | ⟨fails, failure, later, ran⟩
  · replace ran : operation.program.run handler ⟨store, tick⟩ = (.ok value, later) := ran
    rw [ran] at parted
    rw [parted]
    exact ⟨iff_of_true (success value) holds, fun _ => reached, absurd holds⟩
  · replace ran : operation.program.run handler ⟨store, tick⟩ =
      (.error failure, ⟨store, later⟩) := ran
    rw [ran] at parted
    rw [parted]
    have refused : (Problem.ofFailure failure).status ≠ 200 := by
      have least := (Problem.ofFailure failure).le_status
      omega
    exact ⟨iff_of_false refused fails, fun holds => absurd holds fails, fun _ => rfl⟩

/-- A request that patches a user on behalf of an admin is answered as the workflow settles it. -/
theorem run_patch {request : Request} {id : Uuid} {patch : UserPatch} {tick : Nat}
    (policy : CorsPolicy) (patches : request.Patches id patch)
    (fromAdmin : request.IsFromAdmin tokens (clock tick).now store)
    (settles : ∀ caller viewer, store.liveUser? caller = some viewer → viewer.role = .admin →
      Workflow.Settles hasher tokens clock store (Workflow.updateUser caller id patch) condition
        ends) :
    let answered := (answer policy request).run ((System.inMemory hasher tokens).handler clock)
      ⟨store, tick⟩
    tick + 2 ≤ answered.2.tick ∧ (answered.1.status = 200 ↔ condition) ∧
      (condition → ends answered.2) ∧ (¬condition → answered.2.store = store) := by
  intro answered
  let handler := (System.inMemory hasher tokens).handler clock
  obtain ⟨token, claims, viewer, bears, valid, found, isAdmin⟩ := fromAdmin
  have identified : (identify request).run.run handler ⟨store, tick⟩ =
      (.ok ⟨viewer.id, viewer.role⟩, ⟨store, tick + 2⟩) := by
    simp only [handler, Handling.run_identify, bears, valid, found]
  have noPreflight : request.method ≠ .options := by simp [patches.method]
  have same : answered.1.status = ((serve request).response.run handler ⟨store, tick⟩).1.status ∧
      answered.2 = ((serve request).response.run handler ⟨store, tick⟩).2 :=
    run_answer noPreflight
  rw [patches.serve_eq, Handling.response_run_of_ok identified] at same
  have known : store.liveUser? viewer.id = some viewer := by
    rw [Store.id_of_liveUser? found]
    exact found
  have settled := Handling.response_settles (.updateUser viewer.id id patch)
    (fun user => jsonResponse 200 (PublicUser.toJson user)) (fun _ => rfl)
    (settles viewer.id viewer known isAdmin) (tick + 2)
  have later := Program.tick_le_run handler
    (Handling.ofWorkflow (Workflow.updateUser viewer.id id patch) >>= fun user =>
      pure (jsonResponse 200 user.toJson)).response ⟨store, tick + 2⟩
  rw [same.1, same.2]
  exact ⟨later, settled⟩

end Answer

/--
A request of an admin that patches a live user: its JSON object spells the patch, it is answered
with status 200 exactly if nothing stands against the patch, and then a patch of some field amends
the user. A refused patch changes nothing, and neither does an empty one.
-/
theorem user_patch_answered {costs : Argon2.Costs} {hasher : Hasher} {tokens : TokenService}
    {clock : Nat → Moment} {store : Store} {request : Request} {id : Uuid} {patch : UserPatch}
    {target : User} (policy : CorsPolicy) (tick : Nat) (accepted : costs.Accepted)
    (built : Hasher.argon2 costs = .ok hasher) (salts : ∀ tick, (clock tick).salt.length = 16)
    (reachable : store.Reachable) (patches : request.Patches id patch)
    (fromAdmin : request.IsFromAdmin tokens (clock tick).now store)
    (found : store.liveUser? id = some target) :
    let answered := (System.inMemory hasher tokens).run clock (answer policy request) ⟨store, tick⟩
    request.Spells patch ∧ (answered.1.status = 200 ↔ patch.Admissible store target) ∧
      (patch.Admissible store target → patch ≠ {} →
        ∃ number, tick ≤ number ∧ number < answered.2.tick ∧
          patch.Changes hasher (clock number).now id store answered.2.store) ∧
      (¬patch.Admissible store target → answered.2.store = store) ∧
      (store.MadeInTurn → patch = {} → answered.2.store = store) := by
  intro answered
  have fit := Hasher.hashesFit accepted built salts
  obtain ⟨later, status_iff, reached, refused⟩ := run_patch policy patches fromAdmin
    fun caller viewer known isAdmin =>
      Workflow.settles_updateUser reachable.distinct known isAdmin found fit patches.long
  refine ⟨patches.spells, status_iff, fun admissible asks => ?_, refused, ?_⟩
  · refine ⟨answered.2.tick - 1, ?_, ?_, (reached admissible).1 asks⟩
    · change tick + 2 ≤ answered.2.tick at later
      omega
    · change tick + 2 ≤ answered.2.tick at later
      omega
  · intro inTurn isEmpty
    have placed := inTurn.consistent.placed found
    by_cases admissible : patch.Admissible store target
    · exact (reached admissible).2 isEmpty placed
    · exact refused admissible

/-- The manager of the small organisation becomes a member of its team. -/
def staffDemotion (token : String) : Request where
  method := .put
  target := "/users/" ++ (⟨3⟩ : Uuid).text
  headers := [.ofText "content-type" "application/json", ⟨"authorization", bearerValue token⟩]
  body := Text.utf8 ("\x7b\"role\":\"employee\",\"team_id\":\"" ++ (⟨2⟩ : Uuid).text ++
    "\",\"phone_number\":\" \",\"email\":null\x7d")

/-- What that request asks for. -/
def staffPatch : UserPatch :=
  { phoneNumber := some " ", role := some "employee", teamId := some (some ⟨2⟩) }

theorem staffDemotion_patches (token : String) :
    (staffDemotion token).Patches ⟨3⟩ staffPatch where
  method := rfl
  path := by
    have same : (staffDemotion token).target = (staffDemotion "").target := rfl
    unfold Request.resource? Request.segments? Request.path
    rw [same]
    exact ⟨(⟨3⟩ : Uuid).text.toList, (⟨3⟩ : Uuid).text, by decide +kernel⟩
  isObject := by
    have same : (staffDemotion token).body = (staffDemotion "").body := rfl
    rw [same]
    exact ⟨(Json.fromToken (Text.decodeUtf8 (staffDemotion "").body)).tail, by decide +kernel⟩
  accepted := by
    have same : Form.userPatch.read (staffDemotion token) =
        Form.userPatch.read (staffDemotion "") := rfl
    rw [same]
    decide +kernel

theorem staffDemotion_isFromAdmin {pair : TokenPair}
    (issued : TokenService.unsigned.issuePair (.numbered 0) ⟨1⟩ = .ok pair) :
    (staffDemotion pair.accessToken).IsFromAdmin .unsigned (saltedMoment 7).now staff := by
  have bears := TokenService.bearerToken_of_issuePair issued
  have inTime : TokenService.unsigned.AccessCounts .epoch .epoch := ⟨_, rfl, by decide, by decide⟩
  obtain ⟨claims, valid, same⟩ := TokenService.validateAccess_of_issuePair issued inTime
  have isAdmin : staff.liveUser? ⟨1⟩ = some (staffMember 1 "admin@example.org" .admin none) := by
    decide +kernel
  exact ⟨_, claims, _, bears, valid, same ▸ isAdmin, rfl⟩

theorem staffPatch_admissible (target : User) : staffPatch.Admissible staff target where
  role := by
    intro name named
    exact ⟨.employee, Option.some.inj named⟩
  team := by
    intro team given
    obtain rfl : ⟨2⟩ = team := by simpa [staffPatch] using given
    exact ⟨rfl, _, rfl⟩
  password := nofun
  email := nofun
  firstName := nofun
  lastName := nofun
  free := nofun

/-- The request is carried out: the manager loses its link and joins the team. -/
theorem staffDemotion_answered :
    ∃ token,
      let answered := (System.inMemory .cheapest .unsigned).run saltedMoment
        (answer .any (staffDemotion token)) ⟨staff, 7⟩
      (staffDemotion token).Patches ⟨3⟩ staffPatch ∧ staff.Reachable ∧
        (staffDemotion token).IsFromAdmin .unsigned (saltedMoment 7).now staff ∧
          answered.1.status = 200 ∧ answered.2.store.links = [] ∧
            ∃ user ∈ answered.2.store.users, user.id = ⟨3⟩ ∧ user.role = .employee ∧
              user.teamId = some ⟨2⟩ ∧ user.phoneNumber = none := by
  have possible : TokenService.unsigned.CanIssue (Moment.numbered 0).now := ⟨rfl, rfl⟩
  obtain ⟨pair, issued⟩ := TokenService.exists_pair possible ⟨1⟩
  have patches := staffDemotion_patches pair.accessToken
  have fromAdmin := staffDemotion_isFromAdmin issued
  obtain ⟨_, status_iff, changes, _⟩ := user_patch_answered .any 7 Argon2.Costs.least_accepted
    Hasher.argon2_least (fun _ => rfl) staff_reachable patches fromAdmin staff_manager
  have admissible := staffPatch_admissible (staffMember 3 "manager@example.org" .manager none)
  obtain ⟨number, _, _, users, changed, after⟩ := changes admissible (by decide)
  obtain ⟨earlier, old, new, later, _, rfl, named, amends, _⟩ := changed
  refine ⟨pair.accessToken, patches, staff_reachable, fromAdmin, status_iff.mpr admissible, ?_, ?_⟩
  · rw [after]
    rfl
  · rw [after]
    have isEmployee : new.role = .employee := Option.some.inj amends.role
    refine ⟨new, by simp, amends.origin.id.trans named, isEmployee, ?_, ?_⟩
    · rw [amends.teamId, if_pos isEmployee]
      rfl
    · rw [amends.phoneNumber]
      rfl

end Http

end OrgAccess
