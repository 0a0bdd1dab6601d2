import OrgAccess.Proofs.Noninterference

/-!
# One view of the teams

A caller meets its teams in three places: the listing of teams, a single team that it names, and its
profile. The listing filters the teams by the visibility of the caller, a single read looks the team
up first and then asks for permission, and the profile looks up each team that the caller was found
with. All three come to the same teams (`Store.teamFor_eq_ok_iff`,
`Store.Distinct.filterMap_teamScope`).

Main statement: in a reachable store a single read finds exactly what is listed, the teams of a
profile are those of the listing in their order, and a team that is not listed is refused if it is
live and unknown otherwise.
-/

namespace OrgAccess

/-- How the teams that a user of this role is listed show in its profile. -/
def Profile.ShowsTeams (own : Profile) (listed : List Team) : Role → Prop
  | .admin => own.team = none ∧ own.teams = []
  | .manager => own.team = none ∧ own.teams = listed
  | .employee => own.team.toList = listed ∧ own.teams = []

namespace Store

/-- The teams that a caller is listed, each with the members whom the caller may see. -/
def listing (store : Store) (actor : Actor) : List TeamDetails :=
  (store.listTeams actor.teamVisibility).map (store.teamDetails actor)

variable {store : Store} {actor : Actor} {viewer : User} {id : Uuid}

/-! ## A single team and the listing -/

@[simp]
theorem team_teamDetails (actor : Actor) (team : Team) :
    (store.teamDetails actor team).team = team := rfl

theorem teams_listing (store : Store) (actor : Actor) :
    (store.listing actor).map TeamDetails.team = store.listTeams actor.teamVisibility := by
  simp [listing, Function.comp_def]

theorem mem_listTeams_iff {visibility : TeamVisibility} {team : Team} :
    team ∈ store.listTeams visibility ↔
      team ∈ store.teams ∧ team.isLive = true ∧ visibility.permits team.id = true := by
  rw [listTeams, List.mem_filter, Bool.and_eq_true]

theorem Distinct.nodup_listing (distinct : store.Distinct) (actor : Actor) :
    ((store.listing actor).map (·.team.id)).Nodup := by
  have ids : (store.listing actor).map (·.team.id) =
      (store.listTeams actor.teamVisibility).map Team.id := by
    rw [← teams_listing, List.map_map]
    rfl
  rw [ids]
  exact distinct.teams.sublist (List.filter_sublist.map Team.id)

/-- A live team is listed exactly if the visibility of the caller permits it. -/
theorem Distinct.listed_iff (distinct : store.Distinct) {team : Team}
    (live : store.liveTeam? id = some team) :
    id ∈ (store.listing actor).map (·.team.id) ↔ actor.teamVisibility.permits id = true := by
  rcases distinct.liveTeam?_eq_some_iff.mp live with ⟨stored, isLive, rfl⟩
  simp only [listing, List.map_map, List.mem_map, Function.comp_apply, team_teamDetails,
    mem_listTeams_iff]
  constructor
  · rintro ⟨other, ⟨_, _, permitted⟩, same⟩
    rwa [← same]
  · intro permitted
    exact ⟨team, ⟨stored, isLive, permitted⟩, rfl⟩

theorem Distinct.teamFor_eq_ok_iff (distinct : store.Distinct) {details : TeamDetails} :
    store.teamFor actor id = .ok details ↔
      details ∈ store.listing actor ∧ details.team.id = id := by
  simp only [listing, List.mem_map, mem_listTeams_iff]
  constructor
  · intro told
    unfold teamFor at told
    split at told
    · cases told
    · rename_i team live
      rcases distinct.liveTeam?_eq_some_iff.mp live with ⟨stored, isLive, named⟩
      split at told
      · rename_i permitted
        cases told
        exact ⟨⟨team, ⟨stored, isLive, permitted⟩, rfl⟩, named⟩
      · cases told
  · rintro ⟨⟨team, ⟨stored, isLive, permitted⟩, rfl⟩, rfl⟩
    have live := distinct.liveTeam?_eq_some_iff.mpr ⟨stored, isLive, rfl⟩
    simp only [teamFor, team_teamDetails, live, if_pos permitted]

theorem Distinct.teamFor_forbidden_iff (distinct : store.Distinct) :
    (∃ reason, store.teamFor actor id = .error (.forbidden reason)) ↔
      (∃ team, store.liveTeam? id = some team) ∧
        id ∉ (store.listing actor).map (·.team.id) := by
  cases live : store.liveTeam? id with
  | none => simp [teamFor, live, Failure.teamNotFound]
  | some team =>
      rw [distinct.listed_iff live]
      obtain rfl := id_of_liveTeam? live
      by_cases permitted : actor.teamVisibility.permits team.id = true
      · simp [teamFor, live, permitted]
      · simp [teamFor, live, permitted, Failure.ofDenial]

theorem teamFor_notFound_iff :
    (∃ reason, store.teamFor actor id = .error (.notFound reason)) ↔
      store.liveTeam? id = none := by
  cases live : store.liveTeam? id with
  | none => simp [teamFor, live, Failure.teamNotFound]
  | some team =>
      by_cases permitted : actor.teamVisibility.permits team.id = true
      · simp [teamFor, live, permitted]
      · simp [teamFor, live, permitted, Failure.ofDenial]

/-! ## The profile and the listing -/

/-- Looking up the teams with which a caller was found gives the teams of its scope again. -/
theorem Distinct.filterMap_teamScope (distinct : store.Distinct) (viewer : User) :
    (store.actor viewer).teamScope.filterMap store.liveTeam? = store.scopeTeams viewer := by
  rw [distinct.teamScope_actor, List.filterMap_map]
  calc (store.scopeTeams viewer).filterMap (store.liveTeam? ∘ Team.id)
      = (store.scopeTeams viewer).filterMap some :=
        List.filterMap_congr fun team inScope => distinct.liveTeam?_of_mem_scope inScope
    _ = store.scopeTeams viewer := List.filterMap_some

/-- The teams that are listed to a caller who is no admin are those of its scope. -/
theorem Distinct.teams_listing_actor (distinct : store.Distinct) (notAdmin : viewer.role ≠ .admin) :
    (store.listing (store.actor viewer)).map TeamDetails.team =
      (store.actor viewer).teamScope.filterMap store.liveTeam? := by
  rw [teams_listing, distinct.listTeams_eq notAdmin, distinct.filterMap_teamScope]

theorem Distinct.profileOf_agrees (distinct : store.Distinct) (viewer : User) :
    (store.profileOf viewer).ShowsTeams ((store.listing (store.actor viewer)).map TeamDetails.team)
      viewer.role := by
  cases isRole : viewer.role with
  | admin => simp [Profile.ShowsTeams, profileOf, actor, isRole]
  | manager =>
      rw [distinct.teams_listing_actor (by simp [isRole])]
      simp [Profile.ShowsTeams, profileOf, actor, Actor.teamScope, isRole]
  | employee =>
      have lookedUp (teamId : Option Uuid) :
          (teamId.bind store.liveTeam?).toList = teamId.toList.filterMap store.liveTeam? := by
        cases teamId with
        | none => rfl
        | some id => cases found : store.liveTeam? id <;> simp [found]
      rw [distinct.teams_listing_actor (by simp [isRole])]
      refine ⟨?_, by simp [profileOf, actor, isRole]⟩
      rw [profileOf, lookedUp, Actor.teamScope]
      simp [actor, isRole]

end Store

/--
A live caller reads a single team exactly if it is listed and then as it is listed. A live team that
is not listed is forbidden, and any other is not found. The profile of a manager has the listed
teams in their order, that of an employee the only listed team, if there is one, and that of an
admin none.
-/
theorem team_views_agree {store : Store} (reachable : store.Reachable) {caller : Uuid}
    {viewer : User} (found : store.liveUser? caller = some viewer) (hasher : Hasher)
    (tokens : TokenService) (moments : Nat → Moment) (tick : Nat) :
    let answer (operation : Operation) := (operation.program.run
      ((System.inMemory hasher tokens).handler moments) ⟨store, tick⟩).1
    ∃ (listed : List TeamDetails) (own : Profile),
      answer (.listTeams caller) = .ok listed ∧ answer (.profile caller) = .ok own ∧
        (listed.map (·.team.id)).Nodup ∧
        (∀ id,
          (∀ details, answer (.getTeam caller id) = .ok details ↔
            details ∈ listed ∧ details.team.id = id) ∧
          ((∃ reason, answer (.getTeam caller id) = .error (.forbidden reason)) ↔
            (∃ team, store.liveTeam? id = some team) ∧ id ∉ listed.map (·.team.id)) ∧
          ((∃ reason, answer (.getTeam caller id) = .error (.notFound reason)) ↔
            store.liveTeam? id = none)) ∧
        own.ShowsTeams (listed.map (·.team)) viewer.role := by
  intro answer
  have distinct := reachable.distinct
  have told (id : Uuid) : answer (.getTeam caller id) = store.teamFor (store.actor viewer) id :=
    Operation.run_of_yields (Workflow.yields_getTeam found id) hasher tokens moments tick
  have listed : answer (.listTeams caller) = .ok (store.listing (store.actor viewer)) :=
    Operation.run_of_yields (Workflow.yields_listTeams found) hasher tokens moments tick
  have own : answer (.profile caller) = .ok (store.profileOf viewer) :=
    Operation.run_of_yields (Workflow.yields_profile found) hasher tokens moments tick
  refine ⟨_, _, listed, own, distinct.nodup_listing _, fun id => ?_,
    distinct.profileOf_agrees viewer⟩
  rw [told]
  exact ⟨fun details => distinct.teamFor_eq_ok_iff, distinct.teamFor_forbidden_iff,
    Store.teamFor_notFound_iff⟩

/-- With a second team in the organisation, the manager of the first is listed the first alone. -/
theorem staff_team_views :
    let larger := staff.afterAll strangers
    let answer (operation : Operation) := (operation.program.run
      ((System.inMemory .plain .unsigned).handler .numbered) ⟨larger, 18⟩).1
    larger.Reachable ∧
      larger.liveUser? ⟨3⟩ = some (staffMember 3 "manager@example.org" .manager none) ∧
      (∃ listed own, answer (.listTeams ⟨3⟩) = .ok listed ∧ answer (.profile ⟨3⟩) = .ok own ∧
        own.teams = listed.map (·.team) ∧ listed.map (·.team.id) = [⟨2⟩]) ∧
      (∃ details, answer (.getTeam ⟨3⟩ ⟨2⟩) = .ok details) ∧
      (∃ reason, answer (.getTeam ⟨3⟩ ⟨12⟩) = .error (.forbidden reason)) ∧
      ∃ reason, answer (.getTeam ⟨3⟩ ⟨99⟩) = .error (.notFound reason) := by
  intro larger answer
  have reachable : larger.Reachable := staff_reachable.afterAll (by decide +kernel)
  have found : larger.liveUser? ⟨3⟩ = some (staffMember 3 "manager@example.org" .manager none) := by
    decide +kernel
  rcases team_views_agree reachable found .plain .unsigned .numbered 18 with
    ⟨listed, own, isListed, isOwn, _, single, _, same⟩
  have only : listed.map (·.team.id) = [⟨2⟩] := by
    have evaluated := isListed.symm.trans
      (Operation.run_of_yields (Workflow.yields_listTeams found) .plain .unsigned .numbered 18)
    cases evaluated
    decide +kernel
  refine ⟨reachable, found, ⟨listed, own, isListed, isOwn, same, only⟩, ?_, ?_, ?_⟩
  · have mem : (⟨2⟩ : Uuid) ∈ listed.map (·.team.id) := by simp [only]
    rcases List.mem_map.mp mem with ⟨details, mem, named⟩
    exact ⟨details, ((single ⟨2⟩).1 details).mpr ⟨mem, named⟩⟩
  · refine (single ⟨12⟩).2.1.mpr ⟨Option.isSome_iff_exists.mp ?_, by simp [only]⟩
    decide +kernel
  · exact (single ⟨99⟩).2.2.mpr (by decide +kernel)

end OrgAccess
