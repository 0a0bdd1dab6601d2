import OrgAccess.Proofs.Atomicity
import OrgAccess.Proofs.Relaying
import OrgAccess.Proofs.WriteGate

/-!
# What outages tell

A call on the store has an outage if it fails and the failure is no conflict. The text of such a
failure may tell something about the storage, and clients are not to see it. A program hides outages
if the first one ends it with a value that is fixed beforehand (`Program.Hides`). Then it does not
matter what the texts are (`Program.Hides.run_eq`), and that value is all that comes of an outage
(`Program.Hides.run_of_outage`).

Answering a request hides outages. The answer is the fixed one with status 500, but on the path that
tells the health of the system it is that the store is not connected.
-/

namespace OrgAccess

/-- Why the store cannot do what it is asked. -/
inductive Outage where
  | unavailable (reason : String)
  | database (reason : String)

/-- How the store tells of an outage. -/
def Outage.error : Outage → StoreError
  | unavailable reason => .unavailable reason
  | database reason => .database reason

/-- Whether an answer tells of an outage. -/
def Effect.isOutage : (effect : Effect) → effect.Answer → Bool
  | store _, .error (.conflict _) => false
  | store _, .error _ => true
  | _, _ => false

/-- Whatever an outage tells, it becomes an internal failure. -/
theorem Effect.failure?_of_isOutage {effect : Effect} {answer : effect.Answer}
    (out : effect.isOutage answer = true) :
    ∃ reason, effect.failure? answer = some (.internal reason) := by
  cases effect with
  | store call =>
      cases answer with
      | ok value => cases out
      | error error =>
          cases error with
          | conflict reason => cases out
          | unavailable reason | database reason => exact ⟨_, rfl⟩
  | _ => cases out

/-- Outages of the calls on the store that fail; nothing else fails. -/
def Faults.ofOutages (fails : Nat → StoreCall → Bool) (outages : Nat → StoreCall → Outage) : Faults
  | tick, .store call => if fails tick call then some (outages tick call).error else none
  | _, _ => none

/-- Two handlers that differ in what they tell about outages at most. -/
def Handler.AlikeButOutages (first second : Handler) : Prop :=
  ∀ tick effect store, (first tick effect store).2 = (second tick effect store).2 ∧
    ((first tick effect store).1 = (second tick effect store).1 ∨
      effect.isOutage (first tick effect store).1 = true ∧
        effect.isOutage (second tick effect store).1 = true)

theorem System.alikeButOutages_faulty (system : System) (moments : Nat → Moment)
    (fails : Nat → StoreCall → Bool) (first second : Nat → StoreCall → Outage) :
    (system.faultyHandler moments (.ofOutages fails first)).AlikeButOutages
      (system.faultyHandler moments (.ofOutages fails second)) := by
  intro tick effect store
  cases effect with
  | store call =>
      have isOutage (outage : Outage) :
          Effect.isOutage (.store call) (.error outage.error) = true := by
        cases outage <;> rfl
      cases failed : fails tick call with
      | true =>
          simp only [faultyHandler, Faults.ofOutages, failed, if_true]
          exact ⟨trivial, Or.inr ⟨isOutage _, isOutage _⟩⟩
      | false => simp [faultyHandler, Faults.ofOutages, failed]
  | _ => exact ⟨rfl, Or.inl rfl⟩

namespace Program

variable {α β : Type} {hidden : α} {program : Program α}

/-- The first outage ends the program with a fixed value. -/
def Hides (hidden : α) : Program α → Prop
  | done _ => True
  | call effect next => ∀ answer,
    if effect.isOutage answer then next answer = done hidden else (next answer).Hides hidden

theorem Hides.bind {hidden' : β} {rest : α → Program β} (hides : program.Hides hidden)
    (ends : rest hidden = done hidden') (next : ∀ value, (rest value).Hides hidden') :
    (program >>= rest).Hides hidden' := by
  induction program with
  | done value => exact next value
  | call effect step ih =>
      refine fun answer => ?_
      have passed := hides answer
      cases out : effect.isOutage answer with
      | true =>
          rw [if_pos out] at passed
          change (step answer >>= rest) = done hidden'
          rw [passed]
          exact ends
      | false =>
          rw [out] at passed
          exact ih answer passed

/-- Whatever outages tell, the run is the same. -/
theorem Hides.run_eq {first second : Handler} (hides : program.Hides hidden)
    (alike : first.AlikeButOutages second) (world : World) :
    program.run first world = program.run second world := by
  induction program generalizing world with
  | done value => rfl
  | call effect next ih =>
      rcases alike world.tick effect world.store with ⟨stores, same | ⟨out, other_out⟩⟩
      · have step : first.step effect world = second.step effect world := by
          unfold Handler.step
          rw [Prod.ext same stores]
        rw [run_call, run_call, step]
        have passed := hides (second.step effect world).1
        split at passed
        · rw [passed]
          rfl
        · exact ih _ passed _
      · -- The answers differ, but both runs are over with the same value.
        have worlds : (first.step effect world).2 = (second.step effect world).2 :=
          congrArg (World.mk · (world.tick + 1)) stores
        have passed : next (first.step effect world).1 = done hidden :=
          (if_pos out).mp (hides _)
        have other_passed : next (second.step effect world).1 = done hidden :=
          (if_pos other_out).mp (hides _)
        rw [run_call, run_call, passed, other_passed, worlds]
        rfl

theorem Hides.run_of_outage {handler : Handler} {world : World} (hides : program.Hides hidden)
    (happened : ∃ exchange ∈ program.exchanges handler world,
      exchange.effect.isOutage exchange.answer = true) :
    (program.run handler world).1 = hidden := by
  induction program generalizing world with
  | done value => simp [exchanges] at happened
  | call effect next ih =>
      have passed := hides (handler.step effect world).1
      rw [run_call]
      split at passed
      · rw [passed]
        rfl
      · rename_i answered
        apply ih _ passed
        rcases happened with ⟨exchange, mem, out⟩
        rcases List.mem_cons.mp mem with rfl | later
        · exact absurd out answered
        · exact ⟨exchange, later, out⟩

end Program

namespace Http

/-- The response that keeps the reason of an internal fault to itself. -/
def internalResponse : Response :=
  jsonResponse 500 (.object
    [("error", .text "internal_error"), ("message", .text "An internal error occurred")])

/-- The response to a request if the store has an outage. -/
def outageResponse (request : Request) : Response :=
  if request.resource? = some (.shared .health) then
    jsonResponse 200 (healthJson "degraded" "disconnected")
  else internalResponse

namespace Handling

variable {α β : Type}

/-- A handling whose response does not tell of an outage. -/
def Hides (handling : Handling α) : Prop :=
  handling.run.Hides (.error internalResponse)

theorem hides_bind {handling : Handling α} {rest : α → Handling β} (hides : Hides handling)
    (next : ∀ value, Hides (rest value)) : Hides (handling >>= rest) := by
  rw [Hides, ExceptT.run_bind]
  refine Program.Hides.bind hides rfl fun result => ?_
  cases result with
  | ok value => exact next value
  | error response => trivial

/-- A workflow that passes on what fails does not tell the reasons of outages. -/
theorem hides_of_relays {program : Program (Except Failure α)}
    (relays : program.Relays fun _ => True) : Hides (ofWorkflow (ExceptT.mk program)) := by
  induction program with
  | done result => trivial
  | call effect next ih =>
      refine fun answer => ?_
      have passed := relays.2 answer (effect.offersUsable_any answer)
      split
      · rename_i out
        rcases Effect.failure?_of_isOutage out with ⟨reason, failed⟩
        rw [failed] at passed
        change (next answer >>= _) = _
        rw [passed]
        rfl
      · split at passed
        · change Program.Hides _ (next answer >>= _)
          rw [passed]
          trivial
        · exact ih answer passed

theorem Serves.hides {allowed : Operation → Prop} {handling : Handling Response}
    (serves : Serves allowed handling) : Hides handling := by
  cases serves with
  | refuses bad => trivial
  | lacks nothing => trivial
  | performs operation may success =>
      refine hides_bind ?_ fun value => trivial
      exact hides_of_relays (operation.relays fun _ => True)

theorem hides_identify (request : Request) : Hides (identify request) := by
  unfold identify authenticate
  cases bearerToken (request.headerValues "authorization") with
  | error error => trivial
  | ok token =>
      refine fun checked => ?_
      cases checked with
      | error error => trivial
      | ok claims =>
          refine fun found => ?_
          rcases found with (_ | _ | _) | _ | user
          all_goals trivial

theorem hides_identifyIfPresent (request : Request) : Hides (identifyIfPresent request) := by
  unfold identifyIfPresent
  split
  · trivial
  · rw [map_eq_pure_bind]
    exact hides_bind (hides_identify request) fun identity => trivial

theorem Hides.response {handling : Handling Response} (hides : Hides handling) :
    handling.response.Hides internalResponse := by
  refine Program.Hides.bind hides rfl fun result => ?_
  cases result <;> trivial

theorem hides_serve (request : Request) :
    (serve request).response.Hides (outageResponse request) := by
  have served := served request
  generalize serve request = handling at served
  -- On every other path than that of the health an outage is told as an internal error.
  have internal (other : request.resource? ≠ some (.shared .health))
      (hides : Hides handling) : handling.response.Hides (outageResponse request) := by
    rw [outageResponse, if_neg other]
    exact hides.response
  cases served with
  | health leads =>
      rw [outageResponse, if_pos leads]
      refine fun answer => ?_
      rcases answer with (_ | _ | _) | _
      all_goals trivial
  | session leads posts other serves =>
      refine internal (fun isHealth => ?_) serves.hides
      rw [leads] at isHealth
      exact other (Resource.shared.inj (Option.some.inj isHealth))
  | notAllowed leads => trivial
  | registration leads serves =>
      refine internal (by simp [leads]) ?_
      exact hides_bind (hides_identifyIfPresent request) fun caller => (serves caller).hides
  | member notShared notRegistration serves =>
      refine internal (notShared _) ?_
      exact hides_bind (hides_identify request) fun identity => (serves identity).hides

end Handling

theorem hides_answer (policy : CorsPolicy) (request : Request) :
    (answer policy request).Hides (finish request ((outageResponse request).addHeaders
      (policy.responseHeaders (request.header? "origin")))) := by
  unfold answer
  dsimp only
  split
  · trivial
  · exact (Handling.hides_serve request).bind rfl fun response => trivial

/--
Whatever calls on the store fail and whatever the outages tell, the response is the same. If there
is an outage while a request is answered, the response is a fixed one: that the store is not
connected on the path that tells the health, and an internal error everywhere else.
-/
theorem response_hides_outages (system : System) (moments : Nat → Moment) (policy : CorsPolicy)
    (request : Request) (world : World) (fails : Nat → StoreCall → Bool)
    (first second : Nat → StoreCall → Outage) :
    let handler := fun outages => system.faultyHandler moments (.ofOutages fails outages)
    ((answer policy request).run (handler first) world).1 =
        ((answer policy request).run (handler second) world).1 ∧
      ((∃ exchange ∈ (answer policy request).exchanges (handler first) world,
          exchange.effect.isOutage exchange.answer = true) →
        ((answer policy request).run (handler first) world).1 =
          finish request ((outageResponse request).addHeaders
            (policy.responseHeaders (request.header? "origin")))) := by
  intro handler
  have alike : (handler first).AlikeButOutages (handler second) :=
    system.alikeButOutages_faulty moments fails first second
  constructor
  · rw [(hides_answer policy request).run_eq alike world]
  · exact (hides_answer policy request).run_of_outage

/-- The database fails when it is asked for the first time. -/
theorem firstRegistration_hides_outages :
    let handler := fun reason => (System.inMemory .plain .unsigned).faultyHandler .numbered
      (.ofOutages (fun _ _ => true) fun _ _ => .database reason)
    let run := fun reason => (answer .any firstRegistration).run (handler reason) {}
    (∃ exchange ∈ (answer .any firstRegistration).exchanges (handler "disk full") {},
        exchange.effect.isOutage exchange.answer = true) ∧
      (run "disk full").1 = (run "no such table").1 ∧ (run "disk full").1.status = 500 := by
  intro handler run
  have happened : ∃ exchange ∈
      (answer .any firstRegistration).exchanges (handler "disk full") {},
        exchange.effect.isOutage exchange.answer = true := by
    rw [← List.any_eq_true]
    decide +kernel
  have hidden := response_hides_outages (.inMemory .plain .unsigned) .numbered .any
    firstRegistration {} (fun _ _ => true) (fun _ _ => .database "disk full")
    (fun _ _ => .database "no such table")
  refine ⟨happened, hidden.1, ?_⟩
  have status := congrArg Response.status (hidden.2 happened)
  rw [status_finish] at status
  exact status.trans (by decide +kernel)

end Http

end OrgAccess
