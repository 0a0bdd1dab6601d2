import OrgAccess.Proofs.AuthenticationGate
import OrgAccess.Proofs.PasswordHashes
import OrgAccess.Proofs.Settings

/-!
# Which origins are let in

The setting for origins is a text with commas between its pieces, and a piece counts without the
blank characters around it. If one piece is an asterisk, every response lets every origin in,
without credentials. Otherwise a response names the origin of its request, and only if that origin
is listed byte for byte. What a request is answered with has no say in this: the resources give
responses whose headers tell nothing but the kind of the body, so that the policy alone decides.
-/

namespace OrgAccess

/-! ## The listed origins -/

namespace Configuration

variable {text origin : String}

/-- Whether an origin is one of the pieces between commas, but for blank characters around it. -/
def Lists (text origin : String) : Prop :=
  ∃ pieces : List (List Char), Text.joinFields ',' pieces = text.toList ∧
    (∀ piece ∈ pieces, ',' ∉ piece) ∧ ∃ piece ∈ pieces, Text.IsCore origin.toList piece

/-- Whether the bytes are those of a listed origin that can stand in a header. -/
def Admits (text : String) (origin : List UInt8) : Prop :=
  ∃ listed, Lists text listed ∧ listed ≠ "" ∧ Text.utf8 listed = origin ∧
    ∀ byte ∈ origin, isHeaderByte byte = true

theorem mem_originsOf_iff : origin ∈ originsOf text ↔ Lists text origin ∧ origin ≠ "" := by
  rw [originsOf, List.mem_filter, bne_iff_ne]
  refine and_congr_left fun _ => ?_
  rw [List.mem_map]
  constructor
  · rintro ⟨piece, mem, rfl⟩
    refine ⟨Text.fields ',' text.toList, Text.joinFields_fields ',' text.toList,
      fun other mem => Text.notMem_of_mem_fieldsFrom List.not_mem_nil mem, piece, mem, ?_⟩
    simpa using (@Text.toList_trim_eq_iff _ (String.ofList piece)).mp rfl
  · rintro ⟨pieces, joined, absent, piece, mem, core⟩
    refine ⟨piece, ?_, ?_⟩
    · rw [(Text.fields_eq_iff (List.ne_nil_of_mem mem)).mpr ⟨joined, absent⟩]
      exact mem
    · rw [← String.toList_inj, Text.toList_trim_eq_iff]
      simpa using core

end Configuration

namespace Http

/-! ## Headers of a response -/

/-- The values of the headers with a name among some headers. -/
def Header.valuesIn (headers : List Header) (name : String) : List (List UInt8) :=
  (headers.filter fun header => header.name == name).map Header.value

namespace Response

variable {response : Response} {name : String}

theorem headerValues_addHeaders (response : Response) (headers : List Header) (name : String) :
    (response.addHeaders headers).headerValues name =
      response.headerValues name ++ Header.valuesIn headers name := by
  simp [headerValues, addHeaders, Header.valuesIn]

theorem headerValues_withLength (other : name ≠ "content-length") :
    response.withLength.headerValues name = response.headerValues name := by
  rw [withLength, headerValues_addHeaders]
  simp [Header.valuesIn, Header.ofText, other.symm]

theorem headerValues_withoutBody :
    response.withoutBody.headerValues name = response.headerValues name := rfl

theorem IsBare.headerValues_eq_nil (bare : response.IsBare) (other : name ≠ "content-type") :
    response.headerValues name = [] := by
  rw [headerValues, bare]
  cases response.body <;> simp [Body.contentType, Header.ofText, other.symm]

end Response

theorem headerValues_finish {request : Request} {response : Response} {name : String}
    (noLength : name ≠ "content-length") (noMethods : name ≠ "allow") :
    (finish request response).headerValues name = response.headerValues name := by
  unfold finish
  split
  · exact Response.headerValues_withLength noLength
  · split
    · split
      · rw [Response.headerValues_withoutBody, Response.headerValues_withLength noLength]
      · exact Response.headerValues_withLength noLength
    · rw [Response.headerValues_withLength noLength, Response.headerValues_addHeaders]
      simp [Header.valuesIn, Resource.allowHeader, Header.ofText, noMethods.symm]

/-! ## What the resources give -/

namespace Handling

variable {α ε : Type}

/-- A handling that fails ends in a response without headers of its own. -/
def FailsBare (handling : Handling α) : Prop :=
  ∀ handler world response,
    (handling.run.run handler world).1 = .error response → response.IsBare

/-- A handling ends in a response without headers of its own. -/
def TellsBare (handling : Handling Response) : Prop :=
  ∀ handler world, (handling.response.run handler world).1.IsBare

theorem failsBare_mk {program : Program (Except ε α)} {tell : ε → Response}
    (bare : ∀ error, (tell error).IsBare) :
    FailsBare (ExceptT.mk do return (← program).mapError tell) := by
  intro handler world response failed
  rw [ExceptT.run_mk, Program.run_bind] at failed
  cases ended : (program.run handler world).1 with
  | ok value =>
      rw [ended] at failed
      cases failed
  | error error =>
      rw [ended] at failed
      cases failed
      exact bare error

theorem failsBare_ofWorkflow (workflow : Workflow α) : FailsBare (ofWorkflow workflow) :=
  failsBare_mk fun failure => (rfl : (Problem.ofFailure failure).response.IsBare)

theorem failsBare_identify (request : Request) : FailsBare (identify request) :=
  failsBare_mk fun error => (rfl : (Problem.ofAuthError error).response.IsBare)

theorem FailsBare.bind {first : Handling α} {rest : α → Handling Response}
    (bare : FailsBare first) (next : ∀ value, TellsBare (rest value)) :
    TellsBare (first >>= rest) := by
  intro handler world
  rcases ran : first.run.run handler world with ⟨response | value, later⟩
  · rw [response_run_of_error ran]
    exact bare handler world response (congrArg Prod.fst ran)
  · rw [response_run_of_ok ran]
    exact next value handler later

theorem Serves.tellsBare {allowed : Operation → Prop} {handling : Handling Response}
    (serves : Serves allowed handling) : TellsBare handling := by
  cases serves with
  | refuses bad bare => exact fun _ _ => bare
  | lacks nothing bare => exact fun _ _ => bare
  | performs operation may success bare =>
      exact (failsBare_ofWorkflow operation.workflow).bind fun value _ _ => bare value

theorem tellsBare_health : TellsBare (ExceptT.lift checkHealth) := by
  intro handler world
  have lifted : response (ExceptT.lift checkHealth) = checkHealth := by
    simp only [response, ExceptT.run_lift, bind_map_left]
    exact bind_pure checkHealth
  rw [lifted, checkHealth, Program.run_bind]
  split <;> rfl

theorem tellsBare_identifyIfPresent_bind {request : Request}
    {rest : Option Identity → Handling Response} (next : ∀ caller, TellsBare (rest caller)) :
    TellsBare (identifyIfPresent request >>= rest) := by
  unfold identifyIfPresent
  split
  · exact next none
  · rw [bind_map_left]
    exact (failsBare_identify request).bind fun identity => next (some identity)

theorem tellsBare_serve (request : Request) : TellsBare (serve request) := by
  have served := served request
  generalize serve request = handling at served
  cases served with
  | health leads => exact tellsBare_health
  | session leads posts other serves => exact serves.tellsBare
  | notAllowed leads => exact fun _ _ => rfl
  | registration leads serves =>
      exact tellsBare_identifyIfPresent_bind fun caller => (serves caller).tellsBare
  | member notShared notRegistration serves =>
      exact (failsBare_identify request).bind fun identity => (serves identity).tellsBare

end Handling

/-! ## The policy -/

namespace CorsPolicy

/-- Why a policy cannot be put in front of a server, which then does not start. -/
inductive StartFault where
  /-- An asterisk is listed as if it were an origin. -/
  | wildcardListed
  /-- Credentials are let in, and a header tells that something is open to all. -/
  | wildcardWithCredentials
deriving DecidableEq

/-- The origins that a policy lists. -/
def listedOrigins : CorsPolicy → List (List UInt8)
  | any => []
  | listed origins => origins

/-- What keeps a server from starting with a policy, whatever the requests will be. -/
def startFault? (policy : CorsPolicy) : Option StartFault :=
  let isWildcard (value : List UInt8) : Bool := value == Text.utf8 "*"
  let values := (policy.preflightHeaders none ++ policy.responseHeaders none).map Header.value
  if policy.listedOrigins.any isWildcard then some .wildcardListed
  else if !policy.credentialHeaders.isEmpty && values.any isWildcard then
    some .wildcardWithCredentials
  else none

variable {origins : List String} {origin : List UInt8}

theorem ofOrigins_of_wildcard (listed : "*" ∈ origins) : ofOrigins origins = any := by
  rw [ofOrigins, if_pos (List.contains_iff_mem.mpr listed)]

/-- The origins that can stand in a header, as bytes. -/
def sendable (origins : List String) : List (List UInt8) :=
  (origins.map Text.utf8).filter fun origin => origin.all isHeaderByte

theorem mem_sendable_iff :
    origin ∈ sendable origins ↔
      ∃ listed ∈ origins, Text.utf8 listed = origin ∧
        ∀ byte ∈ origin, isHeaderByte byte = true := by
  rw [sendable, List.mem_filter, List.mem_map, List.all_eq_true]
  simp only [← and_assoc, exists_and_right]

theorem ofOrigins_of_noWildcard (notListed : "*" ∉ origins) :
    ofOrigins origins = listed (sendable origins) := by
  rw [ofOrigins, if_neg (by simpa using notListed)]
  rfl

theorem wildcard_notMem (notListed : "*" ∉ origins) : Text.utf8 "*" ∉ sendable origins := by
  intro mem
  obtain ⟨listed, mem, same, -⟩ := mem_sendable_iff.mp mem
  rw [Text.utf8_inj.mp same] at mem
  exact notListed mem

/-- A server starts with whatever origins are configured. -/
theorem startFault?_ofOrigins (origins : List String) : (ofOrigins origins).startFault? = none := by
  by_cases wildcard : "*" ∈ origins
  · rw [ofOrigins_of_wildcard wildcard]
    decide
  · rw [ofOrigins_of_noWildcard wildcard]
    have noWildcard : ¬(sendable origins).any (· == Text.utf8 "*") = true := by
      rw [List.any_beq']
      simpa using wildcard_notMem wildcard
    -- Without an origin the headers do not depend on what is listed.
    have noHeaders : (listed []).startFault? = none := by decide
    exact (if_neg noWildcard).trans noHeaders

/-- The origins that a policy lets in on a request from an origin. -/
def letsIn (policy : CorsPolicy) (origin : Option (List UInt8)) : List (List UInt8) :=
  (policy.originHeaders origin).map Header.value

theorem length_letsIn (policy : CorsPolicy) (origin : Option (List UInt8)) :
    (policy.letsIn origin).length ≤ 1 := by
  unfold letsIn originHeaders
  split
  · rfl
  · split
    · split <;> simp
    · simp

/-- A list of origins lets in the origin of the request and no other one. -/
theorem mem_letsIn_listed {origins : List (List UInt8)} {asking : Option (List UInt8)} :
    origin ∈ (listed origins).letsIn asking ↔ asking = some origin ∧ origin ∈ origins := by
  cases asking with
  | none => simp [letsIn, originHeaders]
  | some asking =>
      rw [Option.some_inj]
      by_cases mem : asking ∈ origins
      · have contained : origins.contains asking = true := List.contains_iff_mem.mpr mem
        simp only [letsIn, originHeaders, if_pos contained, List.map_cons, List.map_nil,
          List.mem_singleton]
        constructor
        · rintro rfl
          exact ⟨rfl, mem⟩
        · exact fun both => both.1.symm
      · have missing : ¬origins.contains asking = true := fun contained =>
          mem (List.contains_iff_mem.mp contained)
        simp only [letsIn, originHeaders, if_neg missing, List.map_nil, List.not_mem_nil,
          false_iff]
        rintro ⟨rfl, found⟩
        exact mem found

theorem wildcard_mem_letsIn_iff (origins : List String) (asking : Option (List UInt8)) :
    Text.utf8 "*" ∈ (ofOrigins origins).letsIn asking ↔ "*" ∈ origins := by
  by_cases wildcard : "*" ∈ origins
  · rw [ofOrigins_of_wildcard wildcard]
    exact iff_of_true List.mem_cons_self wildcard
  · rw [ofOrigins_of_noWildcard wildcard, mem_letsIn_listed]
    exact iff_of_false (fun both => wildcard_notMem wildcard both.2) wildcard

/-- The headers that a policy adds to the response to a request. -/
def headersFor (policy : CorsPolicy) (request : Request) : List Header :=
  let origin := request.header? "origin"
  if request.method = .options then policy.preflightHeaders origin
  else policy.responseHeaders origin

theorem valuesIn_headersFor (policy : CorsPolicy) (request : Request) :
    Header.valuesIn (policy.headersFor request) "access-control-allow-origin" =
        policy.letsIn (request.header? "origin") ∧
      Header.valuesIn (policy.headersFor request) "access-control-allow-credentials" =
        policy.credentialHeaders.map Header.value := by
  unfold headersFor
  cases policy with
  | any => split <;> exact ⟨rfl, rfl⟩
  | listed origins =>
      simp only [preflightHeaders, responseHeaders, originHeaders, letsIn]
      repeat' split
      all_goals exact ⟨rfl, rfl⟩

end CorsPolicy

/-! ## Every response -/

namespace Response

/-- The origins that a response lets in. -/
def allowedOrigins (response : Response) : List (List UInt8) :=
  response.headerValues "access-control-allow-origin"

/-- A response lets a browser hand it on although credentials were sent. -/
def AllowsCredentials (response : Response) : Prop :=
  Text.utf8 "true" ∈ response.headerValues "access-control-allow-credentials"

end Response

variable {handler : Handler} {world : World}

/-- The headers of a response are those of the policy, its kind, its length and the methods. -/
theorem headerValues_answer (policy : CorsPolicy) (request : Request) {name : String}
    (noKind : name ≠ "content-type") (noLength : name ≠ "content-length")
    (noMethods : name ≠ "allow") :
    ((answer policy request).run handler world).1.headerValues name =
      Header.valuesIn (policy.headersFor request) name := by
  unfold answer CorsPolicy.headersFor
  dsimp only
  split
  · change (finish request _).headerValues name = _
    rw [headerValues_finish noLength noMethods, Response.headerValues_addHeaders]
    rfl
  · simp only [pure_bind]
    rw [Program.run_bind]
    change (finish request _).headerValues name = _
    have bare := Handling.tellsBare_serve request handler world
    rw [headerValues_finish noLength noMethods, Response.headerValues_addHeaders,
      bare.headerValues_eq_nil noKind, List.nil_append]

theorem allowedOrigins_answer (policy : CorsPolicy) (request : Request) :
    ((answer policy request).run handler world).1.allowedOrigins =
      policy.letsIn (request.header? "origin") := by
  rw [← (policy.valuesIn_headersFor request).1]
  exact headerValues_answer policy request (by decide) (by decide) (by decide)

theorem allowsCredentials_answer_iff (policy : CorsPolicy) (request : Request) :
    ((answer policy request).run handler world).1.AllowsCredentials ↔ policy ≠ .any := by
  rw [Response.AllowsCredentials, headerValues_answer policy request (by decide) (by decide)
    (by decide), (policy.valuesIn_headersFor request).2]
  cases policy <;> simp [CorsPolicy.credentialHeaders, Header.ofText]

/--
A server starts whatever origins are configured, and every response is as the setting tells: it
lets every origin in if a piece of the text is an asterisk, and else it names the origin of its
request exactly if that is a listed one. No response lets every origin in with credentials.
-/
theorem configured_origins_enforced {lookup : String → Option String}
    {configuration : Configuration} (accepted : Configuration.ofLookup lookup = .ok configuration) :
    let text := (lookup "CORS_ORIGINS").getD "*"
    let wildcard := Text.utf8 "*"
    configuration.corsPolicy.startFault? = none ∧
      ∀ (request : Request) (handler : Handler) (world : World),
        let response := ((answer configuration.corsPolicy request).run handler world).1
        ¬(wildcard ∈ response.allowedOrigins ∧ response.AllowsCredentials) ∧
          ∀ origin, request.header? "origin" = some origin →
            response.allowedOrigins.length ≤ 1 ∧
              (wildcard ∈ response.allowedOrigins ↔ Configuration.Lists text "*") ∧
              (¬Configuration.Lists text "*" → ∀ value,
                value ∈ response.allowedOrigins ↔
                  value = origin ∧ Configuration.Admits text origin) := by
  intro text wildcard
  have origins : configuration.api.corsOrigins = Configuration.originsOf text :=
    (Configuration.ofLookup_eq_ok_iff.mp accepted).origins
  have wildcard_listed : "*" ∈ Configuration.originsOf text ↔ Configuration.Lists text "*" := by
    rw [Configuration.mem_originsOf_iff]
    exact and_iff_left (by decide)
  have admitted (origin : List UInt8) :
      origin ∈ CorsPolicy.sendable (Configuration.originsOf text) ↔
        Configuration.Admits text origin := by
    rw [CorsPolicy.mem_sendable_iff]
    simp only [Configuration.mem_originsOf_iff, and_assoc]
    rfl
  rw [Configuration.corsPolicy, origins]
  refine ⟨CorsPolicy.startFault?_ofOrigins _, fun request handler world => ?_⟩
  intro response
  have allowed : response.allowedOrigins =
      (CorsPolicy.ofOrigins (Configuration.originsOf text)).letsIn (request.header? "origin") :=
    allowedOrigins_answer _ request
  rw [allowed, CorsPolicy.wildcard_mem_letsIn_iff, wildcard_listed]
  refine ⟨?_, fun origin asks => ⟨CorsPolicy.length_letsIn _ _, Iff.rfl, ?_⟩⟩
  · rintro ⟨listed, credentials⟩
    refine (allowsCredentials_answer_iff _ request).mp credentials ?_
    exact CorsPolicy.ofOrigins_of_wildcard (wildcard_listed.mpr listed)
  · intro noWildcard value
    rw [CorsPolicy.ofOrigins_of_noWildcard (noWildcard ∘ wildcard_listed.mp),
      CorsPolicy.mem_letsIn_listed, asks, Option.some_inj, admitted]
    constructor
    · rintro ⟨rfl, admits⟩
      exact ⟨rfl, admits⟩
    · rintro ⟨rfl, admits⟩
      exact ⟨rfl, admits⟩

/-- An environment that lists two origins, with a blank before the second one. -/
def originsEnvironment : String → Option String
  | "CORS_ORIGINS" => some "https://a.example, https://b.example"
  | key => plainEnvironment "168h" key

/-- The origin behind the blank is let in, by whatever handler the request is answered. -/
theorem secondOrigin_allowed :
    ∃ configuration, Configuration.ofLookup originsEnvironment = .ok configuration ∧
      configuration.corsPolicy.startFault? = none ∧
      ∀ (handler : Handler) (world : World),
        let request : Request :=
          ⟨.get, "/health", [.ofText "origin" "https://b.example"], []⟩
        let response := ((answer configuration.corsPolicy request).run handler world).1
        request.header? "origin" = some (Text.utf8 "https://b.example") ∧
          Text.utf8 "https://b.example" ∈ response.allowedOrigins := by
  let configuration : Configuration :=
    { plainConfiguration ⟨604800000000000⟩ with
      api := ⟨"0.0.0.0", 8080, ["https://a.example", "https://b.example"]⟩ }
  have accepted : Configuration.ofLookup originsEnvironment = .ok configuration := by
    decide +kernel
  have enforced := configured_origins_enforced accepted
  have listed : "https://b.example" ∈
      Configuration.originsOf "https://a.example, https://b.example" := by decide +kernel
  have noWildcard : "*" ∉ Configuration.originsOf "https://a.example, https://b.example" := by
    decide +kernel
  refine ⟨configuration, accepted, enforced.1, fun handler world => ?_⟩
  intro request response
  have asks : request.header? "origin" = some (Text.utf8 "https://b.example") := by decide
  obtain ⟨-, -, decided⟩ := (enforced.2 request handler world).2 _ asks
  refine ⟨asks, (decided ?_ _).mpr ⟨rfl, ?_⟩⟩
  · exact fun lists => noWildcard (Configuration.mem_originsOf_iff.mpr ⟨lists, by decide⟩)
  · exact ⟨_, (Configuration.mem_originsOf_iff.mp listed).1, by decide, rfl,
      List.all_eq_true.mp (by decide)⟩

end Http

end OrgAccess
