import FleetWatch.Http.Server
import FleetWatch.Proofs.Poll.AnyOrder

/-!
# What a token guards

A server that is guarded by a token says the same to every request that does not carry it, whatever
the server watches and whatever is on the disk. What it says to requests for options and for other
paths than its five is the same as well, with or without a token. So the only requests that can
tell two servers apart are those that carry the token to the letter.

## Main Definitions

* `Route.path` — the path of a route
* `Server.bearer` — the value of the header that carries a token
* `Server.permits` — whether a request may see what a token guards
* `Server.respondIn` — the answer to a request, with the work of the handlers left open

## Design Notes

That no handler runs cannot be read off a response. `Server.respondIn` leaves open in which monad
the handlers do their work, and so which effects they have; the answer of a server is the case of
no effects at all (`Server.respond_eq_run_respondIn`). An answer that is `pure` in every monad is
one for which no handler was asked.
-/

namespace FleetWatch

/-! ### Paths of routes -/

/-- The path of a route. -/
def Route.path : Route → String
  | .activity => "/api/activity"
  | .agents => "/api/agents"
  | .snapshot => "/api/snapshot"
  | .memory => "/api/memory"
  | .health => "/api/health"

/-- A route is found under its path, and under no other. -/
theorem Route.ofPath?_eq_some_iff {path : String} {route : Route} :
    Route.ofPath? path = some route ↔ path = route.path := by
  constructor
  · intro found
    unfold ofPath? at found
    split_ifs at found with activity agents snapshot memory health <;> cases found
    · exact activity
    · exact agents
    · exact snapshot
    · exact memory
    · exact health
  · rintro rfl
    cases route <;> decide

/-- No route is found just under the paths of none. -/
theorem Route.ofPath?_eq_none_iff {path : String} :
    Route.ofPath? path = none ↔ ∀ route : Route, path ≠ route.path := by
  simp only [Option.eq_none_iff_forall_ne_some, ne_eq, ofPath?_eq_some_iff]

namespace Server

/-! ### Tokens -/

/-- The value of an authorization header that carries a token. -/
def bearer (token : String) : List UInt8 :=
  Text.Utf8.encode ("Bearer " ++ token).toList

/-- A value that carries a token is the scheme and the token, to the letter. -/
theorem eq_bearer_of_carries {token : String} {value : List UInt8}
    (h : carries token value = true) : value = bearer token := by
  simp only [carries, Bool.and_eq_true, beq_iff_eq] at h
  rw [h.2, bearer, scheme, String.toList_append]
  simp [Text.Utf8.encode]

/-- Whether a request may see what a token guards. -/
def permits (token : Option String) (request : Request) : Bool :=
  match token with
  | none => true
  | some token =>
    match request.header? "authorization" with
    | none => false
    | some value => carries token value

/-- A request that may see what a token guards carries it in its first authorization header. -/
theorem header?_of_permits {token : String} {request : Request}
    (h : permits (some token) request = true) :
    request.header? "authorization" = some (bearer token) := by
  unfold permits at h
  cases found : request.header? "authorization" with
  | none => simp [found] at h
  | some value =>
      simp only [found] at h
      rw [eq_bearer_of_carries h]

theorem permits_eq_false {token : String} {request : Request}
    (without : request.header? "authorization" ≠ some (bearer token)) :
    permits (some token) request = false := by
  rw [← Bool.not_eq_true]
  intro permitted
  exact without (header?_of_permits permitted)

/-- A token that is not empty guards. -/
theorem token_guarded {token : String} (nonempty : token ≠ "") (dashboard : Dashboard) :
    (guarded dashboard (some token)).token = some token := by
  simp [guarded, nonempty]

/-! ### Answers with open handlers -/

/-- The refusal of a request that does not carry the token. -/
def refusal (request : Request) : Response :=
  ⟨401, allowHeader request.method ++ [openOrigin], none⟩

/-- The answer to a request for a path without a route. -/
def noRoute : Response :=
  ⟨404, [openOrigin], none⟩

/-- The answer to a request, with the work of the handlers left open. -/
def respondIn {m : Type → Type} [Monad m] (token : Option String) (handle : Route → m Response)
    (request : Request) : m Response :=
  if request.method = "OPTIONS" then pure (options request)
  else
    match Route.ofPath? request.path with
    | none => pure noRoute
    | some route =>
      if !permits token request then pure (refusal request)
      else if request.method = "GET" then handle route
      else if request.method = "HEAD" then do
        let shown ← handle route
        pure { shown with body := none }
      else pure ⟨405, allowHeader request.method ++ [openOrigin], none⟩

/-- **The answer of a server** is the one with its own handlers, which have no effects. -/
theorem respond_eq_run_respondIn (server : Server) (moment : Moment) (request : Request) :
    server.respond moment request =
      Id.run (respondIn server.token (fun route => pure (server.serve moment route)) request) := by
  have same : server.authorized request = permits server.token request := rfl
  unfold respond respondIn
  rw [same]
  by_cases asksOptions : request.method = "OPTIONS"
  · simp only [if_pos asksOptions]
    rfl
  · simp only [if_neg asksOptions]
    cases Route.ofPath? request.path with
    | none => rfl
    | some route =>
        dsimp only
        split
        · rfl
        · split
          · rfl
          · split <;> rfl

section Effects

variable {m : Type → Type} [Monad m] {token : Option String} (handle : Route → m Response)
  {request : Request}

/-- A request for options is answered before anything else is looked at. -/
theorem respondIn_of_options (h : request.method = "OPTIONS") :
    respondIn token handle request = pure (options request) := by
  rw [respondIn, if_pos h]

/-- A path without a route is told so, and no handler is asked. -/
theorem respondIn_of_noRoute (h : request.method ≠ "OPTIONS")
    (elsewhere : ∀ route : Route, request.path ≠ route.path) :
    respondIn token handle request = pure noRoute := by
  rw [respondIn, if_neg h, Route.ofPath?_eq_none_iff.mpr elsewhere]

/-- A request without the token is refused, and no handler is asked. -/
theorem respondIn_of_not_permits (h : request.method ≠ "OPTIONS") {route : Route}
    (here : request.path = route.path) (refused : permits token request = false) :
    respondIn token handle request = pure (refusal request) := by
  rw [respondIn, if_neg h, Route.ofPath?_eq_some_iff.mpr here]
  simp [refused]

end Effects

/-! ### What can be told without the token -/

/-- What is answered without a handler is answered by every server with the same token, at every
moment. -/
theorem respond_eq_of_respondIn_eq_pure {token : Option String} {request : Request}
    {response : Response}
    (h : ∀ handle : Route → Id Response, respondIn token handle request = pure response)
    {server : Server} (guard : server.token = token) (moment : Moment) :
    server.respond moment request = response := by
  rw [respond_eq_run_respondIn, guard, h]
  rfl

section Answers

variable {request : Request} {server : Server}

theorem respond_of_options (h : request.method = "OPTIONS") (moment : Moment) :
    server.respond moment request = options request :=
  respond_eq_of_respondIn_eq_pure (fun handle => respondIn_of_options handle h) rfl moment

theorem respond_of_noRoute (h : request.method ≠ "OPTIONS")
    (elsewhere : ∀ route : Route, request.path ≠ route.path) (moment : Moment) :
    server.respond moment request = noRoute :=
  respond_eq_of_respondIn_eq_pure (fun handle => respondIn_of_noRoute handle h elsewhere) rfl moment

theorem respond_of_without {token : String} (guard : server.token = some token)
    (h : request.method ≠ "OPTIONS") {route : Route} (here : request.path = route.path)
    (without : request.header? "authorization" ≠ some (bearer token)) (moment : Moment) :
    server.respond moment request = refusal request :=
  respond_eq_of_respondIn_eq_pure
    (fun handle => respondIn_of_not_permits handle h here (permits_eq_false without)) guard moment

/-- **Two servers with one token answer alike** to a request that does not carry it. -/
theorem respond_eq_of_without {token : String} (guard : server.token = some token)
    {other : Server} (guard' : other.token = some token)
    (without : request.header? "authorization" ≠ some (bearer token)) (moment later : Moment) :
    server.respond moment request = other.respond later request := by
  by_cases asksOptions : request.method = "OPTIONS"
  · rw [respond_of_options asksOptions, respond_of_options asksOptions]
  · by_cases isRoute : ∃ route : Route, request.path = route.path
    · obtain ⟨route, here⟩ := isRoute
      rw [respond_of_without guard asksOptions here without,
        respond_of_without guard' asksOptions here without]
    · rw [not_exists] at isRoute
      rw [respond_of_noRoute asksOptions isRoute, respond_of_noRoute asksOptions isRoute]

end Answers

/-- **Without the token nothing is told.** The handlers of a server may be taken to have effects: a
request for a route that does not carry the token in its first authorization header gets a refusal
with no body and without any of these effects, and it gets the same from every other server with
that token, whatever it watches and at every moment. A request for options gets an empty answer,
and so does one for any other path, the same from all servers and at all moments. So a request that
two servers with the token answer differently carries it. -/
theorem respond_without_token {token : String} (nonempty : token ≠ "") (dashboard : Dashboard)
    (moment : Moment) (request : Request) :
    let server := guarded dashboard (some token)
    let answer := server.respond moment request
    answer = Id.run
      (respondIn server.token (fun route => pure (server.serve moment route)) request) ∧
    (request.method ≠ "OPTIONS" → (∃ route : Route, request.path = route.path) →
      request.header? "authorization" ≠ some (bearer token) →
        answer.status = 401 ∧ answer.body = none ∧
        (∀ (m : Type → Type) [Monad m] (handle : Route → m Response),
          respondIn server.token handle request = pure answer) ∧
        ∀ (other : Dashboard) (later : Moment),
          (guarded other (some token)).respond later request = answer) ∧
    (request.method = "OPTIONS" → answer.status = 200 ∧ answer.body = none ∧
      ∀ (other : Server) (later : Moment), other.respond later request = answer) ∧
    (request.method ≠ "OPTIONS" → (∀ route : Route, request.path ≠ route.path) →
      answer.status = 404 ∧ answer.body = none ∧
      ∀ (other : Server) (later : Moment), other.respond later request = answer) ∧
    ∀ (other : Dashboard) (later : Moment),
      (guarded other (some token)).respond later request ≠ answer →
        request.header? "authorization" = some (bearer token) := by
  intro server answer
  have guard : ∀ dashboard, (guarded dashboard (some token)).token = some token :=
    token_guarded nonempty
  refine ⟨respond_eq_run_respondIn server moment request, ?_, ?_, ?_, ?_⟩
  · rintro notOptions ⟨route, here⟩ without
    have refused : answer = refusal request :=
      respond_of_without (guard dashboard) notOptions here without moment
    rw [refused]
    refine ⟨rfl, rfl, ?_, ?_⟩
    · intro m _ handle
      rw [guard dashboard]
      exact respondIn_of_not_permits handle notOptions here (permits_eq_false without)
    · intro other later
      exact respond_of_without (guard other) notOptions here without later
  · intro asksOptions
    have told : answer = options request := respond_of_options asksOptions moment
    rw [told]
    exact ⟨rfl, rfl, fun _ later => respond_of_options asksOptions later⟩
  · intro notOptions elsewhere
    have told : answer = noRoute := respond_of_noRoute notOptions elsewhere moment
    rw [told]
    exact ⟨rfl, rfl, fun _ later => respond_of_noRoute notOptions elsewhere later⟩
  · intro other later differs
    by_contra without
    exact differs (respond_eq_of_without (guard other) (guard dashboard) without later moment)

/-- A request in which the scheme has a small letter is told nothing. Two moments at which the log
of an agent is there and is gone are told apart with the token, and so not without it. -/
theorem respond_without_token_small_letter :
    let scout : Agent := ⟨"scout", "Scout", "#888", .ofString "/scout"⟩
    let line := "\x7b\"type\":\"message\",\"message\":" ++
      "\x7b\"role\":\"user\",\"content\":\"Hello\"\x7d\x7d"
    let disk := Disk.ofFile (Text.Utf8.encode "a.jsonl".toList) (Text.Utf8.encode line.toList)
      (.ofInstant (.ofMinutes 0))
    let there := Moment.ofDisk disk (.ofMinutes 1)
    let gone := Moment.ofDisk (disk.emptied scout.sessionDir) (.ofMinutes 1)
    let server := guarded (.watching [scout]) (some "s3cret")
    let request (value : String) : Request :=
      ⟨"GET", "/api/activity", [("Authorization", Text.Utf8.encode value.toList)]⟩
    let almost := request "bearer s3cret"
    let carrying := request "Bearer s3cret"
    ("s3cret" ≠ "" ∧ almost.method ≠ "OPTIONS" ∧ almost.path = Route.path .activity ∧
      almost.header? "authorization" ≠ some (bearer "s3cret")) ∧
    (server.respond there almost).status = 401 ∧
    server.respond gone almost = server.respond there almost ∧
    server.respond gone carrying ≠ server.respond there carrying ∧
    carrying.header? "authorization" = some (bearer "s3cret") := by
  intro scout line disk there gone server request almost carrying
  have nonempty : "s3cret" ≠ "" := by decide
  have notOptions : almost.method ≠ "OPTIONS" := by decide
  have here : almost.path = Route.path .activity := by decide +kernel
  have without : almost.header? "authorization" ≠ some (bearer "s3cret") := by decide +kernel
  have differs : server.respond gone carrying ≠ server.respond there carrying := by
    intro same
    have totals := congrArg
      (fun response => (response.body.bind (Json.field? "total")).map Json.scalar) same
    revert totals
    decide +kernel
  obtain ⟨-, refused, -, -, -⟩ :=
    respond_without_token nonempty (.watching [scout]) there almost
  obtain ⟨-, -, -, -, told⟩ :=
    respond_without_token nonempty (.watching [scout]) there carrying
  obtain ⟨status, -, -, alike⟩ := refused notOptions ⟨.activity, here⟩ without
  exact ⟨⟨nonempty, notOptions, here, without⟩, status, alike (.watching [scout]) gone, differs,
    told (.watching [scout]) gone differs⟩

end Server

end FleetWatch
