import FleetWatch.Proofs.Http.Guard
import FleetWatch.Proofs.Text.Encoding

/-!
# The right token

A server lets a request in that carries its token, if this is a token of ASCII. The value of an
authorization header is looked at as text, and a value with a byte beyond ASCII is no text there,
though it is a legal value of a header. So a token with a character beyond ASCII is carried by no
request at all: who sets it locks everybody out.

## Main Definitions

* `Server.isFieldByte` — a byte that may stand in the value of a header
* `Server.isAscii` — a token of ASCII

## Design Notes

That a request gets through to its handler is said with the answer with open handlers
(`Server.respondIn`): in every monad it is the run of the handler of its route, and nothing else.
-/

namespace FleetWatch

/-- The only header of a name is the first of that name. -/
theorem Request.header?_of_only {request : Request} {name : String}
    {header : String × List UInt8}
    (only : request.headers.filter (fun header => sameName header.1 name) = [header]) :
    request.header? name = some header.2 := by
  rw [header?, ← List.head?_filter, only]
  rfl

namespace Server

/-! ### Tokens that can be carried -/

/-- A byte that may stand in the value of a header: a tab, or any that is no control character. -/
def isFieldByte (b : UInt8) : Bool :=
  b == 0x09 || (0x20 ≤ b && b != 0x7F)

/-- A token of ASCII. -/
def isAscii (token : String) : Bool :=
  token.toList.all (·.toNat < 0x80)

/-- Of the bytes that may stand in a header, the visible ones are those of ASCII. -/
theorem isVisible_eq (b : UInt8) : isVisible b = (isFieldByte b && decide (b < 0x80)) := by
  rw [Bool.eq_iff_iff]
  simp only [isVisible, isFieldByte, Bool.or_eq_true, Bool.and_eq_true, beq_iff_eq, bne_iff_ne,
    decide_eq_true_eq, UInt8.lt_iff_toNat_lt, UInt8.le_iff_toNat_le, ← UInt8.toNat_inj, ne_eq]
  show b.toNat = 9 ∨ 32 ≤ b.toNat ∧ b.toNat < 127 ↔
    (b.toNat = 9 ∨ 32 ≤ b.toNat ∧ ¬ b.toNat = 127) ∧ b.toNat < 128
  omega

/-- The bytes of a token are visible just if they may stand in a header and the token is of
ASCII. -/
theorem all_isVisible_encode (token : String) :
    (Text.Utf8.encode token.toList).all isVisible =
      ((Text.Utf8.encode token.toList).all isFieldByte && isAscii token) := by
  rw [isAscii, ← Text.Utf8.all_lt_encode, Bool.eq_iff_iff]
  simp only [List.all_eq_true, isVisible_eq, Bool.and_eq_true, forall_and]

/-- **Whether the value that carries a token is taken for one that does** is up to the bytes of the
token: they must be visible. -/
theorem carries_bearer (token : String) :
    carries token (bearer token) = (Text.Utf8.encode token.toList).all isVisible := by
  have parts : bearer token = scheme ++ Text.Utf8.encode token.toList := by
    rw [bearer, scheme, String.toList_append]
    simp [Text.Utf8.encode]
  have visible : scheme.all isVisible = true := by decide +kernel
  rw [carries, parts, beq_self_eq_true, Bool.and_true, List.all_append, visible, Bool.true_and]

section Legal

variable {token : String} (legal : (Text.Utf8.encode token.toList).all isFieldByte = true)
include legal

/-- A token that may stand in a header is carried just if it is of ASCII. -/
theorem carries_bearer_of_legal : carries token (bearer token) = isAscii token := by
  rw [carries_bearer, all_isVisible_encode, legal, Bool.true_and]

/-- A request whose only authorization header carries the token may see what the token guards, if
this is of ASCII. -/
theorem permits_of_only {request : Request} {name : String}
    (only : request.headers.filter (fun header => Request.sameName header.1 "authorization") =
      [(name, bearer token)]) :
    permits (some token) request = isAscii token := by
  simp only [permits, Request.header?_of_only only]
  exact carries_bearer_of_legal legal

end Legal

/-- A token that is not of ASCII is carried by no request. -/
theorem permits_of_not_isAscii {token : String} (beyond : isAscii token = false)
    (request : Request) : permits (some token) request = false := by
  rw [← Bool.not_eq_true]
  intro permitted
  have found := header?_of_permits permitted
  simp only [permits, found, carries_bearer, all_isVisible_encode, beyond, Bool.and_false,
    Bool.false_eq_true] at permitted

/-! ### What the right token opens -/

/-- A request that may see what the token guards has its handler run, and no more. -/
theorem respondIn_of_permits {m : Type → Type} [Monad m] {token : Option String}
    (handle : Route → m Response) {request : Request} (asks : request.method = "GET")
    {route : Route} (here : request.path = route.path) (permitted : permits token request = true) :
    respondIn token handle request = handle route := by
  have notOptions : request.method ≠ "OPTIONS" := by
    rw [asks]
    decide
  rw [respondIn, if_neg notOptions, Route.ofPath?_eq_some_iff.mpr here]
  simp [permitted, asks]

/-- **The right token opens if it is of ASCII**, and else nothing does. A request for one of the
five routes, whose only authorization header carries a token that may stand in a header, has its
handler run and gets what this makes of it, whatever effects it may have; but if a character of the
token is beyond ASCII, the request is refused and no handler runs. With such a token every request
for a route is refused, whatever it carries. -/
theorem respond_right_token {token : String} (nonempty : token ≠ "")
    (legal : (Text.Utf8.encode token.toList).all isFieldByte = true) (dashboard : Dashboard)
    (moment : Moment) {request : Request} {route : Route} {name : String}
    (asks : request.method = "GET") (here : request.path = route.path)
    (only : request.headers.filter (fun header => Request.sameName header.1 "authorization") =
      [(name, bearer token)]) :
    let server := guarded dashboard (some token)
    server.respond moment request =
      (if isAscii token then server.serve moment route else refusal request) ∧
    (∀ (m : Type → Type) [Monad m] (handle : Route → m Response),
      respondIn server.token handle request =
        if isAscii token then handle route else pure (refusal request)) ∧
    (isAscii token = false → ∀ (other : Request) (elsewhere : Route) (later : Moment),
      other.method ≠ "OPTIONS" → other.path = elsewhere.path →
        server.respond later other = refusal other) := by
  intro server
  have guard : server.token = some token := token_guarded nonempty dashboard
  have permitted := permits_of_only legal only
  have opened : ∀ (m : Type → Type) [Monad m] (handle : Route → m Response),
      respondIn server.token handle request =
        if isAscii token then handle route else pure (refusal request) := by
    intro m _ handle
    rw [guard]
    cases ascii : isAscii token with
    | true => exact respondIn_of_permits handle asks here (permitted.trans ascii)
    | false =>
        have notOptions : request.method ≠ "OPTIONS" := by
          rw [asks]
          decide
        exact respondIn_of_not_permits handle notOptions here (permitted.trans ascii)
  refine ⟨?_, opened, ?_⟩
  · rw [respond_eq_run_respondIn, opened]
    cases isAscii token <;> rfl
  · intro beyond other elsewhere later notOptions there
    refine respond_eq_of_respondIn_eq_pure (fun handle => ?_) guard later
    exact respondIn_of_not_permits handle notOptions there (permits_of_not_isAscii beyond other)

/-- A token with a blank and a tab in it opens all five routes. -/
theorem respond_right_token_blanks :
    let token := "s3 c\tret~"
    let server := guarded (.watching []) (some token)
    let request (route : Route) : Request :=
      ⟨"GET", route.path, [("Host", []), ("authorization", bearer token)]⟩
    let disk := Disk.ofFile (Text.Utf8.encode "a.jsonl".toList) [] (.ofInstant (.ofMinutes 0))
    let moment := Moment.ofDisk disk (.ofMinutes 1)
    (token ≠ "" ∧ (Text.Utf8.encode token.toList).all isFieldByte = true) ∧
    ∀ route, (request route).method = "GET" ∧ (request route).path = route.path ∧
      (request route).headers.filter
          (fun header => Request.sameName header.1 "authorization") =
        [("authorization", bearer token)] ∧
      server.respond moment (request route) = server.serve moment route := by
  intro token server request disk moment
  have nonempty : token ≠ "" := by decide
  have legal : (Text.Utf8.encode token.toList).all isFieldByte = true := by decide +kernel
  have ascii : isAscii token = true := by decide +kernel
  refine ⟨⟨nonempty, legal⟩, fun route => ?_⟩
  have asks : (request route).method = "GET" := rfl
  have here : (request route).path = route.path := by
    cases route <;> decide +kernel
  have only : (request route).headers.filter
      (fun header => Request.sameName header.1 "authorization") =
        [("authorization", bearer token)] := by
    show [("Host", []), ("authorization", bearer token)].filter _ = _
    decide +kernel
  obtain ⟨answer, -, -⟩ :=
    respond_right_token nonempty legal (.watching []) moment asks here only
  rw [ascii, if_pos rfl] at answer
  exact ⟨asks, here, only, answer⟩

/-- **A token beyond ASCII does not open.** Its bytes may stand in a header, and the only
authorization header of the request carries it to the letter, but the request is refused. -/
theorem respond_right_token_refused :
    let token := "pässwort"
    let server := guarded (.watching []) (some token)
    let request : Request :=
      ⟨"GET", Route.path .activity, [("authorization", bearer token)]⟩
    let disk := Disk.ofFile (Text.Utf8.encode "a.jsonl".toList) [] (.ofInstant (.ofMinutes 0))
    let moment := Moment.ofDisk disk (.ofMinutes 1)
    token ≠ "" ∧ (Text.Utf8.encode token.toList).all isFieldByte = true ∧
    request.headers.filter (fun header => Request.sameName header.1 "authorization") =
      [("authorization", bearer token)] ∧
    (server.respond moment request).status = 401 ∧
    (server.serve moment .activity).status = 200 := by
  intro token server request disk moment
  have beyond : isAscii token = false := by decide +kernel
  have here : request.path = Route.path .activity := by decide +kernel
  have refused : server.respond moment request = refusal request :=
    respond_eq_of_respondIn_eq_pure
      (fun handle => respondIn_of_not_permits handle (by decide) here
        (permits_of_not_isAscii beyond request))
      (token_guarded (by decide) (.watching [])) moment
  refine ⟨by decide, by decide +kernel, by decide +kernel, ?_, rfl⟩
  rw [refused]
  rfl

end Server

end FleetWatch
