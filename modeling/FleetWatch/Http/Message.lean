import FleetWatch.Json.Basic
import FleetWatch.Text.Search
import FleetWatch.Text.Utf8

/-!
# Requests and responses

The parts of requests and responses that the server looks at and sets.

## Main Definitions

* `Request` — a request without its body
* `Request.path` — the path of a request's target
* `Request.header?` — the first value of a header
* `Response` — a response
-/

namespace FleetWatch

/-- A request. A value of a header is a byte string. -/
structure Request where
  method : String
  target : String
  headers : List (String × List UInt8)
deriving Repr

/-- A response. Without a value its body is empty. -/
structure Response where
  status : Nat
  headers : List (String × String)
  body : Option Json
deriving Repr

namespace Request

/-- What follows the first `://` of a text, if it has one. -/
def afterScheme? : List Char → Option (List Char)
  | ':' :: '/' :: '/' :: rest => some rest
  | _ :: rest => afterScheme? rest
  | [] => none

/-- The path of a request's target, without scheme, host, query and fragment. A target without a
path has the path of the root. -/
def path (request : Request) : String :=
  let target := request.target.toList.takeWhile fun c => c != '?' && c != '#'
  let path :=
    if ['/'].isPrefixOf target then target
    else
      match afterScheme? target with
      | some rest => rest.dropWhile (· != '/')
      | none => target
  if path.isEmpty then "/" else String.ofList path

/-- Whether two names of headers are the same, which they are in any case of their letters. -/
def sameName (a b : String) : Bool :=
  a.toList.map Char.toLower == b.toList.map Char.toLower

/-- The first value of a header. -/
def header? (request : Request) (name : String) : Option (List UInt8) :=
  (request.headers.find? fun header => sameName header.1 name).map (·.2)

end Request

end FleetWatch
