import LoadProbe.Endpoint

/-!
The one route of a service: a GET request for the root. Any other path is not found, and any other
method on the root is not allowed.
-/
namespace LoadProbe

structure Request where
  method : String := "GET"
  /-- The path with its query. -/
  target : String := "/"
  headers : Headers := []

structure Response where
  status : Nat
  contentType? : Option String
  body : String
  posts : List Post := []
  log : List LogEvent := []
  /-- The job that the request became, if there was one. -/
  job? : Option Job := none

namespace Request

/-- The path without query and fragment. -/
def path (request : Request) : List Char :=
  (Url.cut (fun c => c == '?' || c == '#') request.target.toList).1

end Request

namespace Endpoint

/-- The type of every body that is text. -/
def textType : String := "text/plain; charset=utf-8"

/-- Answers one request. -/
def answer {State : Type} (endpoint : Endpoint State) (request : Request) (scene : Scene State) :
    Response × Scene State :=
  if request.path ≠ ['/'] then ({ status := 404, contentType? := none, body := "" }, scene)
  else if request.method ≠ "GET" then
    ({ status := 405, contentType? := some textType, body := "HTTP method not allowed" }, scene)
  else
    let (exchange, scene) := endpoint.handle request.headers scene
    ({ status := 200, contentType? := some textType, body := exchange.outcome.body,
       posts := exchange.posts, log := exchange.log, job? := exchange.job? }, scene)

end Endpoint
end LoadProbe
