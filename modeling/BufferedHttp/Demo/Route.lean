import BufferedHttp.Transfer.Handler
import BufferedHttp.Uri.Query

/-!
# The demo component

A greeting at the root, an echo of what is posted, and a relay that fetches the URL of a query
parameter. The relay fetches `http` and `https` only.
-/

namespace BufferedHttp.Demo

def pathOf (uri : String) : String := String.ofList (uri.toList.takeWhile (· ≠ '?'))

/-- The body that came in, under the content type that it came with. -/
def echo (request : Request) : Response :=
  let headers := match request.headers.get? "content-type" with
    | some value => HeaderMap.empty.insert "content-type" value
    | none => HeaderMap.empty
  ⟨200, headers, some request.bodyBytes⟩

def isFetchable (target : String) : Bool :=
  "http://".toList.isPrefixOf target.toList || "https://".toList.isPrefixOf target.toList

/-- Fetches a target and relays what comes back. -/
def fetchTarget (target : String) : Handling :=
  .send .default (.get target) fun
    | .ok response => .done (.ok { response with body := some response.bodyBytes })
    | .error e => .done (.error ((Failure.ofError e).within ("fetching " ++ target)))

def fetch (request : Request) : Handling :=
  match Query.param? request.uri "url" with
  | none => .done (.ok (.text 400 "missing url parameter\n"))
  | some value =>
    match Percent.decode? value with
    | none => .done (.ok (.text 400 "malformed url parameter\n"))
    | some target =>
      if isFetchable target then fetchTarget target
      else .done (.error (.ofMessage ("refusing to fetch non-http url " ++ target)))

def route : Handler := fun request =>
  let path := pathOf request.uri
  if request.method = .get ∧ path = "/" then .done (.ok (.text 200 "hello from spindle-http\n"))
  else if request.method = .post ∧ path = "/echo" then .done (.ok (echo request))
  else if request.method = .get ∧ path = "/fetch" then fetch request
  else .done (.ok (.text 404 "not found\n"))

end BufferedHttp.Demo
