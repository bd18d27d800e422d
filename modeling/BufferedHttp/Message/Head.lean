import BufferedHttp.Message.Basic
import BufferedHttp.Uri.Basic

/-!
# The head of an outgoing request

A host takes the parts of a request one by one. The URI must be absolute, and its authority names
no user.
-/

namespace BufferedHttp

structure RequestHead where
  method : Method
  scheme : Scheme
  authority : String
  pathWithQuery : String
  headers : FieldList
  deriving DecidableEq

namespace RequestHead

def ofUri (method : Method) (headers : FieldList) (u : Uri) : Except UriFault RequestHead :=
  match u.scheme, u.authority with
  | none, _ => .error .missingScheme
  | _, none => .error .missingAuthority
  | some scheme, some authority =>
    if '@' ∈ authority.toList then .error .userinfo
    else .ok ⟨method, .ofName scheme, authority, u.pathWithQuery, headers⟩

end RequestHead

/-- The head of a request, whatever its body. -/
def Request.head (r : Request) : Except UriFault RequestHead :=
  match Uri.parse r.uri with
  | .ok u => RequestHead.ofUri r.method r.headers.toFields u
  | .error fault => .error fault

end BufferedHttp
