/-!
# Request methods and URI schemes

Both are a few well-known names and one open case that keeps its literal. Reading a name is exact:
a name in other case is a literal of its own.
-/

namespace BufferedHttp

inductive Method where
  | get
  | head
  | post
  | put
  | delete
  | connect
  | options
  | trace
  | patch
  | other (literal : String)
  deriving DecidableEq

namespace Method

def name : Method → String
  | get => "GET"
  | head => "HEAD"
  | post => "POST"
  | put => "PUT"
  | delete => "DELETE"
  | connect => "CONNECT"
  | options => "OPTIONS"
  | trace => "TRACE"
  | patch => "PATCH"
  | other literal => literal

instance : ToString Method := ⟨name⟩

def ofName (s : String) : Method :=
  if s = "GET" then get
  else if s = "HEAD" then head
  else if s = "POST" then post
  else if s = "PUT" then put
  else if s = "DELETE" then delete
  else if s = "CONNECT" then connect
  else if s = "OPTIONS" then options
  else if s = "TRACE" then trace
  else if s = "PATCH" then patch
  else other s

@[simp] theorem name_ofName (s : String) : (ofName s).name = s := by
  unfold ofName
  repeat' split
  all_goals first | exact Eq.symm ‹s = _› | rfl

end Method

inductive Scheme where
  | http
  | https
  | other (literal : String)
  deriving DecidableEq

namespace Scheme

def name : Scheme → String
  | http => "http"
  | https => "https"
  | other literal => literal

instance : ToString Scheme := ⟨name⟩

def ofName (s : String) : Scheme :=
  if s = "http" then http
  else if s = "https" then https
  else other s

@[simp] theorem name_ofName (s : String) : (ofName s).name = s := by
  unfold ofName
  repeat' split
  all_goals first | exact Eq.symm ‹s = _› | rfl

end Scheme

end BufferedHttp
