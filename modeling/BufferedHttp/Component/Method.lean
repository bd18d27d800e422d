import BufferedHttp.Message.Method

/-!
# Methods and schemes of the component interface

The component interface has methods and schemes of its own. They are taken over case by case, and a
literal as it is: one that spells the name of another case stays a literal.
-/

namespace BufferedHttp.Component

inductive Method where
  | get
  | head
  | post
  | put
  | delete
  | connect
  | options
  | trace
  | patch
  | other (literal : String)
  deriving DecidableEq

inductive Scheme where
  | http
  | https
  | other (literal : String)
  deriving DecidableEq

namespace Method

/-- The method of a message that the host delivers. -/
def toMessage : Method → BufferedHttp.Method
  | get => .get
  | head => .head
  | post => .post
  | put => .put
  | delete => .delete
  | connect => .connect
  | options => .options
  | trace => .trace
  | patch => .patch
  | other literal => .other literal

/-- The method that the host is given for a message. -/
def ofMessage : BufferedHttp.Method → Method
  | .get => get
  | .head => head
  | .post => post
  | .put => put
  | .delete => delete
  | .connect => connect
  | .options => options
  | .trace => trace
  | .patch => patch
  | .other literal => other literal

end Method

/-- The scheme that the host is given for a message. -/
def Scheme.ofMessage : BufferedHttp.Scheme → Scheme
  | .http => http
  | .https => https
  | .other literal => other literal

end BufferedHttp.Component
