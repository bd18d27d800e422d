import BufferedHttp.Component.Method

/-!
# The same method on both sides

A method of the component interface and one of a message are the same when they are the same case,
with the same literal if they have one; likewise for schemes. Each method of the one side is the
same as just one of the other, and that is the one that it is taken over as.
-/

namespace BufferedHttp.Component

inductive SameMethod : Method → BufferedHttp.Method → Prop where
  | get : SameMethod .get .get
  | head : SameMethod .head .head
  | post : SameMethod .post .post
  | put : SameMethod .put .put
  | delete : SameMethod .delete .delete
  | connect : SameMethod .connect .connect
  | options : SameMethod .options .options
  | trace : SameMethod .trace .trace
  | patch : SameMethod .patch .patch
  | other (literal : String) : SameMethod (.other literal) (.other literal)

inductive SameScheme : Scheme → BufferedHttp.Scheme → Prop where
  | http : SameScheme .http .http
  | https : SameScheme .https .https
  | other (literal : String) : SameScheme (.other literal) (.other literal)

/-- What a method that the host delivers reads as. -/
def Method.name : Method → String
  | get => "GET"
  | head => "HEAD"
  | post => "POST"
  | put => "PUT"
  | delete => "DELETE"
  | connect => "CONNECT"
  | options => "OPTIONS"
  | trace => "TRACE"
  | patch => "PATCH"
  | other literal => literal

theorem sameMethod_toMessage (m : Method) : SameMethod m m.toMessage := by
  cases m <;> constructor

theorem sameMethod_ofMessage (m : BufferedHttp.Method) : SameMethod (.ofMessage m) m := by
  cases m <;> constructor

theorem sameMethod_iff {m : Method} {n : BufferedHttp.Method} :
    SameMethod m n ↔ n = m.toMessage := by
  constructor
  · intro h
    cases h <;> rfl
  · rintro rfl
    exact sameMethod_toMessage m

theorem SameMethod.name_eq {m : Method} {n : BufferedHttp.Method} (h : SameMethod m n) :
    n.name = m.name := by
  cases h <;> rfl

theorem sameScheme_ofMessage (s : BufferedHttp.Scheme) : SameScheme (.ofMessage s) s := by
  cases s <;> constructor

end BufferedHttp.Component
