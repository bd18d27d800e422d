import BufferedHttp.Transfer.Send

/-!
# Handlers

A handler turns a request into a response or fails. On the way it may send requests of its own;
that is all it can do with the host. A failure is a root cause under the contexts that were added
to it, the outermost first.
-/

namespace BufferedHttp

structure Failure where
  contexts : List String
  root : String
  deriving DecidableEq

namespace Failure

def ofMessage (message : String) : Failure := ⟨[], message⟩

def ofError (e : Error) : Failure := ofMessage e.message

/-- The failure under one more context. -/
def within (f : Failure) (context : String) : Failure := { f with contexts := context :: f.contexts }

/-- All texts, the root cause last. -/
def chain (f : Failure) : List String := f.contexts ++ [f.root]

end Failure

inductive Handling where
  | done (result : Except Failure Response)
  | send (config : Config) (request : Request) (next : Except Error Response → Handling)

namespace Handling

def run {World : Type} (host : Host World) : Handling → World → Except Failure Response × World
  | done result, w => (result, w)
  | send config request next, w =>
    match host.send config request w with
    | .ok response w => (next (.ok response)).run host w
    | .error e w => (next (.error e)).run host w

/-- The response of a send, its error as a failure. -/
def forward (request : Request) : Handling :=
  send .default request fun result => done (result.mapError Failure.ofError)

end Handling

abbrev Handler := Request → Handling

/-- Whatever turns requests into responses and may change the world on the way. -/
abbrev Service (World : Type) := Request → World → Except Failure Response × World

def Handler.on {World : Type} (handler : Handler) (host : Host World) : Service World :=
  fun request => (handler request).run host

end BufferedHttp
