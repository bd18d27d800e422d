import BufferedHttp.Proofs.Host.Watched
import BufferedHttp.Proofs.Memory.Order

/-!
# Sessions

Requests are served and sent one after the other on one host. Every request that is served has its
out-parameter resolved exactly once, with a response or with an error, and nothing else resolves
one.
-/

namespace BufferedHttp.Memory

theorem Served.resolutions_eq {config : Config} {handler : Handler} {request : IncomingRequest}
    {out : Outparam} {w w' : World} {result : Except Error Unit} {events : List Event}
    (h : Served config handler request out w result events w') :
    w'.recording.resolutions = w.recording.resolutions + 1 := by
  cases h <;> rfl

theorem resolutions_serve (config : Config) (handler : Handler) (request : IncomingRequest)
    (out : Outparam) (w : World) :
    ((host.serve config handler request out).after w).recording.resolutions =
      w.recording.resolutions + 1 :=
  (serve_served config handler request out w).resolutions_eq

theorem resolutions_send (config : Config) (request : Request) (w : World) :
    ((host.send config request).after w).recording.resolutions = w.recording.resolutions := by
  obtain ⟨events, sent, replies, -, hAfter⟩ := send_phase config request w
  rw [hAfter]
  rfl

/-- What is done on a host: a request is served or sent, or other replies are queued. -/
inductive Step where
  | serve (config : Config) (handler : Handler) (request : IncomingRequest) (out : Outparam)
  | send (config : Config) (request : Request)
  | queue (replies : List Reply) (pending : Nat)

namespace Step

def isServe : Step → Bool
  | serve _ _ _ _ => true
  | send _ _ | queue _ _ => false

def run (w : World) : Step → World
  | serve config handler request out => (host.serve config handler request out).after w
  | send config request => (host.send config request).after w
  | queue replies pending => { w with replies, pending }

theorem resolutions_run (w : World) (step : Step) :
    (step.run w).recording.resolutions =
      w.recording.resolutions + if step.isServe then 1 else 0 := by
  cases step with
  | serve config handler request out => exact resolutions_serve config handler request out w
  | send config request => exact resolutions_send config request w
  | queue replies pending => rfl

end Step

def session (steps : List Step) (w : World) : World := steps.foldl Step.run w

theorem resolutions_session (steps : List Step) (w : World) :
    (session steps w).recording.resolutions =
      w.recording.resolutions + steps.countP Step.isServe := by
  induction steps generalizing w with
  | nil => rfl
  | cons step steps ih =>
    have hRest : (session steps (step.run w)).recording.resolutions = _ := ih (step.run w)
    rw [session, List.foldl_cons, List.countP_cons]
    rw [session, Step.resolutions_run] at hRest
    omega

/-- On any host serving resolves the out-parameter once, whatever fails and whatever the handler
sends, and watching for it changes nothing. On the host in memory this is one event and one count,
and a session counts the requests served. -/
theorem resolved_exactly_once :
    (∀ {S : Type} (any : Host S) (config : Config) (handler : Handler)
      (request : any.IncomingRequest) (out : any.Outparam) (s : S),
      (∃ resolution : any.Note, resolution.Resolves out ∧
        (any.notes config handler request out s).filter Host.Note.isResolution = [resolution]) ∧
      (any.serveWatched config handler request out).result (s, []) =
        (any.serve config handler request out).result s ∧
      ((any.serveWatched config handler request out).after (s, [])).1 =
        (any.serve config handler request out).after s) ∧
    (∀ (config : Config) (handler : Handler) (request : IncomingRequest) (out : Outparam)
      (w : World),
      ResolvedOnce (added (host.serve config handler request out) w).events ∧
      ((host.serve config handler request out).after w).recording.resolutions =
        w.recording.resolutions + 1) ∧
    ∀ (steps : List Step) (replies : List Reply) (pending : Nat),
      (session steps ⟨.empty, replies, pending⟩).recording.resolutions =
        steps.countP Step.isServe := by
  refine ⟨?_, ?_, ?_⟩
  · intro S any config handler request out s
    refine ⟨?_, ?_, ?_⟩
    · exact any.filter_isResolution_notes config handler request out s
    · exact any.result_serveWatched config handler request out s
    · exact any.after_serveWatched config handler request out s
  · intro config handler request out w
    constructor
    · exact (serve_phase config handler request out w).resolvedOnce
    · exact resolutions_serve config handler request out w
  · intro steps replies pending
    rw [resolutions_session]
    exact Nat.zero_add _

end BufferedHttp.Memory
