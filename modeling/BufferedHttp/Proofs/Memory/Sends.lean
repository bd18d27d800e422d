import BufferedHttp.Proofs.Host.Phases
import BufferedHttp.Proofs.Memory.Sending

/-!
# The phases of sends

A send that reaches the host records its request, waits, releases its future behind its pollable,
and then reads the response. The events of a handler are those of its sends, one after the other,
and beside them its sends change the queue of replies and nothing else.
-/

namespace BufferedHttp.Memory

/-- The events of reading a reply: none when there is no response, when its headers do not decode,
or when its body was consumed. -/
inductive ReplyPhase (bound : Nat) : Reply → List Event → Prop where
  | transport (message : String) : ReplyPhase bound (.transport message) []
  | undecodable {r : IncomingResponse} {u : Undecodable}
      (hHeaders : HeaderMap.ofFields r.headers = .error u) : ReplyPhase bound (.response r) []
  | unavailable {r : IncomingResponse} {headers : HeaderMap}
      (hHeaders : HeaderMap.ofFields r.headers = .ok headers) (hBody : r.consumed = true) :
      ReplyPhase bound (.response r) []
  | read {r : IncomingResponse} {headers : HeaderMap}
      (hHeaders : HeaderMap.ofFields r.headers = .ok headers) (hBody : r.consumed = false) :
      ReplyPhase bound (.response r) (readingEvents bound r.script)

inductive SendPhase (config : Config) (request : Request) (w : World) : List Event → Prop where
  | invalid {fault : Config.Fault} (hLimits : config.limits = .error fault) :
      SendPhase config request w []
  | headless {limits : Limits} {e : Error} (hLimits : config.limits = .ok limits)
      (hHead : request.outgoingHead = .error e) : SendPhase config request w []
  | exhausted {limits : Limits} {head : RequestHead} (hLimits : config.limits = .ok limits)
      (hHead : request.outgoingHead = .ok head) (hReplies : w.replies = []) :
      SendPhase config request w [.requestSent]
  | accepted {limits : Limits} {head : RequestHead} {reply : Reply} {replies : List Reply}
      {events : List Event} (hLimits : config.limits = .ok limits)
      (hHead : request.outgoingHead = .ok head) (hReplies : w.replies = reply :: replies)
      (hReply : ReplyPhase limits.read reply events) :
      SendPhase config request w
        (.requestSent :: List.replicate w.pending .blocked ++ .pollableDropped :: .futureDropped ::
          events)

/-- The events of what a handler does, each send in the world that the sends before it left. -/
inductive HandlingPhase : Handling → World → List Event → Prop where
  | done (result : Except Failure Response) (w : World) : HandlingPhase (.done result) w []
  | send {config : Config} {request : Request} {next : Except Error Response → Handling}
      {w : World} {first rest : List Event} (hSend : SendPhase config request w first)
      (hNext : HandlingPhase (next ((host.send config request).result w))
        ((host.send config request).after w) rest) :
      HandlingPhase (.send config request next) w (first ++ rest)

theorem received_phase (bound : Nat) (reply : Reply) :
    ReplyPhase bound reply (reply.received bound).2 := by
  cases reply with
  | transport message => exact .transport message
  | response r =>
    rw [Reply.received, IncomingResponse.received]
    cases hHeaders : HeaderMap.ofFields r.headers with
    | error u => exact .undecodable hHeaders
    | ok headers =>
      rw [IncomingResponse.source]
      cases hBody : r.consumed with
      | true => exact .unavailable hHeaders hBody
      | false => exact .read hHeaders hBody

/-- The ends of a send: its result and the world behind it. -/
inductive Sent (config : Config) (request : Request) (w : World) :
    Except Error Response → World → Prop where
  | invalid {fault : Config.Fault} (hLimits : config.limits = .error fault) :
      Sent config request w (.error fault.toError) w
  | headless {limits : Limits} {e : Error} (hLimits : config.limits = .ok limits)
      (hHead : request.outgoingHead = .error e) : Sent config request w (.error e) w
  | exhausted {limits : Limits} {head : RequestHead} (hLimits : config.limits = .ok limits)
      (hHead : request.outgoingHead = .ok head) (hReplies : w.replies = []) :
      Sent config request w (.error (.host "no reply queued"))
        (w.afterSends [.requestSent] [(head, config.requestOptions)] [])
  | accepted {limits : Limits} {head : RequestHead} {reply : Reply} {replies : List Reply}
      (hLimits : config.limits = .ok limits) (hHead : request.outgoingHead = .ok head)
      (hReplies : w.replies = reply :: replies) :
      Sent config request w (reply.received limits.read).1
        (w.afterSends (.requestSent :: (waitingEvents w.pending ++ (reply.received limits.read).2))
          [(head, config.requestOptions)] replies)

theorem exists_sent (config : Config) (request : Request) (w : World) :
    ∃ result w', Sent config request w result w' ∧
      host.send config request w = Action.ofExcept result w' := by
  cases hLimits : config.limits with
  | error fault => exact ⟨_, _, .invalid hLimits, Host.send_of_fault hLimits⟩
  | ok limits =>
    cases hHead : request.outgoingHead with
    | error e => exact ⟨_, _, .headless hLimits hHead, Host.send_of_headless hLimits hHead⟩
    | ok head =>
      cases hReplies : w.replies with
      | nil =>
        refine ⟨_, _, .exhausted hLimits hHead hReplies, ?_⟩
        rw [send_of_exhausted hLimits hHead hReplies, World.afterSends, ← hReplies]
        rfl
      | cons reply replies =>
        refine ⟨_, _, .accepted hLimits hHead hReplies, ?_⟩
        rw [send_of_reply hLimits hHead hReplies]
        simp [World.recordAll, World.afterSends, Recording.addSent, Recording.add]

theorem send_sent (config : Config) (request : Request) (w : World) :
    Sent config request w ((host.send config request).result w)
      ((host.send config request).after w) := by
  obtain ⟨result, w', hSent, hRun⟩ := exists_sent config request w
  rw [Action.result_of_eq hRun, Action.after_of_eq hRun]
  exact hSent

theorem Sent.phase {config : Config} {request : Request} {w w' : World}
    {result : Except Error Response} (h : Sent config request w result w') :
    ∃ events sent replies, SendPhase config request w events ∧
      w' = w.afterSends events sent replies := by
  cases h with
  | invalid hLimits => exact ⟨[], [], w.replies, .invalid hLimits, w.afterSends_nil.symm⟩
  | headless hLimits hHead =>
    exact ⟨[], [], w.replies, .headless hLimits hHead, w.afterSends_nil.symm⟩
  | exhausted hLimits hHead hReplies =>
    exact ⟨_, [_], [], .exhausted hLimits hHead hReplies, rfl⟩
  | @accepted limits head reply replies hLimits hHead hReplies =>
    have hReply := received_phase limits.read reply
    refine ⟨_, [(head, config.requestOptions)], replies,
      .accepted hLimits hHead hReplies hReply, ?_⟩
    simp [waitingEvents]

theorem send_phase (config : Config) (request : Request) (w : World) :
    ∃ events sent replies, SendPhase config request w events ∧
      (host.send config request).after w = w.afterSends events sent replies :=
  (send_sent config request w).phase

theorem run_phase (handling : Handling) (w : World) :
    ∃ events sent replies, HandlingPhase handling w events ∧
      (handling.run host w).2 = w.afterSends events sent replies := by
  induction handling generalizing w with
  | done result => exact ⟨[], [], w.replies, .done result w, w.afterSends_nil.symm⟩
  | send config request next ih =>
    obtain ⟨first, sent₁, replies₁, hSend, hAfter⟩ := send_phase config request w
    obtain ⟨rest, sent₂, replies₂, hNext, hRun⟩ := ih _ ((host.send config request).after w)
    refine ⟨first ++ rest, sent₁ ++ sent₂, replies₂, .send hSend hNext, ?_⟩
    rw [Host.run_send, hRun, hAfter, World.afterSends_afterSends]

end BufferedHttp.Memory
