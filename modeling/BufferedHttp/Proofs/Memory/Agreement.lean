import BufferedHttp.Proofs.Memory.Order

/-!
# What the client got

The result of serving says what the client got. Without an error it is the whole answer. With one
it is nothing when the out-parameter got the error, and else the head of the answer with a part of
its body.
-/

namespace BufferedHttp.Memory

/-- The recording has the head of the answer, and these bytes were written. -/
structure Delivered (answer : Answer) (written : Bytes) (w w' : World) : Prop where
  status : w'.recording.status = some answer.status
  headers : w'.recording.headers = answer.fields
  body : w'.recording.body = w.recording.body ++ written

/-- The call that fails when the body of an answer comes out, and the bytes written before. -/
inductive Raised (out : Outparam) (limits : Limits) : Answer → Error → Bytes → Prop where
  | opening {r : Response} {e : Error} (hOpen : ∀ w, host.openOutput out.body w = .error e w) :
      Raised out limits (.response r) e []
  | writing {r : Response} {done rest : List Bytes} {chunk : Bytes} {fault : StreamError}
      (hOpen : ∀ w, host.openOutput out.body w = .ok (out.writer 0, out.openedBody) w)
      (hChunks : chunked limits.write_pos r.bodyBytes = done ++ chunk :: rest)
      (hWrite : ∀ w, (host.write (out.writer done.length) chunk w).1 = .error fault) :
      Raised out limits (.response r) fault.ofWrite done.flatten
  | finishing {r : Response} {e : Error}
      (hOpen : ∀ w, host.openOutput out.body w = .ok (out.writer 0, out.openedBody) w)
      (hFinish : ∀ w, host.finishOutgoing out.openedBody w = .error e w) :
      Raised out limits (.response r) e r.bodyBytes
  | finishingUnopened {e : Error}
      (hFinish : ∀ w, host.finishOutgoing out.body w = .error e w) :
      Raised out limits .internalError e []

variable {config : Config} {handler : Handler} {request : IncomingRequest} {out : Outparam}
  {limits : Limits} {answer : Answer} {w w' : World} {result : Except Error Unit}
  {written : List Bytes} {events : List Event} {e : Error}

theorem Completion.raised
    (h : Completion out limits answer result written events) (hResult : result = .error e) :
    Raised out limits answer e written.flatten := by
  cases h with
  | finished | bareFinished => cases hResult
  | unopened hOpen =>
    cases hResult
    apply Raised.opening
    intro w
    exact openOutput_of_refused w hOpen
  | cut hOpen hChunks hFault =>
    cases hResult
    apply Raised.writing _ hChunks
    · intro w
      exact congrArg Prod.fst (write_of_refused w hFault)
    · intro w
      exact openOutput_of_taken w hOpen
  | unfinished hOpen hFinish =>
    cases hResult
    rw [flatten_chunked]
    apply Raised.finishing
    · intro w
      exact openOutput_of_taken w hOpen
    · intro w
      exact finish_of_refused w hFinish
  | bareUnfinished hFinish =>
    cases hResult
    apply Raised.finishingUnopened
    intro w
    exact finish_of_refused w hFinish

end BufferedHttp.Memory
