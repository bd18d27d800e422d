import BufferedHttp.Memory.Host
import BufferedHttp.Proofs.Host.Tapped

/-!
# Bounds on the calls of a host

Whatever a configuration says, a host is never asked for no bytes or for more than the
configuration allows, and never given a write that it would refuse for its size. A configuration
that is not valid keeps sending from the host altogether, and serving from all of it but the
out-parameter.
-/

namespace BufferedHttp

variable {World : Type}

/-- No stream looks at what a write of an allowed size carries. -/
theorem Memory.OutputStream.failure?_of_le (stream : Memory.OutputStream) {bytes : Bytes}
    (h : bytes.length ≤ maxWriteSize) : stream.failure? bytes = stream.failure? [] := by
  have hEmpty : ¬maxWriteSize < ([] : Bytes).length := Nat.not_lt_zero _
  rw [failure?, failure?, if_neg (Nat.not_lt.mpr h), if_neg hEmpty]

namespace Host

open BufferedHttp.Action

/-- The calls that a send makes. -/
def sendCalls (host : Host World) (config : Config) (request : Request) (w : World) : List Call :=
  ((host.tapped.send config request).after (w, [])).2

/-- The calls that serving makes itself. The sends of its handler make their own. -/
def serveCalls (host : Host World) (config : Config) (handler : Handler)
    (request : host.IncomingRequest) (out : host.Outparam) (w : World) : List Call :=
  ((host.tapped.serveWith config (handler.on host).beside request out).after (w, [])).2

section Refused

variable {host : Host World} {config : Config} {fault : Config.Fault}

theorem sendCalls_of_fault (h : config.limits = .error fault) (request : Request) (w : World) :
    host.sendCalls config request w = [] := by
  rw [sendCalls, after, send_of_fault h]

theorem serve_of_fault (h : config.limits = .error fault) (handler : Handler)
    (request : host.IncomingRequest) (out : host.Outparam) (w : World) :
    host.serve config handler request out w =
      .error fault.toError (host.dropRequest request (host.reject out abortMessage w)) :=
  serveWith_of_answer_error (answerRequest_of_fault h)

theorem serveCalls_of_fault (h : config.limits = .error fault) (handler : Handler)
    (request : host.IncomingRequest) (out : host.Outparam) (w : World) :
    host.serveCalls config handler request out w = [.reject abortMessage] := by
  have hAnswer : host.tapped.answerRequest config (handler.on host).beside request (w, []) =
      .error fault.toError (w, []) := answerRequest_of_fault h
  have hRun : host.tapped.serveWith config (handler.on host).beside request out (w, []) = _ :=
    serveWith_of_answer_error hAnswer
  rw [serveCalls, after, hRun]
  rfl

end Refused

/-- The calls of a send and of serving stay in bounds, whatever the configuration, and logging
them changes no run. No chunk is refused for its size, and there are chunks of the size that a
valid configuration says. A configuration that is not valid keeps every call from the host but
that which rejects the out-parameter. -/
theorem calls_within (host : Host World) (config : Config) :
    (∀ request w,
      host.tapped.send config request (w, []) =
        pairWith (host.sendCalls config request w) (host.send config request w) ∧
      ∀ call ∈ host.sendCalls config request w, call.Within config) ∧
    (∀ handler request out w,
      host.tapped.serveWith config (handler.on host).beside request out (w, []) =
        pairWith (host.serveCalls config handler request out w)
          (host.serve config handler request out w) ∧
      (∀ call ∈ host.serveCalls config handler request out w, call.Within config) ∧
      ∀ bytes, .write bytes ∈ host.serveCalls config handler request out w →
        ∀ stream : Memory.OutputStream, stream.failure? bytes = stream.failure? []) ∧
    (config.validate = .ok () →
      ∀ bytes, (Chunks.ofBytes? bytes config.writeChunkSize.toNat).isSome) ∧
    ∀ fault, config.validate = .error fault →
      (∀ request w,
        host.send config request w = .error (.config fault.message) w ∧
        host.sendCalls config request w = []) ∧
      ∀ handler request out w,
        host.serve config handler request out w =
          .error (.config fault.message) (host.dropRequest request
            (host.reject out abortMessage w)) ∧
        host.serveCalls config handler request out w = [.reject abortMessage] := by
  refine ⟨?_, ?_, ?_, ?_⟩
  · intro request w
    exact (host.send_tapped config request).eq_pairWith w
  · intro handler request out w
    obtain ⟨hRun, hWithin⟩ :=
      (host.serveWith_tapped config (handler.on host) request out).eq_pairWith w
    refine ⟨hRun, hWithin, fun bytes hWrite stream => stream.failure?_of_le ?_⟩
    obtain ⟨-, hLe⟩ := hWithin _ hWrite
    exact Nat.le_trans hLe (Nat.min_le_right _ _)
  · intro hValid bytes
    obtain ⟨limits, hLimits⟩ := config.validate_eq_ok_iff.mp hValid
    rw [Chunks.ofBytes?, dif_pos (Config.write_of_limits hLimits ▸ limits.write_pos)]
    rfl
  · intro fault hFault
    have hLimits := (config.validate_eq_error_iff fault).mp hFault
    refine ⟨fun request w => ⟨send_of_fault hLimits, sendCalls_of_fault hLimits request w⟩, ?_⟩
    intro handler request out w
    exact ⟨serve_of_fault hLimits handler request out w,
      serveCalls_of_fault hLimits handler request out w⟩

theorem calls_within_of_no_reads :
    (⟨0, 4096, none, none, none⟩ : Config).validate = .error .readChunkSize ∧
    Memory.host.serveCalls ⟨0, 4096, none, none, none⟩ (fun _ => .done (.error ⟨[], "unused"⟩))
      ⟨.get, none, [], [.data [1, 2, 3]], false, none⟩ ⟨none, [], .none⟩ ⟨.empty, [], 0⟩ =
        [.reject abortMessage] := by
  refine ⟨rfl, ?_⟩
  exact (((calls_within Memory.host ⟨0, 4096, none, none, none⟩).2.2.2 .readChunkSize rfl).2
    _ _ _ _).2

end Host

end BufferedHttp
