import BufferedHttp.Proofs.Config.Limits
import BufferedHttp.Proofs.Host.Watched
import BufferedHttp.Proofs.Memory.Receiving
import BufferedHttp.Proofs.Message.Header

/-!
# What a handler is called with

A handler is called with the request read whole, or not at all. The request does not show in which
steps the body came, nor in which pieces it was read.
-/

namespace BufferedHttp

theorem Script.failure?_eq_none_iff (script : Script) :
    script.failure? = none ↔ ∀ message, .fail message ∉ script := by
  rw [failure?, List.findSome?_eq_none_iff]
  constructor
  · intro h message hFail
    cases h (.fail message) hFail
  · rintro h (b | message) hStep
    · rfl
    · exact absurd hStep (h message)

namespace Memory

/-- The body can be had and is read to its end, and all header values are texts. -/
structure Readable (request : IncomingRequest) : Prop where
  unconsumed : request.consumed = false
  streamed : request.streamFault = none
  unbroken : ∀ message, .fail message ∉ request.script
  textual : ∀ field ∈ request.headers, ∃ value, Text.Utf8.encode value = field.2

/-- The request is the incoming one with its body in one piece. -/
structure Buffers (request : IncomingRequest) (shown : Request) : Prop where
  method : shown.method = request.method
  uri : shown.uri = request.path.getD "/"
  headers : shown.headers.toFields = request.headers
  body : shown.body = some request.script.bytes

theorem shown?_eq {config : Config} {limits : Limits} (request : IncomingRequest) (w : World)
    (h : config.limits = .ok limits) :
    host.shown? config request w =
      ((gather limits.read request.source).1.bind request.shownWith).toOption := by
  have hReceive := receiveRequest_eq limits request w
  cases hBody : (gather limits.read request.source).1 with
  | error e =>
    rw [hBody] at hReceive
    rw [Host.shown?_of_error h hReceive]
    rfl
  | ok bytes =>
    rw [hBody] at hReceive
    rw [Host.shown?_of_ok h hReceive]
    rfl

theorem shownWith_eq_ok_iff (request : IncomingRequest) (shown : Request) :
    request.shownWith request.script.bytes = .ok shown ↔ Buffers request shown := by
  obtain ⟨method, uri, headers, body⟩ := shown
  rw [IncomingRequest.shownWith]
  constructor
  · intro h
    cases hHeaders : HeaderMap.ofFields request.headers with
    | error u =>
      rw [hHeaders] at h
      cases h
    | ok headers' =>
      rw [hHeaders] at h
      cases h
      exact ⟨rfl, rfl, (HeaderMap.ofFields_eq_ok_iff _ _).mp hHeaders, rfl⟩
  · rintro ⟨rfl, rfl, hHeaders, rfl⟩
    rw [(HeaderMap.ofFields_eq_ok_iff _ _).mpr hHeaders]

theorem shown?_eq_some_iff {config : Config} {limits : Limits} (request : IncomingRequest)
    (shown : Request) (w : World) (h : config.limits = .ok limits) :
    host.shown? config request w = some shown ↔ Readable request ∧ Buffers request shown := by
  rw [shown?_eq request w h]
  constructor
  · intro hShown
    rcases hBody : gather limits.read request.source with ⟨e | bytes, reading⟩
    · rw [hBody] at hShown
      cases hShown
    · rw [hBody] at hShown
      obtain ⟨script, hSource, hFailure, rfl, -⟩ := gather_eq_ok hBody
      obtain ⟨hConsumed, hStream, rfl⟩ := (request.source_eq_ok_iff script).mp hSource
      have hShown : (request.shownWith request.script.bytes).toOption = some shown := hShown
      have hBuffers : Buffers request shown := by
        rw [← shownWith_eq_ok_iff]
        cases hWith : request.shownWith request.script.bytes with
        | error e =>
          rw [hWith] at hShown
          cases hShown
        | ok shown' =>
          rw [hWith] at hShown
          cases hShown
          rfl
      refine ⟨⟨hConsumed, hStream, ?_, ?_⟩, hBuffers⟩
      · exact (Script.failure?_eq_none_iff _).mp hFailure
      · exact (HeaderMap.exists_toFields_eq_iff _).mp ⟨shown.headers, hBuffers.headers⟩
  · rintro ⟨hReadable, hBuffers⟩
    have hSource : request.source = .ok request.script :=
      (request.source_eq_ok_iff _).mpr ⟨hReadable.unconsumed, hReadable.streamed, rfl⟩
    have hFailure := (Script.failure?_eq_none_iff _).mpr hReadable.unbroken
    rw [hSource, gather_of_none hFailure]
    have hWith := (shownWith_eq_ok_iff request shown).mpr hBuffers
    rw [Except.bind, hWith]
    rfl

theorem Readable.exists_buffers {request : IncomingRequest} (h : Readable request) :
    ∃ shown, Buffers request shown := by
  obtain ⟨headers, hHeaders⟩ := (HeaderMap.exists_toFields_eq_iff _).mpr h.textual
  exact ⟨⟨request.method, request.path.getD "/", headers, some request.script.bytes⟩,
    rfl, rfl, hHeaders, rfl⟩

theorem Readable.of_script {request : IncomingRequest} {script : Script}
    (hUnbroken : ∀ message, .fail message ∉ script) (h : Readable request) :
    Readable { request with script } :=
  ⟨h.unconsumed, h.streamed, hUnbroken, h.textual⟩

theorem buffers_of_script {request : IncomingRequest} {script : Script} {shown : Request}
    (hBytes : script.bytes = request.script.bytes) :
    Buffers { request with script } shown ↔ Buffers request shown := by
  constructor
  · intro h
    exact ⟨h.method, h.uri, h.headers, h.body.trans (congrArg some hBytes)⟩
  · intro h
    exact ⟨h.method, h.uri, h.headers, h.body.trans (congrArg some hBytes.symm)⟩

theorem shown?_eq_of_bytes {config config' : Config} {limits limits' : Limits}
    {request : IncomingRequest} {script : Script} (w w' : World)
    (hLimits : config.limits = .ok limits) (hLimits' : config'.limits = .ok limits')
    (hUnbroken : ∀ message, .fail message ∉ request.script)
    (hUnbroken' : ∀ message, .fail message ∉ script)
    (hBytes : script.bytes = request.script.bytes) :
    host.shown? config' { request with script } w' = host.shown? config request w := by
  apply Option.ext
  intro shown
  rw [shown?_eq_some_iff _ shown w' hLimits', shown?_eq_some_iff _ shown w hLimits,
    buffers_of_script hBytes]
  apply and_congr_left
  intro hBuffers
  constructor
  · exact Readable.of_script hUnbroken
  · exact Readable.of_script hUnbroken'

/-- With a usable configuration the handler is called once when the request can be read, and not
otherwise. Other steps with the same bytes, read with any bound, make no difference. -/
theorem buffered_exactly {config : Config} (hConfig : config.validate = .ok ())
    (handler : Handler) (request : IncomingRequest) (out : Outparam) (w : World) :
    (host.calls config handler request out w).length ≤ 1 ∧
    (host.calls config handler request out w ≠ [] ↔ Readable request) ∧
    (∀ shown ∈ host.calls config handler request out w, Buffers request shown) ∧
    ∀ (config' : Config) (script : Script) (handler' : Handler) (out' : Outparam) (w' : World),
      config'.validate = .ok () → (∀ message, .fail message ∉ request.script) →
      (∀ message, .fail message ∉ script) → script.bytes = request.script.bytes →
        host.calls config' handler' { request with script } out' w' =
          host.calls config handler request out w := by
  obtain ⟨limits, hLimits⟩ := config.validate_eq_ok_iff.mp hConfig
  have hShown : ∀ shown, host.shown? config request w = some shown ↔ _ :=
    fun shown => shown?_eq_some_iff request shown w hLimits
  rw [host.calls_eq]
  refine ⟨?_, ?_, ?_, ?_⟩
  · cases host.shown? config request w <;> simp
  · constructor
    · intro hCalled
      cases hCall : host.shown? config request w with
      | none =>
        rw [hCall] at hCalled
        exact absurd rfl hCalled
      | some shown => exact ((hShown shown).mp hCall).1
    · intro hReadable
      obtain ⟨shown, hBuffers⟩ := hReadable.exists_buffers
      rw [(hShown shown).mpr ⟨hReadable, hBuffers⟩]
      exact List.cons_ne_nil _ _
  · intro shown hCalled
    rw [Option.mem_toList] at hCalled
    exact ((hShown shown).mp hCalled).2
  · intro config' script handler' out' w' hConfig' hUnbroken hUnbroken' hBytes
    obtain ⟨limits', hLimits'⟩ := config'.validate_eq_ok_iff.mp hConfig'
    rw [host.calls_eq, shown?_eq_of_bytes w w' hLimits hLimits' hUnbroken hUnbroken' hBytes]

theorem called_with_joined_steps :
    Config.default.validate = .ok () ∧
      ∃ shown, host.calls .default (fun _ => .done (.ok ⟨200, .empty, none⟩))
          ⟨.get, none, [("a", [0x62])], [.data [1], .data [], .data [2, 3]], false, none⟩
          ⟨none, [], .none⟩ ⟨.empty, [], 0⟩ = [shown] ∧
        shown.uri = "/" ∧ shown.body = some [1, 2, 3] := by
  have hValid : Config.default.validate = .ok () := rfl
  refine ⟨hValid, ?_⟩
  obtain ⟨hLength, hCalled, hBuffers, -⟩ := buffered_exactly hValid
    (fun _ => .done (.ok ⟨200, .empty, none⟩))
    ⟨.get, none, [("a", [0x62])], [.data [1], .data [], .data [2, 3]], false, none⟩
    ⟨none, [], .none⟩ ⟨.empty, [], 0⟩
  have hReadable : Readable
      ⟨.get, none, [("a", [0x62])], [.data [1], .data [], .data [2, 3]], false, none⟩ := by
    refine ⟨rfl, rfl, ?_, ?_⟩
    · intro message
      simp
    · intro field hField
      obtain rfl := List.mem_singleton.mp hField
      exact ⟨"b", rfl⟩
  obtain ⟨shown, hShown⟩ := List.length_eq_one_iff.mp
    (Nat.le_antisymm hLength (List.length_pos_iff.mpr (hCalled.mpr hReadable)))
  have hBuffered := hBuffers shown (by rw [hShown]; exact List.mem_singleton_self shown)
  exact ⟨shown, hShown, hBuffered.uri, hBuffered.body⟩

end Memory

end BufferedHttp
