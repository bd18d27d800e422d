import BufferedHttp.Proofs.Component.Behind
import BufferedHttp.Proofs.Component.Refinement
import BufferedHttp.Proofs.Demo.Reach
import BufferedHttp.Proofs.Memory.Delivery
import BufferedHttp.Proofs.Text.WellFormed
import Mathlib.Data.List.TakeWhile

/-!
# The echo gives back what was posted

A body that is posted to the echo comes back byte for byte, in writes of the default size, under
the content type that it came with and no other header. This holds on the host in memory and on a
component host that refuses no field, whatever happened on either before.
-/

namespace BufferedHttp

/-- A world that matches one with a single answer got that answer only. -/
theorem Component.Matched.answers_eq {m : Memory.World} {c : Component.World} {status : UInt16}
    (h : Component.Matched m c) (hOnce : m.recording.resolutions = 1)
    (hStatus : m.recording.status = some status) :
    c.answers = [.ok ⟨status, m.recording.headers⟩] := by
  obtain ⟨answer, hAnswer⟩ := List.length_eq_one_iff.mp (h.resolutions.symm.trans hOnce)
  have hResponse := h.response
  rw [hStatus, hAnswer] at hResponse
  rw [hAnswer]
  cases answer with
  | error code => cases hResponse
  | ok delivered => exact congrArg (fun d => [Except.ok d]) (Option.some.inj hResponse).symm

theorem Memory.deeds_readingEvents {bound : Nat} {script : Script}
    (h : ∀ message, .fail message ∉ script) :
    (readingEvents bound script).filterMap Event.deed? = [.inputDropped, .bodyFinished] := by
  rw [readingEvents_of_none ((Script.failure?_eq_none_iff script).mpr h), List.filterMap_append,
    List.filterMap_append, List.filterMap_map]
  have hReads : (script.lengths bound).filterMap (Event.deed? ∘ .read) = [] := by
    simp [List.filterMap_eq_nil_iff, Event.deed?]
  rw [hReads]
  rfl

theorem Memory.deeds_writeEvents (chunks : List Bytes) :
    (writeEvents chunks).filterMap Event.deed? =
      chunks.map fun chunk => .wrote chunk.length := by
  rw [writeEvents, List.filterMap_map]
  exact congrFun List.filterMap_eq_map chunks

theorem Memory.deeds_answered (status : UInt16) (chunks : List Bytes) :
    (Event.statusSet status :: .outparamSet ::
        (writeEvents chunks ++ [.outputStreamDropped, .outgoingBodyFinished])).filterMap
        Event.deed? =
      .resolved :: ((chunks.map fun chunk => .wrote chunk.length) ++
        [.outputDropped, .outputFinished]) := by
  have hHead (events : List Event) :
      (Event.statusSet status :: .outparamSet :: events).filterMap Event.deed? =
        .resolved :: events.filterMap Event.deed? := rfl
  rw [hHead, List.filterMap_append, deeds_writeEvents]
  rfl

namespace Demo

open Component (Inbound plainOutparam)

/-- The first content type among the fields, whatever the case of its name, or nothing. -/
def contentType (fields : FieldList) : FieldList :=
  ((fields.find? fun field => Text.equalFolded field.1 "content-type").map
    fun field => ("content-type", field.2)).toList

/-- A request that posts a body to the echo, which can be read to its end. -/
structure Posted (r : Inbound) : Prop where
  method : r.method = .post
  path : ∃ uri, r.path = some uri ∧
    (uri = "/echo" ∨ ∃ query, uri.toList = "/echo".toList ++ '?' :: query)
  unconsumed : r.consumed = false
  unbroken : ∀ message, .fail message ∉ r.script
  decodable : ∀ field ∈ r.headers, Text.Utf8.WellFormed field.2

/-- The echo was recorded in `w'`, of the request that came in `w`. -/
structure Recorded (r : Inbound) (w w' : Memory.World) : Prop where
  resolutions : w'.recording.resolutions = w.recording.resolutions + 1
  status : w'.recording.status = some 200
  headers : w'.recording.headers = contentType r.headers
  body : w'.recording.body = w.recording.body ++ r.script.bytes
  sent : w'.recording.sent = w.recording.sent
  chunks : ∃ chunks, Cuts 4096 r.script.bytes chunks ∧
    w'.recording.writes = w.recording.writes ++ chunks.map List.length ∧
    w'.recording.events = w.recording.events ++ (Memory.readingEvents 16384 r.script ++
      .statusSet 200 :: .outparamSet ::
        (Memory.writeEvents chunks ++ [.outputStreamDropped, .outgoingBodyFinished]))

/-- The client of a component host has the echo in `c'`, of the request that came in `c`. -/
structure Received (r : Inbound) (c c' : Component.World) : Prop where
  answers : c'.answers = c.answers ++ [.ok ⟨200, contentType r.headers⟩]
  body : c'.body = c.body ++ r.script.bytes
  sent : c'.sent = c.sent
  chunks : ∃ chunks, Cuts 4096 r.script.bytes chunks ∧
    c'.deeds = c.deeds ++ ([.inputDropped, .bodyFinished, .resolved] ++
      (chunks.map fun chunk => .wrote chunk.length) ++ [.outputDropped, .outputFinished])

def defaultLimits : Limits := ⟨16384, 4096, by decide, by decide, by decide⟩

theorem toFields_echo (request : Request) :
    (echo request).headers.toFields = contentType request.headers.toFields := by
  have hFind : request.headers.toFields.find?
      (fun field => Text.equalFolded field.1 "content-type") =
      (request.headers.entries.find? (Header.isNamed "content-type")).map Header.toField := by
    rw [HeaderMap.toFields, List.find?_map]
    rfl
  rw [contentType, hFind, echo, HeaderMap.get?]
  cases request.headers.entries.find? (Header.isNamed "content-type") <;> rfl

theorem pathOf_self {uri : String} (h : '?' ∉ uri.toList) : pathOf uri = uri := by
  have hTake : uri.toList.takeWhile (· ≠ '?') = uri.toList := by
    rw [List.takeWhile_eq_self_iff]
    intro c hc
    rw [decide_eq_true_iff]
    rintro rfl
    exact h hc
  rw [pathOf, hTake, String.ofList_toList]

variable {r : Inbound}

namespace Posted

theorem readable (h : Posted r) : Memory.Readable r.inMemory where
  unconsumed := h.unconsumed
  streamed := rfl
  unbroken := h.unbroken
  textual field hField := (Text.Utf8.wellFormed_iff_encode field.2).mp (h.decodable field hField)

theorem route_eq (h : Posted r) {shown : Request} (hShown : Memory.Buffers r.inMemory shown) :
    route shown = .done (.ok (echo shown)) := by
  obtain ⟨uri, hUri, hPath⟩ := h.path
  have hShownUri : shown.uri = uri := by
    rw [hShown.uri, Inbound.inMemory, hUri]
    rfl
  have hEcho : pathOf shown.uri = "/echo" := by
    rw [hShownUri]
    rcases hPath with rfl | ⟨query, hQuery⟩
    · exact pathOf_self (by decide)
    · exact (pathOf_eq_iff hQuery (by decide)).mpr rfl
  have hMethod : shown.method = .post := hShown.method.trans h.method
  rw [Demo.route_eq, hMethod, hEcho]
  simp

theorem recorded (h : Posted r) (w : Memory.World) :
    ∃ w', Memory.host.serve .default route r.inMemory plainOutparam w = .ok () w' ∧
      Recorded r w w' := by
  obtain ⟨shown, hShown⟩ := h.readable.exists_buffers
  have hLimits : Config.default.limits = .ok defaultLimits := rfl
  have hReceive := Memory.receiveRequest_of_readable h.readable hShown defaultLimits w
  have hReturned : (route shown).run Memory.host
      ((Memory.host.receiveRequest defaultLimits r.inMemory).after w) =
      (.ok (echo shown), w.recordAll (Memory.readingEvents 16384 r.script)) := by
    rw [h.route_eq hShown, Action.after, hReceive]
    rfl
  have hOut : plainOutparam.Reliable := ⟨rfl, rfl⟩
  have hServe := Memory.serve_of_response hLimits h.readable hShown hOut hReturned
    ⟨(by decide : (100 : UInt16) ≤ 200), (by decide : (200 : UInt16) ≤ 999)⟩ (fun _ _ => rfl)
  have hBytes : (echo shown).bodyBytes = r.script.bytes := by
    rw [echo, Response.bodyBytes, Request.bodyBytes, hShown.body]
    rfl
  have hHeaders : (echo shown).headers.toFields = contentType r.headers := by
    rw [toFields_echo, hShown.headers]
    rfl
  refine ⟨_, hServe, rfl, rfl, hHeaders, congrArg (w.recording.body ++ ·) hBytes, rfl, ?_⟩
  refine ⟨_, hBytes ▸ cuts_chunked defaultLimits.write_pos (echo shown).bodyBytes, rfl, ?_⟩
  rw [← List.append_assoc]
  rfl

theorem route_received (h : Posted r) {limits : Limits} {m : Memory.World}
    {c c' : Component.World} {request : Component.IncomingRequest} {shown : Request}
    (hLimits : Config.default.limits = .ok limits)
    (hRequest : Component.SameRequest r.inMemory request) (hMatched : Component.Matched m c)
    (hReceived : Component.host.receiveRequest limits request c = .ok (.ok shown) c') :
    route shown = .done (.ok (echo shown)) := by
  have hSame := Component.simulation.shown?_eq .default hRequest hMatched
  rw [Host.shown?_of_ok hLimits hReceived] at hSame
  obtain ⟨-, hShown⟩ := (Memory.shown?_eq_some_iff r.inMemory shown m hLimits).mp hSame
  exact h.route_eq hShown

/-- On a component host without a past. -/
theorem received_fresh (h : Posted r) {m : Memory.World} {c : Component.World}
    {request : Component.IncomingRequest} {out : Component.Outparam}
    (hFresh : m = ⟨.empty, [], 0⟩) (hRequest : Component.SameRequest r.inMemory request)
    (hOut : Component.SameOutparam plainOutparam out) (hMatched : Component.Matched m c) :
    ∃ c', Component.host.serve .default route request out c = .ok () c' ∧
      c'.answers = [.ok ⟨200, contentType r.headers⟩] ∧ c'.body = r.script.bytes ∧
      c'.sent = [] ∧ ∃ chunks, Cuts 4096 r.script.bytes chunks ∧
        c'.deeds = [.inputDropped, .bodyFinished, .resolved] ++
          (chunks.map fun chunk => .wrote chunk.length) ++ [.outputDropped, .outputFinished] := by
  subst hFresh
  obtain ⟨w', hServe, hRecorded⟩ := h.recorded ⟨.empty, [], 0⟩
  have hUnsent : (Memory.added (Memory.host.serve .default route r.inMemory plainOutparam)
      ⟨.empty, [], 0⟩).sent.length ≤ 0 := by
    rw [Memory.added, Action.after, hServe]
    simp [Memory.Recording.since, hRecorded.sent, Memory.Recording.empty]
  have hRun := Component.sameRun_serve .default route hRequest hOut hMatched hUnsent
  have hResult := hRun.result
  have hAfter := hRun.after
  rw [Action.result_of_ok hServe] at hResult
  rw [Action.after, hServe] at hAfter
  have hAnswers := hAfter.answers_eq hRecorded.resolutions hRecorded.status
  obtain ⟨chunks, hCuts, -, hEvents⟩ := hRecorded.chunks
  refine ⟨(Component.host.serve .default route request out).after c, ?_, ?_, ?_, ?_, chunks, hCuts,
    ?_⟩
  · rw [Action.eq_ofExcept (Component.host.serve _ _ _ _), ← hResult]
    rfl
  · rw [hAnswers, hRecorded.headers]
  · rw [← hAfter.body, hRecorded.body]
    rfl
  · have hSent := hAfter.sent
    rw [hRecorded.sent] at hSent
    exact List.forall₂_nil_left_iff.mp hSent
  · rw [← hAfter.deeds, hEvents, List.filterMap_append, List.filterMap_append,
      Memory.deeds_readingEvents h.unbroken, Memory.deeds_answered]
    rfl

theorem received (h : Posted r) {c c₁ : Component.World} {request : Component.IncomingRequest}
    {out : Component.Outparam} (hForbidden : c.forbidden = []) (hInvalid : c.invalid = [])
    (hArrive : c.arrive r.onComponent .none = (request, out, c₁)) :
    ∃ c', Component.host.serve .default route request out c₁ = .ok () c' ∧ Received r c c' := by
  -- the past of the host is set aside, the echo served without it, and put before that again
  have hFresh : Component.Matched ⟨.empty, [], 0⟩ c.fresh :=
    { Component.matched_fresh .nil 0 with forbidden := hForbidden, invalid := hInvalid }
  obtain ⟨c₀, hFreshArrive, hBehind⟩ := Component.arrive_fresh hArrive
  obtain ⟨hRequest, hOut, hMatched⟩ := Component.matched_arrive hFresh r
  rw [hFreshArrive] at hRequest hOut hMatched
  obtain ⟨c₂, hServe, hAnswers, hBody, hSent, chunks, hCuts, hDeeds⟩ :=
    h.received_fresh rfl hRequest hOut hMatched
  have hAlike := hBehind.serve .default request out fun limits shown w₁ hLimits hReceived =>
    ⟨_, h.route_received hLimits hRequest hMatched hReceived⟩
  rw [hServe] at hAlike
  generalize hRun : Component.host.serve .default route request out c₁ = run at hAlike
  cases hAlike with
  | @ok _ _ _ c' _ hPast =>
    obtain rfl : c' = c₂.behind c := hPast
    refine ⟨_, rfl, ?_, ?_, ?_, chunks, hCuts, ?_⟩
    · exact congrArg (c.answers ++ ·) hAnswers
    · exact congrArg (c.body ++ ·) hBody
    · exact (congrArg (c.sent ++ ·) hSent).trans (List.append_nil _)
    · rw [← hDeeds]
      exact List.filterMap_append

end Posted

/-- What is posted to the echo comes back, on the host in memory as on a component host. -/
theorem echo_returns_posted (h : Posted r) :
    (∀ w, ∃ w', Memory.host.serve .default route r.inMemory plainOutparam w = .ok () w' ∧
      Recorded r w w') ∧
    ∀ (c c₁ : Component.World) (request : Component.IncomingRequest) (out : Component.Outparam),
      c.forbidden = [] → c.invalid = [] →
      c.arrive r.onComponent .none = (request, out, c₁) →
      ∃ c', Component.host.serve .default route request out c₁ = .ok () c' ∧ Received r c c' :=
  ⟨h.recorded, fun _ _ _ _ hForbidden hInvalid hArrive => h.received hForbidden hInvalid hArrive⟩

/-- Of two content types the first comes back, under the name in lower case. -/
theorem first_content_type_echoed :
    Posted ⟨.post, .post, .post, some "/echo?a?b", [("Content-Type", [0x74]), ("content-type", [0x75])],
      [.data [1, 2], .data [], .data [3]], false⟩ ∧
    ∃ request out c₁ c',
      Component.World.arrive ⟨[], 0, [], [], [], [.taken], 1, 0, [], [], [.scheme]⟩
        (Inbound.onComponent ⟨.post, .post, .post, some "/echo?a?b",
          [("Content-Type", [0x74]), ("content-type", [0x75])],
          [.data [1, 2], .data [], .data [3]], false⟩) .none = (request, out, c₁) ∧
      Component.host.serve .default route request out c₁ = .ok () c' ∧
      c'.answers = [.ok ⟨200, [("content-type", [0x74])]⟩] ∧ c'.body = [1, 2, 3] := by
  have hPosted : Posted ⟨.post, .post, .post, some "/echo?a?b",
      [("Content-Type", [0x74]), ("content-type", [0x75])],
      [.data [1, 2], .data [], .data [3]], false⟩ := by
    refine ⟨rfl, ⟨_, rfl, .inr ⟨"a?b".toList, by decide⟩⟩, rfl, by simp, ?_⟩
    simp only [List.forall_mem_cons, Text.Utf8.wellFormed_iff_encode]
    exact ⟨⟨"t", rfl⟩, ⟨"u", rfl⟩, by simp⟩
  obtain ⟨-, hComponent⟩ := echo_returns_posted hPosted
  obtain ⟨c', hServe, hReceived⟩ :=
    hComponent ⟨[], 0, [], [], [], [.taken], 1, 0, [], [], [.scheme]⟩ _ _ _ rfl rfl rfl
  refine ⟨hPosted, _, _, _, c', rfl, hServe, ?_, hReceived.body⟩
  have hHeaders : contentType [("Content-Type", [0x74]), ("content-type", [0x75])] =
      [("content-type", [0x74])] := by decide
  rw [hReceived.answers, hHeaders]
  rfl

end Demo

end BufferedHttp
