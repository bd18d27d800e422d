import BufferedHttp.Proofs.Demo.Reach
import BufferedHttp.Proofs.Uri.Percent

/-!
# A fetch asks for the encoded target

The query of a fetch may give its target in any spelling, behind parameters of other names and with
anything behind it. One request is sent then, for the target as a whole, and what comes back is
returned as it is.
-/

namespace BufferedHttp

/-- A response that was sent for has a body, if only an empty one. -/
theorem Host.exists_body_of_send {World : Type} (host : Host World) {config : Config}
    {request : Request} {response : Response} {w w' : World}
    (h : host.send config request w = .ok response w') : ∃ bytes, response.body = some bytes := by
  obtain ⟨limits, w₁, -, h⟩ := Action.exists_of_bind_eq_ok h
  obtain ⟨head, w₂, -, h⟩ := Action.exists_of_bind_eq_ok h
  obtain ⟨future, w₃, -, h⟩ := Action.exists_of_bind_eq_ok h
  obtain ⟨incoming, w₄, -, h⟩ := Action.exists_of_bind_eq_ok h
  obtain ⟨status, w₅, -, h⟩ := Action.exists_of_bind_eq_ok h
  obtain ⟨fields, w₆, -, h⟩ := Action.exists_of_bind_eq_ok h
  obtain ⟨headers, w₇, -, h⟩ := Action.exists_of_bind_eq_ok h
  obtain ⟨⟨body, incoming'⟩, w₈, -, h⟩ := Action.exists_of_bind_eq_ok h
  obtain ⟨bytes, w₉, -, h⟩ := Action.exists_of_bind_eq_ok h
  cases h
  exact ⟨bytes, rfl⟩

namespace Demo

open Text.Utf8 (encode)

/-- The request asks for the target, which stands in its query byte by byte, each byte escaped or as
it is but for an ampersand. -/
structure Asks (request : Request) (target : String) : Prop where
  method : request.method = .get
  asked : ∃ (before : List (List Char)) (written : String) (after : List Char),
    request.uri.toList = "/fetch?".toList ++
      (before.flatMap (· ++ ['&']) ++ ("url=".toList ++ written.toList) ++ after) ∧
    (∀ segment ∈ before, '&' ∉ segment ∧ Query.Unbound "url".toList segment) ∧
    Percent.Spells (encode written) (encode target) ∧ '&' ∉ written.toList ∧
    (after = [] ∨ ∃ more, after = '&' :: more)
  web : "http://".toList <+: target.toList ∨ "https://".toList <+: target.toList

theorem Asks.fetches {request : Request} {target : String} (h : Asks request target) :
    Fetches request target where
  method := h.method
  asked := by
    obtain ⟨before, written, after, hUri, hBefore, hSpells, hFree, hAfter⟩ := h.asked
    refine ⟨_, written.toList, hUri, ?_, ?_⟩
    · exact Query.binds_of_written (by decide) hBefore hFree hAfter
    · rwa [String.ofList_toList, Percent.decode?_eq_some_iff]
  web := h.web

theorem run_fetchTarget_of_ok {S : Type} (host : Host S) {target : String} {response : Response}
    {s s' : S} (h : host.send .default (.get target) s = .ok response s') :
    (fetchTarget target).run host s = (.ok response, s') := by
  obtain ⟨bytes, hBody⟩ := host.exists_body_of_send h
  have hSame : { response with body := some response.bodyBytes } = response := by
    rw [Response.bodyBytes, hBody, Option.getD_some, ← hBody]
  rw [fetchTarget, Host.run_send, Action.result_of_ok h, Action.after, h]
  simp only [Handling.run, hSame]

theorem run_fetchTarget_of_error {S : Type} (host : Host S) {target : String} {e : Error}
    {s s' : S} (h : host.send .default (.get target) s = .error e s') :
    (fetchTarget target).run host s =
      (.error ((Failure.ofError e).within ("fetching " ++ target)), s') := by
  rw [fetchTarget, Host.run_send, Action.result_of_error h, Action.after, h, Handling.run]

/-- The one request that is sent is for the target, unchanged; its response is returned as it is
and its error with the target in front. -/
theorem fetches_encoded_target {request : Request} {target : String} (h : Asks request target) :
    (∃ next, route request = .send .default ⟨.get, target, .empty, none⟩ next ∧
      ∀ response, next (.ok response) =
        .done (.ok ⟨response.status, response.headers, some response.bodyBytes⟩)) ∧
    ∀ {S : Type} (host : Host S) (s s' : S),
      (∀ response, host.send .default (.get target) s = .ok response s' →
        (route request).run host s = (.ok response, s')) ∧
      ∀ e, host.send .default (.get target) s = .error e s' →
        (route request).run host s =
          (.error ((Failure.ofError e).within ("fetching " ++ target)), s') := by
  rw [route_of_fetches h.fetches]
  exact ⟨⟨_, rfl, fun _ => rfl⟩, fun host _ _ =>
    ⟨fun _ => run_fetchTarget_of_ok host, fun _ => run_fetchTarget_of_error host⟩⟩

/-- The target has separators of its own, escaped or not, and another `url` stands behind it. -/
theorem fetches_target_with_separators :
    Asks (.get "/fetch?url&a=url=1&&url=http://h/%3fé=%C3%a9%26b=%2541%2B&url=http://x")
      "http://h/?é=é&b=%41+" ∧
    ∃ w, (route (.get "/fetch?url&a=url=1&&url=http://h/%3fé=%C3%a9%26b=%2541%2B&url=http://x")).run
      Memory.host ⟨.empty, [.response ⟨404, [("a", [0x62])], [.data [1], .data [2]], false⟩], 0⟩ =
      (.ok ⟨404, ⟨[⟨"a", "b"⟩]⟩, some [1, 2]⟩, w) := by
  have hAsks : Asks
      (.get "/fetch?url&a=url=1&&url=http://h/%3fé=%C3%a9%26b=%2541%2B&url=http://x")
      "http://h/?é=é&b=%41+" := by
    refine ⟨rfl, ⟨["url".toList, "a=url=1".toList, []], "http://h/%3fé=%C3%a9%26b=%2541%2B",
      "&url=http://x".toList, by decide +kernel, ?_, ?_, by decide, .inr ⟨_, rfl⟩⟩,
      .inl (by decide)⟩
    · have hUnbound : ∀ segment, Query.Unbound "url".toList segment ↔
          ¬"url".toList ++ ['='] <+: segment := fun _ => Query.unbound_iff (by decide)
      simp only [hUnbound]
      decide
    · rw [← Percent.decode?_eq_some_iff]
      decide +kernel
  have hResult : (Memory.host.send .default (.get "http://h/?é=é&b=%41+")).result
      ⟨.empty, [.response ⟨404, [("a", [0x62])], [.data [1], .data [2]], false⟩], 0⟩ =
      .ok ⟨404, ⟨[⟨"a", "b"⟩]⟩, some [1, 2]⟩ := by decide +kernel
  have hSend := Action.eq_ofExcept (Memory.host.send .default (.get "http://h/?é=é&b=%41+"))
    ⟨.empty, [.response ⟨404, [("a", [0x62])], [.data [1], .data [2]], false⟩], 0⟩
  rw [hResult] at hSend
  exact ⟨hAsks, _, ((fetches_encoded_target hAsks).2 Memory.host _ _).1 _ hSend⟩

end Demo

end BufferedHttp
