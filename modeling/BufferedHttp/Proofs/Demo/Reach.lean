import BufferedHttp.Demo.Route
import BufferedHttp.Proofs.Memory.Queue
import BufferedHttp.Proofs.Uri.Query
import BufferedHttp.Proofs.Uri.Scheme

/-!
# How far the demo component reaches

The demo sends nothing but the request for a target that it was asked to fetch. A target begins
with one of the two web schemes, and what is sent goes by that scheme to a host that the target
names, without a user. For all other requests the world stays as it is.
-/

namespace BufferedHttp.Demo

/-- The request asks to fetch the target: it is the value of the query parameter `url`. -/
structure Fetches (request : Request) (target : String) : Prop where
  method : request.method = .get
  asked : ∃ query value, request.uri.toList = "/fetch".toList ++ '?' :: query ∧
    Query.Binds "url".toList value query ∧ Percent.decode? (String.ofList value) = some target
  web : "http://".toList <+: target.toList ∨ "https://".toList <+: target.toList

/-- The head of a request for the target, which goes where the target says. -/
structure Addressed (target : String) (head : RequestHead) : Prop where
  method : head.method = .get
  http : "http://".toList <+: target.toList → head.scheme = .http
  https : "https://".toList <+: target.toList → head.scheme = .https
  authority : '@' ∉ head.authority.toList
  headers : head.headers = []

theorem isFetchable_iff (target : String) :
    isFetchable target = true ↔
      "http://".toList <+: target.toList ∨ "https://".toList <+: target.toList := by
  rw [isFetchable, Bool.or_eq_true, List.isPrefixOf_iff_prefix, List.isPrefixOf_iff_prefix]

theorem pathOf_eq_iff {uri path : String} {before query : List Char}
    (hUri : uri.toList = before ++ '?' :: query) (hFree : '?' ∉ before) :
    pathOf uri = path ↔ before = path.toList := by
  have hTake : uri.toList.takeWhile (· ≠ '?') = before := by
    rw [hUri, List.takeWhile_append_of_pos]
    · simp
    · intro c hc
      rw [decide_eq_true_iff]
      rintro rfl
      exact hFree hc
  rw [pathOf, hTake]
  constructor
  · rintro rfl
    exact String.toList_ofList.symm
  · rintro rfl
    exact String.ofList_toList

theorem route_eq (request : Request) :
    route request =
      if request.method = .get ∧ pathOf request.uri = "/" then
        .done (.ok (.text 200 "hello from spindle-http\n"))
      else if request.method = .post ∧ pathOf request.uri = "/echo" then .done (.ok (echo request))
      else if request.method = .get ∧ pathOf request.uri = "/fetch" then fetch request
      else .done (.ok (.text 404 "not found\n")) := rfl

theorem route_of_fetches {request : Request} {target : String} (h : Fetches request target) :
    route request = fetchTarget target := by
  obtain ⟨query, value, hUri, hBinds, hDecode⟩ := h.asked
  have hPath : pathOf request.uri = "/fetch" := (pathOf_eq_iff hUri (by decide)).mpr rfl
  have hParam : Query.param? request.uri "url" = some (String.ofList value) := by
    rw [Query.param?_eq_some_iff (by decide)]
    refine ⟨"/fetch".toList, query, by decide, hUri, ?_⟩
    have hValue : (String.ofList value).toList = value := String.toList_ofList
    rwa [hValue]
  have hFetch : fetch request = fetchTarget target := by
    rw [fetch, hParam]
    simp only [hDecode, (isFetchable_iff target).mpr h.web, if_true]
  rw [route_eq, h.method, hPath, hFetch]
  simp

/-- What is not asked for is answered without a send. -/
theorem route_of_not_fetches {request : Request} (h : ∀ target, ¬Fetches request target) :
    ∃ result, route request = .done result := by
  have hDone : request.method = .get → pathOf request.uri = "/fetch" →
      ∃ result, fetch request = .done result := by
    intro hMethod hPath
    rw [fetch]
    split
    · exact ⟨_, rfl⟩
    · rename_i value hParam
      obtain ⟨path, query, hFree, hUri, hBinds⟩ :=
        (Query.param?_eq_some_iff (by decide)).mp hParam
      split
      · exact ⟨_, rfl⟩
      · rename_i target hDecode
        split
        · rename_i hWeb
          rw [pathOf_eq_iff hUri hFree] at hPath
          rw [hPath] at hUri
          exact absurd ⟨hMethod, ⟨query, value.toList, hUri, hBinds, by rwa [String.ofList_toList]⟩,
            (isFetchable_iff target).mp hWeb⟩ (h target)
        · exact ⟨_, rfl⟩
  rw [route_eq]
  split
  · exact ⟨_, rfl⟩
  · split
    · exact ⟨_, rfl⟩
    · split
      · rename_i hFetch
        exact hDone hFetch.1 hFetch.2
      · exact ⟨_, rfl⟩

theorem addressed_of_head {target : String} {head : RequestHead}
    (h : (Request.get target).head = .ok head) : Addressed target head := by
  obtain ⟨u, hParse, hOf⟩ := Request.head_eq_ok_iff.mp h
  obtain ⟨scheme, authority, hScheme, hAuthority, hUser, rfl⟩ := RequestHead.ofUri_eq_ok_iff.mp hOf
  refine ⟨rfl, ?_, ?_, hUser, rfl⟩
  · intro hPrefix
    rw [Uri.scheme_of_parse_http hPrefix hParse] at hScheme
    cases hScheme
    rfl
  · intro hPrefix
    rw [Uri.scheme_of_parse_https hPrefix hParse] at hScheme
    cases hScheme
    rfl

theorem outgoingHead_get (target : String) :
    (Request.get target).outgoingHead =
      (Request.get target).head.mapError fun fault => .invalidUri target fault.message := rfl

theorem limits_default : ∃ limits, Config.default.limits = .ok limits := ⟨_, rfl⟩

theorem run_fetchTarget {S : Type} (any : Host S) (target : String) (s : S) :
    ((fetchTarget target).run any s).2 = (any.send .default (.get target)).after s := by
  rw [fetchTarget, Host.run_send]
  cases (any.send .default (.get target)).result s <;> rfl

/-- Nothing is done to any host for a target without a request head. -/
theorem run_fetchTarget_of_headless {S : Type} (any : Host S) {target : String}
    (h : ∀ head, (Request.get target).head ≠ .ok head) (s : S) :
    ((fetchTarget target).run any s).2 = s := by
  obtain ⟨limits, hLimits⟩ := limits_default
  rw [run_fetchTarget]
  cases hHead : (Request.get target).head with
  | ok head => exact absurd hHead (h head)
  | error fault =>
    have hOutgoing : (Request.get target).outgoingHead =
        .error (.invalidUri target fault.message) := by
      rw [outgoingHead_get, hHead]
      rfl
    rw [Action.after, Host.send_of_headless hLimits hOutgoing]

theorem run_fetchTarget_of_head {target : String} {head : RequestHead}
    (h : (Request.get target).head = .ok head) (w : Memory.World) :
    Memory.Took [(head, none)] w ((fetchTarget target).run Memory.host w).2 := by
  obtain ⟨limits, hLimits⟩ := limits_default
  have hReached : (Memory.Sending.mk .default (.get target) w).reached = true :=
    (Memory.Sending.reached_iff _).mpr ⟨rfl, rfl, head, h⟩
  rw [run_fetchTarget]
  rcases (Memory.Sending.mk .default (.get target) w).rejected_or_accepted with
    hRejected | ⟨head', hAccepted⟩
  · rw [hRejected.reached_eq] at hReached
    cases hReached
  · obtain rfl : head' = head := Except.ok.inj (hAccepted.headed.symm.trans h)
    exact hAccepted.took

/-- One request is sent when there is a target that it can go to, the request for that target;
otherwise nothing is done to a host, whatever host it is. -/
theorem reaches_only_fetched_target (request : Request) (w : Memory.World) :
    (w.recording.events.count .requestSent <
        ((route request).run Memory.host w).2.recording.events.count .requestSent ↔
      ∃ target head, Fetches request target ∧ (Request.get target).head = .ok head) ∧
    (∀ target head, Fetches request target → (Request.get target).head = .ok head →
      Memory.Took [(head, none)] w ((route request).run Memory.host w).2 ∧
        Addressed target head) ∧
    ((∀ target head, Fetches request target → (Request.get target).head ≠ .ok head) →
      ∀ {S : Type} (any : Host S) (s : S), ((route request).run any s).2 = s) := by
  have hReached : ∀ target head, Fetches request target → (Request.get target).head = .ok head →
      Memory.Took [(head, none)] w ((route request).run Memory.host w).2 := by
    intro target head hFetches hHead
    rw [route_of_fetches hFetches]
    exact run_fetchTarget_of_head hHead w
  have hUnreached : (∀ target head, Fetches request target →
      (Request.get target).head ≠ .ok head) →
      ∀ {S : Type} (any : Host S) (s : S), ((route request).run any s).2 = s := by
    intro hHeadless S any s
    by_cases hFetches : ∃ target, Fetches request target
    · obtain ⟨target, hTarget⟩ := hFetches
      rw [route_of_fetches hTarget]
      exact run_fetchTarget_of_headless any (fun head => hHeadless target head hTarget) s
    · obtain ⟨result, hDone⟩ := route_of_not_fetches (not_exists.mp hFetches)
      rw [hDone]
      rfl
  refine ⟨?_, ?_, hUnreached⟩
  · constructor
    · intro hMore
      by_contra hNone
      push Not at hNone
      rw [hUnreached hNone] at hMore
      exact Nat.lt_irrefl _ hMore
    · rintro ⟨target, head, hFetches, hHead⟩
      rw [(hReached target head hFetches hHead).count]
      exact Nat.lt_succ_self _
  · intro target head hFetches hHead
    exact ⟨hReached target head hFetches hHead, addressed_of_head hHead⟩

example : Fetches (.get "/fetch?a&url=https%3A%2F%2Fb") "https://b" where
  method := rfl
  asked := by
    refine ⟨"a&url=https%3A%2F%2Fb".toList, "https%3A%2F%2Fb".toList, by decide, ?_,
      by decide +kernel⟩
    exact ⟨[['a']], [], by decide, by decide, by decide⟩
  web := by decide

example : (Request.get "https://b").head.toOption.map RequestHead.authority = some "b" := by
  decide +kernel

end BufferedHttp.Demo
