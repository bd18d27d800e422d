import BufferedHttp.Proofs.Component.Refinement
import BufferedHttp.Proofs.Demo.Reach

/-!
# Methods and their names

Reading the name of a method gives the method back, unless the method is a literal that spells a
well-known name. What a component host delivers the handler is shown case for case, such a literal
as a literal. All other methods can be told apart by their names.
-/

namespace BufferedHttp

namespace Method

/-- The names that have a case of their own. -/
def knownNames : List String :=
  ["GET", "HEAD", "POST", "PUT", "DELETE", "CONNECT", "OPTIONS", "TRACE", "PATCH"]

/-- No literal that spells a well-known name. -/
def Canonical (m : Method) : Prop := ∀ literal, m = .other literal → literal ∉ knownNames

variable {m m' : Method}

theorem ofName_of_notMem {s : String} (h : s ∉ knownNames) : ofName s = .other s := by
  simp only [knownNames, List.mem_cons, List.not_mem_nil, or_false, not_or] at h
  simp [ofName, h]

theorem ofName_ne_other_of_mem {s : String} (h : s ∈ knownNames) (literal : String) :
    ofName s ≠ .other literal := by
  simp only [knownNames, List.mem_cons, List.not_mem_nil, or_false] at h
  rcases h with rfl | rfl | rfl | rfl | rfl | rfl | rfl | rfl | rfl <;> simp [ofName]

theorem ofName_name_eq_iff : ofName m.name = m ↔ m.Canonical := by
  cases m with
  | other literal =>
    have hName : (other literal).name = literal := rfl
    rw [hName]
    constructor
    · rintro h _ ⟨⟩ hKnown
      exact ofName_ne_other_of_mem hKnown literal h
    · intro h
      exact ofName_of_notMem (h literal rfl)
  | _ =>
    refine iff_of_true rfl ?_
    rintro literal ⟨⟩

theorem Canonical.ofName_name (h : m.Canonical) : ofName m.name = m := ofName_name_eq_iff.mpr h

theorem Canonical.eq_ofName_iff (h : m.Canonical) (s : String) : m = ofName s ↔ m.name = s := by
  constructor
  · rintro rfl
    exact name_ofName s
  · rintro rfl
    exact h.ofName_name.symm

theorem Canonical.eq_iff (h : m.Canonical) (h' : m'.Canonical) : m = m' ↔ m.name = m'.name := by
  rw [← h.eq_ofName_iff, h'.ofName_name]

/-- Which of the arms is taken is the same for the variants as for the names. -/
theorem Canonical.findIdx?_eq (h : m.Canonical) (arms : List String) :
    (arms.map ofName).findIdx? (m = ·) = arms.findIdx? (m.name = ·) := by
  rw [List.findIdx?_map]
  congr 1
  funext s
  exact decide_eq_decide.mpr (h.eq_ofName_iff s)

end Method

/-! ## What the handler is shown -/

namespace Host

variable {World : Type} (host : Host World) {config : Config} {limits : Limits} {w w' : World}

theorem method_of_receiveRequest {request : host.IncomingRequest} {shown : Request}
    (h : host.receiveRequest limits request w = .ok (.ok shown) w') :
    shown.method = (host.requestMethod request w).1 := by
  obtain ⟨method, w₁, hMethod, h⟩ := Action.exists_of_bind_eq_ok h
  obtain ⟨body, w₂, -, h⟩ := Action.exists_of_bind_eq_ok h
  obtain ⟨bytes, w₃, -, h⟩ := Action.exists_of_bind_eq_ok h
  obtain ⟨path, w₄, -, h⟩ := Action.exists_of_bind_eq_ok h
  obtain ⟨fields, w₅, -, h⟩ := Action.exists_of_bind_eq_ok h
  have hMethod : method = (host.requestMethod request w).1 := by
    cases hMethod
    rfl
  rw [← hMethod]
  cases hHeaders : HeaderMap.ofFields fields with
  | error u =>
    rw [hHeaders] at h
    cases h
  | ok headers =>
    rw [hHeaders] at h
    cases h
    rfl

theorem method_of_mem_calls {handler : Handler} {request : host.IncomingRequest}
    {out : host.Outparam} {shown : Request}
    (h : shown ∈ host.calls config handler request out w) :
    shown.method = (host.requestMethod request w).1 := by
  rw [calls_eq, Option.mem_toList] at h
  cases hLimits : config.limits with
  | error fault =>
    rw [shown?_of_fault hLimits] at h
    cases h
  | ok limits =>
    cases hReceived : host.receiveRequest limits request w with
    | error e w₁ =>
      rw [shown?_of_error hLimits hReceived] at h
      cases h
    | ok received w₁ =>
      rw [shown?_of_ok hLimits hReceived] at h
      cases received with
      | error e => cases h
      | ok shown' =>
        cases h
        exact host.method_of_receiveRequest hReceived

end Host

namespace Component

/-- No literal that spells the name of another case. -/
def Method.Canonical (m : Method) : Prop :=
  ∀ literal, m = .other literal → literal ∉ BufferedHttp.Method.knownNames

theorem SameMethod.canonical {m : Method} {n : BufferedHttp.Method} (h : SameMethod m n)
    (hCanonical : m.Canonical) : n.Canonical := by
  rintro literal rfl
  cases h
  exact hCanonical literal rfl

/-- Some run in which a component host delivers the first method shows a handler the second. -/
def Arrives (delivered : Method) (seen : BufferedHttp.Method) : Prop :=
  ∃ (config : Config) (handler : Handler) (request : IncomingRequest) (out : Outparam) (w : World)
    (shown : Request), request.method = delivered ∧
      shown ∈ host.calls config handler request out w ∧ shown.method = seen

/-- A request that has only a method. -/
def Inbound.bare (delivered : Method) : Inbound :=
  ⟨delivered.toMessage, delivered, sameMethod_toMessage delivered, none, [], [], false⟩

/-- On a host to which nothing has happened, a request that has only a method is shown with the
path of the root and an empty body. -/
theorem calls_of_bare_request (delivered : Method) (handler : Handler) {request : IncomingRequest}
    {out : Outparam} {w : World}
    (h : World.arrive ⟨[], 0, [], [], [], [], 0, 0, [], [], []⟩
      (Inbound.bare delivered).onComponent .none = (request, out, w)) :
    host.calls .default handler request out w =
      [⟨delivered.toMessage, "/", .empty, some []⟩] := by
  obtain ⟨hRequest, -, hMatched⟩ := matched_arrive (matched_fresh .nil 0) (Inbound.bare delivered)
  rw [h] at hRequest hMatched
  obtain ⟨limits, hLimits⟩ := Demo.limits_default
  have hShown : Memory.host.shown? .default (Inbound.bare delivered).inMemory ⟨.empty, [], 0⟩ =
      some ⟨delivered.toMessage, "/", .empty, some []⟩ := by
    apply (Memory.shown?_eq_some_iff _ _ _ hLimits).mpr
    constructor
    · exact ⟨rfl, rfl, by simp [Inbound.inMemory, Inbound.bare],
        by simp [Inbound.inMemory, Inbound.bare]⟩
    · exact ⟨rfl, rfl, rfl, rfl⟩
  rw [host.calls_eq, ← simulation.shown?_eq .default hRequest hMatched, hShown]
  rfl

/-- Every method arrives, and as the same. -/
theorem arrives_iff {delivered : Method} {seen : BufferedHttp.Method} :
    Arrives delivered seen ↔ SameMethod delivered seen := by
  rw [sameMethod_iff]
  constructor
  · rintro ⟨config, handler, request, out, w, shown, rfl, hShown, rfl⟩
    exact host.method_of_mem_calls hShown
  · rintro rfl
    rcases hArrive : World.arrive ⟨[], 0, [], [], [], [], 0, 0, [], [], []⟩
      (Inbound.bare delivered).onComponent .none with ⟨request, out, w⟩
    have hMethod : request.method = delivered := by
      cases hArrive
      rfl
    have hCalls := calls_of_bare_request delivered Demo.route hArrive
    refine ⟨.default, Demo.route, request, out, w, ⟨delivered.toMessage, "/", .empty, some []⟩,
      hMethod, ?_, rfl⟩
    rw [hCalls]
    exact List.mem_singleton_self _

/-- A literal arrives as a literal, whatever it spells. -/
theorem arrives_other_iff {literal : String} {seen : BufferedHttp.Method} :
    Arrives (.other literal) seen ↔ seen = .other literal :=
  arrives_iff.trans sameMethod_iff

end Component

/-! ## Code that asks for a method -/

namespace Demo

/-- The demo with its methods told apart by their names. -/
def routeByName : Handler := fun request =>
  let path := pathOf request.uri
  if request.method.name = "GET" ∧ path = "/" then
    .done (.ok (.text 200 "hello from spindle-http\n"))
  else if request.method.name = "POST" ∧ path = "/echo" then .done (.ok (echo request))
  else if request.method.name = "GET" ∧ path = "/fetch" then fetch request
  else .done (.ok (.text 404 "not found\n"))

theorem route_eq_routeByName {request : Request} (h : request.method.Canonical) :
    route request = routeByName request := by
  have hGet : request.method = .get ↔ request.method.name = "GET" := h.eq_ofName_iff "GET"
  have hPost : request.method = .post ↔ request.method.name = "POST" := h.eq_ofName_iff "POST"
  rw [route_eq, routeByName]
  simp only [hGet, hPost]

end Demo

namespace Component

/-- Methods arrive case for case, and a literal that spells a well-known name is kept as it is. What
else arrives can be told apart by its name: it is what is read from the name, and whoever asks for
the variant takes the same way as who asks for the name. -/
theorem methods_arrive_canonical :
    (∀ delivered seen, Arrives delivered seen ↔ SameMethod delivered seen) ∧
    (∀ literal ∈ BufferedHttp.Method.knownNames, ∀ seen,
      (Arrives (.other literal) seen ↔ seen = .other literal) ∧
        (Arrives (.other literal) seen → seen ≠ .ofName seen.name)) ∧
    ∀ delivered seen delivered' seen', Arrives delivered seen → Arrives delivered' seen' →
      delivered.Canonical → delivered'.Canonical →
      seen = .ofName delivered.name ∧ seen = .ofName seen.name ∧
        (seen = seen' ↔ seen.name = seen'.name) ∧
        (∀ arms : List String, (arms.map BufferedHttp.Method.ofName).findIdx? (seen = ·) =
          arms.findIdx? (seen.name = ·)) ∧
        ∀ request : Request, request.method = seen →
          Demo.route request = Demo.routeByName request := by
  refine ⟨fun _ _ => arrives_iff, ?_, ?_⟩
  · intro literal hKnown seen
    refine ⟨arrives_other_iff, ?_⟩
    intro hArrives hRead
    obtain rfl := arrives_other_iff.mp hArrives
    exact BufferedHttp.Method.ofName_ne_other_of_mem hKnown literal hRead.symm
  · intro delivered seen delivered' seen' hArrives hArrives' hCanonical hCanonical'
    have hSame := arrives_iff.mp hArrives
    have hSeen : seen.Canonical := hSame.canonical hCanonical
    have hSeen' : seen'.Canonical := (arrives_iff.mp hArrives').canonical hCanonical'
    have hRead : seen = .ofName seen.name := hSeen.ofName_name.symm
    refine ⟨?_, hRead, hSeen.eq_iff hSeen', hSeen.findIdx?_eq, ?_⟩
    · rwa [← hSame.name_eq]
    · rintro request rfl
      exact Demo.route_eq_routeByName hSeen

/-- A literal in other case is no well-known name. -/
theorem lower_case_literal_arrives_canonical :
    Arrives .get .get ∧ Arrives (.other "get") (.other "get") ∧
      Method.Canonical .get ∧ Method.Canonical (.other "get") ∧
      BufferedHttp.Method.other "get" = .ofName "get" ∧
      Demo.route ⟨.other "get", "/", .empty, some []⟩ =
        Demo.routeByName ⟨.other "get", "/", .empty, some []⟩ := by
  have hGet : Method.Canonical .get := nofun
  have hOther : Method.Canonical (.other "get") := by
    rintro _ ⟨⟩
    decide
  obtain ⟨hArrives, -, hCanonical⟩ := methods_arrive_canonical
  have hArrivesGet := (hArrives .get .get).mpr .get
  have hArrivesOther := (hArrives (.other "get") (.other "get")).mpr (.other "get")
  obtain ⟨hRead, -, -, -, hRoute⟩ :=
    hCanonical _ _ _ _ hArrivesOther hArrivesGet hOther hGet
  exact ⟨hArrivesGet, hArrivesOther, hGet, hOther, hRead, hRoute _ rfl⟩

/-- The literal `GET` arrives as a literal. It has the name of another method that arrives, and the
demo does not find the root by it. -/
theorem known_name_arrives_as_literal :
    Arrives .get .get ∧ Arrives (.other "GET") (.other "GET") ∧
      BufferedHttp.Method.other "GET" ≠ .ofName (Method.other "GET").name ∧
      BufferedHttp.Method.other "GET" ≠ .get ∧
      (BufferedHttp.Method.other "GET").name = BufferedHttp.Method.get.name ∧
      Demo.route ⟨.other "GET", "/", .empty, some []⟩ = .done (.ok (.text 404 "not found\n")) ∧
      Demo.routeByName ⟨.other "GET", "/", .empty, some []⟩ =
        .done (.ok (.text 200 "hello from spindle-http\n")) :=
  ⟨arrives_iff.mpr .get, arrives_iff.mpr (.other "GET"), by decide, by decide, rfl, rfl, rfl⟩

end Component

end BufferedHttp
