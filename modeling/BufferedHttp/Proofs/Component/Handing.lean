import BufferedHttp.Proofs.Component.Matched

/-!
# A request is handed to the host whole or not at all

On the way to the host a request is put together by calls that the host may refuse one by one. The
first refusal ends the way with its error, and the host is not asked to handle anything; when no
call is refused, the host handles once what it was given, with nothing left out.
-/

namespace BufferedHttp.Component

variable {α β : Type} {P : α → Prop} {w w' : World}

/-! ## What the host is asked -/

/-- A call, and the error that its refusal becomes if the host refuses it. -/
structure Ask where
  call : Call
  refusal : Option Error

/-- The calls that are made: they go on up to the first refusal. -/
def reached : List Ask → List Call
  | [] => []
  | ask :: asks => ask.call :: if ask.refusal.isSome then [] else reached asks

def refusal? (refused : List Setter) (setter : Setter) (e : Error) : Option Error :=
  if setter ∈ refused then some e else none

def askTimeout (refused : List Setter) (call : Call) (setter : Setter) (name : String)
    (d : Option Duration) : List Ask :=
  d.toList.map fun _ =>
    ⟨call, refusal? refused setter (.host (name ++ " timeout not supported by host"))⟩

/-- The parts of a request, in the order in which they are set. -/
def askParts (refused : List Setter) (head : RequestHead) : List Ask :=
  [⟨.setMethod, refusal? refused .method (rejected "method" head.method.name)⟩,
    ⟨.setScheme, refusal? refused .scheme (rejected "scheme" head.scheme.name)⟩,
    ⟨.setAuthority, refusal? refused .authority (rejected "authority" head.authority)⟩,
    ⟨.setPathWithQuery, refusal? refused .path (rejected "path" head.pathWithQuery)⟩]

/-- The timeouts that are there, in the order in which they are set. -/
def askTimeouts (refused : List Setter) (options : RequestOptions) : List Ask :=
  askTimeout refused .setConnectTimeout .connect "connect" options.connect ++
    (askTimeout refused .setFirstByteTimeout .firstByte "first-byte" options.firstByte ++
      askTimeout refused .setBetweenBytesTimeout .betweenBytes "between-bytes"
        options.betweenBytes)

def askOptions (refused : List Setter) : Option RequestOptions → List Ask
  | none => []
  | some options => ⟨.newOptions, none⟩ :: askTimeouts refused options

/-- All that the host is asked before it is to handle a request. -/
def World.asks (w : World) (head : RequestHead) (options : Option RequestOptions) : List Ask :=
  ⟨.fieldsFromList, (head.headers.findSome? w.fieldError?).map fun e => .header e.text⟩ ::
    ⟨.newRequest, none⟩ :: (askParts w.refused head ++ askOptions w.refused options)

theorem reached_append_of_none {asks : List Ask} (h : asks.findSome? Ask.refusal = none)
    (more : List Ask) : reached (asks ++ more) = reached asks ++ reached more := by
  induction asks with
  | nil => rfl
  | cons ask asks ih =>
    rw [List.findSome?_eq_none_iff, List.forall_mem_cons, ← List.findSome?_eq_none_iff] at h
    simp only [List.cons_append, reached, h.1, Option.isSome_none, ih h.2]
    rfl

theorem reached_append_of_some {asks : List Ask} {e : Error}
    (h : asks.findSome? Ask.refusal = some e) (more : List Ask) :
    reached (asks ++ more) = reached asks := by
  induction asks with
  | nil => cases h
  | cons ask asks ih =>
    rw [List.findSome?_cons] at h
    cases hAsk : ask.refusal with
    | some e' => simp only [List.cons_append, reached, hAsk, Option.isSome_some, if_true]
    | none =>
      rw [hAsk] at h
      simp only [List.cons_append, reached, hAsk, Option.isSome_none, ih h]

theorem reached_of_none {asks : List Ask} (h : asks.findSome? Ask.refusal = none) :
    reached asks = asks.map Ask.call := by
  induction asks with
  | nil => rfl
  | cons ask asks ih =>
    rw [List.findSome?_eq_none_iff, List.forall_mem_cons, ← List.findSome?_eq_none_iff] at h
    simp only [reached, h.1, Option.isSome_none, ih h.2, List.map_cons]
    rfl

def Entry.call? : Entry → Option Call
  | call c => some c
  | _ => none

/-- The calls that were made to the host, in order. -/
def World.calls (w : World) : List Call := w.ledger.filterMap Entry.call?

/-- Calls were made and handles came and went, but the host got no request. -/
structure Made (calls : List Call) (w w' : World) : Prop where
  settled : ∃ ledger nextId fieldLists, w' = { w with ledger, nextId, fieldLists }
  calls : w'.calls = w.calls ++ calls

namespace Made

variable {calls : List Call}

theorem refl (w : World) : Made [] w w := ⟨⟨_, _, _, rfl⟩, (List.append_nil _).symm⟩

theorem trans {w₁ w₂ w₃ : World} {calls' : List Call} (h : Made calls w₁ w₂)
    (h' : Made calls' w₂ w₃) : Made (calls ++ calls') w₁ w₃ := by
  obtain ⟨⟨_, _, _, rfl⟩, hCalls⟩ := h
  obtain ⟨⟨ledger, nextId, fieldLists, rfl⟩, hCalls'⟩ := h'
  exact ⟨⟨ledger, nextId, fieldLists, rfl⟩, by rw [hCalls', hCalls, List.append_assoc]⟩

/-- What is entered without a call, with the numbering of handles as it comes. -/
theorem enter (h : Made calls w w') {e : Entry} (hQuiet : e.call? = none) (nextId : Nat) :
    Made calls w { w'.enter e with nextId } := by
  obtain ⟨⟨ledger, _, fieldLists, rfl⟩, hCalls⟩ := h
  refine ⟨⟨ledger ++ [e], nextId, fieldLists, rfl⟩, Eq.trans ?_ hCalls⟩
  simp only [World.calls, World.enter, List.filterMap_append, List.filterMap_cons_none hQuiet,
    List.filterMap_nil, List.append_nil]

theorem call (h : Made calls w w') (c : Call) : Made (calls ++ [c]) w (w'.call c) := by
  obtain ⟨⟨ledger, nextId, fieldLists, rfl⟩, hCalls⟩ := h
  refine ⟨⟨ledger ++ [.call c], nextId, fieldLists, rfl⟩, ?_⟩
  rw [← List.append_assoc, ← hCalls]
  exact List.filterMap_append

theorem listed (h : Made calls w w') : Made (calls ++ [.fieldsFromList]) w w'.listed := by
  obtain ⟨⟨ledger, nextId, _, hSettled⟩, hCalls⟩ := h.call .fieldsFromList
  exact ⟨⟨ledger, nextId, w'.fieldLists + 1, by rw [World.listed, hSettled]⟩, hCalls⟩

theorem obtain (h : Made calls w w') (kind : Kind) (owner : Option Handle) :
    Made calls w (w'.obtain kind owner).2 := h.enter rfl _

theorem release (h : Made calls w w') (x : Handle) : Made calls w (w'.release x) :=
  h.enter rfl w'.nextId

theorem give (h : Made calls w w') (x : Handle) : Made calls w (w'.give x) :=
  h.enter rfl w'.nextId

theorem refused (h : Made calls w w') : w'.refused = w.refused := by
  obtain ⟨⟨_, _, _, rfl⟩, -⟩ := h
  rfl

end Made

/-- An action asks the host this, in order, and ends with the first refusal, or with a result of
the kind `P`. -/
inductive Asks (asks : List Ask) (P : α → Prop) (w : World) :
    EStateM.Result Error World α → Prop where
  | ok {a : α} {w' : World} (hAccepted : asks.findSome? Ask.refusal = none) (hValue : P a)
      (h : Made (reached asks) w w') : Asks asks P w (.ok a w')
  | error {e : Error} {w' : World} (hRefused : asks.findSome? Ask.refusal = some e)
      (h : Made (reached asks) w w') : Asks asks P w (.error e w')

namespace Asks

variable {asks asks' : List Ask} {Q : β → Prop}

theorem bind {act : Action World α} {next : α → Action World β} (h : Asks asks P w (act w))
    (hNext : ∀ a w', P a → w'.refused = w.refused → Asks asks' Q w' (next a w')) :
    Asks (asks ++ asks') Q w ((act >>= next) w) := by
  cases hAct : act w with
  | ok a w₁ =>
    rw [hAct] at h
    rw [Action.bind_of_ok hAct]
    cases h with
    | ok hAccepted hValue h =>
      have hReached := reached_append_of_none hAccepted asks'
      have hFirst : (asks ++ asks').findSome? Ask.refusal = asks'.findSome? Ask.refusal := by
        rw [List.findSome?_append, hAccepted, Option.none_or]
      have hSecond := hNext a w₁ hValue h.refused
      generalize next a w₁ = r at hSecond ⊢
      cases hSecond with
      | ok hAccepted' hValue' h' =>
        exact .ok (hFirst.trans hAccepted') hValue' (hReached ▸ h.trans h')
      | error hRefused' h' => exact .error (hFirst.trans hRefused') (hReached ▸ h.trans h')
  | error e w₁ =>
    rw [hAct] at h
    rw [Action.bind_of_error hAct]
    cases h with
    | error hRefused h =>
      -- What stands behind a refusal is not asked.
      refine .error ?_ (reached_append_of_some hRefused asks' ▸ h)
      rw [List.findSome?_append, hRefused, Option.some_or]

theorem pure {a : α} (hValue : P a) : Asks [] P w ((pure a : Action World α) w) :=
  .ok rfl hValue (.refl w)

theorem onFailure {act : Action World α} (h : Asks asks P w (act w)) (x : Handle) :
    Asks asks P w (act.onFailure (fun w => w.release x) w) := by
  cases hAct : act w with
  | ok a w₁ =>
    rw [Action.onFailure_of_ok hAct, ← hAct]
    exact h
  | error e w₁ =>
    rw [hAct] at h
    rw [Action.onFailure_of_error hAct]
    cases h with
    | error hRefused h => exact .error hRefused (h.release x)

end Asks

/-! ## Putting a request together -/

theorem asks_newFields (fields : FieldList) :
    Asks [⟨.fieldsFromList, (fields.findSome? w.fieldError?).map fun e => .header e.text⟩]
      (fun f => f.entries = fields) w (newFields fields w) := by
  have hListed := (Made.refl w).listed
  cases hRefused : fields.findSome? w.fieldError? with
  | none =>
    rw [newFields_of_accepted hRefused]
    exact .ok rfl rfl (hListed.obtain .fields none)
  | some e =>
    rw [newFields_of_refused hRefused]
    exact .error rfl hListed

theorem asks_newRequest (f : Fields) :
    Asks [⟨.newRequest, none⟩] (fun r => ∃ h, r = ⟨h, f.entries, .get, none, none, none⟩) w
      ((modifyGet fun w => w.newRequest f : Action World OutgoingRequest) w) := by
  have hGiven := ((Made.refl w).call .newRequest).give f.handle
  exact .ok rfl ⟨_, rfl⟩ (hGiven.obtain .outgoingRequest none)

theorem asks_set {refused : List Setter} (hRefused : w.refused = refused) (e : Error) (c : Call)
    (setter : Setter) {changed : α} (hChanged : P changed) :
    Asks [⟨c, refusal? refused setter e⟩] P w (accepted e (fun w => w.set c setter changed) w) := by
  subst hRefused
  have hCalled := (Made.refl w).call c
  by_cases hMem : setter ∈ w.refused
  · have hSet : w.set c setter changed = (none, w.call c) := by rw [World.set, if_pos hMem]
    rw [accepted_of_none (fun w => w.set c setter changed) hSet, refusal?, if_pos hMem]
    exact .error rfl hCalled
  · have hSet : w.set c setter changed = (some changed, w.call c) := by
      rw [World.set, if_neg hMem]
    rw [accepted_of_some (fun w => w.set c setter changed) hSet, refusal?, if_neg hMem]
    exact .ok rfl hChanged hCalled

theorem asks_fillRequest {refused : List Setter} (hRefused : w.refused = refused)
    (r : OutgoingRequest) (head : RequestHead) :
    Asks (askParts refused head)
      (fun filled => filled = ⟨r.handle, r.headers, .ofMessage head.method,
        some (.ofMessage head.scheme), some head.authority, some head.pathWithQuery⟩) w
      (fillRequest r head w) := by
  refine (asks_set (P := fun r' => r' = { r with method := .ofMessage head.method }) hRefused _
    .setMethod .method rfl).bind ?_
  rintro _ w₁ rfl h₁
  refine (asks_set
    (P := fun r' => r' = { r with
      method := .ofMessage head.method, scheme := some (.ofMessage head.scheme) })
    (h₁.trans hRefused) _ .setScheme .scheme rfl).bind ?_
  rintro _ w₂ rfl h₂
  refine (asks_set
    (P := fun r' => r' = { r with
      method := .ofMessage head.method, scheme := some (.ofMessage head.scheme),
      authority := some head.authority })
    (h₂.trans (h₁.trans hRefused)) _ .setAuthority .authority rfl).bind ?_
  rintro _ w₃ rfl h₃
  exact asks_set (h₃.trans (h₂.trans (h₁.trans hRefused))) _ .setPathWithQuery .path rfl

theorem asks_setTimeout {refused : List Setter} {c : Call} {setter : Setter} {name : String}
    {set : World → Options → UInt64 → Option Options × World} {o : Options} {P : Options → Prop}
    (d : Option Duration) (hNone : d = none → P o)
    (hSome : ∀ d', d = some d' → ∀ e, Asks [⟨c, refusal? refused setter e⟩] P w
      (accepted e (fun w => set w o d'.toNanoseconds) w)) :
    Asks (askTimeout refused c setter name d) P w (setTimeout name set o d w) := by
  cases d with
  | none => exact .pure (hNone rfl)
  | some d => exact hSome d rfl _

theorem asks_newOptions {refused : List Setter} (hRefused : w.refused = refused)
    (options : RequestOptions) :
    Asks (askOptions refused (some options)) (fun o => o.timeouts = .ofOptions options) w
      (newOptions options w) := by
  have hNew : Asks [⟨.newOptions, none⟩] (fun o => o.timeouts = ⟨none, none, none⟩) w
      ((modifyGet World.newOptions : Action World Options) w) :=
    .ok rfl rfl (((Made.refl w).call .newOptions).obtain .requestOptions none)
  -- Each setter keeps the timeouts that were set before, and one that is absent sets nothing.
  refine hNew.bind ?_
  rintro o w₀ hTimeouts h₀
  refine Asks.onFailure ?_ o.handle
  refine (asks_setTimeout
    (P := fun o => o.timeouts = ⟨options.connect.map Duration.toNanoseconds, none, none⟩)
    options.connect ?_ ?_).bind ?_
  · intro hd
    rw [hTimeouts, hd, Option.map_none]
  · intro d hd e
    refine asks_set (h₀.trans hRefused) e .setConnectTimeout .connect ?_
    rw [hTimeouts, hd, Option.map_some]
  rintro o w₁ hTimeouts h₁
  refine (asks_setTimeout
    (P := fun o => o.timeouts = ⟨options.connect.map Duration.toNanoseconds,
      options.firstByte.map Duration.toNanoseconds, none⟩) options.firstByte ?_ ?_).bind ?_
  · intro hd
    rw [hTimeouts, hd, Option.map_none]
  · intro d hd e
    refine asks_set (h₁.trans (h₀.trans hRefused)) e .setFirstByteTimeout .firstByte ?_
    rw [hTimeouts, hd, Option.map_some]
  rintro o w₂ hTimeouts h₂
  refine asks_setTimeout options.betweenBytes ?_ ?_
  · intro hd
    rw [hTimeouts, Timeouts.ofOptions, hd, Option.map_none]
  · intro d hd e
    refine asks_set (h₂.trans (h₁.trans (h₀.trans hRefused))) e .setBetweenBytesTimeout
      .betweenBytes ?_
    rw [hTimeouts, Timeouts.ofOptions, hd, Option.map_some]

theorem asks_newOptions? {refused : List Setter} (hRefused : w.refused = refused)
    (options : Option RequestOptions) :
    Asks (askOptions refused options)
      (fun o => o.map Options.timeouts = options.map Timeouts.ofOptions) w
      (newOptions? options w) := by
  cases options with
  | none => exact .pure rfl
  | some options =>
    have hAsks := asks_newOptions hRefused options
    rw [← List.append_nil (askOptions _ _)]
    refine hAsks.bind ?_
    rintro o w₁ hTimeouts -
    exact .pure (by rw [Option.map_some, Option.map_some, hTimeouts])

/-- A request with its options, before the host is to handle it. -/
def prepare (head : RequestHead) (options : Option RequestOptions) :
    Action World (OutgoingRequest × Option Options) := do
  let fields ← newFields head.headers
  let r ← modifyGet fun w => w.newRequest fields
  Action.onFailure (fun w => w.release r.handle) do
    let r ← fillRequest r head
    let o ← newOptions? options
    return (r, o)

/-- The call that has the host handle a request. -/
def submit (r : OutgoingRequest) (o : Option Options) : Action World Future :=
  .ofCall fun w =>
    match w.handle r o with
    | (.ok f, w) => (.ok f, w)
    | (.error code, w) => (.error (.transport code.text), w)

theorem handleRequest_eq (head : RequestHead) (options : Option RequestOptions) :
    handleRequest head options = prepare head options >>= fun p => submit p.1 p.2 := by
  rw [prepare]
  simp only [bind_assoc]
  rfl

theorem asks_prepare (w : World) (head : RequestHead) (options : Option RequestOptions) :
    Asks (w.asks head options) (fun p => World.sentOf p.1 p.2 = .ofHead head options) w
      (prepare head options w) := by
  rw [World.asks, ← List.singleton_append]
  refine (asks_newFields head.headers).bind ?_
  rintro f w₁ hEntries h₁
  rw [← List.singleton_append]
  refine (asks_newRequest f).bind ?_
  rintro _ w₂ ⟨h, rfl⟩ h₂
  refine Asks.onFailure ?_ h
  refine (asks_fillRequest (h₂.trans h₁) _ head).bind ?_
  rintro _ w₃ rfl h₃
  rw [← List.append_nil (askOptions _ _)]
  refine (asks_newOptions? (h₃.trans (h₂.trans h₁)) options).bind ?_
  rintro o w₄ hTimeouts -
  exact .pure (by rw [World.sentOf, Sent.ofHead, hTimeouts, hEntries])

/-! ## Handing it over -/

/-- What the host says to a request that it is to handle. -/
def World.verdict (w : World) : Except ErrorCode Reply :=
  match w.replies with
  | [] => .error (.internalError (some "no reply queued"))
  | .refused code :: _ => .error code
  | reply :: _ => .ok reply

theorem calls_handOver (r : OutgoingRequest) (o : Option Options) :
    (w.handOver r o).calls = w.calls ++ [.handle] := by
  have hGiven := ((Made.refl w).call .handle).give r.handle
  cases o with
  | none => exact hGiven.calls
  | some o => exact (hGiven.give o.handle).calls

/-- The host has the request, and what it says becomes the future or an error of transport. -/
theorem submit_spec (w : World) (r : OutgoingRequest) (o : Option Options) :
    ∃ w', w'.sent = w.sent ++ [World.sentOf r o] ∧ w'.calls = w.calls ++ [.handle] ∧
      match w.verdict with
      | .ok reply => ∃ f, submit r o w = .ok f w' ∧ f.reply = reply ∧ f.pending = w.pending
      | .error code => submit r o w = .error (.transport code.text) w' := by
  cases hReplies : w.replies with
  | nil =>
    refine ⟨w.handOver r o, rfl, calls_handOver r o, ?_⟩
    simp only [World.verdict, hReplies, submit, Action.ofCall, handle_of_nil hReplies]
  | cons reply replies =>
    by_cases hRefused : ∃ code, reply = .refused code
    · obtain ⟨code, rfl⟩ := hRefused
      refine ⟨{ w.handOver r o with replies }, rfl, calls_handOver r o, ?_⟩
      simp only [World.verdict, hReplies, submit, Action.ofCall, handle_of_refused hReplies]
    · have hHandle := handle_of_reply (r := r) (o := o) hReplies fun code hCode =>
        hRefused ⟨code, hCode⟩
      refine ⟨({ w.handOver r o with replies }.obtain .futureIncomingResponse none).2, rfl, ?_, ?_⟩
      · rw [← calls_handOver r o]
        exact ((Made.refl { w.handOver r o with replies }).obtain _ none).calls.trans
          (List.append_nil _)
      · have hVerdict : w.verdict = .ok reply := by
          rw [World.verdict, hReplies]
          cases reply with
          | refused code => exact absurd ⟨code, rfl⟩ hRefused
          | failed | taken | response => rfl
        rw [hVerdict]
        refine ⟨⟨⟨.futureIncomingResponse, (w.handOver r o).nextId⟩, reply, w.pending⟩, ?_, rfl,
          rfl⟩
        rw [submit, Action.ofCall, hHandle]

/-- A request reaches the host when none of the calls that put it together is refused. -/
theorem handleRequest_of_accepted {head : RequestHead} {options : Option RequestOptions}
    (h : (w.asks head options).findSome? Ask.refusal = none) :
    ∃ w', w'.sent = w.sent ++ [.ofHead head options] ∧
      w'.calls = w.calls ++ (w.asks head options).map Ask.call ++ [.handle] ∧
      match w.verdict with
      | .ok reply =>
        ∃ f, handleRequest head options w = .ok f w' ∧ f.reply = reply ∧ f.pending = w.pending
      | .error code => handleRequest head options w = .error (.transport code.text) w' := by
  have hPrepared := asks_prepare w head options
  rw [handleRequest_eq]
  cases hRun : prepare head options w with
  | error e w₁ =>
    rw [hRun] at hPrepared
    cases hPrepared with
    | error hRefused => cases h.symm.trans hRefused
  | ok p w₁ =>
    rw [hRun] at hPrepared
    rw [Action.bind_of_ok hRun]
    cases hPrepared with
    | ok hAccepted hSent hMade =>
      obtain ⟨w', hSentHost, hCalls, hOutcome⟩ := submit_spec w₁ p.1 p.2
      refine ⟨w', ?_, ?_, ?_⟩
      · obtain ⟨⟨_, _, _, rfl⟩, -⟩ := hMade
        rw [hSentHost, hSent]
      · rw [hCalls, hMade.calls, reached_of_none h]
      · obtain ⟨⟨_, _, _, rfl⟩, -⟩ := hMade
        exact hOutcome

theorem sent_of_accepted {head : RequestHead} {options : Option RequestOptions}
    (h : (w.asks head options).findSome? Ask.refusal = none) :
    ((handleRequest head options).after w).sent = w.sent ++ [.ofHead head options] := by
  obtain ⟨w', hSent, -, hOutcome⟩ := handleRequest_of_accepted h
  cases hVerdict : w.verdict with
  | error code =>
    rw [hVerdict] at hOutcome
    rw [Action.after, hOutcome, hSent]
  | ok reply =>
    rw [hVerdict] at hOutcome
    obtain ⟨f, hRun, -⟩ := hOutcome
    rw [Action.after, hRun, hSent]

end BufferedHttp.Component
