import BufferedHttp.Proofs.Component.Answering

/-!
# Handles unwind child first

Whatever fails in a run of serving or sending on a component host, every handle that was obtained
ends once, and none before those that came from it.
-/

namespace BufferedHttp.Component

open Host

variable {live live₁ live' : Live} {w w₁ w' : World}

/-- Between two worlds the ledger grows by a run, and no out-parameter is answered. -/
structure Unwinds (live : Live) (w : World) (live' : Live) (w' : World) : Prop where
  answers : w'.answers = w.answers
  entries : ∃ entries, w'.ledger = w.ledger ++ entries ∧
    Run ⟨w.nextId, live⟩ entries ⟨w'.nextId, live'⟩

theorem Carries.unwinds (h : Carries live w live' w') : Unwinds live w live' w' := by
  obtain ⟨hAnswers, entries, hLedger, -, hRun⟩ := h
  exact ⟨hAnswers, entries, hLedger, hRun⟩

theorem Unwinds.trans (hFirst : Unwinds live w live₁ w₁) (hSecond : Unwinds live₁ w₁ live' w') :
    Unwinds live w live' w' := by
  obtain ⟨hAnswers₁, first, hLedger₁, hRun₁⟩ := hFirst
  obtain ⟨hAnswers₂, second, hLedger₂, hRun₂⟩ := hSecond
  refine ⟨hAnswers₂.trans hAnswers₁, first ++ second, ?_, hRun₁.append hRun₂⟩
  rw [hLedger₂, hLedger₁, List.append_assoc]

theorem unwinds_release {x : Handle} {owner : Option Handle} (hChildless : Childless x live) :
    Unwinds ((x, owner) :: live) w live (w.release x) := by
  have hStep : Step ⟨w.nextId, [] ++ (x, owner) :: live⟩ (.released x) ⟨w.nextId, [] ++ live⟩ :=
    .release hChildless
  exact ⟨rfl, [.released x], rfl, .cons hStep (.nil _)⟩

theorem since_ledger {entries : List Entry} (h : w'.ledger = w.ledger ++ entries) :
    (w'.since w).ledger = entries := by
  rw [World.since, h, List.drop_left]

theorem Carries.orderly (h : Carries [] w [] w') : Orderly (w'.since w).ledger := by
  obtain ⟨-, entries, hLedger, -, hRun⟩ := h
  rw [since_ledger hLedger]
  exact orderly_of_run hRun

/-! ## Answering a request that came in -/

/-- How a request that came in and its out-parameter are held. -/
def arrived (request : IncomingRequest) (out : Outparam) : Live :=
  [(out.handle, none), (request.handle, none)]

section Serving

variable (mind : World → Stance) (config : Config) (handler : Handler) {request : IncomingRequest}

theorem carries_answer (hRooted : Rooted live) (received : Except Error Request) (w : World) :
    Carries live w live (answer (handler.on (wavering mind)) received w).2 := by
  cases received with
  | error e => exact .refl live w
  | ok shown => exact carries_run mind hRooted (handler shown) w

theorem leaves_answerRequest (hRequest : request.handle.kind = .incomingRequest)
    (hMem : (request.handle, none) ∈ live) (hRooted : Rooted live) :
    Leaves live w (fun _ live' => live' = live) live
      ((wavering mind).answerRequest config (handler.on (wavering mind)) request w) := by
  refine (Leaves.ofExcept _).bind ?_
  rintro limits _ w rfl
  refine (leaves_receiveRequest mind limits hRequest hMem hRooted).bind ?_
  rintro received _ w rfl
  exact .done (carries_answer mind handler hRooted received w)

/-- How the head of an answer comes out: the response is dropped with its body gone, if there is
one, or both are held. -/
inductive Prepared (live : Live) (w : World) :
    EStateM.Result Error World (OutgoingResponse × OutgoingBody) → Prop where
  | lost {e : Error} {w' : World} (h : Unwinds live w live w') : Prepared live w (.error e w')
  | ready {response : OutgoingResponse} {body : OutgoingBody} {w' : World}
      (hResponse : response.handle.kind = .outgoingResponse)
      (hBody : body.handle.kind = .outgoingBody)
      (h : Carries live w
        ((body.handle, some response.handle) :: (response.handle, none) :: live) w') :
      Prepared live w (.ok (response, body) w')

theorem prepared (hRooted : Rooted live) (out : Outparam) (answer : Answer) (w : World) :
    Prepared live w ((wavering mind).prepare out answer w) := by
  have hNew := leaves_newResponse (w := w) mind hRooted out answer.fields
  generalize hResponse : (wavering mind).newResponse out answer.fields w = created at hNew
  cases hNew with
  | error hKept =>
    rw [Host.prepare, Action.bind_of_error hResponse]
    exact .lost hKept.unwinds
  | @ok response _ w₁ hValue hHeld =>
    obtain ⟨hKind, rfl⟩ := hValue
    have hHead := leaves_finishHead (w := w₁) mind hRooted hKind answer
    generalize hFinish : (wavering mind).finishHead response answer w₁ = finished at hHead
    rw [Host.prepare, Action.bind_of_ok hResponse]
    cases hHead with
    | error hFailed =>
      rw [Action.onFailure_of_error hFinish]
      have hChildless : Childless response.handle live := (hRooted.barren _).childless
      exact .lost ((hHeld.trans hFailed).unwinds.trans (unwinds_release hChildless))
    | ok hValue hPrepared =>
      obtain ⟨hHandle, hBody, rfl⟩ := hValue
      rw [Action.onFailure_of_ok hFinish]
      rw [← hHandle] at hKind hPrepared hHeld
      exact .ready hKind hBody (hHeld.trans hPrepared)

end Serving

/-! ## The end of serving -/

/-- The handles of a request that came in are all gone, and its out-parameter has one answer. When
a response was dropped, that was before, and the answer is the error. -/
structure Unwound (out : Outparam) (w w' : World) : Prop where
  orderly : Orderly (w'.since w).ledger
  given : .given out.handle ∈ (w'.since w).ledger
  answered : ∃ answer, w'.answers = w.answers ++ [answer]
  abandoned : ∀ response, response.kind = .outgoingResponse →
    .released response ∈ (w'.since w).ledger →
    w'.answers = w.answers ++ [.error (.internalError (some abortMessage))] ∧
      Precedes (w'.since w).ledger (· = .released response) (· = .given out.handle)

section Unwound

variable {request : IncomingRequest} {out : Outparam}

theorem precedes_of_notMem {first last : List Entry} {e e' : Entry} (hFirst : e ∈ first)
    (hNotMem : e' ∉ first) : Precedes (first ++ last) (· = e) (· = e') := by
  rintro before _ after hSplit rfl
  refine ⟨e, ?_, rfl⟩
  rcases List.append_eq_append_iff.mp hSplit with ⟨middle, rfl, -⟩ | ⟨middle, rfl, hRest⟩
  · exact List.mem_append_left _ hFirst
  · cases middle with
    | nil => rwa [List.append_nil] at hFirst
    | cons x middle =>
      rw [List.cons_append, List.cons.injEq] at hRest
      rw [hRest.1] at hNotMem
      exact absurd (List.mem_append_right _ List.mem_cons_self) hNotMem

/-- The end of a request whose out-parameter gets the error. -/
theorem run_rejected (hOut : out.handle.kind = .responseOutparam) (next : Nat) :
    Run ⟨next, arrived request out⟩
      [.call .outparamSet, .given out.handle, .released request.handle] ⟨next, []⟩ := by
  have hGive : Step ⟨next, [] ++ (out.handle, none) :: [(request.handle, none)]⟩
      (.given out.handle) ⟨next, [] ++ [(request.handle, none)]⟩ :=
    .give (by rw [hOut]; rfl) (fun _ => by simp [Childless]) (by simp [hOut])
  have hRelease : Step ⟨next, [] ++ (request.handle, none) :: []⟩
      (.released request.handle) ⟨next, [] ++ []⟩ := .release (by simp [Childless])
  exact .cons (.call _ _) (.cons hGive (.cons hRelease (.nil _)))

theorem unwound_of_rejected (hOut : out.handle.kind = .responseOutparam)
    (hRequest : request.handle.kind = .incomingRequest)
    (h : Unwinds [] w (arrived request out) w') :
    Unwound out w ((w'.outparamSet out (.error (.internalError (some abortMessage)))).release
      request.handle) := by
  obtain ⟨hAnswers, entries, hLedger, hRun⟩ := h
  have hAll : ((w'.outparamSet out (.error (.internalError (some abortMessage)))).release
      request.handle).ledger =
      w.ledger ++
        (entries ++ [.call .outparamSet, .given out.handle, .released request.handle]) := by
    simp [World.outparamSet, World.call, World.give, World.release, World.enter, hLedger]
  have hAnswered : ((w'.outparamSet out (.error (.internalError (some abortMessage)))).release
      request.handle).answers = w.answers ++ [.error (.internalError (some abortMessage))] := by
    rw [← hAnswers]
    rfl
  constructor
  · rw [since_ledger hAll]
    exact orderly_of_run (hRun.append (run_rejected hOut _))
  · rw [since_ledger hAll]
    simp
  · exact ⟨_, hAnswered⟩
  · intro response hKind hMem
    refine ⟨hAnswered, ?_⟩
    rw [since_ledger hAll] at hMem ⊢
    have hUnended := (countP_ends_of_live hRun List.mem_cons_self).1
    apply precedes_of_notMem
    · rcases List.mem_append.mp hMem with hBefore | hLast
      · exact hBefore
      · simp only [List.mem_cons, List.not_mem_nil, reduceCtorEq, false_or, or_false,
          Entry.released.injEq] at hLast
        rw [hLast, hRequest] at hKind
        cases hKind
    · intro hGiven
      exact absurd (by simp [Entry.ends]) (List.countP_eq_zero.mp hUnended _ hGiven)

/-- The out-parameter takes the response from under its body. -/
theorem run_resolved {body response : Handle} (hOut : out.handle.kind = .responseOutparam)
    (hResponse : response.kind = .outgoingResponse) (next : Nat) :
    Run ⟨next, (body, some response) :: (response, none) :: arrived request out⟩
      [.call .outparamSet, .given response, .given out.handle]
      ⟨next, [(body, some response), (request.handle, none)]⟩ := by
  have hResponseGiven : Step
      ⟨next, [(body, some response)] ++ (response, none) :: arrived request out⟩
      (.given response) ⟨next, [(body, some response)] ++ arrived request out⟩ :=
    .give (by rw [hResponse]; rfl) (fun h => absurd hResponse h) (by simp [hResponse])
  have hNe : response ≠ out.handle := by
    rintro rfl
    rw [hOut] at hResponse
    cases hResponse
  have hOutGiven : Step
      ⟨next, [(body, some response)] ++ (out.handle, none) :: [(request.handle, none)]⟩
      (.given out.handle) ⟨next, [(body, some response)] ++ [(request.handle, none)]⟩ :=
    .give (by rw [hOut]; rfl) (fun _ => by simp [Childless, hNe]) (by simp [hOut])
  exact .cons (.call _ _) (.cons hResponseGiven (.cons hOutGiven (.nil _)))

theorem unwound_of_resolved {response : OutgoingResponse} {body : OutgoingBody}
    (hOut : out.handle.kind = .responseOutparam)
    (hRequest : request.handle.kind = .incomingRequest)
    (hResponse : response.handle.kind = .outgoingResponse)
    (h : Carries [] w
      ((body.handle, some response.handle) :: (response.handle, none) :: arrived request out) w₁)
    (hBody : Carries [(body.handle, some response.handle), (request.handle, none)]
      (w₁.outparamSet out (.ok response)) [(request.handle, none)] w') :
    Unwound out w (w'.release request.handle) := by
  obtain ⟨hAnswers₁, first, hLedger₁, hKept₁, hRun₁⟩ := h
  obtain ⟨hAnswers₂, second, hLedger₂, hKept₂, hRun₂⟩ := hBody
  have hLast : Run ⟨w'.nextId, [(request.handle, none)]⟩ [.released request.handle]
      ⟨w'.nextId, []⟩ := by
    have hRelease : Step ⟨w'.nextId, [] ++ (request.handle, none) :: []⟩
        (.released request.handle) ⟨w'.nextId, [] ++ []⟩ := .release (by simp [Childless])
    exact .cons hRelease (.nil _)
  have hAll : (w'.release request.handle).ledger = w.ledger ++
      ((first ++ [.call .outparamSet, .given response.handle, .given out.handle]) ++
        (second ++ [.released request.handle])) := by
    rw [World.release, World.enter, hLedger₂]
    simp [World.outparamSet, World.call, World.give, World.enter, hLedger₁]
  constructor
  · rw [since_ledger hAll]
    exact orderly_of_run
      ((hRun₁.append (run_resolved hOut hResponse _)).append (hRun₂.append hLast))
  · rw [since_ledger hAll]
    simp
  · refine ⟨.ok response.delivered, ?_⟩
    rw [← hAnswers₁]
    exact hAnswers₂
  · intro dropped hKind hMem
    rw [since_ledger hAll] at hMem
    simp only [List.mem_append, List.mem_cons, List.not_mem_nil, reduceCtorEq, or_false,
      Entry.released.injEq] at hMem
    rcases hMem with hFirst | hSecond | rfl
    · exact absurd hKind (hKept₁ dropped hFirst)
    · exact absurd hKind (hKept₂ dropped hSecond)
    · rw [hRequest] at hKind
      cases hKind

end Unwound

/-! ## Every run -/

section Every

variable (mind : World → Stance) (config : Config)

theorem carries_arrive (r : IncomingRequest) (plan : Plan) (w : World) :
    Carries [] w
      (arrived (w.arrive (fun h => { r with handle := h }) plan).1
        (w.arrive (fun h => { r with handle := h }) plan).2.1)
      (w.arrive (fun h => { r with handle := h }) plan).2.2 := by
  have hRequest := (Carries.refl [] w).obtainNew .incomingRequest (by decide)
  exact hRequest.obtainNew .responseOutparam (by decide)

theorem unwound_serve (handler : Handler) {request : IncomingRequest} {out : Outparam}
    (hRequest : request.handle.kind = .incomingRequest)
    (hOut : out.handle.kind = .responseOutparam)
    (hArrived : Carries [] w (arrived request out) w₁) :
    Unwound out w (((wavering mind).serve config handler request out).after w₁) := by
  have hRooted : Rooted (arrived request out) := by simp [Rooted, arrived]
  have hMem : (request.handle, none) ∈ arrived request out := by simp [arrived]
  have hAnswer := leaves_answerRequest (w := w₁) mind config handler hRequest hMem hRooted
  rw [Action.after, Host.serve]
  generalize hAnswered : (wavering mind).answerRequest config (handler.on (wavering mind)) request
    w₁ = answered at hAnswer
  cases hAnswer with
  | error h =>
    rw [Host.serveWith_of_answer_error hAnswered]
    exact unwound_of_rejected hOut hRequest (hArrived.trans h).unwinds
  | @ok chosen _ w₂ hValue h =>
    subst hValue
    obtain ⟨limits, answer⟩ := chosen
    have hPrepare := prepared mind hRooted out answer w₂
    generalize hPrepared : (wavering mind).prepare out answer w₂ = head at hPrepare
    cases hPrepare with
    | lost hLost =>
      rw [Host.serveWith_of_deliver_error hAnswered (Host.deliver_of_error hPrepared)]
      exact unwound_of_rejected hOut hRequest ((hArrived.trans h).unwinds.trans hLost)
    | @ready response body w₃ hResponse hBody hReady =>
      rw [Host.serveWith_of_deliver_ok hAnswered (Host.deliver_of_ok hPrepared)]
      have hGone : ∀ origin : Option Handle,
          (response.handle, origin) ∉ [(request.handle, none)] := by
        intro origin hMem
        have hSame : response.handle = request.handle :=
          congrArg Prod.fst (List.mem_singleton.mp hMem)
        rw [hSame, hRequest] at hResponse
        cases hResponse
      have hComplete : Leaves [(body.handle, some response.handle), (request.handle, none)]
          (w₃.outparamSet out (.ok response)) (fun _ live' => live' = [(request.handle, none)])
          [(request.handle, none)]
          ((wavering mind).complete limits body answer (w₃.outparamSet out (.ok response))) :=
        leaves_complete mind (by simp [Rooted]) hBody hResponse hGone limits answer
      have hHeld := (hArrived.trans h).trans hReady
      have hEnd := unwound_of_resolved hOut hRequest hResponse hHeld hComplete.carries
      change Unwound out w (Action.after _ (w₃.outparamSet out (.ok response)))
      rw [Action.after_ensuring]
      exact hEnd

/-- Whatever the host refuses and whenever it does, a run unwinds all of its handles child first,
those of a request that came in among them. -/
theorem unwinds_child_first :
    (∀ (handler : Handler) (r : IncomingRequest) (plan : Plan) (w : World),
      let (request, out, w₁) := w.arrive (fun h => { r with handle := h }) plan
      Unwound out w (((wavering mind).serve config handler request out).after w₁)) ∧
    ∀ (request : Request) (w : World),
      Orderly ((((wavering mind).send config request).after w).since w).ledger := by
  constructor
  · intro handler r plan w
    exact unwound_serve mind config handler rfl rfl (carries_arrive r plan w)
  · intro request w
    have hRooted : Rooted [] := by simp [Rooted]
    exact (leaves_send mind hRooted config request).carries.orderly

end Every

end BufferedHttp.Component
