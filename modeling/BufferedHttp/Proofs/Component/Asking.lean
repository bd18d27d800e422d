import BufferedHttp.Proofs.Component.Wavering

/-!
# What a send leaves held

A send makes fields, a request and options, gives them all to the host, and waits for the response,
which it drops when it is read. It leaves held what was held before, wherever it fails.
-/

namespace BufferedHttp.Component

open Host

variable {live : Live} {w w' : World}

theorem leaves_newFields (fields : FieldList) :
    Leaves live w
      (fun f live' => f.handle.kind = .fields ∧ live' = (f.handle, none) :: live) live
      (newFields fields w) := by
  have hCalled := (Carries.refl live w).call .fieldsFromList
  have hListed : Carries live w live w.listed := ⟨hCalled.answers, hCalled.entries⟩
  cases hRefused : fields.findSome? w.fieldError? with
  | none =>
    rw [newFields_of_accepted hRefused]
    exact .ok ⟨rfl, rfl⟩ (hListed.obtainNew .fields (by decide))
  | some e =>
    rw [newFields_of_refused hRefused]
    exact .error hListed

theorem leaves_set {P : α → Prop} {changed : α} (e : Error) (call : Call) (setter : Setter)
    (hChanged : P changed) :
    Leaves live w (fun a live' => P a ∧ live' = live) live
      (accepted e (fun w => w.set call setter changed) w) := by
  have hCalled := (Carries.refl live w).call call
  by_cases hRefused : setter ∈ w.refused
  · have hSet : w.set call setter changed = (none, w.call call) := by
      rw [World.set, if_pos hRefused]
    rw [accepted_of_none (fun w => w.set call setter changed) hSet]
    exact .error hCalled
  · have hSet : w.set call setter changed = (some changed, w.call call) := by
      rw [World.set, if_neg hRefused]
    rw [accepted_of_some (fun w => w.set call setter changed) hSet]
    exact .ok ⟨hChanged, rfl⟩ hCalled

theorem leaves_fillRequest (r : OutgoingRequest) (head : RequestHead) :
    Leaves live w (fun r' live' => r'.handle = r.handle ∧ live' = live) live
      (fillRequest r head w) := by
  refine (leaves_set (P := fun r' => r'.handle = r.handle) _ .setMethod .method rfl).bind ?_
  rintro r' _ w ⟨hHandle, rfl⟩
  refine (leaves_set (P := fun r' => r'.handle = r.handle) _ .setScheme .scheme hHandle).bind ?_
  rintro r' _ w ⟨hHandle, rfl⟩
  refine (leaves_set (P := fun r' => r'.handle = r.handle) _ .setAuthority .authority
    hHandle).bind ?_
  rintro r' _ w ⟨hHandle, rfl⟩
  exact leaves_set _ .setPathWithQuery .path hHandle

theorem leaves_setTimeout {name : String} {o : Options}
    {set : World → Options → UInt64 → Option Options × World} {P : Options → Prop} (hKept : P o)
    (hSet : ∀ e n, Leaves live w (fun o' live' => P o' ∧ live' = live) live
      (accepted e (fun w => set w o n) w)) (d : Option Duration) :
    Leaves live w (fun o' live' => P o' ∧ live' = live) live (setTimeout name set o d w) := by
  cases d with
  | none => exact .ok ⟨hKept, rfl⟩ (.refl live w)
  | some d => exact hSet _ _

theorem leaves_newOptions (hRooted : Rooted live) (options : RequestOptions) :
    Leaves live w
      (fun o live' => o.handle.kind = .requestOptions ∧ live' = (o.handle, none) :: live) live
      (newOptions options w) := by
  have hNew := ((Carries.refl live w).call .newOptions).obtainNew .requestOptions (by decide)
  refine Leaves.bind
    (P := fun o live' => o.handle.kind = .requestOptions ∧ live' = (o.handle, none) :: live)
    (.ok ⟨rfl, rfl⟩ hNew) ?_
  rintro o _ w ⟨hKind, rfl⟩
  have hSet : Leaves ((o.handle, none) :: live) w
      (fun o' live' => o'.handle = o.handle ∧ live' = (o.handle, none) :: live)
      ((o.handle, none) :: live)
      ((do
        let o ← setTimeout "connect" World.setConnectTimeout o options.connect
        let o ← setTimeout "first-byte" World.setFirstByteTimeout o options.firstByte
        setTimeout "between-bytes" World.setBetweenBytesTimeout o options.betweenBytes) w) := by
    refine (leaves_setTimeout (P := fun o' => o'.handle = o.handle) rfl ?_ _).bind ?_
    · intro e n
      exact leaves_set e .setConnectTimeout .connect rfl
    rintro o' _ w ⟨hHandle, rfl⟩
    refine (leaves_setTimeout (P := fun o' => o'.handle = o.handle) hHandle ?_ _).bind ?_
    · intro e n
      exact leaves_set e .setFirstByteTimeout .firstByte hHandle
    rintro o' _ w ⟨hHandle, rfl⟩
    apply leaves_setTimeout (P := fun o' => o'.handle = o.handle) hHandle
    intro e n
    exact leaves_set e .setBetweenBytesTimeout .betweenBytes hHandle
  refine (Leaves.onFailure _ hSet ?_).mono ?_
  · intro w' h
    exact h.drop hKind (hRooted.barren _) nofun
  · rintro o' _ ⟨hHandle, rfl⟩
    rw [hHandle]
    exact ⟨hKind, rfl⟩

/-- Optional options as they are held. -/
def optionsHeld (o : Option Options) : Live := o.toList.map fun o => (o.handle, none)

theorem leaves_newOptions? (hRooted : Rooted live) (options : Option RequestOptions) :
    Leaves live w
      (fun o live' => (∀ o', o = some o' → o'.handle.kind = .requestOptions) ∧
        live' = optionsHeld o ++ live) live (newOptions? options w) := by
  cases options with
  | none => exact .ok ⟨nofun, rfl⟩ (.refl live w)
  | some options =>
    refine (leaves_newOptions hRooted options).bind ?_
    rintro o _ w ⟨hKind, rfl⟩
    refine .ok ⟨?_, rfl⟩ (.refl _ w)
    rintro _ ⟨⟩
    exact hKind

theorem carries_handOver {r : OutgoingRequest} {o : Option Options}
    (hRequest : r.handle.kind = .outgoingRequest)
    (hOptions : ∀ o', o = some o' → o'.handle.kind = .requestOptions) (hRooted : Rooted live) :
    Carries (optionsHeld o ++ (r.handle, none) :: live) w live (w.handOver r o) := by
  have hCalled := (Carries.refl (optionsHeld o ++ (r.handle, none) :: live) w).call .handle
  cases o with
  | none =>
    have hGiven := hCalled.hand hRequest (hRooted.barren _) rfl nofun
    exact ⟨hGiven.answers, hGiven.entries⟩
  | some o =>
    have hKind := hOptions o rfl
    have hGiven := hCalled.give [(o.handle, none)] (by rw [hRequest]; rfl)
      (fun _ => ((hRooted.cons o.handle).barren _).childless) (by simp [hRequest])
    have hBoth := hGiven.hand hKind (hRooted.barren _) rfl nofun
    exact ⟨hBoth.answers, hBoth.entries⟩

theorem leaves_handle {r : OutgoingRequest} {o : Option Options}
    (hRequest : r.handle.kind = .outgoingRequest)
    (hOptions : ∀ o', o = some o' → o'.handle.kind = .requestOptions) (hRooted : Rooted live) :
    Leaves (optionsHeld o ++ (r.handle, none) :: live) w
      (fun f live' => f.handle.kind = .futureIncomingResponse ∧ live' = (f.handle, none) :: live)
      live
      (Action.ofCall (fun w => match w.handle r o with
        | (.ok f, w) => (.ok f, w)
        | (.error code, w) => (.error (.transport code.text), w)) w) := by
  have hOver := carries_handOver (w := w) hRequest hOptions hRooted
  cases hReplies : w.replies with
  | nil =>
    simp only [Action.ofCall, handle_of_nil hReplies]
    exact .error hOver
  | cons reply replies =>
    by_cases hRefused : ∃ code, reply = .refused code
    · obtain ⟨code, rfl⟩ := hRefused
      simp only [Action.ofCall, handle_of_refused hReplies]
      exact .error ⟨hOver.answers, hOver.entries⟩
    · have hFuture := hOver.obtainNew .futureIncomingResponse (by decide)
      simp only [Action.ofCall,
        handle_of_reply hReplies fun code hCode => hRefused ⟨code, hCode⟩]
      exact .ok ⟨rfl, rfl⟩ ⟨hFuture.answers, hFuture.entries⟩

theorem leaves_handleRequest (hRooted : Rooted live) (head : RequestHead)
    (options : Option RequestOptions) :
    Leaves live w
      (fun f live' => f.handle.kind = .futureIncomingResponse ∧ live' = (f.handle, none) :: live)
      live (handleRequest head options w) := by
  refine (leaves_newFields head.headers).bind ?_
  rintro fields _ w ⟨hFields, rfl⟩
  have hCalled := (Carries.refl ((fields.handle, none) :: live) w).call .newRequest
  have hGiven := hCalled.hand hFields (hRooted.barren _) rfl nofun
  have hNew := hGiven.obtainNew .outgoingRequest (by decide)
  refine Leaves.bind
    (P := fun r live' => r.handle.kind = .outgoingRequest ∧ live' = (r.handle, none) :: live)
    (.ok ⟨rfl, rfl⟩ hNew) ?_
  rintro blank _ w ⟨hRequest, rfl⟩
  have hFilled : Leaves ((blank.handle, none) :: live) w
      (fun p live' => p.1.handle = blank.handle ∧
        (∀ o, p.2 = some o → o.handle.kind = .requestOptions) ∧
        live' = optionsHeld p.2 ++ (blank.handle, none) :: live)
      ((blank.handle, none) :: live)
      ((do
        let r ← fillRequest blank head
        let o ← newOptions? options
        return (r, o)) w) := by
    refine (leaves_fillRequest blank head).bind ?_
    rintro r _ w ⟨hHandle, rfl⟩
    refine (leaves_newOptions? (hRooted.cons blank.handle) options).bind ?_
    rintro o _ w ⟨hOptions, rfl⟩
    exact .ok ⟨hHandle, hOptions, rfl⟩ (.refl _ w)
  refine (Leaves.onFailure _ hFilled ?_).bind ?_
  · intro w' h
    exact h.drop hRequest (hRooted.barren _) nofun
  · rintro ⟨r, o⟩ _ w ⟨hHandle, hOptions, rfl⟩
    rw [← hHandle] at hRequest ⊢
    exact leaves_handle hRequest hOptions hRooted

/-- The response is held on top. -/
def Answered (held : Live) (r : IncomingResponse) (live : Live) : Prop :=
  r.handle.kind = .incomingResponse ∧ live = (r.handle, none) :: held

theorem leaves_poll_some {f f' : Future} {outcome : Except Error IncomingResponse} {w₁ : World}
    (h : Carries live w live w') (hPoll : poll f w' = (some outcome, f', w₁)) :
    f'.handle = f.handle ∧
      Leaves live w (Answered live) live (Action.ofExcept outcome w₁) := by
  have hCalled := h.call .get
  rw [poll, World.get] at hPoll
  by_cases hWaiting : 0 < f.pending
  · rw [if_pos hWaiting] at hPoll
    cases hPoll
  rw [if_neg hWaiting] at hPoll
  cases hReply : f.reply with
  | response r =>
    rw [hReply] at hPoll
    cases hPoll
    exact ⟨rfl, .ok ⟨rfl, rfl⟩ (hCalled.obtainNew .incomingResponse (by decide))⟩
  | taken | failed code | refused code =>
    rw [hReply] at hPoll
    cases hPoll
    exact ⟨rfl, .error hCalled⟩

theorem leaves_awaitOutcome (mind : World → Stance) {p : Pollable} {f : Future} {w w' : World}
    (h : Carries live w live w') :
    ((wavering mind).awaitOutcome p f w').2.1.handle = f.handle ∧
      Leaves live w (Answered live) live
        (Action.ofExcept ((wavering mind).awaitOutcome p f w').1
          ((wavering mind).awaitOutcome p f w').2.2) := by
  match hPoll : (wavering mind).poll f w' with
  | (some outcome, f', w₁) =>
    rw [awaitOutcome_of_some _ p hPoll]
    exact leaves_poll_some h hPoll
  | (none, f', w₁) =>
    have := (wavering mind).waits_block (p := p) hPoll
    rw [awaitOutcome_of_none _ p hPoll]
    obtain ⟨-, rfl, rfl⟩ := pending_of_poll hPoll
    exact leaves_awaitOutcome mind ((h.call .get).call .block)
  termination_by (wavering mind).waits f

/-- The pollable goes before its future, both from under the response if there is one. -/
theorem leaves_releases {r : Except Error IncomingResponse} {p f f' : Handle} (hSame : f = f')
    (hPollable : p.kind = .pollable) (hFuture : f.kind = .futureIncomingResponse)
    (hRooted : Rooted live)
    (h : Leaves ((p, some f) :: (f, none) :: live) w
      (Answered ((p, some f) :: (f, none) :: live)) ((p, some f) :: (f, none) :: live)
      (Action.ofExcept r w')) :
    Leaves ((p, some f) :: (f, none) :: live) w (Answered live) live
      (Action.ofExcept r ((w'.release p).release f')) := by
  subst hSame
  have hAbove := hRooted.cons f
  cases r with
  | ok response =>
    cases h with
    | ok hValue h =>
      obtain ⟨hKind, rfl⟩ := hValue
      have hFirst := h.release [(response.handle, none)]
        ((hAbove.cons response.handle).barren _).childless (by simp [hPollable])
      have hBoth := hFirst.release [(response.handle, none)]
        ((hRooted.cons response.handle).barren _).childless (by simp [hFuture])
      exact .ok ⟨hKind, rfl⟩ hBoth
  | error e =>
    cases h with
    | error h =>
      have hFirst := h.drop hPollable (hAbove.barren _) nofun
      exact .error (hFirst.drop hFuture (hRooted.barren _) nofun)

theorem leaves_await (mind : World → Stance) (hRooted : Rooted live) {f : Future}
    (hFuture : f.handle.kind = .futureIncomingResponse) :
    Leaves ((f.handle, none) :: live) w (Answered live) live ((wavering mind).await f w) := by
  have hPollable := ((Carries.refl ((f.handle, none) :: live) w).call .subscribe).obtain .pollable
    f.handle (by rw [Option.map_some, hFuture]; decide) (by
      rintro _ ⟨⟩
      exact ⟨none, List.mem_cons_self⟩)
  obtain ⟨hHandle, hOutcome⟩ := leaves_awaitOutcome mind
    (p := ((wavering mind).subscribe f w).1) (f := f) (.refl
      ((⟨.pollable, (w.call .subscribe).nextId⟩, some f.handle) :: (f.handle, none) :: live)
      ((wavering mind).subscribe f w).2)
  have hAwait : (wavering mind).await f w = Action.ofExcept _ _ := Action.ofCall_eq_ofExcept rfl
  rw [hAwait]
  exact (leaves_releases hHandle.symm rfl hFuture hRooted hOutcome).after hPollable

theorem leaves_receiveResponse (mind : World → Stance) (limits : Limits)
    {incoming : IncomingResponse} (hKind : incoming.handle.kind = .incomingResponse)
    (hRooted : Rooted live) :
    Leaves ((incoming.handle, none) :: live) w (fun _ live' => live' = live) live
      ((wavering mind).receiveResponse limits incoming w) := by
  have hMem : ∃ origin, (incoming.handle, origin) ∈ (incoming.handle, none) :: live :=
    ⟨none, List.mem_cons_self⟩
  have hDropped {start : Live} {w₁ w₂ : World}
      (h : Carries start w₁ ((incoming.handle, none) :: live) w₂) :
      Carries start w₁ live ((wavering mind).dropIncomingResponse incoming w₂) :=
    h.drop hKind (hRooted.barren _) nofun
  refine Leaves.bind (P := fun _ live' => live' = (incoming.handle, none) :: live)
    (.ok rfl ((Carries.refl _ w).call .responseStatus)) ?_
  rintro status _ w rfl
  refine Leaves.bind (P := fun _ live' => live' = (incoming.handle, none) :: live)
    (.ok rfl (carries_entries .responseHeaders (by rw [hKind]; decide) hMem
      (hRooted.cons incoming.handle) incoming.content.headers)) ?_
  rintro fields _ w rfl
  refine (Leaves.onFailure _ (Leaves.ofExcept _) hDropped).bind ?_
  rintro headers _ w rfl
  refine (Leaves.onFailure _ (Leaves.giveOut (fun w => w.responseConsume incoming)
    (responseConsume_eq w incoming) (by rw [hKind]; decide) hMem) hDropped).bind ?_
  rintro taken _ w ⟨h, hBody, rfl, rfl⟩
  refine (Leaves.ensuring _ (leaves_drain mind limits.read_pos
    ⟨h, incoming.content.script, incoming.content.streamTaken⟩ hBody
    (by rw [hKind]; decide) (hRooted.cons incoming.handle)) hDropped).bind ?_
  rintro bytes _ w rfl
  exact .done (.refl _ w)

theorem leaves_exchange (mind : World → Stance) (hRooted : Rooted live) (limits : Limits)
    (head : RequestHead) (options : Option RequestOptions) :
    Leaves live w (fun _ live' => live' = live) live
      ((wavering mind).exchange limits head options w) := by
  have hFuture : Leaves live w
      (fun f live' => f.handle.kind = .futureIncomingResponse ∧ live' = (f.handle, none) :: live)
      live ((wavering mind).handle head options w) :=
    (leaves_handleRequest hRooted head options).after (carries_under mind w)
  refine hFuture.bind ?_
  rintro future _ w ⟨hKind, rfl⟩
  refine (leaves_await mind hRooted hKind).bind ?_
  rintro incoming _ w ⟨hKind, rfl⟩
  exact leaves_receiveResponse mind limits hKind hRooted

theorem leaves_send (mind : World → Stance) (hRooted : Rooted live) (config : Config)
    (request : Request) :
    Leaves live w (fun _ live' => live' = live) live ((wavering mind).send config request w) := by
  cases hLimits : config.limits with
  | error fault =>
    rw [Host.send, hLimits]
    exact .error (.refl live w)
  | ok limits =>
    cases hHead : request.outgoingHead with
    | error e =>
      rw [send_of_headless hLimits hHead]
      exact .error (.refl live w)
    | ok head =>
      rw [send_of_head hLimits hHead]
      exact leaves_exchange mind hRooted limits head config.requestOptions

theorem carries_run (mind : World → Stance) (hRooted : Rooted live) (handling : Handling)
    (w : World) : Carries live w live (handling.run (wavering mind) w).2 := by
  induction handling generalizing w with
  | done result => exact .refl live w
  | send config request next ih =>
    rw [Host.run_send]
    have hSend := leaves_send (w := w) mind hRooted config request
    exact hSend.carries.trans (ih _ _)

end BufferedHttp.Component
