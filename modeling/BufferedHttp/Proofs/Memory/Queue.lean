import BufferedHttp.Proofs.Memory.Replies
import BufferedHttp.Proofs.Memory.Session

/-!
# Replies are dealt in order

A send reaches the host when its configuration is usable, its request has no body and its URI has
a request head; otherwise it leaves the world as it was. Over a session the sends that reach the
host, those of handlers among them, are recorded one after the other and take the replies of the
queue in turn, and when the queue is at its end they fail.
-/

namespace BufferedHttp.Memory

/-- A send, and the world in which it is made. -/
structure Sending where
  config : Config
  request : Request
  before : World

namespace Sending

def result (s : Sending) : Except Error Response := (host.send s.config s.request).result s.before

def after (s : Sending) : World := (host.send s.config s.request).after s.before

/-- The host has noted one more request behind the send. -/
def reached (s : Sending) : Bool :=
  decide (s.before.recording.events.count .requestSent <
    s.after.recording.events.count .requestSent)

end Sending

def sendsOf : Handling → World → List Sending
  | .done _, _ => []
  | .send config request next, w =>
    ⟨config, request, w⟩ :: sendsOf (next ((host.send config request).result w))
      ((host.send config request).after w)

def sendsOn (handler : Handler) : Except Error Request → World → List Sending
  | .error _, _ => []
  | .ok request, w => sendsOf (handler request) w

namespace Step

/-- The sends of a step: itself, or those of the handler that it calls. -/
def sends (w : World) : Step → List Sending
  | serve config handler request _ =>
    match config.limits with
    | .error _ => []
    | .ok limits =>
      match host.receiveRequest limits request w with
      | .error _ _ => []
      | .ok received w₁ => sendsOn handler received w₁
  | send config request => [⟨config, request, w⟩]
  | queue _ _ => []

/-- The step leaves the queue of replies to the sends. -/
def keepsQueue : Step → Bool
  | serve _ _ _ _ | send _ _ => true
  | queue _ _ => false

end Step

def sends : List Step → World → List Sending
  | [], _ => []
  | step :: steps, w => step.sends w ++ sends steps (step.run w)

/-- From one world to the other the host took sends with these entries, and as many replies. -/
structure Took (entries : List (RequestHead × Option RequestOptions)) (w w' : World) : Prop where
  sent : w'.recording.sent = w.recording.sent ++ entries
  replies : w'.replies = w.replies.drop entries.length
  count : w'.recording.events.count .requestSent =
    w.recording.events.count .requestSent + entries.length

namespace Took

variable {first second : List (RequestHead × Option RequestOptions)} {w w₁ w₂ : World}

theorem refl (w : World) : Took [] w w := ⟨(List.append_nil _).symm, rfl, rfl⟩

theorem trans (hFirst : Took first w w₁) (hSecond : Took second w₁ w₂) :
    Took (first ++ second) w w₂ where
  sent := by rw [hSecond.sent, hFirst.sent, List.append_assoc]
  replies := by rw [hSecond.replies, hFirst.replies, List.drop_drop, List.length_append]
  count := by rw [hSecond.count, hFirst.count, List.length_append, Nat.add_assoc]

theorem of_events {events : List Event} (hSent : w₁.recording.sent = w.recording.sent)
    (hReplies : w₁.replies = w.replies)
    (hEvents : w₁.recording.events = w.recording.events ++ events)
    (hNone : .requestSent ∉ events) : Took [] w w₁ where
  sent := by rw [hSent, List.append_nil]
  replies := hReplies
  count := by rw [hEvents, List.count_append, List.count_eq_zero.mpr hNone, List.length_nil]

theorem of_afterSends {entry : RequestHead × Option RequestOptions} {events : List Event}
    {replies : List Reply} (h : w₁ = w.afterSends (.requestSent :: events) [entry] replies)
    (hReplies : w.replies.tail = replies) (hNone : .requestSent ∉ events) : Took [entry] w w₁ where
  sent := by rw [h, World.afterSends]
  replies := by rw [h, World.afterSends, List.length_singleton, List.drop_one, hReplies]
  count := by
    rw [h, World.afterSends, List.count_append, List.count_cons_self, List.count_eq_zero.mpr hNone,
      List.length_singleton]

end Took

/-- What a send comes to that finds this reply in its place, or none. -/
inductive Answered : Option Reply → Except Error Response → Prop where
  | reply {reply : Reply} {result : Except Error Response} (hYields : reply.Yields result) :
      Answered (some reply) result
  | exhausted : Answered none (.error (.host "no reply queued"))

/-- What the host does with a send that reaches it. -/
structure Sending.Accepted (s : Sending) (head : RequestHead) : Prop where
  valid : s.config.validate = .ok ()
  bodiless : s.request.body = none
  headed : s.request.head = .ok head
  took : Took [(head, s.config.requestOptions)] s.before s.after
  answered : Answered s.before.replies.head? s.result

/-- A send that its configuration, its body or its URI keeps from the host. -/
structure Sending.Rejected (s : Sending) : Prop where
  unusable : s.config.validate = .ok () → s.request.body = none → ∀ head, s.request.head ≠ .ok head
  unchanged : s.after = s.before

theorem Sending.accepted_of_head {s : Sending} {limits : Limits} {head : RequestHead}
    (hLimits : s.config.limits = .ok limits) (hOutgoing : s.request.outgoingHead = .ok head)
    (hTook : Took [(head, s.config.requestOptions)] s.before s.after)
    (hAnswered : Answered s.before.replies.head? s.result) : s.Accepted head := by
  obtain ⟨hBody, hHead⟩ := (s.request.outgoingHead_eq_ok_iff head).mp hOutgoing
  exact ⟨s.config.validate_eq_ok_iff.mpr ⟨limits, hLimits⟩, hBody, hHead, hTook, hAnswered⟩

theorem Sending.rejected_or_accepted (s : Sending) : s.Rejected ∨ ∃ head, s.Accepted head := by
  have hSent : Sent s.config s.request s.before s.result s.after := send_sent _ _ _
  generalize hResult : s.result = result, hAfter : s.after = w' at hSent
  cases hSent with
  | invalid hLimits =>
    refine .inl ⟨?_, hAfter⟩
    intro hConfig
    obtain ⟨limits, hOk⟩ := s.config.validate_eq_ok_iff.mp hConfig
    rw [hLimits] at hOk
    cases hOk
  | headless _ hOutgoing =>
    refine .inl ⟨?_, hAfter⟩
    intro _ hBody head hHead
    rw [(s.request.outgoingHead_eq_ok_iff head).mpr ⟨hBody, hHead⟩] at hOutgoing
    cases hOutgoing
  | @exhausted limits head hLimits hOutgoing hReplies =>
    have hTook := Took.of_afterSends hAfter (by rw [hReplies]; rfl) List.not_mem_nil
    refine .inr ⟨head, accepted_of_head hLimits hOutgoing hTook ?_⟩
    rw [hResult, hReplies]
    exact .exhausted
  | @accepted limits head reply replies hLimits hOutgoing hReplies =>
    -- waiting and reading note no further request
    have hReading := (received_phase limits.read reply).notMem (e := .requestSent) rfl
    have hTook := Took.of_afterSends hAfter (by rw [hReplies]; rfl)
      (by simp [waitingEvents, hReading])
    refine .inr ⟨head, accepted_of_head hLimits hOutgoing hTook ?_⟩
    rw [hResult, hReplies]
    exact .reply (yields_received limits.read reply)

theorem Sending.Rejected.reached_eq {s : Sending} (h : s.Rejected) : s.reached = false := by
  simp [Sending.reached, h.unchanged]

theorem Sending.Accepted.reached_eq {s : Sending} {head : RequestHead} (h : s.Accepted head) :
    s.reached = true := by
  simp [Sending.reached, h.took.count]

theorem Sending.reached_iff (s : Sending) :
    s.reached = true ↔
      s.config.validate = .ok () ∧ s.request.body = none ∧ ∃ head, s.request.head = .ok head := by
  rcases s.rejected_or_accepted with hRejected | ⟨head, hAccepted⟩
  · constructor
    · intro hReached
      rw [hRejected.reached_eq] at hReached
      cases hReached
    · rintro ⟨hConfig, hBody, head, hHead⟩
      exact absurd hHead (hRejected.unusable hConfig hBody head)
  · constructor
    · intro _
      exact ⟨hAccepted.valid, hAccepted.bodiless, head, hAccepted.headed⟩
    · intro _
      exact hAccepted.reached_eq

theorem Sending.after_of_unreached (s : Sending) (h : s.reached = false) : s.after = s.before := by
  rcases s.rejected_or_accepted with hRejected | ⟨head, hAccepted⟩
  · exact hRejected.unchanged
  · rw [hAccepted.reached_eq] at h
    cases h

/-- The sends lead from the one world to the other, and between them nothing is sent or taken. -/
inductive Traced : World → List Sending → World → Prop where
  | done {w w' : World} (hGap : Took [] w w') : Traced w [] w'
  | next {w w' : World} {s : Sending} {rest : List Sending} (hGap : Took [] w s.before)
      (hRest : Traced s.after rest w') : Traced w (s :: rest) w'

section

variable {w w₁ w₂ : World} {first second : List Sending}

theorem Traced.of_gap (hGap : Took [] w w₁) (h : Traced w₁ second w₂) : Traced w second w₂ := by
  cases h with
  | done hLast => exact .done (hGap.trans hLast)
  | next hNext hRest => exact .next (hGap.trans hNext) hRest

theorem Traced.append (hFirst : Traced w first w₁) (hSecond : Traced w₁ second w₂) :
    Traced w (first ++ second) w₂ := by
  induction hFirst with
  | done hGap => exact hSecond.of_gap hGap
  | next hGap _ ih => exact .next hGap (ih hSecond)

theorem traced_run (handling : Handling) (w : World) :
    Traced w (sendsOf handling w) (handling.run host w).2 := by
  induction handling generalizing w with
  | done result => exact .done (.refl w)
  | send config request next ih =>
    rw [sendsOf, Host.run_send]
    exact .next (.refl w) (ih _ ((host.send config request).after w))

theorem traced_answer (handler : Handler) (received : Except Error Request) (w : World) :
    Traced w (sendsOn handler received w) (Host.answer (handler.on host) received w).2 := by
  cases received with
  | error e => exact .done (.refl w)
  | ok request => exact traced_run (handler request) w

end

variable {config : Config} {handler : Handler} {request : IncomingRequest} {out : Outparam}
  {w w' : World} {result : Except Error Unit} {events : List Event}

theorem took_reading (bound : Nat) (source : Except Error Script) (w : World) :
    Took [] w (w.recordAll (gather bound source).2) := by
  have hNone : .requestSent ∉ (gather bound source).2 := by
    cases source with
    | error e => exact List.not_mem_nil
    | ok script => exact notMem_readingEvents rfl bound script
  exact .of_events rfl rfl rfl hNone

theorem sends_of_received {limits : Limits} {bytes : Bytes} {reading : List Event}
    (hLimits : config.limits = .ok limits)
    (hBody : gather limits.read request.source = (.ok bytes, reading)) :
    (Step.serve config handler request out).sends w =
      sendsOn handler (request.shownWith bytes) (w.recordAll reading) := by
  have hReceive := receiveRequest_eq limits request w
  rw [hBody] at hReceive
  simp only [Step.sends, hLimits]
  rw [hReceive]
  rfl

theorem sends_of_unreceived {limits : Limits} {e : Error} {reading : List Event}
    (hLimits : config.limits = .ok limits)
    (hBody : gather limits.read request.source = (.error e, reading)) :
    (Step.serve config handler request out).sends w = [] := by
  have hReceive := receiveRequest_eq limits request w
  rw [hBody] at hReceive
  simp only [Step.sends, hLimits]
  rw [hReceive]
  rfl

theorem traced_of_answer {limits : Limits} {bytes : Bytes} {reading : List Event} {answer : Answer}
    {w₁ : World} (hLimits : config.limits = .ok limits)
    (hBody : gather limits.read request.source = (.ok bytes, reading))
    (hAnswer : Host.answer (handler.on host) (request.shownWith bytes) (w.recordAll reading) =
      (answer, w₁)) (hLast : Took [] w₁ w') :
    Traced w ((Step.serve config handler request out).sends w) w' := by
  have hReading := took_reading limits.read request.source w
  have hSends := traced_answer handler (request.shownWith bytes) (w.recordAll reading)
  rw [hBody] at hReading
  rw [hAnswer] at hSends
  rw [sends_of_received hLimits hBody, ← List.append_nil (sendsOn _ _ _)]
  exact (hSends.append (.done hLast)).of_gap hReading

theorem Served.traced (h : Served config handler request out w result events w') :
    Traced w ((Step.serve config handler request out).sends w) w' := by
  cases h with
  | invalid hLimits =>
    simp only [Step.sends, hLimits]
    exact .done (.of_events rfl rfl rfl (by simp))
  | @unreceived limits e reading hLimits hBody =>
    have hReading := took_reading limits.read request.source w
    rw [hBody] at hReading
    rw [sends_of_unreceived hLimits hBody]
    exact .done (hReading.trans (.of_events rfl rfl rfl (by simp)))
  | @refused _ _ _ _ events _ _ _ _ hLimits hBody hCalled hAnswer hRefused =>
    apply traced_of_answer hLimits hBody hAnswer
    have hNone : .requestSent ∉ events ++ [.outparamFailed] := by
      rcases Outparam.events_of_refusal hRefused with rfl | rfl <;> simp
    exact .of_events rfl rfl (by simp) hNone
  | @delivered _ _ _ _ events answer _ _ _ written hLimits hBody hCalled hAnswer hTaken hBodyOut =>
    apply traced_of_answer hLimits hBody hAnswer
    have hWrites : .requestSent ∉ writeEvents written := notMem_writeEvents nofun
    have hNone : .requestSent ∉
        [.statusSet answer.status] ++ [.outparamSet] ++ writeEvents written ++ events := by
      rcases hBodyOut.events_eq with ⟨-, rfl | rfl⟩ | rfl | rfl <;> simp [hWrites]
    exact .of_events rfl rfl (by simp) hNone

theorem traced_step (w : World) (step : Step) (hStep : step.keepsQueue = true) :
    Traced w (step.sends w) (step.run w) := by
  cases step with
  | serve config handler request out => exact (serve_served config handler request out w).traced
  | send config request => exact .next (.refl w) (.done (.refl _))
  | queue replies pending => cases hStep

theorem traced_session (steps : List Step) (w : World)
    (hSteps : ∀ step ∈ steps, step.keepsQueue = true) :
    Traced w (sends steps w) (session steps w) := by
  induction steps generalizing w with
  | nil => exact .done (.refl w)
  | cons step steps ih =>
    have hStep := traced_step w step (hSteps step List.mem_cons_self)
    exact hStep.append (ih _ fun other hOther => hSteps other (List.mem_cons_of_mem _ hOther))

/-- The sends that reach the host have these entries, and each took the reply of its turn. -/
structure Dealt (entries : List (RequestHead × Option RequestOptions)) (sends : List Sending)
    (w w' : World) : Prop where
  took : Took entries w w'
  length : entries.length = (sends.filter Sending.reached).length
  each : ∀ i s, (sends.filter Sending.reached)[i]? = some s → ∃ head,
    s.request.head = .ok head ∧ entries[i]? = some (head, s.config.requestOptions) ∧
      Took (entries.take i) w s.before ∧ Took (entries.take (i + 1)) w s.after ∧
      Answered w.replies[i]? s.result

namespace Dealt

variable {entries : List (RequestHead × Option RequestOptions)} {s : Sending}
  {rest : List Sending} {w₁ : World}

theorem of_gap (hGap : Took [] w w₁) (h : Dealt entries rest w₁ w') : Dealt entries rest w w' where
  took := hGap.trans h.took
  length := h.length
  each := by
    intro i s hs
    obtain ⟨head, hHead, hEntry, hBefore, hAfter, hAnswered⟩ := h.each i s hs
    rw [hGap.replies, List.length_nil, List.drop_zero] at hAnswered
    exact ⟨head, hHead, hEntry, hGap.trans hBefore, hGap.trans hAfter, hAnswered⟩

theorem rejected (hRejected : s.Rejected) (h : Dealt entries rest s.after w') :
    Dealt entries (s :: rest) s.before w' := by
  have hFilter : (s :: rest).filter Sending.reached = rest.filter Sending.reached :=
    List.filter_cons_of_neg (by simp [hRejected.reached_eq])
  rw [hRejected.unchanged] at h
  refine ⟨h.took, ?_, ?_⟩
  · rw [hFilter]
    exact h.length
  · rw [hFilter]
    exact h.each

theorem accepted {head : RequestHead} (hAccepted : s.Accepted head)
    (h : Dealt entries rest s.after w') :
    Dealt ((head, s.config.requestOptions) :: entries) (s :: rest) s.before w' := by
  have hFilter : (s :: rest).filter Sending.reached = s :: rest.filter Sending.reached :=
    List.filter_cons_of_pos hAccepted.reached_eq
  refine ⟨hAccepted.took.trans h.took, ?_, ?_⟩
  · rw [hFilter, List.length_cons, List.length_cons, h.length]
  · intro i other hOther
    rw [hFilter] at hOther
    cases i with
    | zero =>
      obtain rfl : s = other := Option.some.inj hOther
      refine ⟨head, hAccepted.headed, rfl, .refl _, hAccepted.took, ?_⟩
      rw [← List.head?_eq_getElem?]
      exact hAccepted.answered
    | succ i =>
      obtain ⟨other', hHead, hEntry, hBefore, hAfter, hAnswered⟩ := h.each i other hOther
      rw [hAccepted.took.replies, List.length_singleton, List.getElem?_drop,
        Nat.add_comm] at hAnswered
      exact ⟨other', hHead, hEntry, hAccepted.took.trans hBefore, hAccepted.took.trans hAfter,
        hAnswered⟩

end Dealt

theorem Traced.dealt {sends : List Sending} (h : Traced w sends w') :
    ∃ entries, Dealt entries sends w w' := by
  induction h with
  | done hGap => exact ⟨[], hGap, rfl, by simp⟩
  | @next w w' s rest hGap _ ih =>
    -- the places in the queue count from the world before, so each case moves the rest back
    obtain ⟨entries, hDealt⟩ := ih
    rcases s.rejected_or_accepted with hRejected | ⟨head, hAccepted⟩
    · exact ⟨entries, (hDealt.rejected hRejected).of_gap hGap⟩
    · exact ⟨_, (hDealt.accepted hAccepted).of_gap hGap⟩

/-- A send reaches the host when its configuration is usable, its request has no body and its URI
has a request head, and otherwise changes nothing. The sends of a session that reach the host are
recorded in turn, and the reply at the place of each decides what it comes to. -/
theorem replies_dealt_in_order :
    (∀ s : Sending, s.reached = true ↔ s.config.validate = .ok () ∧ s.request.body = none ∧
      ∃ head, s.request.head = .ok head) ∧
    (∀ s : Sending, s.reached = false → s.after = s.before) ∧
    ∀ (steps : List Step) (w : World), (∀ step ∈ steps, step.keepsQueue = true) →
      ∃ entries, Dealt entries (sends steps w) w (session steps w) := by
  refine ⟨Sending.reached_iff, Sending.after_of_unreached, ?_⟩
  intro steps w hSteps
  exact (traced_session steps w hSteps).dealt

theorem second_reply_missing :
    ((sends [.send .default (.get "http://a/"), .send .default ⟨.get, "http://a/", .empty, some []⟩,
        .send .default (.get "http://a/")] ⟨.empty, [.transport "down"], 0⟩).filter
          Sending.reached).map Sending.result =
      [.error (.transport "down"), .error (.host "no reply queued")] ∧
    (session [.send .default (.get "http://a/"), .send .default ⟨.get, "http://a/", .empty, some []⟩,
        .send .default (.get "http://a/")] ⟨.empty, [.transport "down"], 0⟩).recording.sent.length =
      2 := by
  obtain ⟨hReached, -, hSession⟩ := replies_dealt_in_order
  obtain ⟨entries, hTook, hLength, hEach⟩ := hSession [.send .default (.get "http://a/"),
    .send .default ⟨.get, "http://a/", .empty, some []⟩, .send .default (.get "http://a/")]
    ⟨.empty, [.transport "down"], 0⟩ (by decide)
  have hHead : (Request.get "http://a/").head = .ok ⟨.get, .http, "a", "/", []⟩ := by decide +kernel
  have hPlain : ∀ w, Sending.reached ⟨.default, .get "http://a/", w⟩ = true := by
    intro w
    exact (hReached _).mpr ⟨rfl, rfl, _, hHead⟩
  have hEmpty : ∀ w,
      Sending.reached ⟨.default, ⟨.get, "http://a/", .empty, some []⟩, w⟩ = false := by
    intro w
    rw [Bool.eq_false_iff]
    intro h
    cases ((hReached _).mp h).2.1
  simp only [sends, Step.sends, List.cons_append, List.nil_append, List.filter_cons, hPlain, hEmpty,
    List.filter_nil, if_true, if_false, Bool.false_eq_true] at hEach hLength ⊢
  obtain ⟨-, -, -, -, -, hDown⟩ := hEach 0 _ rfl
  obtain ⟨-, -, -, -, -, hMissing⟩ := hEach 1 _ rfl
  constructor
  · rw [List.map_cons, List.map_cons, List.map_nil]
    generalize Sending.result _ = down at hDown ⊢
    generalize Sending.result _ = missing at hMissing ⊢
    cases hDown with
    | reply hYields =>
      cases hYields
      cases hMissing
      rfl
  · rw [hTook.sent, List.length_append, hLength]
    rfl

end BufferedHttp.Memory
