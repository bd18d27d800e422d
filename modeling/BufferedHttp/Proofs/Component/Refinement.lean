import BufferedHttp.Proofs.Component.Simulation
import BufferedHttp.Proofs.Host.Watched
import BufferedHttp.Proofs.Memory.Queue

/-!
# The component host and the host in memory agree

On a component host that accepts every call, serving and sending go as on the host in memory with
the same request and the same replies. To accept every call it has to have a reply to each request
that it gets.
-/

namespace BufferedHttp

namespace Memory

theorem reached_of_outgoingHead {config : Config} {request : Request} {limits : Limits}
    {head : RequestHead} (w : World) (hLimits : config.limits = .ok limits)
    (hHead : request.outgoingHead = .ok head) :
    Sending.reached ⟨config, request, w⟩ = true := by
  obtain ⟨hBody, hHead⟩ := (request.outgoingHead_eq_ok_iff head).mp hHead
  have hConfig : config.validate = .ok () := config.validate_eq_ok_iff.mpr ⟨limits, hLimits⟩
  exact (Sending.reached_iff _).mpr ⟨hConfig, hBody, head, hHead⟩

theorem supplied_of_sends (handling : Handling) (w : World)
    (h : ∀ s ∈ sendsOf handling w, s.reached = true → s.before.replies ≠ []) :
    handling.Supplied host (fun w => w.replies ≠ []) w := by
  induction handling generalizing w with
  | done result => trivial
  | send config request next ih =>
    rw [sendsOf, List.forall_mem_cons] at h
    obtain ⟨hFirst, hRest⟩ := h
    constructor
    · intro limits head hLimits hHead
      exact hFirst (reached_of_outgoingHead w hLimits hHead)
    · exact ih _ _ hRest

/-- When a step asks for no more replies than there are, each of its sends finds one. -/
theorem replies_ne_nil_of_sent_le {step : Step} {w : World} (hStep : step.keepsQueue = true)
    (h : (step.run w).recording.sent.length ≤ w.recording.sent.length + w.replies.length) :
    ∀ s ∈ step.sends w, s.reached = true → s.before.replies ≠ [] := by
  intro s hs hReached
  obtain ⟨entries, hTook, -, hEach⟩ := (traced_step w step hStep).dealt
  rw [hTook.sent, List.length_append] at h
  obtain ⟨i, hi⟩ := List.getElem?_of_mem (List.mem_filter.mpr ⟨hs, hReached⟩)
  obtain ⟨head, -, hEntry, hBefore, -⟩ := hEach i s hi
  obtain ⟨hLt, -⟩ := List.getElem?_eq_some_iff.mp hEntry
  rw [hBefore.replies, Ne, List.drop_eq_nil_iff, List.length_take]
  omega

theorem sent_added_le {act : Action World α} {step : Step} {w : World}
    (hStep : step.keepsQueue = true) (hAct : step.run w = act.after w) :
    (added act w).sent.length ≤ (step.sends w).length := by
  obtain ⟨entries, hTook, hLength, -⟩ := (traced_step w step hStep).dealt
  have hFilter := List.length_filter_le Sending.reached (step.sends w)
  rw [added, Recording.since, ← hAct, hTook.sent, List.drop_left, hLength]
  exact hFilter

end Memory

namespace Component

open Host

/-- A request that comes in, as both hosts are given it, each with its own kind of method. -/
structure Inbound where
  method : BufferedHttp.Method
  delivered : Method
  same : SameMethod delivered method
  path : Option String
  headers : FieldList
  script : Script
  consumed : Bool

namespace Inbound

def inMemory (r : Inbound) : Memory.IncomingRequest :=
  ⟨r.method, r.path, r.headers, r.script, r.consumed, none⟩

def onComponent (r : Inbound) (handle : Handle) : IncomingRequest :=
  ⟨handle, r.delivered, r.path, r.headers, r.script, r.consumed, false⟩

end Inbound

/-- The out-parameter in memory that no call fails on. -/
def plainOutparam : Memory.Outparam := ⟨none, [], .none⟩

/-- Both runs end with the same result, in matching worlds. -/
structure SameRun (left : Action Memory.World α) (m : Memory.World) (right : Action World α)
    (c : World) : Prop where
  result : left.result m = right.result c
  after : Matched (left.after m) (right.after c)

theorem matched_arrive {m : Memory.World} {c : World} (h : Matched m c) (r : Inbound) :
    SameRequest r.inMemory (c.arrive r.onComponent .none).1 ∧
      SameOutparam plainOutparam (c.arrive r.onComponent .none).2.1 ∧
      Matched m (c.arrive r.onComponent .none).2.2 :=
  ⟨⟨rfl, rfl, r.method, r.same, rfl⟩, ⟨rfl, rfl, rfl⟩,
    (h.obtain .incomingRequest none).obtain .responseOutparam none⟩

section Agreement

variable {m : Memory.World} {c : World} (config : Config)

theorem supplied_of_added {step : Memory.Step} (hStep : step.keepsQueue = true)
    {act : Action Memory.World α} (hAct : step.run m = act.after m)
    (hSent : (Memory.added act m).sent.length ≤ m.replies.length) :
    ∀ s ∈ step.sends m, s.reached = true → s.before.replies ≠ [] := by
  apply Memory.replies_ne_nil_of_sent_le hStep
  rw [Memory.added, Memory.Recording.since, List.length_drop] at hSent
  rw [hAct]
  omega

theorem sameRun_serve (handler : Handler) {x : Memory.IncomingRequest} {y : IncomingRequest}
    {o : Memory.Outparam} {p : Outparam} (hRequest : SameRequest x y) (hOut : SameOutparam o p)
    (h : Matched m c)
    (hSent : (Memory.added (Memory.host.serve config handler x o) m).sent.length ≤
      m.replies.length) :
    SameRun (Memory.host.serve config handler x o) m (host.serve config handler y p) c := by
  have hReached : ∀ s ∈ (Memory.Step.serve config handler x o).sends m,
      s.reached = true → s.before.replies ≠ [] := supplied_of_added rfl rfl hSent
  have hSupplied : ∀ limits shown m', config.limits = .ok limits →
      Memory.host.receiveRequest limits x m = .ok (.ok shown) m' →
      (handler shown).Supplied Memory.host simulation.supplied m' := by
    intro limits shown m' hLimits hReceived
    apply Memory.supplied_of_sends
    intro s hs
    apply hReached
    simp only [Memory.Step.sends, hLimits, hReceived]
    exact hs
  have hAlike := simulation.serve config handler hRequest hOut h hSupplied
  exact ⟨hAlike.result_eq, hAlike.after⟩

theorem sameRun_send (request : Request) (h : Matched m c)
    (hSent : (Memory.added (Memory.host.send config request) m).sent.length ≤
      m.replies.length) :
    SameRun (Memory.host.send config request) m (host.send config request) c := by
  have hReached : ∀ s ∈ (Memory.Step.send config request).sends m,
      s.reached = true → s.before.replies ≠ [] := supplied_of_added rfl rfl hSent
  have hSupplied : ∀ limits head, config.limits = .ok limits →
      request.outgoingHead = .ok head → simulation.supplied m := by
    intro limits head hLimits hHead
    exact hReached ⟨config, request, m⟩ (List.mem_singleton_self _)
      (Memory.reached_of_outgoingHead m hLimits hHead)
  have hAlike := simulation.send config request h hSupplied
  exact ⟨hAlike.result_eq, hAlike.after⟩

end Agreement

/-- Whatever request comes in, both hosts show the handler the same request and come to the same
end, and so they do with a request that goes out; worlds that match before match again behind. -/
theorem component_agrees_with_memory {m : Memory.World} {c : World} (h : Matched m c) :
    (∀ (config : Config) (handler : Handler) (r : Inbound) (request : IncomingRequest)
      (out : Outparam) (c' : World), c.arrive r.onComponent .none = (request, out, c') →
      (Memory.added (Memory.host.serve config handler r.inMemory plainOutparam) m).sent.length ≤
        m.replies.length →
      Memory.host.calls config handler r.inMemory plainOutparam m =
        host.calls config handler request out c' ∧
      SameRun (Memory.host.serve config handler r.inMemory plainOutparam) m
        (host.serve config handler request out) c') ∧
    ∀ (config : Config) (request : Request),
      (Memory.added (Memory.host.send config request) m).sent.length ≤ m.replies.length →
      SameRun (Memory.host.send config request) m (host.send config request) c := by
  constructor
  · rintro config handler r request out c' hArrive hSent
    obtain ⟨hRequest, hOut, hMatched⟩ := matched_arrive h r
    rw [hArrive] at hRequest hOut hMatched
    constructor
    · rw [calls_eq, calls_eq, simulation.shown?_eq config hRequest hMatched]
    · exact sameRun_serve config handler hRequest hOut hMatched hSent
  · intro config request hSent
    exact sameRun_send config request h hSent

theorem matched_fresh {replies : List Memory.Reply} {replies' : List Reply}
    (h : List.Forall₂ SameReply replies replies') (pending : Nat) :
    Matched ⟨.empty, replies, pending⟩ ⟨[], 0, [], [], [], replies', pending, 0, [], [], []⟩ where
  deeds := rfl
  resolutions := rfl
  answers := rfl
  response := rfl
  failure := rfl
  writes := rfl
  body := rfl
  sent := .nil
  replies := h
  pending := rfl
  forbidden := rfl
  invalid := rfl
  refused := rfl

/-- A handler that sends a request of its own, with the response to it after two waits, and a send
that fails after one. -/
theorem agree_on_forwarding :
    ∃ request out c',
      World.arrive ⟨[], 0, [], [], [],
          [.response ⟨200, [("x", [0x79])], [.data [3], .data [4]], false, false⟩], 2, 0, [], [],
          []⟩
        (Inbound.onComponent
          ⟨.post, .post, .post, some "/p", [], [.data [1], .data [2]], false⟩) .none =
          (request, out, c') ∧
      host.calls .default (fun _ => .forward (.get "http://a/")) request out c' =
        [⟨.post, "/p", .empty, some [1, 2]⟩] ∧
      SameRun
        (Memory.host.serve .default (fun _ => .forward (.get "http://a/"))
          (Inbound.inMemory ⟨.post, .post, .post, some "/p", [], [.data [1], .data [2]], false⟩)
          plainOutparam)
        ⟨.empty, [.response ⟨200, [("x", [0x79])], [.data [3], .data [4]], false⟩], 2⟩
        (host.serve .default (fun _ => .forward (.get "http://a/")) request out) c' ∧
      SameRun (Memory.host.send .default (.get "http://a/"))
        ⟨.empty, [.transport (ErrorCode.text .dnsTimeout)], 1⟩
        (host.send .default (.get "http://a/"))
        ⟨[], 0, [], [], [], [.failed .dnsTimeout], 1, 0, [], [], []⟩ := by
  have hReplies : List.Forall₂ SameReply
      [.response ⟨200, [("x", [0x79])], [.data [3], .data [4]], false⟩]
      [.response ⟨200, [("x", [0x79])], [.data [3], .data [4]], false, false⟩] :=
    .cons (.response 200 [("x", [0x79])] [.data [3], .data [4]] false) .nil
  obtain ⟨hServe, -⟩ := component_agrees_with_memory (matched_fresh hReplies 2)
  have hRun := hServe .default (fun _ => .forward (.get "http://a/"))
    ⟨.post, .post, .post, some "/p", [], [.data [1], .data [2]], false⟩ _ _ _ rfl
  have hOneSend : ∀ (r : Memory.IncomingRequest) (w : Memory.World),
      ((Memory.Step.serve .default (fun _ => .forward (.get "http://a/")) r plainOutparam).sends
        w).length ≤ 1 := by
    intro r w
    simp only [Memory.Step.sends]
    split
    · exact Nat.zero_le 1
    · split
      · exact Nat.zero_le 1
      · rename_i received _ _
        cases received <;> simp [Memory.sendsOn, Handling.forward, Memory.sendsOf]
  obtain ⟨hCalls, hSame⟩ := hRun (Nat.le_trans (Memory.sent_added_le rfl rfl) (hOneSend _ _))
  have hFailed : List.Forall₂ SameReply [.transport (ErrorCode.text .dnsTimeout)]
      [.failed .dnsTimeout] := .cons (.transport .dnsTimeout) .nil
  obtain ⟨-, hSend⟩ := component_agrees_with_memory (matched_fresh hFailed 1)
  have hSent : ∀ w, ((Memory.Step.send .default (.get "http://a/")).sends w).length ≤ 1 :=
    fun w => Nat.le_refl 1
  have hSameSend := hSend .default (.get "http://a/")
    (Nat.le_trans (Memory.sent_added_le rfl rfl) (hSent _))
  refine ⟨_, _, _, rfl, ?_, hSame, hSameSend⟩
  have hLimits : Config.default.limits = .ok ⟨16384, 4096, by decide, by decide, by decide⟩ := rfl
  have hShown : Memory.host.shown? .default
      (Inbound.inMemory ⟨.post, .post, .post, some "/p", [], [.data [1], .data [2]], false⟩)
      ⟨.empty, [.response ⟨200, [("x", [0x79])], [.data [3], .data [4]], false⟩], 2⟩ =
      some ⟨.post, "/p", .empty, some [1, 2]⟩ := by
    apply (Memory.shown?_eq_some_iff _ _ _ hLimits).mpr
    constructor
    · exact ⟨rfl, rfl, by simp [Inbound.inMemory], by simp [Inbound.inMemory]⟩
    · exact ⟨rfl, rfl, rfl, rfl⟩
  rw [← hCalls, calls_eq, hShown, Option.toList_some]

end Component

end BufferedHttp
