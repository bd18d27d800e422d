import BufferedHttp.Proofs.Component.Holding
import BufferedHttp.Proofs.Host.Phases

/-!
# A component host of no settled mind

What a component host refuses may change from one operation to the next, with anything that has
happened so far. So every call may fail at every point: bodies, streams and out-parameters bring
their own failures with them. Reading leaves held what was held before, but for the body read.
-/

namespace BufferedHttp.Component

open Host

/-- What a component host refuses at some moment, and what it replies with. -/
structure Stance where
  forbidden : List FieldRule
  invalid : List FieldRule
  refused : List Setter
  replies : List Reply
  pending : Nat

def World.under (w : World) (s : Stance) : World :=
  { w with
    forbidden := s.forbidden
    invalid := s.invalid
    refused := s.refused
    replies := s.replies
    pending := s.pending }

@[reducible] def wavering (mind : World → Stance) : Host World :=
  { host with
    newResponse := fun o fields w => host.newResponse o fields (w.under (mind w))
    handle := fun head options w => host.handle head options (w.under (mind w)) }

/-- The component host is the one that keeps to its lists. -/
theorem wavering_own :
    wavering (fun w => ⟨w.forbidden, w.invalid, w.refused, w.replies, w.pending⟩) = host := rfl

/-! ## Handles without children -/

/-- No handle came from one of this kind. -/
def Barren (kind : Kind) (live : Live) : Prop :=
  ∀ p ∈ live, ∀ o, p.2 = some o → o.kind ≠ kind

/-- The handles came from no other. -/
def Rooted (live : Live) : Prop := ∀ p ∈ live, p.2 = none

section Barren

variable {kind : Kind} {live : Live} {h o : Handle}

theorem Rooted.barren (hRooted : Rooted live) (kind : Kind) : Barren kind live := by
  intro p hp o ho
  rw [hRooted p hp] at ho
  cases ho

theorem Rooted.cons (hRooted : Rooted live) (h : Handle) : Rooted ((h, none) :: live) := by
  intro p hp
  rcases List.mem_cons.mp hp with rfl | hp
  · rfl
  · exact hRooted p hp

theorem Barren.cons (hBarren : Barren kind live) (hKind : o.kind ≠ kind) :
    Barren kind ((h, some o) :: live) := by
  intro p hp o' ho'
  rcases List.mem_cons.mp hp with rfl | hp
  · cases ho'
    exact hKind
  · exact hBarren p hp o' ho'

theorem Barren.childless (hBarren : Barren h.kind live) : Childless h live := by
  intro p hp hOwner
  exact hBarren p hp h hOwner rfl

end Barren

variable {live roots : Live} {w w' : World}

namespace Carries

variable {live' : Live} {x : Handle} {owner : Option Handle} {kind : Kind}

/-- The handle on top is dropped, and none that stays came from its kind. -/
theorem drop (h : Carries live w ((x, owner) :: live') w') (hKind : x.kind = kind)
    (hBarren : Barren kind live') (hOther : kind ≠ .outgoingResponse) :
    Carries live w live' (w'.release x) := by
  subst hKind
  exact h.release [] hBarren.childless hOther

theorem hand (h : Carries live w ((x, owner) :: live') w') (hKind : x.kind = kind)
    (hBarren : Barren kind live') (hTaken : kind.isTaken) (hOther : kind ≠ .outgoingBody) :
    Carries live w live' (w'.give x) := by
  subst hKind
  exact h.give [] hTaken (fun _ => hBarren.childless) fun hBody => absurd hBody hOther

end Carries

theorem carries_under (mind : World → Stance) (w : World) :
    Carries live w live (w.under (mind w)) := ⟨rfl, (Carries.refl live w).entries⟩

/-! ## Reading -/

section Reading

theorem carries_described (h : Carries live w live w') (hBarren : Barren .ioError live)
    (e : StreamError) :
    Carries live w live (described (w'.streamFault e).1 (w'.streamFault e).2).2 := by
  cases e with
  | closed => exact h
  | failed message =>
    have hObtained := h.obtainNew .ioError (by decide)
    exact (hObtained.call .errorToDebugString).drop rfl hBarren nofun

theorem carries_read (h : Carries live w live w') (hBarren : Barren .ioError live)
    (s : InputStream) (n : Nat) :
    (host.read s n w').2.1.handle = s.handle ∧ Carries live w live (host.read s n w').2.2 := by
  have hCalled := h.call (.blockingRead n)
  change (describedResult (w'.blockingRead s n)).2.1.handle = s.handle ∧
    Carries live w live (describedResult (w'.blockingRead s n)).2.2
  rw [World.blockingRead]
  match s.script.read n with
  | (.ok bytes, rest) => exact ⟨rfl, hCalled⟩
  | (.error e, rest) => exact ⟨rfl, carries_described hCalled hBarren e⟩

variable (mind : World → Stance) {bound : Nat} (pos : 0 < bound)

theorem leaves_readOut (s : InputStream) {owner : Option Handle}
    (hStream : s.handle.kind = .inputStream) (hStreams : Barren .inputStream live)
    (hErrors : Barren .ioError ((s.handle, owner) :: live)) :
    Leaves ((s.handle, owner) :: live) w (fun _ live' => live' = live) live
      ((wavering mind).readOut pos s w) := by
  have hKept : ∀ (s' : InputStream) (w' : World), s'.handle = s.handle ∧
      Carries ((s.handle, owner) :: live) w ((s.handle, owner) :: live) w' →
      ((wavering mind).read s' bound w').2.1.handle = s.handle ∧
        Carries ((s.handle, owner) :: live) w ((s.handle, owner) :: live)
          ((wavering mind).read s' bound w').2.2 := by
    rintro s' w' ⟨hHandle, h⟩
    obtain ⟨hSame, hRead⟩ := carries_read h hErrors s' bound
    exact ⟨hSame.trans hHandle, hRead⟩
  obtain ⟨hHandle, hRead⟩ := (wavering mind).readAll_keeps pos hKept s [] w ⟨rfl, .refl _ w⟩
  apply Leaves.ofCall
  change Carries _ w live (World.release _ _)
  rw [hHandle]
  exact hRead.drop hStream hStreams nofun

theorem leaves_drain (body : IncomingBody) {owner : Handle}
    (hBody : body.handle.kind = .incomingBody)
    (hOwner : some owner.kind ∈ Kind.incomingBody.sources) (hRooted : Rooted live) :
    Leaves ((body.handle, some owner) :: live) w (fun _ live' => live' = live) live
      ((wavering mind).drain pos body w) := by
  have hNeither : owner.kind ≠ .inputStream ∧ owner.kind ≠ .ioError := by
    constructor <;> (intro hKind; rw [hKind] at hOwner; exact absurd hOwner (by decide))
  have hDropped {start : Live} {w₁ w₂ : World}
      (h : Carries start w₁ ((body.handle, some owner) :: live) w₂) :
      Carries start w₁ live ((wavering mind).dropIncoming body w₂) :=
    h.drop hBody (hRooted.barren _) nofun
  refine (Leaves.onFailure _ (Leaves.giveOut (fun w => w.bodyStream body) (bodyStream_eq w body)
    (by rw [hBody]; decide) ⟨_, List.mem_cons_self⟩) hDropped).bind ?_
  rintro opened _ w₁ ⟨h, hKind, rfl, rfl⟩
  refine (Leaves.onFailure _ (leaves_readOut mind pos ⟨h, body.script⟩ hKind
    ((hRooted.barren _).cons hNeither.1)
    (((hRooted.barren _).cons hNeither.2).cons (by simp [hBody]))) hDropped).bind ?_
  rintro bytes _ w' rfl
  have hCalled := (Carries.refl ((body.handle, some owner) :: live) w').call .incomingBodyFinish
  have hGiven := hCalled.hand hBody (hRooted.barren _) rfl nofun
  have hTrailers := hGiven.obtainNew .futureTrailers (by decide)
  exact .ok rfl (hTrailers.drop rfl (hRooted.barren _) nofun)

theorem carries_entries {owner : Handle} (call : Call)
    (hSource : some owner.kind ∈ Kind.fields.sources) (hOwner : ∃ origin, (owner, origin) ∈ live)
    (hRooted : Rooted live) (entries : FieldList) :
    Carries live w live
      (entriesOf (⟨⟨.fields, w.nextId⟩, entries⟩, ((w.call call).obtain .fields owner).2)).2 := by
  have hObtained := ((Carries.refl live w).call call).obtain .fields owner hSource (by
    rintro _ ⟨⟩
    exact hOwner)
  exact (hObtained.call .fieldsEntries).drop rfl (hRooted.barren _) nofun

theorem leaves_receiveRequest (limits : Limits) {request : IncomingRequest}
    (hKind : request.handle.kind = .incomingRequest) (hMem : (request.handle, none) ∈ live)
    (hRooted : Rooted live) :
    Leaves live w (fun _ live' => live' = live) live
      ((wavering mind).receiveRequest limits request w) := by
  refine (Leaves.done ((Carries.refl _ w).call .requestMethod)).bind ?_
  rintro method _ w rfl
  refine (Leaves.giveOut (fun w => w.requestConsume request) (requestConsume_eq w request)
    (by rw [hKind]; decide) ⟨none, hMem⟩).bind ?_
  rintro body _ w ⟨h, hBody, rfl, rfl⟩
  refine (leaves_drain mind limits.read_pos ⟨h, request.script, request.streamTaken⟩ hBody
    (by rw [hKind]; decide) hRooted).bind ?_
  rintro bytes _ w rfl
  refine (Leaves.done ((Carries.refl _ w).call .requestPath)).bind ?_
  rintro path _ w rfl
  refine (Leaves.done (carries_entries .requestHeaders (by rw [hKind]; decide) ⟨none, hMem⟩
    hRooted request.headers)).bind ?_
  rintro fields _ w rfl
  exact .done (.refl _ w)

end Reading

end BufferedHttp.Component
