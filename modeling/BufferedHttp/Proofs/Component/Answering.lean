import BufferedHttp.Proofs.Component.Asking

/-!
# What an answer leaves held

The head of an answer is a response with its body above it. The response goes first when the
out-parameter takes it, and last when it is dropped.
-/

namespace BufferedHttp.Component

open Host

variable {live : Live} {w w' : World} (mind : World → Stance)

theorem leaves_newResponse (hRooted : Rooted live) (out : Outparam) (fields : FieldList) :
    Leaves live w
      (fun r live' => r.handle.kind = .outgoingResponse ∧ live' = (r.handle, none) :: live) live
      ((wavering mind).newResponse out fields w) := by
  have hNew : Leaves live (w.under (mind w))
      (fun r live' => r.handle.kind = .outgoingResponse ∧ live' = (r.handle, none) :: live) live
      (host.newResponse out fields (w.under (mind w))) := by
    refine (leaves_newFields fields).bind ?_
    rintro f _ w ⟨hFields, rfl⟩
    have hCalled := (Carries.refl ((f.handle, none) :: live) w).call .newResponse
    have hGiven := hCalled.hand hFields (hRooted.barren _) rfl nofun
    exact .ok ⟨rfl, rfl⟩ (hGiven.obtainNew .outgoingResponse (by decide))
  exact hNew.after (carries_under mind w)

theorem leaves_setStatus (response : OutgoingResponse) (status : UInt16) :
    Leaves live w (fun r live' => r.handle = response.handle ∧ live' = live) live
      ((wavering mind).setStatus response status w) := by
  have hCalled := (Carries.refl live w).call (.setStatusCode status)
  by_cases hStatus : 100 ≤ status ∧ status ≤ 999 ∧ !response.plan.statusRefused
  · have hTaken : w.setStatusCode response status =
        (some { response with status }, w.call (.setStatusCode status)) := by
      rw [World.setStatusCode, if_pos hStatus]
    rw [show (wavering mind).setStatus response status w = _ from
      accepted_of_some (fun w => w.setStatusCode response status) hTaken]
    exact .ok ⟨rfl, rfl⟩ hCalled
  · have hRefused : w.setStatusCode response status = (none, w.call (.setStatusCode status)) := by
      rw [World.setStatusCode, if_neg hStatus]
    rw [show (wavering mind).setStatus response status w = _ from
      accepted_of_none (fun w => w.setStatusCode response status) hRefused]
    exact .error hCalled

theorem leaves_takeBody {response : OutgoingResponse}
    (hKind : response.handle.kind = .outgoingResponse) (hMem : (response.handle, none) ∈ live) :
    Leaves live w
      (fun taken live' => taken.2.handle = response.handle ∧
        taken.1.handle.kind = .outgoingBody ∧
        live' = (taken.1.handle, some response.handle) :: live) live
      ((wavering mind).takeBody response w) := by
  refine (Leaves.giveOut (fun w => w.responseBody response) (responseBody_eq w response)
    (by rw [hKind]; decide) ⟨none, hMem⟩).mono ?_
  rintro taken _ ⟨h, hBody, rfl, rfl⟩
  exact ⟨rfl, hBody, rfl⟩

theorem leaves_finishHead (hRooted : Rooted live) {response : OutgoingResponse}
    (hKind : response.handle.kind = .outgoingResponse) (answer : Answer) :
    Leaves ((response.handle, none) :: live) w
      (fun p live' => p.1.handle = response.handle ∧ p.2.handle.kind = .outgoingBody ∧
        live' = (p.2.handle, some response.handle) :: (response.handle, none) :: live)
      ((response.handle, none) :: live) ((wavering mind).finishHead response answer w) := by
  have hMem : (response.handle, none) ∈ (response.handle, none) :: live := List.mem_cons_self
  cases answer with
  | response r =>
    refine (leaves_setStatus mind response r.status).bind ?_
    rintro head _ w ⟨hHandle, rfl⟩
    rw [← hHandle] at hKind hMem ⊢
    refine (leaves_takeBody mind hKind hMem).bind ?_
    rintro ⟨body, head'⟩ _ w ⟨hSame, hBody, rfl⟩
    exact .ok ⟨hSame, hBody, rfl⟩ (.refl _ w)
  | internalError =>
    refine (leaves_takeBody mind hKind hMem).bind ?_
    rintro ⟨body, response'⟩ _ w ⟨hSame, hBody, rfl⟩
    refine (Leaves.onFailure _ (leaves_setStatus mind response' 500) ?_).bind ?_
    · intro w' h
      exact h.drop hBody ((hRooted.cons _).barren _) nofun
    · rintro head _ w ⟨hHandle, rfl⟩
      exact .ok ⟨hHandle.trans hSame, hBody, rfl⟩ (.refl _ w)

/-! ## The body of an answer -/

theorem carries_write (h : Carries live w live w') (hErrors : Barren .ioError live)
    (s : OutputStream) (bytes : Bytes) :
    (host.write s bytes w').2.1.handle = s.handle ∧
      Carries live w live (host.write s bytes w').2.2 := by
  have hCalled := h.call (.blockingWriteAndFlush bytes.length)
  change (describedResult (w'.blockingWriteAndFlush s bytes)).2.1.handle = s.handle ∧
    Carries live w live (describedResult (w'.blockingWriteAndFlush s bytes)).2.2
  rw [World.blockingWriteAndFlush]
  cases s.plan.writes.at? s.calls with
  | none => exact ⟨rfl, hCalled.answers, hCalled.entries⟩
  | some e => exact ⟨rfl, carries_described hCalled hErrors e⟩

theorem leaves_writeOut (s : OutputStream) {owner : Option Handle} (chunks : List Bytes)
    (hStream : s.handle.kind = .outputStream) (hStreams : Barren .outputStream live)
    (hErrors : Barren .ioError ((s.handle, owner) :: live)) :
    Leaves ((s.handle, owner) :: live) w (fun _ live' => live' = live) live
      ((wavering mind).writeOut chunks s w) := by
  have hKept : ∀ (s' : OutputStream) (bytes : Bytes) (w' : World), s'.handle = s.handle ∧
      Carries ((s.handle, owner) :: live) w ((s.handle, owner) :: live) w' →
      ((wavering mind).write s' bytes w').2.1.handle = s.handle ∧
        Carries ((s.handle, owner) :: live) w ((s.handle, owner) :: live)
          ((wavering mind).write s' bytes w').2.2 := by
    rintro s' bytes w' ⟨hHandle, h⟩
    obtain ⟨hSame, hWritten⟩ := carries_write h hErrors s' bytes
    exact ⟨hSame.trans hHandle, hWritten⟩
  obtain ⟨hHandle, hWritten⟩ :=
    (wavering mind).writeAll_keeps hKept chunks s w ⟨rfl, .refl _ w⟩
  apply Leaves.ofCall
  change Carries _ w live (World.release _ _)
  rw [hHandle]
  exact hWritten.drop hStream hStreams nofun

/-- The response of the body is not held any more when the body is finished. -/
theorem leaves_finishOutgoing (hRooted : Rooted live) {body : OutgoingBody} {response : Handle}
    (hBody : body.handle.kind = .outgoingBody) (hGone : ∀ origin, (response, origin) ∉ live) :
    Leaves ((body.handle, some response) :: live) w (fun _ live' => live' = live) live
      ((wavering mind).finishOutgoing body w) := by
  have hGiven := ((Carries.refl ((body.handle, some response) :: live) w).call
    .outgoingBodyFinish).give [] (by rw [hBody]; rfl) (fun _ => (hRooted.barren _).childless) (by
      rintro - _ origin ⟨⟩
      exact hGone origin)
  apply Leaves.ofCall
  simp only [World.outgoingBodyFinish]
  cases body.plan.finishError with
  | none => exact hGiven
  | some code => exact hGiven

theorem leaves_complete (hRooted : Rooted live) {body : OutgoingBody} {response : Handle}
    (hBody : body.handle.kind = .outgoingBody) (hResponse : response.kind = .outgoingResponse)
    (hGone : ∀ origin, (response, origin) ∉ live) (limits : Limits) (answer : Answer) :
    Leaves ((body.handle, some response) :: live) w (fun _ live' => live' = live) live
      ((wavering mind).complete limits body answer w) := by
  cases answer with
  | internalError => exact leaves_finishOutgoing mind hRooted hBody hGone
  | response r =>
    have hDropped {start : Live} {w₁ w₂ : World}
        (h : Carries start w₁ ((body.handle, some response) :: live) w₂) :
        Carries start w₁ live ((wavering mind).dropOutgoing body w₂) :=
      h.drop hBody (hRooted.barren _) nofun
    refine (Leaves.onFailure _ (Leaves.giveOut (fun w => w.bodyWrite body) (bodyWrite_eq w body)
      (by rw [hBody]; decide) ⟨_, List.mem_cons_self⟩) hDropped).bind ?_
    rintro opened _ w₁ ⟨h, hKind, rfl, rfl⟩
    refine (Leaves.onFailure _ (leaves_writeOut mind ⟨h, body.plan, 0⟩ _ hKind
      ((hRooted.barren _).cons (by simp [hResponse]))
      (((hRooted.barren _).cons (by simp [hResponse])).cons (by simp [hBody])))
      hDropped).bind ?_
    rintro _ _ w' rfl
    exact leaves_finishOutgoing mind hRooted hBody hGone

end BufferedHttp.Component
