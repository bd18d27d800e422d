import BufferedHttp.Proofs.Component.Calls
import BufferedHttp.Proofs.Component.Ledger

/-!
# What an action leaves held

An action carries the handles that are held before it to those that are held behind it when its
ledger entries are a run between them. What it leaves depends on how it ends: on its value when it
succeeds, and always the same when it fails.
-/

namespace BufferedHttp.Component

abbrev Live := List (Handle × Option Handle)

/-- Between two worlds the ledger grows by a run that drops no outgoing response, and no
out-parameter is answered. -/
structure Carries (live : Live) (w : World) (live' : Live) (w' : World) : Prop where
  answers : w'.answers = w.answers
  entries : ∃ entries, w'.ledger = w.ledger ++ entries ∧
    (∀ h, .released h ∈ entries → h.kind ≠ .outgoingResponse) ∧
    Run ⟨w.nextId, live⟩ entries ⟨w'.nextId, live'⟩

namespace Carries

variable {live live₁ live' : Live} {w w₁ w' : World}

theorem refl (live : Live) (w : World) : Carries live w live w where
  answers := rfl
  entries := ⟨[], (List.append_nil _).symm, by simp, .nil _⟩

theorem trans (hFirst : Carries live w live₁ w₁) (hSecond : Carries live₁ w₁ live' w') :
    Carries live w live' w' where
  answers := hSecond.answers.trans hFirst.answers
  entries := by
    obtain ⟨first, hLedger₁, hKept₁, hRun₁⟩ := hFirst.entries
    obtain ⟨second, hLedger₂, hKept₂, hRun₂⟩ := hSecond.entries
    refine ⟨first ++ second, ?_, ?_, hRun₁.append hRun₂⟩
    · rw [hLedger₂, hLedger₁, List.append_assoc]
    · intro h hMem
      rcases List.mem_append.mp hMem with hMem | hMem
      · exact hKept₁ h hMem
      · exact hKept₂ h hMem

/-- One more entry. -/
theorem enter {e : Entry} {next : Nat} (h : Carries live w live₁ w₁)
    (hStep : Step ⟨w₁.nextId, live₁⟩ e ⟨next, live'⟩)
    (hKept : ∀ x, e = .released x → x.kind ≠ .outgoingResponse) :
    Carries live w live' { w₁.enter e with nextId := next } := by
  refine h.trans ⟨rfl, [e], rfl, ?_, .cons hStep (.nil _)⟩
  intro x hMem
  exact hKept x (List.mem_singleton.mp hMem).symm

theorem call (h : Carries live w live' w') (c : Call) : Carries live w live' (w'.call c) :=
  h.enter (.call _ c) nofun

theorem obtain (h : Carries live w live' w') (kind : Kind) (owner : Option Handle)
    (hSource : owner.map Handle.kind ∈ kind.sources)
    (hOwner : ∀ o, owner = some o → ∃ origin, (o, origin) ∈ live') :
    Carries live w ((⟨kind, w'.nextId⟩, owner) :: live') (w'.obtain kind owner).2 :=
  h.enter (.obtain hSource hOwner) nofun

/-- A handle that the host makes anew. -/
theorem obtainNew (h : Carries live w live' w') (kind : Kind) (hSource : none ∈ kind.sources) :
    Carries live w ((⟨kind, w'.nextId⟩, none) :: live') (w'.obtain kind none).2 :=
  h.obtain kind none hSource nofun

theorem release {back : Live} {x : Handle} {owner : Option Handle} (front : Live)
    (h : Carries live w (front ++ (x, owner) :: back) w') (hChildless : Childless x (front ++ back))
    (hKind : x.kind ≠ .outgoingResponse) : Carries live w (front ++ back) (w'.release x) := by
  refine h.enter (.release hChildless) ?_
  rintro _ ⟨⟩
  exact hKind

theorem give {back : Live} {x : Handle} {owner : Option Handle} (front : Live)
    (h : Carries live w (front ++ (x, owner) :: back) w') (hTaken : x.kind.isTaken)
    (hChildless : x.kind ≠ .outgoingResponse → Childless x (front ++ back))
    (hBody : x.kind = .outgoingBody → ∀ o origin, owner = some o → (o, origin) ∉ front ++ back) :
    Carries live w (front ++ back) (w'.give x) :=
  h.enter (.give hTaken hChildless hBody) nofun

end Carries

/-- How an action ends, and what it leaves held. -/
inductive Leaves (live : Live) (w : World) (P : α → Live → Prop) (lost : Live) :
    EStateM.Result Error World α → Prop where
  | ok {a : α} {live' : Live} {w' : World} (hValue : P a live') (h : Carries live w live' w') :
      Leaves live w P lost (.ok a w')
  | error {e : Error} {w' : World} (h : Carries live w lost w') : Leaves live w P lost (.error e w')

namespace Leaves

variable {α β : Type} {P : α → Live → Prop} {Q : β → Live → Prop} {live live₁ lost : Live}
  {w w₁ : World}

/-- A success that leaves held what a failure would. -/
theorem done {a : α} (h : Carries live w lost w₁) :
    Leaves live w (fun _ live' => live' = lost) lost (.ok a w₁) := .ok rfl h

theorem mono {P' : α → Live → Prop} {r : EStateM.Result Error World α}
    (h : Leaves live w P lost r) (hMono : ∀ a live', P a live' → P' a live') :
    Leaves live w P' lost r := by
  cases h with
  | ok hValue h => exact .ok (hMono _ _ hValue) h
  | error h => exact .error h

theorem after {r : EStateM.Result Error World α} (hFirst : Carries live w live₁ w₁)
    (h : Leaves live₁ w₁ P lost r) : Leaves live w P lost r := by
  cases h with
  | ok hValue h => exact .ok hValue (hFirst.trans h)
  | error h => exact .error (hFirst.trans h)

theorem carries {act : Action World α}
    (h : Leaves live w (fun _ live' => live' = lost) lost (act w)) :
    Carries live w lost (act.after w) := by
  rw [Action.after]
  generalize act w = r at h
  cases h with
  | ok hValue h =>
    subst hValue
    exact h
  | error h => exact h

theorem bind {act : Action World α} {next : α → Action World β}
    (h : Leaves live w P lost (act w))
    (hNext : ∀ {a live' w'}, P a live' → Leaves live' w' Q lost (next a w')) :
    Leaves live w Q lost ((act >>= next) w) := by
  generalize hAct : act w = r at h
  cases h with
  | ok hValue h =>
    rw [Action.bind_of_ok hAct]
    exact (hNext hValue).after h
  | error h =>
    rw [Action.bind_of_error hAct]
    exact .error h

theorem onFailure (held : Live) {cleanup : World → World} {act : Action World α}
    (h : Leaves live w P held (act w))
    (hClean : ∀ {w'}, Carries live w held w' → Carries live w lost (cleanup w')) :
    Leaves live w P lost (act.onFailure cleanup w) := by
  generalize hAct : act w = r at h
  cases h with
  | ok hValue h =>
    rw [Action.onFailure_of_ok hAct]
    exact .ok hValue h
  | error h =>
    rw [Action.onFailure_of_error hAct]
    exact .error (hClean h)

theorem ensuring (held : Live) {cleanup : World → World} {act : Action World α}
    (h : Leaves live w (fun _ live' => live' = held) held (act w))
    (hClean : ∀ {w'}, Carries live w held w' → Carries live w lost (cleanup w')) :
    Leaves live w (fun _ live' => live' = lost) lost (act.ensuring cleanup w) := by
  generalize hAct : act w = r at h
  cases h with
  | ok hValue h =>
    subst hValue
    rw [Action.ensuring_of_ok hAct]
    exact .ok rfl (hClean h)
  | error h =>
    rw [Action.ensuring_of_error hAct]
    exact .error (hClean h)

theorem ofExcept (r : Except Error α) :
    Leaves live w (fun _ live' => live' = live) live (Action.ofExcept r w) := by
  cases r with
  | ok a => exact .ok rfl (.refl live w)
  | error e => exact .error (.refl live w)

theorem ofCall {call : World → Except Error α × World} (h : Carries live w lost (call w).2) :
    Leaves live w (fun _ live' => live' = lost) lost (Action.ofCall call w) := by
  have hCall : Action.ofCall call w = Action.ofExcept (call w).1 (call w).2 :=
    Action.ofCall_eq_ofExcept rfl
  rw [hCall]
  exact (ofExcept _).after h

/-- A call that gives out a handle, or refuses. -/
theorem giveOut {e : Error} {call : Call} {used : Bool} {kind : Kind} {owner : Handle}
    {make : Handle → α} (act : World → Option α × World)
    (hCall : act w = w.giveOut call used kind owner make)
    (hSource : some owner.kind ∈ kind.sources) (hOwner : ∃ origin, (owner, origin) ∈ live) :
    Leaves live w
      (fun a live' => ∃ h, h.kind = kind ∧ a = make h ∧ live' = (h, some owner) :: live) live
      (accepted e act w) := by
  have hCalled := (Carries.refl live w).call call
  cases used with
  | true =>
    rw [accepted_of_none act hCall]
    exact .error hCalled
  | false =>
    rw [accepted_of_some act hCall]
    refine .ok ⟨_, rfl, rfl, rfl⟩ (hCalled.obtain kind owner hSource ?_)
    rintro _ ⟨⟩
    exact hOwner

end Leaves

end BufferedHttp.Component
