import BufferedHttp.Host.Action

/-!
# How actions run

Rules for the sequence of two actions and for the two ways of cleaning up. An action beside a
second state runs as it does without it and leaves that state as it is.
-/

namespace BufferedHttp.Action

variable {World S α β : Type}

theorem bind_of_ok {act : Action World α} {next : α → Action World β} {w w' : World} {a : α}
    (h : act w = .ok a w') : (act >>= next) w = next a w' := by
  change EStateM.bind act next w = _
  rw [EStateM.bind, h]

theorem bind_of_error {act : Action World α} {next : α → Action World β} {w w' : World} {e : Error}
    (h : act w = .error e w') : (act >>= next) w = .error e w' := by
  change EStateM.bind act next w = _
  rw [EStateM.bind, h]

/-- What a sequence gives, its second action gives. -/
theorem exists_of_bind_eq_ok {act : Action World α} {next : α → Action World β} {w w' : World}
    {b : β} (h : (act >>= next) w = .ok b w') :
    ∃ a w₁, act w = .ok a w₁ ∧ next a w₁ = .ok b w' := by
  cases hFirst : act w with
  | ok a w₁ =>
    rw [bind_of_ok hFirst] at h
    exact ⟨a, w₁, rfl, h⟩
  | error e w₁ =>
    rw [bind_of_error hFirst] at h
    cases h

theorem ofCall_eq_ofExcept {call : World → Except Error α × World} {w w' : World}
    {r : Except Error α} (h : call w = (r, w')) : ofCall call w = ofExcept r w' := by
  rw [ofCall, h]
  cases r <;> rfl

def result (act : Action World α) (w : World) : Except Error α :=
  match act w with
  | .ok a _ => .ok a
  | .error e _ => .error e

def after (act : Action World α) (w : World) : World :=
  match act w with
  | .ok _ w' => w'
  | .error _ w' => w'

theorem result_of_eq {act : Action World α} {w w' : World} {r : Except Error α}
    (h : act w = ofExcept r w') : act.result w = r := by
  rw [result, h]
  cases r <;> rfl

theorem after_of_eq {act : Action World α} {w w' : World} {r : Except Error α}
    (h : act w = ofExcept r w') : act.after w = w' := by
  rw [after, h]
  cases r <;> rfl

theorem result_of_ok {act : Action World α} {w w' : World} {a : α} (h : act w = .ok a w') :
    act.result w = .ok a := by
  rw [result, h]

theorem result_of_error {act : Action World α} {w w' : World} {e : Error}
    (h : act w = .error e w') : act.result w = .error e := by
  rw [result, h]

theorem eq_ofExcept (act : Action World α) (w : World) :
    act w = ofExcept (act.result w) (act.after w) := by
  rw [result, after]
  cases act w <;> rfl

theorem onFailure_of_ok {cleanup : World → World} {act : Action World α} {w w' : World} {a : α}
    (h : act w = .ok a w') : act.onFailure cleanup w = .ok a w' := by
  rw [onFailure, h]

theorem onFailure_of_error {cleanup : World → World} {act : Action World α} {w w' : World}
    {e : Error} (h : act w = .error e w') : act.onFailure cleanup w = .error e (cleanup w') := by
  rw [onFailure, h]

theorem eq_ok_of_onFailure {cleanup : World → World} {act : Action World α} {w w' : World} {a : α}
    (h : act.onFailure cleanup w = .ok a w') : act w = .ok a w' := by
  rw [onFailure] at h
  cases hAct : act w with
  | ok a' w₁ =>
    rw [hAct] at h
    exact h
  | error e w₁ =>
    rw [hAct] at h
    cases h

theorem ensuring_of_ok {cleanup : World → World} {act : Action World α} {w w' : World} {a : α}
    (h : act w = .ok a w') : act.ensuring cleanup w = .ok a (cleanup w') := by
  rw [ensuring, h]

theorem ensuring_of_error {cleanup : World → World} {act : Action World α} {w w' : World}
    {e : Error} (h : act w = .error e w') : act.ensuring cleanup w = .error e (cleanup w') := by
  rw [ensuring, h]

theorem after_ensuring (cleanup : World → World) (act : Action World α) (w : World) :
    (act.ensuring cleanup).after w = cleanup (act.after w) := by
  rw [after, ensuring, after]
  cases act w <;> rfl

/-- An outcome with a second part of the world beside its own. -/
def pairWith (s : S) : EStateM.Result Error World α → EStateM.Result Error (World × S) α
  | .ok a w => .ok a (w, s)
  | .error e w => .error e (w, s)

/-- The action in a world that has a second part. -/
def beside (act : Action World α) : Action (World × S) α := fun w => pairWith w.2 (act w.1)

theorem beside_of_ok {act : Action World α} {w : World × S} {w' : World} {a : α}
    (h : act w.1 = .ok a w') : act.beside w = .ok a (w', w.2) := by
  rw [beside, h, pairWith]

theorem beside_of_error {act : Action World α} {w : World × S} {w' : World} {e : Error}
    (h : act w.1 = .error e w') : act.beside w = .error e (w', w.2) := by
  rw [beside, h, pairWith]

theorem beside_ofExcept (r : Except Error α) :
    (ofExcept r : Action World α).beside = (ofExcept r : Action (World × S) α) := by
  cases r <;> rfl

theorem beside_ofCall (call : World → Except Error α × World) :
    (ofCall call).beside =
      (ofCall fun w => ((call w.1).1, (call w.1).2, w.2) : Action (World × S) α) := by
  funext w
  rw [beside, ofCall, ofCall]
  rcases call w.1 with ⟨_ | a, w'⟩ <;> rfl

theorem beside_modifyGet (f : World → α × World) :
    (modifyGet f : Action World α).beside =
      (modifyGet fun w => ((f w.1).1, (f w.1).2, w.2) : Action (World × S) α) := rfl

theorem beside_modify (f : World → World) :
    (modify f : Action World PUnit).beside =
      (modify (Prod.map f id) : Action (World × S) PUnit) := rfl

theorem beside_pure (a : α) :
    (pure a : Action World α).beside = (pure a : Action (World × S) α) := rfl

theorem beside_bind (act : Action World α) (next : α → Action World β) :
    ((act >>= next).beside : Action (World × S) β) = act.beside >>= fun a => (next a).beside := by
  funext w
  cases h : act w.1 with
  | ok a w' => rw [bind_of_ok (beside_of_ok h), beside, bind_of_ok h, beside]
  | error e w' => rw [bind_of_error (beside_of_error h), beside_of_error (bind_of_error h)]

theorem beside_onFailure (cleanup : World → World) (act : Action World α) :
    ((act.onFailure cleanup).beside : Action (World × S) α) =
      act.beside.onFailure (Prod.map cleanup id) := by
  funext w
  cases h : act w.1 with
  | ok a w' => rw [onFailure_of_ok (beside_of_ok h), beside_of_ok (onFailure_of_ok h)]
  | error e w' =>
    rw [onFailure_of_error (beside_of_error h), beside_of_error (onFailure_of_error h)]
    rfl

theorem beside_ensuring (cleanup : World → World) (act : Action World α) :
    ((act.ensuring cleanup).beside : Action (World × S) α) =
      act.beside.ensuring (Prod.map cleanup id) := by
  funext w
  cases h : act w.1 with
  | ok a w' =>
    rw [ensuring_of_ok (beside_of_ok h), beside_of_ok (ensuring_of_ok h)]
    rfl
  | error e w' =>
    rw [ensuring_of_error (beside_of_error h), beside_of_error (ensuring_of_error h)]
    rfl

end BufferedHttp.Action
