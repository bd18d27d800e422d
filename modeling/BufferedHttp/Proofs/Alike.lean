import BufferedHttp.Proofs.Action

/-!
# Actions that go alike

Two actions on different worlds go alike when from related worlds they end with related results or
with the same error, and leave related worlds. What is built in the same way from actions that go
alike goes alike.
-/

namespace BufferedHttp.Action

variable {S T α β γ δ : Type} {R : S → T → Prop} {Q : α → β → Prop} {P : γ → δ → Prop}
  {s : S} {t : T}

/-- Related results, or the same error. -/
inductive Agree (Q : α → β → Prop) : Except Error α → Except Error β → Prop where
  | ok {a : α} {b : β} (hValues : Q a b) : Agree Q (.ok a) (.ok b)
  | error (e : Error) : Agree Q (.error e) (.error e)

inductive Alike (R : S → T → Prop) (Q : α → β → Prop) :
    EStateM.Result Error S α → EStateM.Result Error T β → Prop where
  | ok {a : α} {b : β} {s : S} {t : T} (hValues : Q a b) (hWorlds : R s t) :
      Alike R Q (.ok a s) (.ok b t)
  | error (e : Error) {s : S} {t : T} (hWorlds : R s t) : Alike R Q (.error e s) (.error e t)

/-- Two pairs are related part by part. -/
structure Both (Q : α → β → Prop) (P : γ → δ → Prop) (left : α × γ) (right : β × δ) : Prop where
  first : Q left.1 right.1
  second : P left.2 right.2

theorem agree_refl (r : Except Error α) : Agree Eq r r := by
  cases r with
  | ok a => exact .ok rfl
  | error e => exact .error e

/-- Pairs that are the same are related part by part. -/
theorem Alike.both {left : EStateM.Result Error S (α × γ)} {right : EStateM.Result Error T (α × γ)}
    (h : Alike R Eq left right) : Alike R (Both Eq Eq) left right := by
  cases h with
  | ok hValues hWorlds =>
    cases hValues
    exact .ok ⟨rfl, rfl⟩ hWorlds
  | error e hWorlds => exact .error e hWorlds

theorem Alike.result_eq {act : Action S α} {act' : Action T α}
    (h : Alike R Eq (act s) (act' t)) : act.result s = act'.result t := by
  generalize hLeft : act s = left, hRight : act' t = right at h
  cases h with
  | ok hValues hWorlds => rw [result_of_ok hLeft, result_of_ok hRight, hValues]
  | error e hWorlds => rw [result_of_error hLeft, result_of_error hRight]

theorem Alike.after {act : Action S α} {act' : Action T β}
    (h : Alike R Q (act s) (act' t)) : R (act.after s) (act'.after t) := by
  generalize hLeft : act s = left, hRight : act' t = right at h
  rw [Action.after, Action.after, hLeft, hRight]
  cases h with
  | ok hValues hWorlds => exact hWorlds
  | error e hWorlds => exact hWorlds

theorem alike_ofExcept {r : Except Error α} {r' : Except Error β} (h : Agree Q r r')
    (hWorlds : R s t) : Alike R Q (ofExcept r s) (ofExcept r' t) := by
  cases h with
  | ok hValues => exact .ok hValues hWorlds
  | error e => exact .error e hWorlds

theorem alike_ofCall {call : S → Except Error α × S} {call' : T → Except Error β × T}
    (h : Agree Q (call s).1 (call' t).1) (hWorlds : R (call s).2 (call' t).2) :
    Alike R Q (ofCall call s) (ofCall call' t) := by
  have hLeft : ofCall call s = ofExcept (call s).1 (call s).2 := ofCall_eq_ofExcept rfl
  have hRight : ofCall call' t = ofExcept (call' t).1 (call' t).2 := ofCall_eq_ofExcept rfl
  rw [hLeft, hRight]
  exact alike_ofExcept h hWorlds

theorem Alike.bind {act : Action S α} {act' : Action T β} {next : α → Action S γ}
    {next' : β → Action T δ} (h : Alike R Q (act s) (act' t))
    (hNext : ∀ {a b s t}, Q a b → R s t → Alike R P (next a s) (next' b t)) :
    Alike R P ((act >>= next) s) ((act' >>= next') t) := by
  generalize hLeft : act s = left, hRight : act' t = right at h
  cases h with
  | ok hValues hWorlds =>
    rw [bind_of_ok hLeft, bind_of_ok hRight]
    exact hNext hValues hWorlds
  | error e hWorlds =>
    rw [bind_of_error hLeft, bind_of_error hRight]
    exact .error e hWorlds

theorem Alike.onFailure {cleanup : S → S} {cleanup' : T → T} {act : Action S α}
    {act' : Action T β} (h : Alike R Q (act s) (act' t))
    (hClean : ∀ {s t}, R s t → R (cleanup s) (cleanup' t)) :
    Alike R Q (act.onFailure cleanup s) (act'.onFailure cleanup' t) := by
  generalize hLeft : act s = left, hRight : act' t = right at h
  cases h with
  | ok hValues hWorlds =>
    rw [onFailure_of_ok hLeft, onFailure_of_ok hRight]
    exact .ok hValues hWorlds
  | error e hWorlds =>
    rw [onFailure_of_error hLeft, onFailure_of_error hRight]
    exact .error e (hClean hWorlds)

theorem Alike.ensuring {cleanup : S → S} {cleanup' : T → T} {act : Action S α}
    {act' : Action T β} (h : Alike R Q (act s) (act' t))
    (hClean : ∀ {s t}, R s t → R (cleanup s) (cleanup' t)) :
    Alike R Q (act.ensuring cleanup s) (act'.ensuring cleanup' t) := by
  generalize hLeft : act s = left, hRight : act' t = right at h
  cases h with
  | ok hValues hWorlds =>
    rw [ensuring_of_ok hLeft, ensuring_of_ok hRight]
    exact .ok hValues (hClean hWorlds)
  | error e hWorlds =>
    rw [ensuring_of_error hLeft, ensuring_of_error hRight]
    exact .error e (hClean hWorlds)

end BufferedHttp.Action
