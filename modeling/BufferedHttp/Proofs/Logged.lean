import BufferedHttp.Proofs.Action

/-!
# Actions that keep a log

An action on a world with a log beside it logs a plain action when it ends as that one does and
only appends to the log. What is built in the same way from actions that log each other's plain
ones logs what is built from those.
-/

namespace BufferedHttp.Action

variable {World L α β : Type} {P : L → Prop}

/-- The logged action goes as the plain one, and all that it appends to the log is of one kind. -/
def Logs (P : L → Prop) (logged : Action (World × List L) α) (plain : Action World α) : Prop :=
  ∀ w log, ∃ more, (∀ entry ∈ more, P entry) ∧
    logged (w, log) = pairWith (log ++ more) (plain w)

theorem Logs.mono {Q : L → Prop} {logged : Action (World × List L) α} {plain : Action World α}
    (h : Logs P logged plain) (hMono : ∀ entry, P entry → Q entry) : Logs Q logged plain := by
  intro w log
  obtain ⟨more, hMore, hRun⟩ := h w log
  exact ⟨more, fun entry hEntry => hMono entry (hMore entry hEntry), hRun⟩

theorem pairWith_ofExcept (log : L) (r : Except Error α) (w : World) :
    pairWith log (ofExcept r w) = ofExcept r (w, log) := by
  cases r <;> rfl

/-- An action beside a log appends nothing. -/
theorem logs_beside (act : Action World α) : Logs P act.beside act := by
  intro w log
  refine ⟨[], List.forall_mem_nil P, ?_⟩
  rw [List.append_nil, beside]

theorem logs_ofExcept (r : Except Error α) :
    Logs P (ofExcept r) (ofExcept r : Action World α) :=
  beside_ofExcept r ▸ logs_beside (ofExcept r)

theorem logs_pure (a : α) : Logs P (pure a) (pure a : Action World α) := logs_beside (pure a)

theorem logs_ofCall {logged : World × List L → Except Error α × World × List L}
    {plain : World → Except Error α × World}
    (h : ∀ w log, ∃ more, (∀ entry ∈ more, P entry) ∧
      logged (w, log) = ((plain w).1, (plain w).2, log ++ more)) :
    Logs P (ofCall logged) (ofCall plain) := by
  intro w log
  obtain ⟨more, hMore, hRun⟩ := h w log
  refine ⟨more, hMore, ?_⟩
  have hPlain : ofCall plain w = ofExcept (plain w).1 (plain w).2 := ofCall_eq_ofExcept rfl
  rw [ofCall_eq_ofExcept hRun, hPlain, pairWith_ofExcept]

/-- The second action may count on what is true of all results of the first one. -/
theorem Logs.bind_of_results {logged : Action (World × List L) α} {plain : Action World α}
    {next : α → Action (World × List L) β} {next' : α → Action World β} {Q : α → Prop}
    (h : Logs P logged plain) (hResults : ∀ w a w', plain w = .ok a w' → Q a)
    (hNext : ∀ a, Q a → Logs P (next a) (next' a)) :
    Logs P (logged >>= next) (plain >>= next') := by
  intro w log
  obtain ⟨more, hMore, hRun⟩ := h w log
  cases hPlain : plain w with
  | error e w' =>
    rw [hPlain, pairWith] at hRun
    exact ⟨more, hMore, by rw [bind_of_error hRun, bind_of_error hPlain, pairWith]⟩
  | ok a w' =>
    rw [hPlain, pairWith] at hRun
    obtain ⟨last, hLast, hRest⟩ := hNext a (hResults w a w' hPlain) w' (log ++ more)
    refine ⟨more ++ last, List.forall_mem_append.mpr ⟨hMore, hLast⟩, ?_⟩
    rw [bind_of_ok hRun, bind_of_ok hPlain, hRest, List.append_assoc]

theorem Logs.bind {logged : Action (World × List L) α} {plain : Action World α}
    {next : α → Action (World × List L) β} {next' : α → Action World β} (h : Logs P logged plain)
    (hNext : ∀ a, Logs P (next a) (next' a)) : Logs P (logged >>= next) (plain >>= next') :=
  h.bind_of_results (Q := fun _ => True) (fun _ _ _ _ => trivial) fun a _ => hNext a

theorem Logs.onFailure {logged : Action (World × List L) α} {plain : Action World α}
    {cleanup : World × List L → World × List L} {cleanup' : World → World} (h : Logs P logged plain)
    (hClean : ∀ w log, ∃ more, (∀ entry ∈ more, P entry) ∧
      cleanup (w, log) = (cleanup' w, log ++ more)) :
    Logs P (logged.onFailure cleanup) (plain.onFailure cleanup') := by
  intro w log
  obtain ⟨more, hMore, hRun⟩ := h w log
  cases hPlain : plain w with
  | ok a w' =>
    rw [hPlain, pairWith] at hRun
    exact ⟨more, hMore, by rw [onFailure_of_ok hRun, onFailure_of_ok hPlain, pairWith]⟩
  | error e w' =>
    rw [hPlain, pairWith] at hRun
    obtain ⟨last, hLast, hRest⟩ := hClean w' (log ++ more)
    refine ⟨more ++ last, List.forall_mem_append.mpr ⟨hMore, hLast⟩, ?_⟩
    rw [onFailure_of_error hRun, onFailure_of_error hPlain, hRest, pairWith, List.append_assoc]

theorem Logs.ensuring {logged : Action (World × List L) α} {plain : Action World α}
    (cleanup : World → World) (h : Logs P logged plain) :
    Logs P (logged.ensuring (Prod.map cleanup id)) (plain.ensuring cleanup) := by
  intro w log
  obtain ⟨more, hMore, hRun⟩ := h w log
  refine ⟨more, hMore, ?_⟩
  cases hPlain : plain w with
  | ok a w' =>
    rw [hPlain, pairWith] at hRun
    rw [ensuring_of_ok hRun, ensuring_of_ok hPlain]
    rfl
  | error e w' =>
    rw [hPlain, pairWith] at hRun
    rw [ensuring_of_error hRun, ensuring_of_error hPlain]
    rfl

/-- The log of a run that logs a plain one. -/
theorem Logs.eq_pairWith {logged : Action (World × List L) α} {plain : Action World α}
    (h : Logs P logged plain) (w : World) :
    logged (w, []) = pairWith (logged.after (w, [])).2 (plain w) ∧
      ∀ entry ∈ (logged.after (w, [])).2, P entry := by
  obtain ⟨more, hMore, hRun⟩ := h w []
  have hLog : (logged.after (w, [])).2 = more := by
    rw [after, hRun]
    cases plain w <;> rfl
  rw [hLog]
  exact ⟨hRun, hMore⟩

end BufferedHttp.Action
