import BufferedHttp.Component.Ledger
import Mathlib.Data.List.Basic

/-!
# Orderly ledgers

A host may trap when a handle ends before one that came from it, and a handle that never ends
leaks. The ledger of a run is orderly when neither happens. Rules say for each entry which handles
are held behind it; a run by the rules that holds nothing in the end is orderly.
-/

namespace BufferedHttp.Component

/-- The kinds of handles that one may come from, `none` when the host makes it anew. -/
def Kind.sources : Kind → List (Option Kind)
  | .fields => [none, some .incomingRequest, some .incomingResponse]
  | .incomingBody => [some .incomingRequest, some .incomingResponse]
  | .inputStream => [some .incomingBody]
  | .outgoingBody => [some .outgoingResponse]
  | .outputStream => [some .outgoingBody]
  | .pollable => [some .futureIncomingResponse]
  | _ => [none]

/-- The kinds of handles that a call takes. -/
def Kind.isTaken : Kind → Bool
  | .fields | .incomingBody | .responseOutparam | .outgoingResponse | .outgoingBody
  | .requestOptions | .outgoingRequest => true
  | _ => false

namespace Entry

def obtains (h : Handle) : Entry → Bool
  | obtained h' _ => h' = h
  | _ => false

/-- The handle is released or given away. -/
def ends (h : Handle) : Entry → Bool
  | released h' | given h' => h' = h
  | _ => false

end Entry

/-- Each entry of the second sort has one of the first sort in front of it. -/
def Precedes (entries : List Entry) (first second : Entry → Prop) : Prop :=
  ∀ before e after, entries = before ++ e :: after → second e → ∃ e' ∈ before, first e'

structure Orderly (entries : List Entry) : Prop where
  once : ∀ h, entries.countP (Entry.ends h) = entries.countP (Entry.obtains h) ∧
    entries.countP (Entry.obtains h) ≤ 1
  alive : ∀ h, Precedes entries (Entry.obtains h ·) (Entry.ends h ·)
  sources : ∀ h owner, .obtained h owner ∈ entries → owner.map Handle.kind ∈ h.kind.sources
  taken : ∀ h, .given h ∈ entries → h.kind.isTaken
  /-- Only an outgoing response may go while its body stays. -/
  childFirst : ∀ h owner, .obtained h (some owner) ∈ entries → owner.kind ≠ .outgoingResponse →
    Precedes entries (Entry.ends h ·) (Entry.ends owner ·)
  /-- When an outgoing response is dropped, so is its body before. -/
  dropped : ∀ body response, .obtained body (some response) ∈ entries →
    response.kind = .outgoingResponse →
    Precedes entries (· = .released body) (· = .released response)

/-! ## The rules -/

/-- The handles held, each with the one it came from. -/
structure Held where
  next : Nat
  live : List (Handle × Option Handle)

/-- None of these came from the handle. -/
def Childless (h : Handle) (live : List (Handle × Option Handle)) : Prop :=
  ∀ p ∈ live, p.2 ≠ some h

inductive Step : Held → Entry → Held → Prop where
  | call (s : Held) (c : Call) : Step s (.call c) s
  | obtain {next : Nat} {live : List (Handle × Option Handle)} {kind : Kind}
      {owner : Option Handle} (hSource : owner.map Handle.kind ∈ kind.sources)
      (hOwner : ∀ o, owner = some o → ∃ origin, (o, origin) ∈ live) :
      Step ⟨next, live⟩ (.obtained ⟨kind, next⟩ owner) ⟨next + 1, (⟨kind, next⟩, owner) :: live⟩
  | release {next : Nat} {front back : List (Handle × Option Handle)} {h : Handle}
      {owner : Option Handle} (hChildless : Childless h (front ++ back)) :
      Step ⟨next, front ++ (h, owner) :: back⟩ (.released h) ⟨next, front ++ back⟩
  /-- An outgoing response goes with its body still held, and its body then without it. -/
  | give {next : Nat} {front back : List (Handle × Option Handle)} {h : Handle}
      {owner : Option Handle} (hTaken : h.kind.isTaken)
      (hChildless : h.kind ≠ .outgoingResponse → Childless h (front ++ back))
      (hBody : h.kind = .outgoingBody → ∀ o origin, owner = some o → (o, origin) ∉ front ++ back) :
      Step ⟨next, front ++ (h, owner) :: back⟩ (.given h) ⟨next, front ++ back⟩

inductive Run : Held → List Entry → Held → Prop where
  | nil (s : Held) : Run s [] s
  | cons {s s₁ s' : Held} {e : Entry} {rest : List Entry} (hStep : Step s e s₁)
      (hRest : Run s₁ rest s') : Run s (e :: rest) s'

namespace Run

variable {s s₁ s' : Held} {e : Entry} {entries before after : List Entry} {h : Handle}
  {owner : Option Handle}

theorem append (hFirst : Run s before s₁) (hSecond : Run s₁ after s') :
    Run s (before ++ after) s' := by
  induction hFirst with
  | nil s => exact hSecond
  | cons hStep _ ih => exact .cons hStep (ih hSecond)

theorem split (hRun : Run s (before ++ after) s') : ∃ s₁, Run s before s₁ ∧ Run s₁ after s' := by
  induction before generalizing s with
  | nil => exact ⟨s, .nil s, hRun⟩
  | cons e before ih =>
    cases hRun with
    | cons hStep hRest =>
      obtain ⟨s₁, hFirst, hSecond⟩ := ih hRest
      exact ⟨s₁, .cons hStep hFirst, hSecond⟩

/-- What was held or obtained has ended or is held. -/
theorem count (hRun : Run s entries s') (h : Handle) :
    s.live.countP (·.1 = h) + entries.countP (Entry.obtains h) =
      entries.countP (Entry.ends h) + s'.live.countP (·.1 = h) := by
  induction hRun with
  | nil s => simp
  | cons hStep _ ih =>
    cases hStep with
    | call => simpa [List.countP_cons, Entry.obtains, Entry.ends] using ih
    | obtain _ _ | release _ | give _ _ _ =>
      simp only [List.countP_cons, List.countP_append, Entry.obtains, Entry.ends,
        decide_eq_true_eq, Bool.false_eq_true, if_false] at ih ⊢
      omega

theorem next_le (hRun : Run s entries s') (hMem : .obtained h owner ∈ entries) :
    s.next ≤ h.id := by
  induction hRun with
  | nil s => cases hMem
  | cons hStep _ ih =>
    cases hStep with
    | obtain hSource hOwner =>
      rcases List.mem_cons.mp hMem with hHead | hTail
      · cases hHead
        exact Nat.le_refl _
      · exact Nat.le_of_succ_le (ih hTail)
    | call | release _ | give _ _ _ =>
      rcases List.mem_cons.mp hMem with hHead | hTail
      · cases hHead
      · exact ih hTail

theorem obtains_le_one (hRun : Run s entries s') (h : Handle) :
    entries.countP (Entry.obtains h) ≤ 1 := by
  induction hRun with
  | nil s => exact Nat.zero_le 1
  | @cons s s₁ s' e rest hStep hRest ih =>
    cases hStep with
    | @obtain next live kind owner hSource hOwner =>
      by_cases hEq : Handle.mk kind next = h
      · -- the numbers of the handles obtained later are larger
        have hNone : rest.countP (Entry.obtains h) = 0 := by
          rw [List.countP_eq_zero]
          intro e hMem hObtains
          cases e with
          | obtained h' owner' =>
            have hNext := hRest.next_le hMem
            simp only [Entry.obtains, decide_eq_true_eq] at hObtains
            rw [hObtains, ← hEq] at hNext
            exact absurd hNext (Nat.not_succ_le_self next)
          | call | released | given => cases hObtains
        simp [hNone, Entry.obtains, hEq]
      · simpa [List.countP_cons, Entry.obtains, hEq] using ih
    | call | release _ | give _ _ _ => simpa [List.countP_cons, Entry.obtains] using ih

theorem mem_of_live (hRun : Run s entries s') (hLive : (h, owner) ∈ s'.live) :
    (h, owner) ∈ s.live ∨ .obtained h owner ∈ entries := by
  induction hRun with
  | nil s => exact .inl hLive
  | cons hStep _ ih =>
    rcases ih hLive with hHeld | hLater
    · cases hStep with
      | call => exact .inl hHeld
      | obtain _ _ =>
        rcases List.mem_cons.mp hHeld with hNew | hOld
        · cases hNew
          exact .inr List.mem_cons_self
        · exact .inl hOld
      | release _ | give _ _ _ =>
        left
        rw [List.mem_append, List.mem_cons]
        rcases List.mem_append.mp hHeld with hFront | hBack
        · exact .inl hFront
        · exact .inr (.inr hBack)
    · exact .inr (List.mem_cons_of_mem _ hLater)

theorem source_mem (hRun : Run s entries s') (hMem : .obtained h owner ∈ entries) :
    owner.map Handle.kind ∈ h.kind.sources := by
  obtain ⟨before, after, rfl⟩ := List.append_of_mem hMem
  obtain ⟨s₁, -, hRest⟩ := hRun.split
  cases hRest with
  | cons hStep _ =>
    cases hStep with
    | obtain hSource _ => exact hSource

theorem isTaken_of_given (hRun : Run s entries s') (hMem : .given h ∈ entries) :
    h.kind.isTaken := by
  obtain ⟨before, after, rfl⟩ := List.append_of_mem hMem
  obtain ⟨s₁, -, hRest⟩ := hRun.split
  cases hRest with
  | cons hStep _ =>
    cases hStep with
    | give hTaken _ _ => exact hTaken

theorem owner_eq {owner' : Option Handle} (hRun : Run s entries s')
    (hFirst : .obtained h owner ∈ entries) (hSecond : .obtained h owner' ∈ entries) :
    owner = owner' := by
  obtain ⟨before, after, rfl⟩ := List.append_of_mem hFirst
  have hOnce := hRun.obtains_le_one h
  rw [List.countP_append, List.countP_cons_of_pos (by simp [Entry.obtains])] at hOnce
  have hBefore : before.countP (Entry.obtains h) = 0 := by omega
  have hAfter : after.countP (Entry.obtains h) = 0 := by omega
  rw [List.mem_append, List.mem_cons] at hSecond
  rcases hSecond with hMem | hSame | hMem
  · exact absurd (by simp [Entry.obtains]) (List.countP_eq_zero.mp hBefore _ hMem)
  · cases hSame
    rfl
  · exact absurd (by simp [Entry.obtains]) (List.countP_eq_zero.mp hAfter _ hMem)

end Run

/-! ## Runs that start with nothing held -/

section Started

variable {n : Nat} {s s₁ s' : Held} {e : Entry} {entries before after : List Entry}
  {h o : Handle} {owner : Option Handle}

theorem obtained_of_live (hRun : Run ⟨n, []⟩ entries s') (hLive : (h, owner) ∈ s'.live) :
    .obtained h owner ∈ entries := by
  rcases hRun.mem_of_live hLive with hHeld | hMem
  · cases hHeld
  · exact hMem

theorem countP_obtains (hRun : Run ⟨n, []⟩ entries s') (h : Handle) :
    entries.countP (Entry.obtains h) =
      entries.countP (Entry.ends h) + s'.live.countP (·.1 = h) := by
  have hCount := hRun.count h
  rwa [List.countP_nil, Nat.zero_add] at hCount

theorem countP_live_pos {live : List (Handle × Option Handle)} (hLive : (h, owner) ∈ live) :
    0 < live.countP (·.1 = h) :=
  List.countP_pos_iff.mpr ⟨_, hLive, by simp⟩

/-- A handle that is held has not ended before. -/
theorem countP_ends_of_live (hRun : Run ⟨n, []⟩ entries s') (hLive : (h, owner) ∈ s'.live) :
    entries.countP (Entry.ends h) = 0 ∧ entries.countP (Entry.obtains h) = 1 := by
  have hCount := countP_obtains hRun h
  have hOnce := hRun.obtains_le_one h
  have hPos := countP_live_pos hLive
  omega

/-- A handle that was obtained and has not ended is held. -/
theorem exists_live (hRun : Run ⟨n, []⟩ entries s')
    (hObtained : 0 < entries.countP (Entry.obtains h))
    (hUnended : entries.countP (Entry.ends h) = 0) : ∃ owner, (h, owner) ∈ s'.live := by
  have hCount := countP_obtains hRun h
  have hPos : 0 < s'.live.countP (·.1 = h) := by omega
  obtain ⟨⟨h', owner⟩, hLive, hSame⟩ := List.countP_pos_iff.mp hPos
  obtain rfl : h' = h := by simpa using hSame
  exact ⟨owner, hLive⟩

theorem live_of_step (hStep : Step s e s₁) (hEnds : e.ends h) :
    ∃ owner, (h, owner) ∈ s.live := by
  cases hStep with
  | call | obtain _ _ => cases hEnds
  | @release _ _ _ _ owner _ | @give _ _ _ _ owner _ _ _ =>
    simp only [Entry.ends, decide_eq_true_eq] at hEnds
    subst hEnds
    exact ⟨owner, List.mem_append_right _ List.mem_cons_self⟩

/-- What comes from a handle is obtained before the handle ends. -/
theorem obtained_before (hRun : Run ⟨n, []⟩ (before ++ e :: after) s') (hEnds : e.ends o)
    (hMem : .obtained h (some o) ∈ before ++ e :: after) :
    .obtained h (some o) ∈ before := by
  rw [List.mem_append, List.mem_cons] at hMem
  rcases hMem with hBefore | hSame | hAfter
  · exact hBefore
  · rw [← hSame] at hEnds
    cases hEnds
  · obtain ⟨middle, last, rfl⟩ := List.append_of_mem hAfter
    have hSplit : before ++ e :: (middle ++ .obtained h (some o) :: last) =
        (before ++ e :: middle) ++ .obtained h (some o) :: last := by simp
    rw [hSplit] at hRun
    obtain ⟨s₁, hFirst, hRest⟩ := hRun.split
    cases hRest with
    | cons hStep _ =>
      cases hStep with
      | obtain _ hOwner =>
        obtain ⟨origin, hLive⟩ := hOwner o rfl
        have hNone := (countP_ends_of_live hFirst hLive).1
        rw [List.countP_eq_zero] at hNone
        exact absurd hEnds (hNone e (List.mem_append_right _ List.mem_cons_self))

theorem ne_of_source (hSource : some o.kind ∈ h.kind.sources) : h ≠ o := by
  rintro rfl
  generalize h.kind = kind at hSource
  cases kind <;> simp [Kind.sources] at hSource

theorem outgoingBody_of_source {kind : Kind} (hSource : some .outgoingResponse ∈ kind.sources) :
    kind = .outgoingBody := by
  cases kind <;> simp [Kind.sources] at hSource ⊢

theorem ended_of_childless {front back : List (Handle × Option Handle)}
    (hRun : Run ⟨n, []⟩ entries s') (hMem : .obtained h (some o) ∈ entries)
    (hLive : s'.live = front ++ (o, owner) :: back) (hChildless : Childless o (front ++ back)) :
    0 < entries.countP (Entry.ends h) := by
  by_contra hNone
  have hObtained : 0 < entries.countP (Entry.obtains h) :=
    List.countP_pos_iff.mpr ⟨_, hMem, by simp [Entry.obtains]⟩
  -- the child is still held, and it came from the handle
  obtain ⟨origin, hHeld⟩ := exists_live hRun hObtained (Nat.eq_zero_of_not_pos hNone)
  obtain rfl : origin = some o := hRun.owner_eq (obtained_of_live hRun hHeld) hMem
  rw [hLive, List.mem_append, List.mem_cons] at hHeld
  rcases hHeld with hFront | hOwn | hBack
  · exact hChildless _ (List.mem_append_left _ hFront) rfl
  · exact ne_of_source (hRun.source_mem hMem) (congrArg Prod.fst hOwn)
  · exact hChildless _ (List.mem_append_right _ hBack) rfl

theorem precedes_of_source (hRun : Run ⟨n, []⟩ entries s')
    (hMem : .obtained h (some o) ∈ entries) (hKind : o.kind ≠ .outgoingResponse) :
    Precedes entries (Entry.ends h ·) (Entry.ends o ·) := by
  rintro before e after rfl hEnds
  have hBefore := obtained_before hRun hEnds hMem
  obtain ⟨s₁, hFirst, hRest⟩ := hRun.split
  suffices hEnded : 0 < before.countP (Entry.ends h) from List.countP_pos_iff.mp hEnded
  cases hRest with
  | cons hStep _ =>
    cases hStep with
    | call | obtain _ _ => cases hEnds
    | release hChildless =>
      simp only [Entry.ends, decide_eq_true_eq] at hEnds
      subst hEnds
      exact ended_of_childless hFirst hBefore rfl hChildless
    | give _ hChildless _ =>
      simp only [Entry.ends, decide_eq_true_eq] at hEnds
      subst hEnds
      exact ended_of_childless hFirst hBefore rfl (hChildless hKind)

theorem countP_obtains_source (hRun : Run ⟨n, []⟩ entries s')
    (hMem : .obtained h (some o) ∈ entries) : 0 < entries.countP (Entry.obtains o) := by
  obtain ⟨before, after, rfl⟩ := List.append_of_mem hMem
  obtain ⟨s₁, hFirst, hRest⟩ := hRun.split
  cases hRest with
  | cons hStep _ =>
    cases hStep with
    | obtain _ hOwner =>
      obtain ⟨origin, hLive⟩ := hOwner o rfl
      have hOnce := (countP_ends_of_live hFirst hLive).2
      rw [List.countP_append, hOnce]
      omega

/-- While a response is held, its body is not given away. -/
theorem given_notMem {body response : Handle} {origin : Option Handle}
    (hRun : Run ⟨n, []⟩ entries s') (hMem : .obtained body (some response) ∈ entries)
    (hKind : response.kind = .outgoingResponse) (hLive : (response, origin) ∈ s'.live) :
    .given body ∉ entries := by
  intro hGiven
  have hSource := hRun.source_mem hMem
  have hUnended := (countP_ends_of_live hRun hLive).1
  obtain ⟨before, after, rfl⟩ := List.append_of_mem hGiven
  obtain ⟨s₁, hFirst, hRest⟩ := hRun.split
  rw [List.countP_append, Nat.add_eq_zero_iff] at hUnended
  cases hRest with
  | cons hStep _ =>
    cases hStep with
    | @give next front back _ owner _ _ hBody =>
      have hHeld : (body, owner) ∈ front ++ (body, owner) :: back :=
        List.mem_append_right _ List.mem_cons_self
      have hBefore := obtained_of_live hFirst hHeld
      obtain rfl : owner = some response :=
        hRun.owner_eq (List.mem_append_left _ hBefore) hMem
      -- the response was obtained before its body and has not ended, so it is held here
      obtain ⟨origin', hThere⟩ :=
        exists_live hFirst (countP_obtains_source hFirst hBefore) hUnended.1
      have hNe : response ≠ body := (ne_of_source hSource).symm
      rw [Option.map_some, hKind] at hSource
      refine hBody (outgoingBody_of_source hSource) response origin' rfl ?_
      rw [List.mem_append, List.mem_cons] at hThere
      rw [List.mem_append]
      rcases hThere with hFront | hOwn | hBack
      · exact .inl hFront
      · exact absurd (congrArg Prod.fst hOwn) hNe
      · exact .inr hBack

theorem released_precedes {body response : Handle} (hRun : Run ⟨n, []⟩ entries s')
    (hMem : .obtained body (some response) ∈ entries)
    (hKind : response.kind = .outgoingResponse) :
    Precedes entries (· = .released body) (· = .released response) := by
  rintro before e after rfl rfl
  have hBefore := obtained_before hRun (by simp [Entry.ends]) hMem
  obtain ⟨s₁, hFirst, hRest⟩ := hRun.split
  cases hRest with
  | cons hStep _ =>
    cases hStep with
    | @release _ front back _ owner hChildless =>
      obtain ⟨e, hMemE, hEnds⟩ :=
        List.countP_pos_iff.mp (ended_of_childless hFirst hBefore rfl hChildless)
      refine ⟨e, hMemE, ?_⟩
      cases e with
      | call | obtained => cases hEnds
      | released h =>
        obtain rfl : h = body := by simpa [Entry.ends] using hEnds
        rfl
      | given h =>
        obtain rfl : h = body := by simpa [Entry.ends] using hEnds
        have hLive : (response, owner) ∈ front ++ (response, owner) :: back :=
          List.mem_append_right _ List.mem_cons_self
        exact absurd hMemE (given_notMem hFirst hBefore hKind hLive)

theorem orderly_of_run (hRun : Run ⟨n, []⟩ entries ⟨m, []⟩) : Orderly entries where
  once := by
    intro h
    have hCount := countP_obtains hRun h
    rw [List.countP_nil, Nat.add_zero] at hCount
    exact ⟨hCount.symm, hRun.obtains_le_one h⟩
  alive := by
    rintro h before e after rfl hEnds
    obtain ⟨s₁, hFirst, hRest⟩ := hRun.split
    cases hRest with
    | cons hStep _ =>
      obtain ⟨owner, hLive⟩ := live_of_step hStep hEnds
      exact ⟨_, obtained_of_live hFirst hLive, by simp [Entry.obtains]⟩
  sources _ _ := hRun.source_mem
  taken _ := hRun.isTaken_of_given
  childFirst _ _ := precedes_of_source hRun
  dropped _ _ := released_precedes hRun

end Started

end BufferedHttp.Component
