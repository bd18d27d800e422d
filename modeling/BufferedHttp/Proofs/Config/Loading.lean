import BufferedHttp.Proofs.Config.Limits
import BufferedHttp.Proofs.Config.Saving
import BufferedHttp.Proofs.Toml.Keys

/-!
# What is loaded, and what is reported

A text that is no document is reported as such. The entries of a document are looked at in the
order of its keys, and the first one that is at fault is reported, whatever follows. When none is,
the document puts numbers over the defaults, and the configuration they make is loaded if it is
usable.
-/

namespace BufferedHttp.Config

/-- The fault of an entry: its key is no field, or its value is no number that is not negative. -/
inductive EntryFault.Of : EntryFault → String × Toml.Value → Prop where
  | unknownField {key : String} (v : Toml.Value) (h : ∀ f : Field, f.key ≠ key) :
    Of (.unknownField key) (key, v)
  | negative (f : Field) {n : Int} (h : n < 0) : Of (.negative f n) (f.key, .integer n)
  | wrongType (f : Field) {v : Toml.Value} (h : ∀ n, v ≠ .integer n) :
    Of (.wrongType f v) (f.key, v)

def Faultless (entry : String × Toml.Value) : Prop := ∀ fault : EntryFault, ¬fault.Of entry

/-- The fault is that of the first entry at fault. -/
def FirstFault (es : Toml.Entries) (fault : EntryFault) : Prop :=
  ∃ front entry behind, es = front ++ entry :: behind ∧ (∀ e ∈ front, Faultless e) ∧
    fault.Of entry

/-- A configuration has the numbers of the entries, and those of `d` where there are none. -/
structure Made (d : Config) (es : Toml.Entries) (c : Config) : Prop where
  given : ∀ (f : Field) (n : Int), (f.key, .integer n) ∈ es →
    ∃ word, c.get? f = some word ∧ (word.toNat : Int) = n
  absent : ∀ f : Field, f.key ∉ es.keys → c.get? f = d.get? f

/-! ## One entry -/

theorem Field.key_of_ofKey? {key : String} {f : Field} (h : ofKey? key = some f) :
    f.key = key := by
  simpa using List.find?_some h

theorem Field.ofKey?_eq_none_iff {key : String} :
    ofKey? key = none ↔ ∀ f : Field, f.key ≠ key := by
  rw [ofKey?, List.find?_eq_none]
  simp only [decide_eq_true_eq]
  exact ⟨fun h f => h f f.mem_all, fun h f _ => h f⟩

section Entry

variable {c c' : Config} {entry : String × Toml.Value} {fault : EntryFault}

theorem of_of_setEntry (h : c.setEntry entry = .error fault) : fault.Of entry := by
  obtain ⟨key, v⟩ := entry
  rw [setEntry] at h
  split at h
  · rename_i hNone
    cases h
    exact .unknownField v (Field.ofKey?_eq_none_iff.mp hNone)
  · rename_i f hField
    obtain rfl := Field.key_of_ofKey? hField
    split at h
    · rename_i n hValue
      subst hValue
      split at h
      · rename_i hNegative
        cases h
        exact .negative f hNegative
      · cases h
    · rename_i hOther
      cases h
      exact .wrongType f hOther

theorem setEntry_of_of (c : Config) (h : fault.Of entry) : c.setEntry entry = .error fault := by
  cases h with
  | unknownField v hUnknown =>
    simp only [setEntry, Field.ofKey?_eq_none_iff.mpr hUnknown]
  | negative f hNegative => simp only [setEntry, Field.ofKey?_key, if_pos hNegative]
  | wrongType f hOther =>
    simp only [setEntry, Field.ofKey?_key]

/-- An entry without a fault sets a field to its number. -/
theorem exists_of_faultless (c : Config) (h : Faultless entry) :
    ∃ f n, entry = (f.key, .integer n) ∧ 0 ≤ n ∧
      c.setEntry entry = .ok (c.set (UInt64.ofNat n.toNat) f) := by
  obtain ⟨key, v⟩ := entry
  cases hField : Field.ofKey? key with
  | none => exact absurd (.unknownField v (Field.ofKey?_eq_none_iff.mp hField)) (h _)
  | some f =>
    obtain rfl := Field.key_of_ofKey? hField
    by_cases hInteger : ∃ n, v = .integer n
    · obtain ⟨n, rfl⟩ := hInteger
      by_cases hNegative : n < 0
      · exact absurd (.negative f hNegative) (h _)
      · refine ⟨f, n, rfl, Int.not_lt.mp hNegative, ?_⟩
        simp only [setEntry, Field.ofKey?_key, if_neg hNegative]
    · exact absurd (.wrongType f fun n hValue => hInteger ⟨n, hValue⟩) (h _)

theorem faultless_of_setEntry (h : c.setEntry entry = .ok c') : Faultless entry := by
  intro fault hFault
  rw [setEntry_of_of c hFault] at h
  cases h

end Entry

/-! ## All entries -/

section Entries

variable {c c' : Config} {es es' : Toml.Entries} {entry : String × Toml.Value} {fault : EntryFault}

theorem setEntries_of_first {front behind : Toml.Entries} (hFront : ∀ e ∈ front, Faultless e)
    (h : fault.Of entry) (c : Config) :
    c.setEntries (front ++ entry :: behind) = .error fault := by
  induction front generalizing c with
  | nil => simp only [List.nil_append, setEntries, setEntry_of_of c h]
  | cons e front ih =>
    rw [List.forall_mem_cons] at hFront
    obtain ⟨f, n, -, -, hSet⟩ := exists_of_faultless c hFront.1
    simp only [List.cons_append, setEntries, hSet]
    exact ih hFront.2 _

theorem setEntries_eq_error_iff : c.setEntries es = .error fault ↔ FirstFault es fault := by
  constructor
  · intro h
    induction es generalizing c with
    | nil => cases h
    | cons e es ih =>
      rw [setEntries] at h
      split at h
      · rename_i c₁ hFirst
        obtain ⟨front, entry, behind, rfl, hFront, hFault⟩ := ih h
        refine ⟨e :: front, entry, behind, rfl, ?_, hFault⟩
        exact List.forall_mem_cons.mpr ⟨faultless_of_setEntry hFirst, hFront⟩
      · rename_i fault' hFirst
        cases h
        exact ⟨[], e, es, rfl, List.forall_mem_nil _, of_of_setEntry hFirst⟩
  · rintro ⟨front, entry, behind, rfl, hFront, hFault⟩
    exact setEntries_of_first hFront hFault c

theorem faultless_of_setEntries (h : c.setEntries es = .ok c') : ∀ e ∈ es, Faultless e := by
  induction es generalizing c with
  | nil => exact List.forall_mem_nil _
  | cons e es ih =>
    rw [List.forall_mem_cons]
    rw [setEntries] at h
    split at h
    · rename_i c₁ hFirst
      exact ⟨faultless_of_setEntry hFirst, ih h⟩
    · cases h

/-- The number of an entry is under those of the entries behind it, which have other keys. -/
theorem Made.cons {d : Config} {f : Field} {n : Int} (hNatural : 0 ≤ n) (hBelow : n < Toml.wordLimit)
    (hNew : f.key ∉ es.keys) (h : Made (d.set (UInt64.ofNat n.toNat) f) es c) :
    Made d ((f.key, .integer n) :: es) c where
  given g m hMem := by
    rcases List.mem_cons.mp hMem with hHead | hMem
    · obtain ⟨hKey, hValue⟩ := Prod.mk.inj hHead
      obtain rfl := Field.key_injective hKey
      obtain rfl := Toml.Value.integer.inj hValue
      refine ⟨UInt64.ofNat m.toNat, ?_, ?_⟩
      · rw [h.absent g hNew, get?_set, if_pos rfl]
      · rw [UInt64.toNat_ofNat']
        rw [Toml.wordLimit] at hBelow
        omega
    · exact h.given g m hMem
  absent g hAbsent := by
    rw [Toml.Entries.keys, List.map_cons, List.mem_cons, not_or] at hAbsent
    rw [h.absent g hAbsent.2, get?_set, if_neg fun hSame => hAbsent.1 (congrArg Field.key hSame)]

/-- Entries without a fault, one for a key, put their numbers over what was there. -/
theorem exists_setEntries (hFaultless : ∀ e ∈ es, Faultless e) (hOnce : es.keys.Nodup)
    (hFit : es.Fit) (d : Config) : ∃ c, d.setEntries es = .ok c ∧ Made d es c := by
  induction es generalizing d with
  | nil => exact ⟨d, rfl, fun _ _ hMem => absurd hMem List.not_mem_nil, fun _ _ => rfl⟩
  | cons e es ih =>
    rw [List.forall_mem_cons] at hFaultless
    rw [Toml.Entries.keys, List.map_cons, List.nodup_cons] at hOnce
    obtain ⟨f, n, rfl, hNatural, hSet⟩ := exists_of_faultless d hFaultless.1
    obtain ⟨-, hBelow⟩ := hFit _ List.mem_cons_self n rfl
    obtain ⟨c, hRest, hMade⟩ := ih hFaultless.2 hOnce.2
      (fun e he => hFit e (List.mem_cons_of_mem _ he)) (d.set (UInt64.ofNat n.toNat) f)
    -- The rest of the entries goes over the configuration that this one has changed.
    refine ⟨c, ?_, hMade.cons hNatural hBelow hOnce.1⟩
    simp only [setEntries, hSet]
    exact hRest

theorem exists_integer_of_mem_keys {f : Field} (hFaultless : ∀ e ∈ es, Faultless e)
    (hKey : f.key ∈ es.keys) : ∃ n, (f.key, .integer n) ∈ es := by
  obtain ⟨e, he, hFirst⟩ := List.mem_map.mp hKey
  obtain ⟨g, n, rfl, -⟩ := exists_of_faultless default (hFaultless e he)
  exact ⟨n, hFirst ▸ he⟩

/-- What is made of the same numbers is the same. -/
theorem Made.unique {d : Config} (h : Made d es c) (h' : Made d es' c')
    (hFaultless : ∀ e ∈ es, Faultless e) (hFaultless' : ∀ e ∈ es', Faultless e)
    (hSame : ∀ key n, (key, .integer n) ∈ es ↔ (key, .integer n) ∈ es') : c = c' := by
  refine ext_get? fun f => ?_
  by_cases hKey : f.key ∈ es.keys
  · obtain ⟨n, hMem⟩ := exists_integer_of_mem_keys hFaultless hKey
    obtain ⟨word, hGet, hWord⟩ := h.given f n hMem
    obtain ⟨word', hGet', hWord'⟩ := h'.given f n ((hSame f.key n).mp hMem)
    rw [hGet, hGet', UInt64.toNat_inj.mp (Int.natCast_inj.mp (hWord.trans hWord'.symm))]
  · have hKey' : f.key ∉ es'.keys := by
      intro hMem
      obtain ⟨n, hMem⟩ := exists_integer_of_mem_keys hFaultless' hMem
      exact hKey (List.mem_map_of_mem ((hSame f.key n).mpr hMem))
    rw [h.absent f hKey, h'.absent f hKey']

end Entries

/-! ## Texts -/

section Texts

variable {text : String} {es : Toml.Entries} {c : Config}

theorem load_eq_malformed_iff : load text = .error .malformed ↔ Toml.parse? text = none := by
  rw [load]
  cases Toml.parse? text with
  | none => simp
  | some es =>
    simp only [reduceCtorEq, iff_false]
    split
    · simp
    · split <;> simp

theorem load_eq_entry_iff {fault : EntryFault} (hParse : Toml.parse? text = some es) :
    load text = .error (.entry fault) ↔ FirstFault es fault := by
  rw [← setEntries_eq_error_iff (c := default), load]
  simp only [hParse]
  cases default.setEntries es with
  | error fault' => simp
  | ok c =>
    simp only [reduceCtorEq, iff_false]
    cases c.validate <;> simp

theorem exists_load_of_faultless (hParse : Toml.parse? text = some es)
    (h : ∀ e ∈ es, Faultless e) :
    ∃ c, Made default es c ∧ load text = match c.validate with
      | .ok _ => .ok c
      | .error fault => .error (.config fault) := by
  obtain ⟨c, hSet, hMade⟩ :=
    exists_setEntries h (Toml.nodup_keys_of_parse? hParse) (Toml.fit_of_parse? hParse) default
  refine ⟨c, hMade, ?_⟩
  cases hValid : c.validate <;> simp only [load, hParse, hSet, hValid]

/-- What a document loads is made of its entries, none of which is at fault. -/
theorem made_of_load (hParse : Toml.parse? text = some es) (h : load text = .ok c) :
    (∀ e ∈ es, Faultless e) ∧ Made default es c := by
  obtain ⟨es', hParse', hSet, -⟩ := load_eq_ok_iff.mp h
  cases hParse.symm.trans hParse'
  have hFaultless := faultless_of_setEntries hSet
  obtain ⟨c', hMade, hLoad⟩ := exists_load_of_faultless hParse hFaultless
  rw [h] at hLoad
  split at hLoad <;> cases hLoad
  exact ⟨hFaultless, hMade⟩

/-- A text is reported as no document, or the first entry at fault decides, or the numbers over the
defaults are loaded if they make a usable configuration. The entries stand in the order in which
their keys appear, but for a table that a header opens after longer ones have named it. -/
theorem load_decided_in_order (text : String) :
    (load text = .error .malformed ↔ Toml.parse? text = none) ∧
    (∀ es, Toml.parse? text = some es →
      (∃ lines, Toml.lines? (Toml.skipMark text.toList) = some lines ∧
        es.keys = Toml.placed (Toml.mentions lines) ∧ es.keys.Nodup ∧
        ((∀ front m behind, Toml.mentions lines = front ++ m :: behind → m.opens = true →
          m.key ∉ front.map Toml.Mention.key) → es.keys = Toml.appeared (Toml.mentions lines))) ∧
      (∀ fault, load text = .error (.entry fault) ↔ FirstFault es fault) ∧
      ((∀ e ∈ es, Faultless e) → ∃ c, Made default es c ∧ load text = match c.validate with
        | .ok _ => .ok c
        | .error fault => .error (.config fault))) ∧
    (∀ c, load text = .ok c → c.validate = .ok ()) ∧
    ∀ text' es es' c c', Toml.parse? text = some es → Toml.parse? text' = some es' →
      load text = .ok c → load text' = .ok c' →
      (∀ key n, (key, .integer n) ∈ es ↔ (key, .integer n) ∈ es') → c = c' := by
  refine ⟨load_eq_malformed_iff, ?_, ?_, ?_⟩
  · intro es hParse
    refine ⟨?_, fun fault => load_eq_entry_iff hParse, exists_load_of_faultless hParse⟩
    obtain ⟨lines, hLines, hKeys⟩ := Toml.keys_of_parse? hParse
    refine ⟨lines, hLines, hKeys, Toml.nodup_keys_of_parse? hParse, ?_⟩
    intro hFirst
    rw [hKeys, Toml.placed_eq_appeared hFirst]
  · intro c hLoad
    obtain ⟨-, -, -, hValid⟩ := load_eq_ok_iff.mp hLoad
    exact hValid
  · intro text' es es' c c' hParse hParse' hLoad hLoad' hSame
    obtain ⟨hFaultless, hMade⟩ := made_of_load hParse hLoad
    obtain ⟨hFaultless', hMade'⟩ := made_of_load hParse' hLoad'
    exact hMade.unique hMade' hFaultless hFaultless' hSame

/-- The first of two faults is reported, and two orders of the same settings load the same. -/
theorem settings_decided_in_order :
    (∃ lines,
      Toml.lines? (Toml.skipMark
        "write_chunk_size = 16\nx = 2\nread_chunk_size = 0\ny = 1\n".toList) = some lines ∧
      Toml.appeared (Toml.mentions lines) = ["write_chunk_size", "x", "read_chunk_size", "y"]) ∧
    load "write_chunk_size = 16\nx = 2\nread_chunk_size = 0\ny = 1\n" =
      .error (.entry (.unknownField "x")) ∧
    ∃ c, load "write_chunk_size = 16\nread_chunk_size = 7\n" = .ok c ∧
      load "read_chunk_size = 7\nwrite_chunk_size = 16\n" = .ok c := by
  have hFaulty : Toml.parse? "write_chunk_size = 16\nx = 2\nread_chunk_size = 0\ny = 1\n" =
      some ([("write_chunk_size", 16), ("x", 2), ("read_chunk_size", 0), ("y", 1)].map
        fun s : String × Nat => (s.1, .integer (s.2 : Int))) :=
    Toml.parse?_settings (by decide +kernel) (by decide) (by decide) (by decide)
  have hForward : Toml.parse? "write_chunk_size = 16\nread_chunk_size = 7\n" =
      some ([("write_chunk_size", 16), ("read_chunk_size", 7)].map
        fun s : String × Nat => (s.1, .integer (s.2 : Int))) :=
    Toml.parse?_settings (by decide +kernel) (by decide) (by decide) (by decide)
  have hBackward : Toml.parse? "read_chunk_size = 7\nwrite_chunk_size = 16\n" =
      some ([("read_chunk_size", 7), ("write_chunk_size", 16)].map
        fun s : String × Nat => (s.1, .integer (s.2 : Int))) :=
    Toml.parse?_settings (by decide +kernel) (by decide) (by decide) (by decide)
  have hMentions : (Toml.lines? (Toml.skipMark
      "write_chunk_size = 16\nx = 2\nread_chunk_size = 0\ny = 1\n".toList)).map Toml.mentions =
      some [⟨"write_chunk_size", false⟩, ⟨"x", false⟩, ⟨"read_chunk_size", false⟩,
        ⟨"y", false⟩] := by
    decide +kernel
  have hWrite : Faultless ("write_chunk_size", .integer (16 : Nat)) :=
    faultless_of_setEntry (setEntry_of_integer default .writeChunkSize 16)
  have hUnknown : ∀ f : Field, f.key ≠ "x" := fun f => by cases f <;> decide
  obtain ⟨-, hDecided, -, -⟩ :=
    load_decided_in_order "write_chunk_size = 16\nx = 2\nread_chunk_size = 0\ny = 1\n"
  obtain ⟨-, -, -, hSame⟩ :=
    load_decided_in_order "write_chunk_size = 16\nread_chunk_size = 7\n"
  obtain ⟨⟨lines, hLines, -, -, hAppeared⟩, hFirst, -⟩ := hDecided _ hFaulty
  have hNamed := Option.some.inj ((congrArg (Option.map Toml.mentions) hLines).symm.trans hMentions)
  -- There is no header, so the order is that of first appearance.
  have hBound : ∀ m ∈ Toml.mentions lines, m.opens = false := by
    rw [hNamed]
    decide
  refine ⟨⟨lines, hLines, ?_⟩, ?_, ?_⟩
  · refine (hAppeared fun front m behind hSplit hOpens => ?_).symm
    rw [hBound m (by rw [hSplit]; exact List.mem_append_right _ List.mem_cons_self)] at hOpens
    cases hOpens
  · refine (hFirst _).mpr ⟨[_], _, _, rfl, ?_, .unknownField _ hUnknown⟩
    exact List.forall_mem_singleton.mpr hWrite
  · have hLoad := load_eq_ok_iff.mpr ⟨_, hForward, rfl, rfl⟩
    have hLoad' := load_eq_ok_iff.mpr ⟨_, hBackward, rfl, rfl⟩
    refine ⟨_, hLoad, ?_⟩
    rw [hSame _ _ _ _ _ hForward hBackward hLoad hLoad' fun key n => ?_]
    · exact hLoad'
    · simp [or_comm]

/-- A table that a longer header has named first is not reported first. -/
theorem opened_table_reported_behind :
    ∃ lines es, Toml.lines? (Toml.skipMark "[a.b]\n[c]\n[a]\n".toList) = some lines ∧
      Toml.appeared (Toml.mentions lines) = ["a", "c"] ∧ (∀ f : Field, f.key ≠ "a") ∧
      Toml.parse? "[a.b]\n[c]\n[a]\n" = some es ∧ es.keys = ["c", "a"] ∧
      load "[a.b]\n[c]\n[a]\n" = .error (.entry (.unknownField "c")) := by
  have hAppeared :
      (Toml.lines? (Toml.skipMark "[a.b]\n[c]\n[a]\n".toList)).map
        (fun lines => Toml.appeared (Toml.mentions lines)) = some ["a", "c"] := by
    decide +kernel
  have hKeys :
      (Toml.parse? "[a.b]\n[c]\n[a]\n").map Toml.Entries.keys = some ["c", "a"] := by
    decide +kernel
  obtain ⟨lines, hLines, hOrder⟩ := Option.map_eq_some_iff.mp hAppeared
  obtain ⟨es, hParse, hEntries⟩ := Option.map_eq_some_iff.mp hKeys
  have hUnknown (key : String) (h : ∀ f ∈ Field.all, f.key ≠ key) : ∀ f : Field, f.key ≠ key :=
    fun f => h f f.mem_all
  refine ⟨lines, es, hLines, hOrder, hUnknown "a" (by decide), hParse, hEntries, ?_⟩
  obtain ⟨⟨key, v⟩, rest, rfl, hKey, -⟩ := List.map_eq_cons_iff.mp hEntries
  obtain rfl : key = "c" := hKey
  rw [load_eq_entry_iff hParse]
  exact ⟨[], _, rest, rfl, List.forall_mem_nil _, .unknownField v (hUnknown "c" (by decide))⟩

end Texts

end BufferedHttp.Config
