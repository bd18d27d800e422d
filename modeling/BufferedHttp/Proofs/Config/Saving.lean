import BufferedHttp.Config.Toml
import BufferedHttp.Proofs.Toml.Range
import BufferedHttp.Proofs.Toml.Setting

/-!
# Saving and loading are inverse

A configuration can be saved when its numbers fit the integers of a document. Its document sets the
fields that are present; loading puts them over the defaults, which have no timeouts, and so comes
to the same configuration and the check that it is usable. What a document can set fits a document.
-/

namespace BufferedHttp.Config

/-- Every number that is there fits an integer of a document, 63 bits and a sign. -/
structure Storable (c : Config) : Prop where
  readChunkSize : c.readChunkSize.toNat ≤ 0x7FFFFFFFFFFFFFFF
  writeChunkSize : c.writeChunkSize.toNat ≤ 0x7FFFFFFFFFFFFFFF
  connectTimeout : ∀ ms, c.connectTimeoutMs = some ms → ms.toNat ≤ 0x7FFFFFFFFFFFFFFF
  firstByteTimeout : ∀ ms, c.firstByteTimeoutMs = some ms → ms.toNat ≤ 0x7FFFFFFFFFFFFFFF
  betweenBytesTimeout : ∀ ms, c.betweenBytesTimeoutMs = some ms → ms.toNat ≤ 0x7FFFFFFFFFFFFFFF

theorem storable_iff {c : Config} :
    c.Storable ↔ ∀ f n, c.get? f = some n → n.toNat ≤ maxSaved := by
  rw [maxSaved]
  constructor
  · intro h f n hField
    cases f with
    | readChunkSize =>
      cases hField
      exact h.readChunkSize
    | writeChunkSize =>
      cases hField
      exact h.writeChunkSize
    | connectTimeout => exact h.connectTimeout n hField
    | firstByteTimeout => exact h.firstByteTimeout n hField
    | betweenBytesTimeout => exact h.betweenBytesTimeout n hField
  · intro h
    exact ⟨h .readChunkSize _ rfl, h .writeChunkSize _ rfl, h .connectTimeout, h .firstByteTimeout,
      h .betweenBytesTimeout⟩

theorem ext_get? {c d : Config} (h : ∀ f, c.get? f = d.get? f) : c = d := by
  have hRead := Option.some.inj (h .readChunkSize)
  have hWrite := Option.some.inj (h .writeChunkSize)
  obtain ⟨read, write, connect, firstByte, betweenBytes⟩ := c
  simp only at hRead hWrite
  rw [hRead, hWrite, show connect = d.connectTimeoutMs from h .connectTimeout,
    show firstByte = d.firstByteTimeoutMs from h .firstByteTimeout,
    show betweenBytes = d.betweenBytesTimeoutMs from h .betweenBytesTimeout]

namespace Field

theorem mem_all (f : Field) : f ∈ all := by
  cases f <;> decide

theorem ofKey?_key (f : Field) : ofKey? f.key = some f := by
  cases f <;> decide

theorem key_injective {f g : Field} (h : f.key = g.key) : f = g :=
  Option.some.inj ((ofKey?_key f).symm.trans (h ▸ ofKey?_key g))

theorem isBareKey_key (f : Field) : Toml.IsBareKey f.key := by
  cases f <;> decide

end Field

/-! ## The document of a configuration -/

/-- The fields that are set, by their keys. -/
def settings (c : Config) (fields : List Field) : List (String × Nat) :=
  fields.filterMap fun f => (c.get? f).map fun n => (f.key, n.toNat)

section Settings

variable {c : Config} {f : Field} {n : UInt64} {fields : List Field}

theorem settings_of_none (h : c.get? f = none) : c.settings (f :: fields) = c.settings fields := by
  rw [settings, List.filterMap_cons, h]
  rfl

theorem settings_of_some (h : c.get? f = some n) :
    c.settings (f :: fields) = (f.key, n.toNat) :: c.settings fields := by
  rw [settings, List.filterMap_cons, h]
  rfl

theorem mem_settings_iff {s : String × Nat} :
    s ∈ c.settings fields ↔ ∃ f ∈ fields, ∃ n, c.get? f = some n ∧ (f.key, n.toNat) = s := by
  simp only [settings, List.mem_filterMap, Option.map_eq_some_iff]

theorem nodup_settings (h : fields.Nodup) : ((c.settings fields).map Prod.fst).Nodup := by
  induction fields with
  | nil => exact List.nodup_nil
  | cons f fields ih =>
    rw [List.nodup_cons] at h
    cases hField : c.get? f with
    | none =>
      rw [settings_of_none hField]
      exact ih h.2
    | some n =>
      rw [settings_of_some hField, List.map_cons, List.nodup_cons]
      refine ⟨?_, ih h.2⟩
      intro hMem
      obtain ⟨s, hs, hKey⟩ := List.mem_map.mp hMem
      obtain ⟨g, hg, m, -, rfl⟩ := mem_settings_iff.mp hs
      exact h.1 (Field.key_injective hKey ▸ hg)

theorem saveFields_of_le (fields : List Field)
    (h : ∀ f ∈ fields, ∀ n, c.get? f = some n → n.toNat ≤ maxSaved) :
    ∃ lines, c.saveFields fields = .ok lines ∧
      lines.flatMap String.toList =
        (c.settings fields).flatMap fun s => Toml.settingLine s.1 s.2 := by
  induction fields with
  | nil => exact ⟨[], rfl, rfl⟩
  | cons f fields ih =>
    rw [List.forall_mem_cons] at h
    obtain ⟨lines, hLines, hText⟩ := ih h.2
    cases hField : c.get? f with
    | none =>
      refine ⟨lines, ?_, ?_⟩
      · simp only [saveFields, hField, hLines]
      · rw [settings_of_none hField, hText]
    | some n =>
      refine ⟨(f.key ++ " = " ++ toString n.toNat ++ "\n") :: lines, ?_, ?_⟩
      · simp only [saveFields, hField, if_pos (h.1 n hField), hLines, Except.map]
      · rw [settings_of_some hField, List.flatMap_cons, List.flatMap_cons, hText]
        simp [Toml.settingLine]

theorem le_of_saveFields {lines : List String} (h : c.saveFields fields = .ok lines) :
    ∀ f ∈ fields, ∀ n, c.get? f = some n → n.toNat ≤ maxSaved := by
  induction fields generalizing lines with
  | nil => exact fun _ hf => absurd hf List.not_mem_nil
  | cons f fields ih =>
    rw [List.forall_mem_cons]
    cases hField : c.get? f with
    | none =>
      simp only [saveFields, hField] at h
      exact ⟨nofun, ih h⟩
    | some n =>
      simp only [saveFields, hField] at h
      split at h
      · rename_i hLe
        cases hRest : c.saveFields fields with
        | error e =>
          rw [hRest] at h
          cases h
        | ok rest =>
          refine ⟨?_, ih hRest⟩
          rintro m ⟨⟩
          exact hLe
      · cases h

end Settings

theorem exists_save_iff {c : Config} : (∃ text, c.save = .ok text) ↔ c.Storable := by
  rw [storable_iff]
  constructor
  · rintro ⟨text, hSave⟩ f n hField
    cases hLines : c.saveFields Field.all with
    | error e =>
      rw [save, hLines] at hSave
      cases hSave
    | ok lines => exact le_of_saveFields hLines f f.mem_all n hField
  · intro h
    obtain ⟨lines, hLines, -⟩ := saveFields_of_le Field.all fun f _ => h f
    exact ⟨String.join lines, by rw [save, hLines]; rfl⟩

/-- What is saved is read as the fields that are set. -/
theorem parse?_of_save {c : Config} {text : String} (h : c.save = .ok text) :
    Toml.parse? text =
      some ((c.settings Field.all).map fun s => (s.1, .integer (s.2 : Int))) := by
  have hBound := storable_iff.mp (exists_save_iff.mp ⟨text, h⟩)
  obtain ⟨lines, hLines, hText⟩ := saveFields_of_le Field.all fun f _ => hBound f
  rw [save, hLines] at h
  obtain rfl := Except.ok.inj h
  apply Toml.parse?_settings
  · rw [String.toList_join, hText]
  · intro s hs
    obtain ⟨f, -, n, -, rfl⟩ := mem_settings_iff.mp hs
    exact f.isBareKey_key
  · intro s hs
    obtain ⟨f, -, n, hField, rfl⟩ := mem_settings_iff.mp hs
    have hLe := hBound f n hField
    simp only [maxSaved, Toml.wordLimit] at hLe ⊢
    omega
  · exact nodup_settings (by decide)

/-! ## Loading -/

theorem setEntry_of_integer (d : Config) (f : Field) (n : UInt64) :
    d.setEntry (f.key, .integer (n.toNat : Int)) = .ok (d.set n f) := by
  have hPos : ¬(n.toNat : Int) < 0 := by omega
  simp only [setEntry, Field.ofKey?_key, if_neg hPos, Int.toNat_natCast, UInt64.ofNat_toNat]

/-- Settings of one configuration over another: a field that is not set keeps what it had. -/
theorem setEntries_settings (c d : Config) (fields : List Field) :
    ∃ result, d.setEntries ((c.settings fields).map fun s => (s.1, .integer (s.2 : Int))) =
        .ok result ∧
      ∀ g, result.get? g = if g ∈ fields then (c.get? g).or (d.get? g) else d.get? g := by
  induction fields generalizing d with
  | nil => exact ⟨d, rfl, fun g => rfl⟩
  | cons f fields ih =>
    cases hField : c.get? f with
    | none =>
      obtain ⟨result, hResult, hGet⟩ := ih d
      refine ⟨result, by rw [settings_of_none hField, hResult], fun g => ?_⟩
      rw [hGet]
      by_cases hg : g = f
      · subst hg
        simp [hField]
      · simp [hg]
    | some n =>
      obtain ⟨result, hResult, hGet⟩ := ih (d.set n f)
      refine ⟨result, ?_, fun g => ?_⟩
      · rw [settings_of_some hField, List.map_cons, setEntries, setEntry_of_integer]
        exact hResult
      · rw [hGet, get?_set]
        by_cases hg : g = f
        · subst hg
          simp [hField]
        · simp [hg]

theorem get?_default_of_none {c : Config} {f : Field} (h : c.get? f = none) :
    default.get? f = none := by
  cases f with
  | readChunkSize | writeChunkSize => cases h
  | connectTimeout | firstByteTimeout | betweenBytesTimeout => rfl

theorem setEntries_default (c : Config) :
    default.setEntries ((c.settings Field.all).map fun s => (s.1, .integer (s.2 : Int))) =
      .ok c := by
  obtain ⟨result, hResult, hGet⟩ := setEntries_settings c default Field.all
  rw [hResult]
  congr 1
  refine ext_get? fun g => ?_
  rw [hGet, if_pos g.mem_all]
  cases hField : c.get? g with
  | none => exact get?_default_of_none hField
  | some n => rfl

theorem load_of_save {c : Config} {text : String} (h : c.save = .ok text) :
    load text = match c.validate with
      | .ok _ => .ok c
      | .error fault => .error (.config fault) := by
  cases hValid : c.validate <;>
    simp only [load, parse?_of_save h, setEntries_default, hValid]

/-! ## What can be loaded can be saved -/

theorem storable_default : default.Storable where
  readChunkSize := by decide
  writeChunkSize := by decide
  connectTimeout := nofun
  firstByteTimeout := nofun
  betweenBytesTimeout := nofun

theorem Storable.set {c : Config} (h : c.Storable) {n : UInt64} (hNumber : n.toNat ≤ maxSaved)
    (f : Field) : (c.set n f).Storable := by
  rw [storable_iff] at h ⊢
  intro g m hField
  rw [get?_set] at hField
  split at hField
  · cases hField
    exact hNumber
  · exact h g m hField

theorem Storable.setEntry {c c' : Config} {entry : String × Toml.Value} (h : c.Storable)
    (hFits : entry.2.Fits) (hSet : c.setEntry entry = .ok c') : c'.Storable := by
  rw [Config.setEntry] at hSet
  split at hSet
  · cases hSet
  · rename_i f _
    split at hSet
    · rename_i n hValue
      split at hSet
      · cases hSet
      · cases hSet
        apply h.set
        obtain ⟨-, hBelow⟩ := hFits n hValue
        rw [UInt64.toNat_ofNat']
        simp only [maxSaved, Toml.wordLimit] at hBelow ⊢
        omega
    · cases hSet

theorem Storable.setEntries {c c' : Config} {es : Toml.Entries} (h : c.Storable) (hFit : es.Fit)
    (hSet : c.setEntries es = .ok c') : c'.Storable := by
  induction es generalizing c with
  | nil =>
    cases hSet
    exact h
  | cons entry es ih =>
    rw [Config.setEntries] at hSet
    split at hSet
    · rename_i c₁ hFirst
      have hStep := h.setEntry (hFit entry List.mem_cons_self) hFirst
      exact ih hStep (fun e he => hFit e (List.mem_cons_of_mem _ he)) hSet
    · cases hSet

theorem load_eq_ok_iff {text : String} {c : Config} :
    load text = .ok c ↔ ∃ es, Toml.parse? text = some es ∧ default.setEntries es = .ok c ∧
      c.validate = .ok () := by
  rw [load]
  cases hParse : Toml.parse? text with
  | none => simp
  | some es =>
    cases hSet : default.setEntries es with
    | error fault => simp [hSet]
    | ok c' =>
      cases hValid : c'.validate with
      | error fault =>
        simp only [hSet, hValid]
        constructor
        · intro h
          cases h
        · rintro ⟨_, ⟨⟩, hSet', hValid'⟩
          cases hSet.symm.trans hSet'
          rw [hValid] at hValid'
          cases hValid'
      | ok _ =>
        simp only [hSet, hValid]
        constructor
        · rintro ⟨⟩
          exact ⟨es, rfl, hSet, hValid⟩
        · rintro ⟨_, ⟨⟩, hSet', -⟩
          exact congrArg _ (Except.ok.inj (hSet.symm.trans hSet'))

/-- Saving succeeds when all numbers fit, loading what was saved comes to the configuration and its
check, and whatever was loaded can be saved and loaded again. -/
theorem load_inverts_save (c : Config) :
    ((∃ text, c.save = .ok text) ↔ c.Storable) ∧
    (∀ text, c.save = .ok text →
      (c.validate = .ok () → load text = .ok c) ∧
      ∀ fault, c.validate = .error fault → load text = .error (.config fault)) ∧
    ∀ text, load text = .ok c → ∃ saved, c.save = .ok saved ∧ load saved = .ok c := by
  refine ⟨exists_save_iff, ?_, ?_⟩
  · intro text hSave
    rw [load_of_save hSave]
    constructor
    · intro hValid
      rw [hValid]
    · intro fault hFault
      rw [hFault]
  · intro text hLoad
    obtain ⟨es, hParse, hSet, hValid⟩ := load_eq_ok_iff.mp hLoad
    have hStorable := storable_default.setEntries (Toml.fit_of_parse? hParse) hSet
    obtain ⟨saved, hSave⟩ := exists_save_iff.mpr hStorable
    exact ⟨saved, hSave, by rw [load_of_save hSave, hValid]⟩

/-- A timeout of zero is saved, one that is absent is not. -/
theorem saved_and_loaded :
    ∃ text, save ⟨16384, 1024, some 2000, some 0, none⟩ = .ok text ∧
      load text = .ok ⟨16384, 1024, some 2000, some 0, none⟩ := by
  obtain ⟨hSaved, hLoaded, -⟩ := load_inverts_save ⟨16384, 1024, some 2000, some 0, none⟩
  have hStorable : Storable ⟨16384, 1024, some 2000, some 0, none⟩ := by
    rw [storable_iff]
    intro f n hField
    cases f <;> cases hField <;> decide
  obtain ⟨text, hText⟩ := hSaved.mpr hStorable
  exact ⟨text, hText, (hLoaded text hText).1 rfl⟩

end BufferedHttp.Config
