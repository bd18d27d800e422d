import BufferedHttp.Proofs.Toml.Number
import BufferedHttp.Toml.Document

/-!
# The integers of a document fit a signed word

No reader gives an integer out of range, and what binds values in a table adds no other integers
than those that it is given. So the integers among the entries of a document are in range.
-/

namespace BufferedHttp.Toml

/-- The value is in range if it is an integer. -/
def Value.Fits (v : Value) : Prop := ∀ n, v = .integer n → -wordLimit ≤ n ∧ n < wordLimit

namespace Value

theorem fits_string (text : String) : (string text).Fits := nofun

theorem fits_moment (text : String) : (moment text).Fits := nofun

theorem fits_array (items : List Value) : (array items).Fits := nofun

theorem fits_table (origin : Origin) (es : Entries) : (table origin es).Fits := nofun

theorem fits_tables (items : List Entries) : (tables items).Fits := nofun

end Value

/-! ## Reading -/

section Reading

variable {s rest : List Char} {v : Value}

theorem fits_of_token? (h : token? s = some v) : v.Fits := by
  rintro n rfl
  rw [token?] at h
  split at h
  · cases h
  split at h
  · cases h
  split at h
  · cases h
  split at h
  · rename_i m hInteger
    cases h
    exact range_of_integer? hInteger
  · obtain ⟨x, -, hFloat⟩ := Option.map_eq_some_iff.mp h
    cases hFloat

theorem fits_of_plain? (h : plain? s = some (v, rest)) : v.Fits := by
  rw [plain?] at h
  dsimp only at h
  split at h
  · split at h
    · cases h
      exact Value.fits_moment _
    · obtain ⟨w, hToken, hPair⟩ := Option.map_eq_some_iff.mp h
      cases hPair
      exact fits_of_token? hToken
  · obtain ⟨w, hToken, hPair⟩ := Option.map_eq_some_iff.mp h
    cases hPair
    exact fits_of_token? hToken

theorem fits_of_flat? (h : flat? s = some (v, rest)) : v.Fits := by
  rw [flat?.eq_def] at h
  split at h
  · obtain ⟨cs, -, hPair⟩ := Option.map_eq_some_iff.mp h
    cases hPair
    exact Value.fits_string _
  · obtain ⟨cs, -, hPair⟩ := Option.map_eq_some_iff.mp h
    cases hPair
    exact Value.fits_string _
  · exact fits_of_plain? h

theorem fits_of_inline? {reader : Reader Value} (h : inline? reader s = some (v, rest)) :
    v.Fits := by
  rw [inline?] at h
  split at h
  · cases h
    exact Value.fits_table _ _
  · split at h
    · obtain ⟨es, -, hPair⟩ := Option.map_eq_some_iff.mp h
      cases hPair
      exact Value.fits_table _ _
    · cases h

theorem fits_of_nested? {reader : Reader Value} (h : nested? reader s = some (v, rest)) :
    v.Fits := by
  rw [nested?.eq_def] at h
  split at h
  · obtain ⟨vs, -, hPair⟩ := Option.map_eq_some_iff.mp h
    cases hPair
    exact Value.fits_array _
  · exact fits_of_inline? h
  · exact fits_of_flat? h

theorem fits_of_value {depth : Nat} (h : (value depth).read s = some (v, rest)) : v.Fits := by
  cases depth with
  | zero => exact fits_of_flat? h
  | succ depth => exact fits_of_nested? h

theorem fits_of_binding? {depth : Nat} {b : Binding}
    (h : binding? (value depth) s = some (b, rest)) : b.value.Fits := by
  rw [binding?.eq_def] at h
  split at h
  · obtain ⟨⟨w, after⟩, hValue, hPair⟩ := Option.map_eq_some_iff.mp h
    cases hPair
    exact fits_of_value hValue
  · cases h

/-- What a line binds fits. -/
def Line.Fits (line : Line) : Prop := ∀ b, line = .binding b → b.value.Fits

theorem fits_of_header? {repeated : Bool} {line : Line}
    (h : header? repeated s = some (line, rest)) : line.Fits := by
  rintro b rfl
  rw [header?.eq_def] at h
  split at h <;> cases h

theorem fits_of_content? {line : Line} (h : content? s = some (line, rest)) : line.Fits := by
  rw [content?.eq_def] at h
  split at h
  · obtain ⟨after, hHeader, -⟩ := length_le_of_closed? h
    exact fits_of_header? hHeader
  · obtain ⟨after, hHeader, -⟩ := length_le_of_closed? h
    exact fits_of_header? hHeader
  · obtain ⟨after, hRead, -⟩ := length_le_of_closed? h
    obtain ⟨⟨b, after'⟩, hBinding, hPair⟩ := Option.map_eq_some_iff.mp hRead
    cases hPair
    rintro _ ⟨⟩
    exact fits_of_binding? hBinding

theorem fits_of_lines? {lines : List Line} (h : lines? s = some lines) :
    ∀ line ∈ lines, line.Fits := by
  fun_induction lines? s generalizing lines with
  | case1 =>
    cases h
    exact fun _ hLine => absurd hLine List.not_mem_nil
  | case2 _ _ _ _ _ ih => exact ih h
  | case3 _ _ _ line rest hContent _ ih =>
    obtain ⟨lines, hRest, rfl⟩ := Option.map_eq_some_iff.mp h
    rw [List.forall_mem_cons]
    exact ⟨fits_of_content? hContent, ih hRest⟩
  | case4 => cases h

theorem fits_grouped {lines : List Line} (h : ∀ line ∈ lines, line.Fits) :
    ∀ b ∈ (grouped lines).1, b.value.Fits := by
  induction lines with
  | nil => exact fun _ hb => absurd hb List.not_mem_nil
  | cons line lines ih =>
    rw [List.forall_mem_cons] at h
    cases line with
    | binding b =>
      rw [grouped, List.forall_mem_cons]
      exact ⟨h.1 b rfl, ih h.2⟩
    | header repeated path => exact fun _ hb => absurd hb List.not_mem_nil

end Reading

/-! ## Binding -/

namespace Entries

/-- The integers that the entries bind are in range; tables inside are not looked into. -/
def Fit (es : Entries) : Prop := ∀ e ∈ es, e.2.Fits

variable {es es' : Entries} {v : Value}

theorem Fit.append (h : es.Fit) (hValue : v.Fits) (key : String) : Fit (es ++ [(key, v)]) := by
  intro e he
  rcases List.mem_append.mp he with he | he
  · exact h e he
  · rw [List.mem_singleton.mp he]
    exact hValue

theorem Fit.replace (h : es.Fit) (hValue : v.Fits) (key : String) : Fit (es.replace key v) := by
  intro e he
  obtain ⟨e', he', rfl⟩ := List.mem_map.mp he
  split
  · exact hValue
  · exact h e' he'

theorem Fit.erase (h : es.Fit) (key : String) : Fit (es.erase key) :=
  fun e he => h e (List.mem_filter.mp he).1

theorem Fit.bindName {name : String} (h : es.Fit) (hValue : v.Fits)
    (hBind : es.bindName name v = some es') : es'.Fit := by
  rw [Entries.bindName] at hBind
  split at hBind
  · cases hBind
    exact h.append hValue name
  · cases hBind

/-- Behind a dot the value goes into a table, which is what the entries get. -/
theorem Fit.bindDotted {name : String} {keys : List String} (h : es.Fit) (hValue : v.Fits)
    (hBind : es.bindDotted name v keys = some es') : es'.Fit := by
  cases keys with
  | nil => exact h.bindName hValue hBind
  | cons key keys =>
    rw [Entries.bindDotted.eq_def] at hBind
    dsimp only at hBind
    split at hBind
    · obtain ⟨t, -, rfl⟩ := Option.map_eq_some_iff.mp hBind
      exact h.append (Value.fits_table _ _) key
    · split at hBind
      · obtain ⟨t, -, rfl⟩ := Option.map_eq_some_iff.mp hBind
        exact h.replace (Value.fits_table _ _) key
      · cases hBind
    · split at hBind
      · obtain ⟨items, -, rfl⟩ := Option.map_eq_some_iff.mp hBind
        exact h.replace (Value.fits_tables _) key
      · cases hBind
    · cases hBind

theorem Fit.bindAll {bs : List Binding} (h : es.Fit) (hValues : ∀ b ∈ bs, b.value.Fits)
    (hBind : es.bindAll bs = some es') : es'.Fit := by
  induction bs generalizing es with
  | nil =>
    cases hBind
    exact h
  | cons b bs ih =>
    rw [List.forall_mem_cons] at hValues
    obtain ⟨es₁, hFirst, hRest⟩ := Option.bind_eq_some_iff.mp hBind
    exact ih (h.bindDotted hValues.1 hFirst) hValues.2 hRest

theorem Fit.openTable {name : String} {bs : List Binding} (h : es.Fit)
    (hOpen : es.openTable name bs = some es') : es'.Fit := by
  rw [Entries.openTable] at hOpen
  split at hOpen
  · obtain ⟨t, -, rfl⟩ := Option.map_eq_some_iff.mp hOpen
    exact h.append (Value.fits_table _ _) name
  · obtain ⟨t, -, rfl⟩ := Option.map_eq_some_iff.mp hOpen
    exact (h.erase name).append (Value.fits_table _ _) name
  · cases hOpen

theorem Fit.openNext {name : String} {bs : List Binding} (h : es.Fit)
    (hOpen : es.openNext name bs = some es') : es'.Fit := by
  rw [Entries.openNext] at hOpen
  split at hOpen
  · obtain ⟨t, -, rfl⟩ := Option.map_eq_some_iff.mp hOpen
    exact h.append (Value.fits_tables _) name
  · obtain ⟨t, -, rfl⟩ := Option.map_eq_some_iff.mp hOpen
    exact h.replace (Value.fits_tables _) name
  · cases hOpen

theorem Fit.atTable {change : Entries → Option Entries} {keys : List String} (h : es.Fit)
    (hChange : ∀ {es es'}, Fit es → change es = some es' → Fit es')
    (hAt : es.atTable change keys = some es') : es'.Fit := by
  cases keys with
  | nil => exact hChange h hAt
  | cons key keys =>
    rw [Entries.atTable.eq_def] at hAt
    dsimp only at hAt
    split at hAt
    · obtain ⟨t, -, rfl⟩ := Option.map_eq_some_iff.mp hAt
      exact h.append (Value.fits_table _ _) key
    · cases hAt
    · obtain ⟨t, -, rfl⟩ := Option.map_eq_some_iff.mp hAt
      exact h.replace (Value.fits_table _ _) key
    · obtain ⟨items, -, rfl⟩ := Option.map_eq_some_iff.mp hAt
      exact h.replace (Value.fits_tables _) key
    · cases hAt

theorem Fit.addSection {s : Section} (h : es.Fit) (hAdd : es.addSection s = some es') :
    es'.Fit := by
  refine h.atTable ?_ hAdd
  intro es es' h hOpen
  split at hOpen
  · exact h.openNext hOpen
  · exact h.openTable hOpen

theorem Fit.addSections {sections : List Section} (h : es.Fit)
    (hAdd : sections.foldlM Entries.addSection es = some es') : es'.Fit := by
  induction sections generalizing es with
  | nil =>
    cases hAdd
    exact h
  | cons s sections ih =>
    obtain ⟨es₁, hFirst, hRest⟩ := Option.bind_eq_some_iff.mp hAdd
    exact ih (h.addSection hFirst) hRest

end Entries

theorem fit_of_parse? {text : String} {es : Entries} (h : parse? text = some es) : es.Fit := by
  obtain ⟨lines, hLines, hEntries⟩ := Option.bind_eq_some_iff.mp h
  obtain ⟨es₁, hBindings, hSections⟩ := Option.bind_eq_some_iff.mp hEntries
  have hNone : Entries.Fit [] := fun _ he => absurd he List.not_mem_nil
  have hFit := hNone.bindAll (fits_grouped (fits_of_lines? hLines)) hBindings
  exact hFit.addSections hSections

end BufferedHttp.Toml
