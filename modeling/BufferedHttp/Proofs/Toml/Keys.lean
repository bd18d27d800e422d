import BufferedHttp.Proofs.Toml.Setting
import Mathlib.Data.List.Induction
import Mathlib.Data.List.Nodup

/-!
# The keys of a document and their order

A line names a key of the document when it binds it or stands before the first header, and a header
names the first key of its path. The keys stand in the order in which they are first named, but for
one: a table that only longer headers have named goes behind all others when a header opens it.
-/

namespace BufferedHttp.Toml

/-- The key of the document that a path begins with. -/
def Path.first (path : Path) : String := path.tables.headD path.name

/-- A line that names a key of the document. It opens the table of that key if it is a header of
that key alone. -/
structure Mention where
  key : String
  opens : Bool
  deriving DecidableEq

def Binding.mention (b : Binding) : Mention := ⟨b.path.first, false⟩

def Section.mention (s : Section) : Mention :=
  ⟨s.path.first, s.path.tables.isEmpty && !s.repeated⟩

/-- What the lines of a document name, in order. Bindings below a header belong to its table. -/
def mentions (lines : List Line) : List Mention :=
  (grouped lines).1.map Binding.mention ++ (grouped lines).2.map Section.mention

/-- Keys with one more that is named. -/
def named (keys : List String) (key : String) : List String :=
  if key ∈ keys then keys else keys ++ [key]

/-- Keys with one more whose table is opened. -/
def opened (keys : List String) (key : String) : List String :=
  keys.filter (· ≠ key) ++ [key]

def place (keys : List String) (m : Mention) : List String :=
  if m.opens then opened keys m.key else named keys m.key

/-- The keys in the order in which they are first named. -/
def appeared (ms : List Mention) : List String := ms.foldl (fun keys m => named keys m.key) []

/-- The keys in the order in which a document keeps them. -/
def placed (ms : List Mention) : List String := ms.foldl place []

/-! ## Orders of keys -/

section Orders

variable {keys : List String} {key : String}

theorem opened_of_notMem (h : key ∉ keys) : opened keys key = keys ++ [key] := by
  rw [opened, List.filter_eq_self.mpr]
  intro k hk
  exact decide_eq_true fun hSame => h (hSame ▸ hk)

theorem named_of_notMem (h : key ∉ keys) : named keys key = keys ++ [key] := if_neg h

theorem named_of_mem (h : key ∈ keys) : named keys key = keys := if_pos h

theorem nodup_place (h : keys.Nodup) (m : Mention) : (place keys m).Nodup := by
  have hAppend {keys : List String} (h : keys.Nodup) (hNew : m.key ∉ keys) :
      (keys ++ [m.key]).Nodup := by
    rw [List.nodup_append]
    refine ⟨h, List.nodup_singleton _, ?_⟩
    rintro k hk _ hSame rfl
    exact hNew (List.mem_singleton.mp hSame ▸ hk)
  rw [place]
  split
  · exact hAppend (h.filter _) (by simp)
  · rw [named]
    split
    · exact h
    · exact hAppend h ‹_›

theorem nodup_placed (ms : List Mention) : (placed ms).Nodup := by
  have hRun : ∀ keys : List String, keys.Nodup → (ms.foldl place keys).Nodup := by
    induction ms with
    | nil => exact fun keys h => h
    | cons m ms ih => exact fun keys h => ih _ (nodup_place h m)
  exact hRun [] List.nodup_nil

theorem mem_appeared {ms : List Mention} (h : key ∈ appeared ms) : key ∈ ms.map Mention.key := by
  induction ms using List.reverseRecOn with
  | nil => cases h
  | append_singleton ms m ih =>
    rw [appeared, List.foldl_append] at h
    rw [List.map_append, List.mem_append]
    simp only [List.foldl_cons, List.foldl_nil, named] at h
    split at h
    · exact .inl (ih h)
    · rcases List.mem_append.mp h with h | h
      · exact .inl (ih h)
      · exact .inr (by simpa using h)

/-- Unless a header opens a table that was named before, the keys stand as they first appear. -/
theorem placed_eq_appeared {ms : List Mention}
    (h : ∀ front m behind, ms = front ++ m :: behind → m.opens = true →
      m.key ∉ front.map Mention.key) :
    placed ms = appeared ms := by
  induction ms using List.reverseRecOn with
  | nil => rfl
  | append_singleton ms m ih =>
    -- Induction from the back: a line only changes what the lines in front of it have named.
    have hFront : placed ms = appeared ms := by
      refine ih fun front m' behind hSplit => h front m' (behind ++ [m]) ?_
      rw [hSplit, List.append_assoc, List.cons_append]
    rw [placed, appeared, List.foldl_append, List.foldl_append, ← placed, ← appeared, hFront]
    change place (appeared ms) m = named (appeared ms) m.key
    rw [place]
    split
    · rename_i hOpens
      have hNew : m.key ∉ appeared ms := fun hMem => h ms m [] rfl hOpens (mem_appeared hMem)
      rw [opened_of_notMem hNew, named_of_notMem hNew]
    · rfl

end Orders

/-! ## Keys of entries -/

namespace Entries

variable {es es' : Entries} {v : Value} {key name : String}

def keys (es : Entries) : List String := es.map Prod.fst

theorem mem_keys_iff : key ∈ es.keys ↔ es.get? key ≠ none := by
  rw [Ne, get?_eq_none_iff, keys, List.mem_map]
  push Not
  rfl

theorem notMem_keys (h : es.get? key = none) : key ∉ es.keys := fun hMem => mem_keys_iff.mp hMem h

theorem mem_keys (h : es.get? key = some v) : key ∈ es.keys :=
  mem_keys_iff.mpr (by rw [h]; exact Option.some_ne_none v)

theorem keys_append (es : Entries) (key : String) (v : Value) :
    keys (es ++ [(key, v)]) = es.keys ++ [key] := List.map_append

theorem keys_replace (es : Entries) (key : String) (v : Value) :
    (es.replace key v).keys = es.keys := by
  rw [keys, replace, List.map_map, keys]
  refine List.map_congr_left fun e _ => ?_
  rw [Function.comp_apply]
  split
  · exact Eq.symm ‹_›
  · rfl

theorem keys_erase (es : Entries) (key : String) :
    (es.erase key).keys = es.keys.filter (· ≠ key) := by
  rw [keys, erase, keys, List.filter_map]
  rfl

theorem keys_bindName (h : es.bindName name v = some es') : es'.keys = named es.keys name := by
  rw [bindName] at h
  split at h
  · rename_i hNone
    cases h
    rw [keys_append, named_of_notMem (notMem_keys hNone)]
  · cases h

theorem keys_bindDotted {tables : List String} (h : es.bindDotted name v tables = some es') :
    es'.keys = named es.keys (tables.headD name) := by
  cases tables with
  | nil => exact keys_bindName h
  | cons key keys =>
    rw [bindDotted.eq_def] at h
    dsimp only at h
    rw [List.headD_cons]
    split at h
    · rename_i hNone
      obtain ⟨t, -, rfl⟩ := Option.map_eq_some_iff.mp h
      rw [keys_append, named_of_notMem (notMem_keys hNone)]
    · rename_i hSome
      split at h
      · obtain ⟨t, -, rfl⟩ := Option.map_eq_some_iff.mp h
        rw [keys_replace, named_of_mem (mem_keys hSome)]
      · cases h
    · rename_i hSome
      split at h
      · obtain ⟨items, -, rfl⟩ := Option.map_eq_some_iff.mp h
        rw [keys_replace, named_of_mem (mem_keys hSome)]
      · cases h
    · cases h

theorem keys_openTable {bs : List Binding} (h : es.openTable name bs = some es') :
    es'.keys = opened es.keys name := by
  rw [openTable] at h
  split at h
  · rename_i hNone
    obtain ⟨t, -, rfl⟩ := Option.map_eq_some_iff.mp h
    rw [keys_append, opened_of_notMem (notMem_keys hNone)]
  · -- A table that was only implied leaves its place.
    obtain ⟨t, -, rfl⟩ := Option.map_eq_some_iff.mp h
    rw [keys_append, keys_erase, opened]
  · cases h

theorem keys_openNext {bs : List Binding} (h : es.openNext name bs = some es') :
    es'.keys = named es.keys name := by
  rw [openNext] at h
  split at h
  · rename_i hNone
    obtain ⟨t, -, rfl⟩ := Option.map_eq_some_iff.mp h
    rw [keys_append, named_of_notMem (notMem_keys hNone)]
  · rename_i hSome
    obtain ⟨t, -, rfl⟩ := Option.map_eq_some_iff.mp h
    rw [keys_replace, named_of_mem (mem_keys hSome)]
  · cases h

theorem keys_atTable {change : Entries → Option Entries} {tables : List String}
    (h : es.atTable change (key :: tables) = some es') : es'.keys = named es.keys key := by
  rw [atTable.eq_def] at h
  dsimp only at h
  split at h
  · rename_i hNone
    obtain ⟨t, -, rfl⟩ := Option.map_eq_some_iff.mp h
    rw [keys_append, named_of_notMem (notMem_keys hNone)]
  · cases h
  · rename_i hSome
    obtain ⟨t, -, rfl⟩ := Option.map_eq_some_iff.mp h
    rw [keys_replace, named_of_mem (mem_keys hSome)]
  · rename_i hSome
    obtain ⟨items, -, rfl⟩ := Option.map_eq_some_iff.mp h
    rw [keys_replace, named_of_mem (mem_keys hSome)]
  · cases h

theorem keys_bind {b : Binding} (h : es.bind b = some es') :
    es'.keys = place es.keys b.mention := keys_bindDotted h

theorem keys_addSection {s : Section} (h : es.addSection s = some es') :
    es'.keys = place es.keys s.mention := by
  obtain ⟨⟨tables, name⟩, repeated, bs⟩ := s
  cases tables with
  | nil =>
    cases repeated with
    | true => exact keys_openNext h
    | false => exact keys_openTable h
  | cons key tables => exact keys_atTable h

/-- What each step names, the run names in turn. -/
theorem keys_foldlM {α : Type} (step : Entries → α → Option Entries) (mention : α → Mention)
    (hStep : ∀ {es a es'}, step es a = some es' → es'.keys = place es.keys (mention a))
    {items : List α} (h : items.foldlM step es = some es') :
    es'.keys = (items.map mention).foldl place es.keys := by
  induction items generalizing es with
  | nil =>
    cases h
    rfl
  | cons a items ih =>
    obtain ⟨es₁, hFirst, hRest⟩ := Option.bind_eq_some_iff.mp h
    rw [ih hRest, hStep hFirst]
    rfl

end Entries

/-- The entries of a document stand in the order of its keys. -/
theorem keys_of_parse? {text : String} {es : Entries} (h : parse? text = some es) :
    ∃ lines, lines? (skipMark text.toList) = some lines ∧ es.keys = placed (mentions lines) := by
  obtain ⟨lines, hLines, hEntries⟩ := Option.bind_eq_some_iff.mp h
  obtain ⟨es₁, hBindings, hSections⟩ := Option.bind_eq_some_iff.mp hEntries
  refine ⟨lines, hLines, ?_⟩
  rw [Entries.keys_foldlM Entries.addSection Section.mention Entries.keys_addSection hSections,
    Entries.keys_foldlM Entries.bind Binding.mention Entries.keys_bind hBindings, placed, mentions,
    List.foldl_append]
  rfl

theorem nodup_keys_of_parse? {text : String} {es : Entries} (h : parse? text = some es) :
    es.keys.Nodup := by
  obtain ⟨lines, -, hKeys⟩ := keys_of_parse? h
  rw [hKeys]
  exact nodup_placed _

end BufferedHttp.Toml
