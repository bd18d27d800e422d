import BufferedHttp.Message.Header
import BufferedHttp.Proofs.Text.Ascii
import Mathlib.Data.List.FinRange
import Mathlib.Data.List.Pairwise

/-!
# Looking up names in a header map

The names that are equal up to ASCII case form a class, and a map keeps a list of values for each
class. Every header that went into the map is in the list of its own class, in the order in which
the headers came, and in no other list.
-/

namespace BufferedHttp

theorem Header.isNamed_iff {name : String} {header : Header} :
    header.isNamed name = true ↔ Text.SameUpToCase header.name name :=
  Text.equalFolded_iff_sameUpToCase

namespace HeaderMap

open Text (SameUpToCase SameLetter)

/-! ## Maps and what went into them -/

/-- A map that was collected at once or is extended by an insertion, and the headers that went into
it, in the order in which they came. -/
inductive Built : List Header → HeaderMap → Prop where
  | collect (pairs : List (String × String)) :
      Built (pairs.map fun (name, value) => ⟨name, value⟩) (ofList pairs)
  | insert {history : List Header} {m : HeaderMap} (h : Built history m) (name value : String) :
      Built (history ++ [⟨name, value⟩]) (m.insert name value)

variable {history : List Header} {m : HeaderMap} {names : List String}

theorem Built.entries_eq (h : Built history m) : m.entries = history := by
  induction h with
  | collect pairs => rfl
  | insert h name value ih => rw [entries_insert, ih]

/-! ## Lookups up to case -/

theorem getAll_insert (m : HeaderMap) (name value other : String) :
    (m.insert name value).getAll other =
      m.getAll other ++ if SameUpToCase name other then [value] else [] := by
  rw [getAll, entries_insert, List.filter_append, List.map_append, ← getAll]
  by_cases hSame : SameUpToCase name other
  · rw [if_pos hSame, List.filter_cons_of_pos (Header.isNamed_iff.mpr hSame)]
    rfl
  · rw [if_neg hSame, List.filter_cons_of_neg (mt Header.isNamed_iff.mp hSame)]
    rfl

theorem getAll_insert_of_same {name other : String} (h : SameUpToCase name other) (m : HeaderMap)
    (value : String) : (m.insert name value).getAll other = m.getAll other ++ [value] := by
  rw [getAll_insert, if_pos h]

theorem getAll_insert_of_other {name other : String} (h : ¬SameUpToCase name other)
    (m : HeaderMap) (value : String) : (m.insert name value).getAll other = m.getAll other := by
  rw [getAll_insert, if_neg h, List.append_nil]

theorem getAll_eq_of_same {a b : String} (h : SameUpToCase a b) (m : HeaderMap) :
    m.getAll a = m.getAll b := by
  have hNamed : Header.isNamed a = Header.isNamed b := by
    funext header
    rw [Header.isNamed, Header.isNamed, Text.equalFolded, Text.equalFolded,
      Text.folded_eq_iff.mpr h]
  rw [getAll, getAll, hNamed]

/-- A map of one header tells its name apart from the names of other classes. -/
theorem same_of_get?_eq {a b : String} (h : ∀ m : HeaderMap, m.get? a = m.get? b) :
    SameUpToCase a b := by
  by_contra hOther
  have hSame := h (empty.insert a "")
  rw [get?_eq_head?_getAll, get?_eq_head?_getAll, getAll_insert_of_other hOther,
    getAll_insert_of_same (Text.sameUpToCase_equivalence.refl a)] at hSame
  cases hSame

theorem get?_eq_iff {a b : String} : (∀ m : HeaderMap, m.get? a = m.get? b) ↔ SameUpToCase a b := by
  constructor
  · exact same_of_get?_eq
  · intro h m
    rw [get?_eq_head?_getAll, get?_eq_head?_getAll, getAll_eq_of_same h]

theorem getAll_eq_iff {a b : String} :
    (∀ m : HeaderMap, m.getAll a = m.getAll b) ↔ SameUpToCase a b := by
  constructor
  · intro h
    apply same_of_get?_eq
    intro m
    rw [get?_eq_head?_getAll, get?_eq_head?_getAll, h]
  · exact getAll_eq_of_same

/-! ## One class, one list -/

/-- Where the headers stand whose names are in the class of the name, in order. -/
def places (history : List Header) (name : String) : List (Fin history.length) :=
  (List.finRange history.length).filter fun i => SameUpToCase (history.get i).name name

theorem mem_places_iff {name : String} {i : Fin history.length} :
    i ∈ places history name ↔ SameUpToCase (history.get i).name name := by
  simp [places]

theorem pairwise_places (history : List Header) (name : String) :
    (places history name).Pairwise (· < ·) :=
  (List.pairwise_lt_finRange history.length).filter _

theorem places_eq (history : List Header) (name : String) :
    places history name =
      (List.finRange history.length).filter (Header.isNamed name ∘ history.get) := by
  apply List.filter_congr
  intro i _
  rw [Bool.eq_iff_iff, decide_eq_true_iff]
  exact Header.isNamed_iff.symm

theorem Built.getAll_eq (h : Built history m) (name : String) :
    m.getAll name = (places history name).map fun i => (history.get i).value := by
  calc
    m.getAll name = (history.filter (Header.isNamed name)).map Header.value := by
      rw [getAll, h.entries_eq]
    _ = (((List.finRange history.length).map history.get).filter
          (Header.isNamed name)).map Header.value := by
      rw [List.map_get_finRange]
    _ = (places history name).map fun i => (history.get i).value := by
      rw [List.filter_map, List.map_map, places_eq]
      rfl

/-- One name of each class of the headers' names. -/
structure Represents (names : List String) (history : List Header) : Prop where
  among : ∀ name ∈ names, ∃ header ∈ history, SameUpToCase header.name name
  covers : ∀ header ∈ history, ∃ name ∈ names, SameUpToCase header.name name
  apart : names.Pairwise fun a b => ¬SameUpToCase a b

theorem not_same_or_not_same {a b c : String} (h : ¬SameUpToCase a c) :
    ¬SameUpToCase a b ∨ ¬SameUpToCase b c := by
  by_contra hBoth
  push Not at hBoth
  exact h (Text.sameUpToCase_equivalence.trans hBoth.1 hBoth.2)

/-- Each header's name stands for its class if no later header's name does. -/
theorem exists_represents (history : List Header) : ∃ names, Represents names history := by
  refine ⟨(history.map Header.name).pwFilter fun a b => ¬SameUpToCase a b, ?_, ?_,
    List.pairwise_pwFilter _⟩
  · intro name hName
    obtain ⟨header, hHeader, rfl⟩ := List.mem_map.mp (List.pwFilter_subset _ hName)
    exact ⟨header, hHeader, Text.sameUpToCase_equivalence.refl _⟩
  · intro header hHeader
    -- a name that no chosen one stands for would be apart from all names, its own included
    by_contra hNone
    push Not at hNone
    rw [List.forall_mem_pwFilter (R := fun a b => ¬SameUpToCase a b) not_same_or_not_same] at hNone
    exact hNone header.name (List.mem_map_of_mem hHeader) (Text.sameUpToCase_equivalence.refl _)

theorem Represents.disjoint (h : Represents names history) :
    names.Pairwise (Function.onFun List.Disjoint (places history)) := by
  apply h.apart.imp
  intro a b hApart i hA hB
  apply hApart
  have hA := mem_places_iff.mp hA
  have hB := mem_places_iff.mp hB
  exact Text.sameUpToCase_equivalence.trans (Text.sameUpToCase_equivalence.symm hA) hB

/-- Every place is in the list of one class. -/
theorem Represents.perm_places (h : Represents names history) :
    (names.flatMap (places history)).Perm (List.finRange history.length) := by
  have hNodup : (names.flatMap (places history)).Nodup := by
    rw [List.nodup_flatMap]
    exact ⟨fun name _ => (List.nodup_finRange history.length).filter _, h.disjoint⟩
  rw [List.perm_ext_iff_of_nodup hNodup (List.nodup_finRange _)]
  intro i
  obtain ⟨name, hName, hSame⟩ := h.covers (history.get i) (List.get_mem history i)
  constructor
  · exact fun _ => List.mem_finRange i
  · exact fun _ => List.mem_flatMap.mpr ⟨name, hName, mem_places_iff.mpr hSame⟩

/-- The lists of the names share out the headers: each is in one of them, at its place in the order
in which they came, and no list is empty. -/
structure Partition (names : List String) (history : List Header) (m : HeaderMap) : Prop where
  once : (names.flatMap (places history)).Perm (List.finRange history.length)
  listed : ∀ name ∈ names, m.getAll name = (places history name).map fun i => (history.get i).value
  ordered : ∀ name ∈ names, (places history name).Pairwise (· < ·)
  values : (names.flatMap m.getAll).Perm (history.map Header.value)
  inhabited : ∀ name ∈ names, m.getAll name ≠ []

theorem Built.partition (hBuilt : Built history m) (hNames : Represents names history) :
    Partition names history m where
  once := hNames.perm_places
  listed name _ := hBuilt.getAll_eq name
  ordered name _ := pairwise_places history name
  values := by
    have hValues := hNames.perm_places.map (Header.value ∘ history.get)
    rw [List.map_flatMap, ← List.map_map, List.map_get_finRange] at hValues
    rwa [funext hBuilt.getAll_eq]
  inhabited name hName := by
    obtain ⟨header, hHeader, hSame⟩ := hNames.among name hName
    obtain ⟨i, rfl⟩ := List.mem_iff_get.mp hHeader
    rw [hBuilt.getAll_eq, ne_eq, List.map_eq_nil_iff]
    exact List.ne_nil_of_mem (mem_places_iff.mpr hSame)

/-- Whatever went into a map, one name of each class gives all of it, in lists that share nothing
and keep the order. Names have the same answers exactly when they are equal up to ASCII case, and
an insertion is seen by the names of its class only, at the end of their list. -/
theorem lookup_partitions_map (hBuilt : Built history m) :
    (∃ names, Represents names history) ∧
    (∀ names, Represents names history → Partition names history m) ∧
    (∀ name, m.get? name = (m.getAll name).head?) ∧
    (∀ a b, ((∀ other : HeaderMap, other.get? a = other.get? b) ↔ SameUpToCase a b) ∧
      ((∀ other : HeaderMap, other.getAll a = other.getAll b) ↔ SameUpToCase a b)) ∧
    (∀ c d, SameLetter c d → 128 ≤ c.toNat ∨ 128 ≤ d.toNat → c = d) ∧
    ∀ name value other,
      (SameUpToCase name other →
        (m.insert name value).getAll other = m.getAll other ++ [value]) ∧
      (¬SameUpToCase name other →
        (m.insert name value).getAll other = m.getAll other ∧
        (m.insert name value).get? other = m.get? other) := by
  refine ⟨exists_represents history, fun _ => hBuilt.partition, m.get?_eq_head?_getAll,
    fun _ _ => ⟨get?_eq_iff, getAll_eq_iff⟩, fun _ _ => SameLetter.eq_of_not_ascii, ?_⟩
  intro name value other
  refine ⟨fun h => getAll_insert_of_same h m value, fun h => ?_⟩
  have hAll := getAll_insert_of_other h m value
  exact ⟨hAll, by rw [get?_eq_head?_getAll, hAll, get?_eq_head?_getAll]⟩

/-- Two spellings of one name share a list; names that differ in a letter outside ASCII do not. -/
theorem spellings_share_a_list :
    Built [⟨"Vary", "a"⟩, ⟨"é", "b"⟩, ⟨"É", "c"⟩, ⟨"vARY", "a"⟩]
      (ofList [("Vary", "a"), ("é", "b"), ("É", "c"), ("vARY", "a")]) ∧
    Represents ["vary", "é", "É"]
      [⟨"Vary", "a"⟩, ⟨"é", "b"⟩, ⟨"É", "c"⟩, ⟨"vARY", "a"⟩] ∧
    Partition ["vary", "é", "É"]
      [⟨"Vary", "a"⟩, ⟨"é", "b"⟩, ⟨"É", "c"⟩, ⟨"vARY", "a"⟩]
      (ofList [("Vary", "a"), ("é", "b"), ("É", "c"), ("vARY", "a")]) ∧
    SameUpToCase "VARY" "vary" ∧
    ((ofList [("Vary", "a"), ("é", "b"), ("É", "c"), ("vARY", "a")]).insert "VARY" "d").getAll
      "vary" = ["a", "a", "d"] ∧
    ¬SameUpToCase "é" "É" ∧
    ((ofList [("Vary", "a"), ("é", "b"), ("É", "c"), ("vARY", "a")]).insert "é" "d").getAll
      "É" = ["c"] := by
  have hBuilt := Built.collect [("Vary", "a"), ("é", "b"), ("É", "c"), ("vARY", "a")]
  have hNames : Represents ["vary", "é", "É"]
      [⟨"Vary", "a"⟩, ⟨"é", "b"⟩, ⟨"É", "c"⟩, ⟨"vARY", "a"⟩] :=
    ⟨by decide, by decide, by decide⟩
  have hSame : SameUpToCase "VARY" "vary" := by decide
  have hOther : ¬SameUpToCase "é" "É" := by decide
  obtain ⟨-, hPartition, -, -, -, hInsert⟩ := lookup_partitions_map hBuilt
  have hAppended := (hInsert "VARY" "d" "vary").1 hSame
  have hKept := ((hInsert "é" "d" "É").2 hOther).1
  exact ⟨hBuilt, hNames, hPartition _ hNames, hSame, hAppended.trans (by decide), hOther,
    hKept.trans (by decide)⟩

end HeaderMap

end BufferedHttp
