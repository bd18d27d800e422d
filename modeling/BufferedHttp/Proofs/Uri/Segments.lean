import BufferedHttp.Proofs.Uri.Query
import Mathlib.Logic.Relation

/-!
# Queries that are built from segments

A query is built from words and from pairs of a key and a value. Asked for a name, it gives the
whole value of the first pair whose key is the name. All other segments may be put in, taken out
and moved: only the pairs of the name, in their order, decide.
-/

namespace BufferedHttp.Query

/-- A text that stands within one segment. -/
abbrev Value := { text : String // '&' ∉ text.toList }

/-- A text that stands within one segment and before its first equals sign. -/
abbrev Word := { text : String // '&' ∉ text.toList ∧ '=' ∉ text.toList }

inductive Segment where
  | word (text : Word)
  | pair (key : Word) (value : Value)

namespace Segment

variable {name : String} {segment : Segment}

def text : Segment → String
  | word text => text.val
  | pair key value => key.val ++ "=" ++ value.val

/-- The segment is a pair whose key is the name. -/
def IsNamed (name : String) : Segment → Prop
  | word _ => False
  | pair key _ => key.val = name

instance (name : String) : DecidablePred (IsNamed name)
  | word _ => inferInstanceAs (Decidable False)
  | pair key _ => inferInstanceAs (Decidable (key.val = name))

/-- The value of a pair of the name. -/
def value? (name : String) : Segment → Option String
  | word _ => none
  | pair key value => if key.val = name then some value.val else none

theorem value?_eq_some_iff {value : String} :
    segment.value? name = some value ↔
      ∃ key whole, segment = .pair key whole ∧ key.val = name ∧ whole.val = value := by
  cases segment with
  | word text => simp [value?]
  | pair key whole =>
    rw [value?, Option.ite_none_right_eq_some, Option.some.injEq]
    constructor
    · rintro ⟨hKey, hValue⟩
      exact ⟨key, whole, rfl, hKey, hValue⟩
    · rintro ⟨key', whole', hPair, hKey, hValue⟩
      obtain ⟨rfl, rfl⟩ := Segment.pair.inj hPair
      exact ⟨hKey, hValue⟩

theorem value?_eq_none_iff : segment.value? name = none ↔ ¬segment.IsNamed name := by
  cases segment with
  | word text => simp [value?, IsNamed]
  | pair key whole => simp [value?, IsNamed]

theorem separator_notMem_text (segment : Segment) : '&' ∉ segment.text.toList := by
  cases segment with
  | word text => exact text.property.1
  | pair key value =>
    rw [text, String.toList_append, String.toList_append, List.mem_append, List.mem_append]
    rintro ((hKey | hEquals) | hValue)
    · exact key.property.1 hKey
    · exact absurd hEquals (by decide)
    · exact value.property hValue

/-- A segment is cut where the key of its pair ends, whatever its value holds. -/
theorem binding?_text (segment : Segment) :
    binding? segment.text.toList = match segment with
      | word _ => none
      | pair key value => some (key.val.toList, value.val.toList) := by
  rw [binding?]
  cases segment with
  | word text => exact Text.cut?_eq_none_iff.mpr text.property.2
  | pair key value =>
    rw [Text.cut?_eq_some_iff]
    refine ⟨key.property.2, ?_⟩
    rw [text, String.toList_append, String.toList_append, List.append_assoc]
    rfl

theorem valueOf?_text (name : String) (segment : Segment) :
    valueOf? name.toList segment.text.toList = (segment.value? name).map String.toList := by
  rw [valueOf?, binding?_text]
  cases segment with
  | word text => rfl
  | pair key value =>
    simp only [Option.bind_some, value?, String.toList_inj]
    split <;> rfl

end Segment

/-- The URI with the path and the query of the segments. -/
def written (path : String) (segments : List Segment) : String :=
  path ++ "?" ++ "&".intercalate (segments.map Segment.text)

theorem pieces_of_segments {segments : List Segment} (h : segments ≠ []) :
    Text.pieces '&' ("&".intercalate (segments.map Segment.text)).toList =
      segments.map fun segment => segment.text.toList := by
  rw [String.toList_intercalate, List.map_map, Text.pieces_eq_iff]
  refine ⟨by simpa using h, ?_, rfl⟩
  intro piece hPiece
  obtain ⟨segment, -, rfl⟩ := List.mem_map.mp hPiece
  exact segment.separator_notMem_text

theorem lookup?_of_segments (name : String) (segments : List Segment) :
    lookup? name.toList ("&".intercalate (segments.map Segment.text)).toList =
      (segments.findSome? (Segment.value? name)).map String.toList := by
  rw [lookup?_eq_findSome?]
  cases segments with
  -- no segments are written like one empty word, which has no value either
  | nil => rfl
  | cons first rest =>
    rw [pieces_of_segments (List.cons_ne_nil first rest), List.findSome?_map, List.map_findSome?]
    congr 1
    funext segment
    exact segment.valueOf?_text name

theorem param?_written {path : String} (hPath : '?' ∉ path.toList) (segments : List Segment)
    (name : String) :
    param? (written path segments) name = segments.findSome? (Segment.value? name) := by
  have hCut : Text.cut? '?' (written path segments).toList =
      some (path.toList, ("&".intercalate (segments.map Segment.text)).toList) := by
    rw [Text.cut?_eq_some_iff, written, String.toList_append, String.toList_append,
      List.append_assoc]
    exact ⟨hPath, rfl⟩
  rw [param?, hCut]
  simp only [lookup?_of_segments, Option.map_map]
  cases segments.findSome? (Segment.value? name) with
  | none => rfl
  | some value => simp

theorem param?_of_notMem {uri : String} (h : '?' ∉ uri.toList) (name : String) :
    param? uri name = none := by
  rw [param?, Text.cut?_eq_none_iff.mpr h]

/-- The first pair of the name gives the value. -/
theorem findSome?_value?_eq_some_iff {name value : String} {segments : List Segment} :
    segments.findSome? (Segment.value? name) = some value ↔
      ∃ before key whole after, segments = before ++ .pair key whole :: after ∧
        key.val = name ∧ whole.val = value ∧ ∀ other ∈ before, ¬other.IsNamed name := by
  rw [List.findSome?_eq_some_iff]
  constructor
  · rintro ⟨before, segment, after, hSegments, hValue, hBefore⟩
    obtain ⟨key, whole, rfl, hKey, hWhole⟩ := Segment.value?_eq_some_iff.mp hValue
    exact ⟨before, key, whole, after, hSegments, hKey, hWhole,
      fun other hOther => Segment.value?_eq_none_iff.mp (hBefore other hOther)⟩
  · rintro ⟨before, key, whole, after, hSegments, hKey, hWhole, hBefore⟩
    exact ⟨before, .pair key whole, after, hSegments,
      Segment.value?_eq_some_iff.mpr ⟨key, whole, rfl, hKey, hWhole⟩,
      fun other hOther => Segment.value?_eq_none_iff.mpr (hBefore other hOther)⟩

/-! ## Edits that leave the pairs of a name alone -/

/-- A segment that is no pair of the name is put in or taken out anywhere, or the segments are put
in another order in which the pairs of the name follow each other as before. -/
inductive Edit (name : String) : List Segment → List Segment → Prop where
  | insert (before after : List Segment) {other : Segment} (h : ¬other.IsNamed name) :
      Edit name (before ++ after) (before ++ other :: after)
  | remove (before after : List Segment) {other : Segment} (h : ¬other.IsNamed name) :
      Edit name (before ++ other :: after) (before ++ after)
  | permute {segments others : List Segment} (hPerm : segments.Perm others)
      (hKept : others.filter (·.IsNamed name) = segments.filter (·.IsNamed name)) :
      Edit name segments others

variable {name : String} {segments others : List Segment}

theorem Edit.filter_eq (h : Edit name segments others) :
    others.filter (·.IsNamed name) = segments.filter (·.IsNamed name) := by
  cases h with
  | insert before after h => simp [h]
  | remove before after h => simp [h]
  | permute hPerm hKept => exact hKept

theorem filter_eq_of_edits (h : Relation.ReflTransGen (Edit name) segments others) :
    others.filter (·.IsNamed name) = segments.filter (·.IsNamed name) := by
  induction h with
  | refl => rfl
  | tail _ hEdit ih => exact hEdit.filter_eq.trans ih

/-- Only the pairs of the name decide. -/
theorem findSome?_value?_filter (name : String) (segments : List Segment) :
    (segments.filter (·.IsNamed name)).findSome? (Segment.value? name) =
      segments.findSome? (Segment.value? name) := by
  induction segments with
  | nil => rfl
  | cons segment segments ih =>
    by_cases hNamed : segment.IsNamed name
    · rw [List.filter_cons_of_pos (by simpa using hNamed), List.findSome?_cons, List.findSome?_cons,
        ih]
    · rw [List.filter_cons_of_neg (by simpa using hNamed), List.findSome?_cons,
        Segment.value?_eq_none_iff.mpr hNamed, ih]

/-- What a query was built from is found again: the value of the first pair of the name, however
the other segments are edited, and nothing where no such pair or no query is. -/
theorem params_read_as_written (path : String) (hPath : '?' ∉ path.toList)
    (segments : List Segment) (name : String) :
    (∀ value, param? (written path segments) name = some value ↔
      ∃ before key whole after, segments = before ++ .pair key whole :: after ∧
        key.val = name ∧ whole.val = value ∧ ∀ other ∈ before, ¬other.IsNamed name) ∧
    (param? (written path segments) name = none ↔
      ∀ segment ∈ segments, ¬segment.IsNamed name) ∧
    (∀ others, Relation.ReflTransGen (Edit name) segments others →
      param? (written path others) name = param? (written path segments) name) ∧
    ∀ uri : String, '?' ∉ uri.toList → param? uri name = none := by
  refine ⟨?_, ?_, ?_, fun uri hUri => param?_of_notMem hUri name⟩
  · intro value
    rw [param?_written hPath, findSome?_value?_eq_some_iff]
  · rw [param?_written hPath, List.findSome?_eq_none_iff]
    exact forall₂_congr fun _ _ => Segment.value?_eq_none_iff
  · intro others hEdits
    rw [param?_written hPath, param?_written hPath, ← findSome?_value?_filter name others,
      filter_eq_of_edits hEdits, findSome?_value?_filter]

/-- The value keeps its own equals and question marks. The name as a word may go and the pair with
the empty key may move behind it. -/
theorem first_value_read_whole :
    '?' ∉ "/fetch".toList ∧
    Relation.ReflTransGen (Edit "url")
      [.word ⟨"url", by decide⟩, .pair ⟨"", by decide⟩ ⟨"url=1", by decide⟩,
        .pair ⟨"url", by decide⟩ ⟨"b=c?d", by decide⟩]
      [.pair ⟨"url", by decide⟩ ⟨"b=c?d", by decide⟩,
        .pair ⟨"", by decide⟩ ⟨"url=1", by decide⟩] ∧
    param? "/fetch?url&=url=1&url=b=c?d" "url" = some "b=c?d" ∧
    param? "/fetch?url=b=c?d&=url=1" "url" = some "b=c?d" ∧
    param? "/fetch" "url" = none := by
  have hPath : '?' ∉ "/fetch".toList := by decide
  have hEdits : Relation.ReflTransGen (Edit "url")
      [.word ⟨"url", by decide⟩, .pair ⟨"", by decide⟩ ⟨"url=1", by decide⟩,
        .pair ⟨"url", by decide⟩ ⟨"b=c?d", by decide⟩]
      [.pair ⟨"url", by decide⟩ ⟨"b=c?d", by decide⟩,
        .pair ⟨"", by decide⟩ ⟨"url=1", by decide⟩] :=
    .tail (.single (.remove [] _ not_false)) (.permute (.swap _ _ []) rfl)
  obtain ⟨hFound, -, hEdited, hBare⟩ := params_read_as_written "/fetch" hPath
    [.word ⟨"url", by decide⟩, .pair ⟨"", by decide⟩ ⟨"url=1", by decide⟩,
      .pair ⟨"url", by decide⟩ ⟨"b=c?d", by decide⟩] "url"
  have hFirst := (hFound "b=c?d").mpr ⟨_ :: _ :: [], _, _, [], rfl, rfl, rfl, by decide⟩
  exact ⟨hPath, hEdits, hFirst, (hEdited _ hEdits).trans hFirst, hBare "/fetch" hPath⟩

end BufferedHttp.Query
