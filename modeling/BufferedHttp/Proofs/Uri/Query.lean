import BufferedHttp.Proofs.Text.Cut
import BufferedHttp.Uri.Query

/-!
# What a query binds

The value of a key is behind the equals sign of the first segment that begins with the key and an
equals sign. Segments without one bind nothing, whatever they are. A segment that is written
behind others binds its key when none of them does.
-/

namespace BufferedHttp.Query

/-- The first segment that binds the key binds it to the value. -/
def Binds (key value query : List Char) : Prop :=
  ∃ before after : List (List Char),
    ['&'].intercalate (before ++ (key ++ '=' :: value) :: after) = query ∧
    (∀ segment ∈ before ++ (key ++ '=' :: value) :: after, '&' ∉ segment) ∧
    ∀ segment ∈ before, ¬key ++ ['='] <+: segment

/-- The value that a segment binds the key to. -/
def valueOf? (key segment : List Char) : Option (List Char) :=
  (binding? segment).bind fun (k, value) => if k = key then some value else none

theorem valueOf?_eq_some_iff {key segment value : List Char} (hKey : '=' ∉ key) :
    valueOf? key segment = some value ↔ segment = key ++ '=' :: value := by
  rw [valueOf?, binding?, Option.bind_eq_some_iff]
  constructor
  · rintro ⟨⟨k, v⟩, hCut, hValue⟩
    obtain ⟨-, hSegment⟩ := Text.cut?_eq_some_iff.mp hCut
    simp only [Option.ite_none_right_eq_some, Option.some.injEq] at hValue
    obtain ⟨rfl, rfl⟩ := hValue
    exact hSegment
  · intro hSegment
    exact ⟨(key, value), Text.cut?_eq_some_iff.mpr ⟨hKey, hSegment⟩, if_pos rfl⟩

theorem valueOf?_eq_none_iff {key segment : List Char} (hKey : '=' ∉ key) :
    valueOf? key segment = none ↔ ¬key ++ ['='] <+: segment := by
  rw [Option.eq_none_iff_forall_ne_some]
  constructor
  · rintro hNone ⟨value, hSegment⟩
    apply hNone value
    rw [valueOf?_eq_some_iff hKey, ← hSegment, List.append_assoc, List.singleton_append]
  · intro hPrefix value hValue
    rw [valueOf?_eq_some_iff hKey] at hValue
    apply hPrefix
    exact ⟨value, by rw [hValue, List.append_assoc, List.singleton_append]⟩

theorem lookup?_eq_findSome? (key query : List Char) :
    lookup? key query = (Text.pieces '&' query).findSome? (valueOf? key) := by
  rw [lookup?]
  induction Text.pieces '&' query with
  | nil => rfl
  | cons segment segments ih =>
    rw [List.filterMap_cons, List.findSome?_cons, valueOf?]
    cases binding? segment with
    | none => exact ih
    | some bound =>
      obtain ⟨k, value⟩ := bound
      simp only [List.find?_cons, Option.bind_some]
      by_cases hKey : k = key
      · simp [hKey]
      · rw [beq_false_of_ne hKey, if_neg hKey]
        exact ih

theorem lookup?_eq_some_iff {key value query : List Char} (hKey : '=' ∉ key) :
    lookup? key query = some value ↔ Binds key value query := by
  rw [lookup?_eq_findSome?, List.findSome?_eq_some_iff]
  constructor
  · rintro ⟨before, segment, after, hPieces, hValue, hEarlier⟩
    rw [valueOf?_eq_some_iff hKey] at hValue
    rw [hValue] at hPieces
    obtain ⟨-, hFree, hJoin⟩ := Text.pieces_eq_iff.mp hPieces
    exact ⟨before, after, hJoin, hFree,
      fun s hs => (valueOf?_eq_none_iff hKey).mp (hEarlier s hs)⟩
  · rintro ⟨before, after, hJoin, hFree, hEarlier⟩
    refine ⟨before, key ++ '=' :: value, after, ?_, (valueOf?_eq_some_iff hKey).mpr rfl, ?_⟩
    · exact Text.pieces_eq_iff.mpr ⟨by simp, hFree, hJoin⟩
    · intro segment hSegment
      exact (valueOf?_eq_none_iff hKey).mpr (hEarlier segment hSegment)

theorem param?_eq_some_iff {uri name value : String} (hName : '=' ∉ name.toList) :
    param? uri name = some value ↔
      ∃ path query, '?' ∉ path ∧ uri.toList = path ++ '?' :: query ∧
        Binds name.toList value.toList query := by
  rw [param?]
  constructor
  · intro h
    split at h
    · cases h
    · rename_i path query hCut
      obtain ⟨hPath, hUri⟩ := Text.cut?_eq_some_iff.mp hCut
      obtain ⟨bound, hBound, rfl⟩ := Option.map_eq_some_iff.mp h
      rw [lookup?_eq_some_iff hName] at hBound
      exact ⟨path, query, hPath, hUri, by rwa [String.toList_ofList]⟩
  · rintro ⟨path, query, hPath, hUri, hBinds⟩
    rw [Text.cut?_eq_some_iff.mpr ⟨hPath, hUri⟩]
    simp only [(lookup?_eq_some_iff hName).mpr hBinds, Option.map_some, String.ofList_toList]

/-! ## A query as it is written -/

/-- What stands before the first equals sign of the segment, if there is one, is not the key. -/
def Unbound (key segment : List Char) : Prop :=
  ∀ k value, segment = k ++ '=' :: value → '=' ∉ k → k ≠ key

theorem unbound_iff {key segment : List Char} (hKey : '=' ∉ key) :
    Unbound key segment ↔ ¬key ++ ['='] <+: segment := by
  constructor
  · rintro h ⟨value, rfl⟩
    exact h key value (by simp) hKey rfl
  · rintro hPrefix k value rfl - rfl
    exact hPrefix ⟨value, by simp⟩

/-- What stands behind a segment is nothing, or a separator and the segments that follow. -/
theorem exists_segments_behind (segment : List Char) {after : List Char}
    (h : after = [] ∨ ∃ more, after = '&' :: more) :
    ∃ behind : List (List Char), (∀ other ∈ behind, '&' ∉ other) ∧
      ['&'].intercalate (segment :: behind) = segment ++ after := by
  rcases h with rfl | ⟨more, rfl⟩
  · exact ⟨[], by simp, by rw [List.intercalate_singleton, List.append_nil]⟩
  · obtain ⟨hSome, hFree, hJoin⟩ := Text.pieces_eq_iff.mp (rfl : Text.pieces '&' more = _)
    refine ⟨Text.pieces '&' more, hFree, ?_⟩
    obtain ⟨first, rest, hPieces⟩ := List.exists_cons_of_ne_nil hSome
    rw [hPieces] at hJoin ⊢
    rw [List.intercalate_cons_cons, hJoin, List.append_assoc, List.singleton_append]

theorem binds_of_written {key value after : List Char} {before : List (List Char)}
    (hKey : '=' ∉ key ∧ '&' ∉ key)
    (hBefore : ∀ segment ∈ before, '&' ∉ segment ∧ Unbound key segment) (hValue : '&' ∉ value)
    (hAfter : after = [] ∨ ∃ more, after = '&' :: more) :
    Binds key value (before.flatMap (· ++ ['&']) ++ (key ++ '=' :: value) ++ after) := by
  obtain ⟨behind, hFree, hJoin⟩ := exists_segments_behind (key ++ '=' :: value) hAfter
  refine ⟨before, behind, ?_, ?_, fun segment h => (unbound_iff hKey.1).mp (hBefore segment h).2⟩
  · rw [Text.intercalate_append_cons, hJoin, ← List.append_assoc]
  · intro segment hSegment
    rcases List.mem_append.mp hSegment with hSegment | hSegment
    · exact (hBefore segment hSegment).1
    · rcases List.mem_cons.mp hSegment with rfl | hSegment
      · simp [hKey.2, hValue]
      · exact hFree segment hSegment

end BufferedHttp.Query
