import BufferedHttp.Message.Header
import BufferedHttp.Proofs.Text.Utf8

/-!
# Header maps and their fields

A field list decodes to a header map exactly when the map encodes to the list.
-/

namespace BufferedHttp.HeaderMap

theorem decodeField_eq_ok_iff (field : String × Bytes) (header : Header) :
    decodeField field = .ok header ↔ header.toField = field := by
  obtain ⟨name, bytes⟩ := field
  obtain ⟨name', value⟩ := header
  rw [decodeField, Header.toField, Prod.mk.injEq, ← Text.Utf8.decode_eq_ok_iff]
  cases Text.Utf8.decode bytes with
  | error fault => simp
  | ok value' => simp [eq_comm]

theorem decodeFields_eq_ok_iff (fields : FieldList) (headers : List Header) :
    decodeFields fields = .ok headers ↔ headers.map Header.toField = fields := by
  induction fields generalizing headers with
  | nil =>
    rw [decodeFields]
    constructor
    · intro h
      cases h
      rfl
    · intro h
      rw [List.map_eq_nil_iff.mp h]
  | cons field fields ih =>
    rw [decodeFields, List.map_eq_cons_iff]
    constructor
    · intro h
      cases hField : decodeField field with
      | error u =>
        rw [hField] at h
        cases h
      | ok header =>
        rw [hField] at h
        cases hRest : decodeFields fields with
        | error u =>
          rw [hRest] at h
          cases h
        | ok rest =>
          rw [hRest] at h
          cases h
          exact ⟨header, rest, rfl, (decodeField_eq_ok_iff _ _).mp hField, (ih _).mp hRest⟩
    · rintro ⟨header, rest, rfl, hField, hRest⟩
      rw [(decodeField_eq_ok_iff _ _).mpr hField, (ih _).mpr hRest]

theorem ofFields_eq_ok_iff (fields : FieldList) (headers : HeaderMap) :
    ofFields fields = .ok headers ↔ headers.toFields = fields := by
  rw [toFields, ← decodeFields_eq_ok_iff, ofFields]
  cases decodeFields fields with
  | error u => simp
  | ok entries =>
    constructor
    · intro h
      cases h
      rfl
    · intro h
      cases h
      rfl

theorem exists_toFields_eq_iff (fields : FieldList) :
    (∃ headers : HeaderMap, headers.toFields = fields) ↔
      ∀ field ∈ fields, ∃ value, Text.Utf8.encode value = field.2 := by
  constructor
  · rintro ⟨headers, rfl⟩ field hField
    obtain ⟨header, -, rfl⟩ := List.mem_map.mp hField
    exact ⟨header.value, rfl⟩
  · intro h
    induction fields with
    | nil => exact ⟨.empty, rfl⟩
    | cons field fields ih =>
      obtain ⟨value, hValue⟩ := h field List.mem_cons_self
      obtain ⟨headers, hFields⟩ := ih fun other hOther => h other (List.mem_cons_of_mem _ hOther)
      refine ⟨⟨⟨field.1, value⟩ :: headers.entries⟩, ?_⟩
      rw [toFields] at hFields
      rw [toFields, List.map_cons, hFields, Header.toField, hValue]

end BufferedHttp.HeaderMap
