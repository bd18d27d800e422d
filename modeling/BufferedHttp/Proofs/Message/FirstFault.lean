import BufferedHttp.Proofs.Message.Correspondence
import BufferedHttp.Proofs.Text.Faults

/-!
# The first undecodable field

A field list is refused when some value is not well-formed. The error names the first such field
and the fault of its value; the fields behind it do not matter.
-/

namespace BufferedHttp.HeaderMap

open Text.Utf8 (WellFormed Describes)

theorem decodeField_eq_error_iff (field : String × Bytes) (u : Undecodable) :
    decodeField field = .error u ↔ u.name = field.1 ∧ Describes field.2 u.fault := by
  obtain ⟨name, fault⟩ := u
  rw [decodeField, ← Text.Utf8.decode_eq_error_iff]
  cases Text.Utf8.decode field.2 with
  | ok value => simp
  | error fault' => simp [eq_comm]

theorem exists_decodeField_eq_ok_iff (field : String × Bytes) :
    (∃ header, decodeField field = .ok header) ↔ WellFormed field.2 := by
  rw [Text.Utf8.wellFormed_iff_decode, decodeField]
  cases Text.Utf8.decode field.2 with
  | ok value => simp
  | error fault => simp

theorem decodeFields_cons_eq_error_iff (field : String × Bytes) (rest : FieldList)
    (u : Undecodable) :
    decodeFields (field :: rest) = .error u ↔
      (u.name = field.1 ∧ Describes field.2 u.fault) ∨
        (WellFormed field.2 ∧ decodeFields rest = .error u) := by
  rw [← decodeField_eq_error_iff, ← exists_decodeField_eq_ok_iff, decodeFields]
  cases decodeField field with
  | error u' => simp
  | ok header => cases decodeFields rest <;> simp

theorem decodeFields_eq_error_iff (fields : FieldList) (u : Undecodable) :
    decodeFields fields = .error u ↔
      ∃ before value after, fields = before ++ (u.name, value) :: after ∧
        (∀ field ∈ before, WellFormed field.2) ∧ Describes value u.fault := by
  induction fields with
  | nil => simp [decodeFields]
  | cons field rest ih =>
    rw [decodeFields_cons_eq_error_iff, ih]
    constructor
    · rintro (⟨hName, hFault⟩ | ⟨hWellFormed, before, value, after, rfl, hBefore, hFault⟩)
      · exact ⟨[], field.2, rest, by rw [hName, List.nil_append], by simp, hFault⟩
      · exact ⟨field :: before, value, after, rfl, List.forall_mem_cons.mpr ⟨hWellFormed, hBefore⟩,
          hFault⟩
    · rintro ⟨before, value, after, hFields, hBefore, hFault⟩
      cases before with
      | nil =>
        obtain ⟨rfl, -⟩ := List.cons.inj hFields
        exact .inl ⟨rfl, hFault⟩
      | cons first before =>
        obtain ⟨rfl, rfl⟩ := List.cons.inj hFields
        obtain ⟨hWellFormed, hBefore⟩ := List.forall_mem_cons.mp hBefore
        exact .inr ⟨hWellFormed, before, value, after, rfl, hBefore, hFault⟩

theorem ofFields_eq_error_iff (fields : FieldList) (u : Undecodable) :
    ofFields fields = .error u ↔
      ∃ before value after, fields = before ++ (u.name, value) :: after ∧
        (∀ field ∈ before, WellFormed field.2) ∧ Describes value u.fault := by
  rw [← decodeFields_eq_error_iff, ofFields]
  cases decodeFields fields <;> simp

theorem exists_ofFields_eq_error_iff (fields : FieldList) :
    (∃ u, ofFields fields = .error u) ↔ ∃ field ∈ fields, ¬WellFormed field.2 := by
  have hOk := exists_ofFields_eq_ok_iff fields
  rw [← not_iff_not] at hOk
  push Not at hOk
  rw [← hOk]
  cases ofFields fields <;> simp

/-- Decoding fails at the first field whose value is not well-formed, with the fault of that
value; the text of the error says both. -/
theorem first_fault_reported (fields : FieldList) :
    ((∃ u, ofFields fields = .error u) ↔ ∃ field ∈ fields, ¬WellFormed field.2) ∧
    (∀ u, ofFields fields = .error u ↔
      ∃ before value after, fields = before ++ (u.name, value) :: after ∧
        (∀ field ∈ before, WellFormed field.2) ∧ ¬WellFormed value ∧ Describes value u.fault) ∧
    ∀ u : Undecodable, u.toError = .header ("value of `" ++ u.name ++ "` is not valid utf-8: " ++
      match u.fault with
      | .incomplete position =>
        "incomplete utf-8 byte sequence from index " ++ toString position
      | .invalid position length =>
        "invalid utf-8 sequence of " ++ toString length ++ " bytes from index " ++
          toString position) := by
  refine ⟨exists_ofFields_eq_error_iff fields, ?_, fun _ => rfl⟩
  intro u
  rw [ofFields_eq_error_iff]
  constructor
  · rintro ⟨before, value, after, hFields, hBefore, hFault⟩
    exact ⟨before, value, after, hFields, hBefore, hFault.not_wellFormed, hFault⟩
  · rintro ⟨before, value, after, hFields, hBefore, -, hFault⟩
    exact ⟨before, value, after, hFields, hBefore, hFault⟩

example : ofFields [("a", [0xC3, 0xA9]), ("b", [0x61, 0xF0, 0x90]), ("c", [0xFF])] =
    .error ⟨"b", .incomplete 1⟩ := by decide +kernel

end BufferedHttp.HeaderMap
