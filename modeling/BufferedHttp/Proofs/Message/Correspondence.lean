import BufferedHttp.Proofs.Message.Header
import BufferedHttp.Proofs.Text.WellFormed
import Mathlib.Logic.Function.Defs

/-!
# The field lists of header maps

Decoding is a bijection from the field lists whose values are well-formed to the header maps, and
encoding is its inverse. Every other field list is refused.
-/

namespace BufferedHttp.HeaderMap

/-- The field lists whose values are all well-formed UTF-8. -/
abbrev WellFormedFields := { fields : FieldList // ∀ field ∈ fields, Text.Utf8.WellFormed field.2 }

def decoded (fields : WellFormedFields) : HeaderMap :=
  match ofFields fields.1 with
  | .ok headers => headers
  | .error _ => .empty

theorem exists_ofFields_eq_ok_iff (fields : FieldList) :
    (∃ headers, ofFields fields = .ok headers) ↔
      ∀ field ∈ fields, Text.Utf8.WellFormed field.2 := by
  simp only [ofFields_eq_ok_iff, exists_toFields_eq_iff, Text.Utf8.wellFormed_iff_encode]

theorem ofFields_toFields (headers : HeaderMap) : ofFields headers.toFields = .ok headers :=
  (ofFields_eq_ok_iff _ _).mpr rfl

theorem toFields_of_ofFields {fields : FieldList} {headers : HeaderMap}
    (h : ofFields fields = .ok headers) : headers.toFields = fields :=
  (ofFields_eq_ok_iff _ _).mp h

theorem ofFields_decoded (fields : WellFormedFields) : ofFields fields.1 = .ok (decoded fields) := by
  obtain ⟨headers, hDecoded⟩ := (exists_ofFields_eq_ok_iff fields.1).mpr fields.2
  rw [decoded, hDecoded]

theorem decoded_injective : Function.Injective decoded := by
  intro first second hSame
  apply Subtype.ext
  calc
    first.1 = (decoded first).toFields := (toFields_of_ofFields (ofFields_decoded first)).symm
    _ = (decoded second).toFields := congrArg toFields hSame
    _ = second.1 := toFields_of_ofFields (ofFields_decoded second)

theorem decoded_surjective : Function.Surjective decoded := by
  intro headers
  have hWellFormed := (exists_ofFields_eq_ok_iff _).mp ⟨headers, ofFields_toFields headers⟩
  refine ⟨⟨headers.toFields, hWellFormed⟩, ?_⟩
  have hDecoded := ofFields_decoded ⟨headers.toFields, hWellFormed⟩
  rw [ofFields_toFields] at hDecoded
  exact (Except.ok.inj hDecoded).symm

theorem fields_correspond_to_maps :
    (∀ headers : HeaderMap, ofFields headers.toFields = .ok headers) ∧
    (∀ fields headers, ofFields fields = .ok headers → headers.toFields = fields) ∧
    (∀ fields, (∃ headers, ofFields fields = .ok headers) ↔
      ∀ field ∈ fields, Text.Utf8.WellFormed field.2) ∧
    (∀ fields : WellFormedFields, ofFields fields.1 = .ok (decoded fields)) ∧
    Function.Bijective decoded :=
  ⟨ofFields_toFields, fun _ _ => toFields_of_ofFields, exists_ofFields_eq_ok_iff,
    ofFields_decoded, decoded_injective, decoded_surjective⟩

/-- Both entries named `a` and the empty value come back as they were. -/
theorem repeated_names_come_back :
    ofFields [("a", [0xC3, 0xA9]), ("A", []), ("a", [0x31])] =
        .ok ⟨[⟨"a", "é"⟩, ⟨"A", ""⟩, ⟨"a", "1"⟩]⟩ ∧
      HeaderMap.toFields ⟨[⟨"a", "é"⟩, ⟨"A", ""⟩, ⟨"a", "1"⟩]⟩ =
        [("a", [0xC3, 0xA9]), ("A", []), ("a", [0x31])] := by
  have hDecoded : ofFields [("a", [0xC3, 0xA9]), ("A", []), ("a", [0x31])] =
      .ok ⟨[⟨"a", "é"⟩, ⟨"A", ""⟩, ⟨"a", "1"⟩]⟩ := by
    rw [ofFields_eq_ok_iff]
    decide
  exact ⟨hDecoded, fields_correspond_to_maps.2.1 _ _ hDecoded⟩

end BufferedHttp.HeaderMap
