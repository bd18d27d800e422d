import BufferedHttp.Proofs.Text.Cut
import BufferedHttp.Proofs.Toml.Number
import BufferedHttp.Toml.Document

/-!
# Documents of settings

A setting is a line that binds a bare key to a number, written in decimal digits. A document of
settings is read as its bindings in order, and when no key comes twice they are its entries.
-/

namespace BufferedHttp.Toml

structure IsBareKey (key : String) : Prop where
  nonempty : key.toList ≠ []
  bare : ∀ c ∈ key.toList, isBare c = true

instance (key : String) : Decidable (IsBareKey key) :=
  decidable_of_iff (key.toList ≠ [] ∧ key.toList.all isBare = true)
    ⟨fun h => ⟨h.1, List.all_eq_true.mp h.2⟩, fun h => ⟨h.nonempty, List.all_eq_true.mpr h.bare⟩⟩

def settingLine (key : String) (n : Nat) : List Char :=
  key.toList ++ (' ' :: '=' :: ' ' :: (Nat.toDigits 10 n ++ ['\n']))

def settingBinding (setting : String × Nat) : Binding :=
  ⟨⟨[], setting.1⟩, .integer (setting.2 : Int)⟩

section Setting

variable {key : String} {n : Nat} {rest : List Char}

/-! ## The key -/

theorem IsBareKey.exists_cons (h : IsBareKey key) :
    ∃ c cs, key.toList = c :: cs ∧ isBare c = true := by
  obtain ⟨c, cs, hKey⟩ := List.exists_cons_of_ne_nil h.nonempty
  exact ⟨c, cs, hKey, h.bare c (by rw [hKey]; exact List.mem_cons_self)⟩

theorem ne_of_isBare {c d : Char} (h : isBare c = true) (hOther : isBare d = false) : c ≠ d := by
  rintro rfl
  rw [h] at hOther
  cases hOther

theorem skipBlanks_cons {c : Char} (h : isBlank c = false) (s : List Char) :
    skipBlanks (c :: s) = c :: s := by
  rw [skipBlanks, List.dropWhile_cons_of_neg]
  rw [h]
  exact Bool.false_ne_true

theorem isBlank_of_isBare {c : Char} (h : isBare c = true) : isBlank c = false := by
  rw [isBlank, Bool.or_eq_false_iff, decide_eq_false_iff_not, decide_eq_false_iff_not]
  exact ⟨ne_of_isBare h rfl, ne_of_isBare h rfl⟩

theorem key?_of_bare (h : IsBareKey key) {c : Char} (hEnd : isBare c = false) :
    key? (key.toList ++ c :: rest) = some (key.toList, c :: rest) := by
  have hStop : ∀ d, (c :: rest).head? = some d → isBare d = false := by
    rintro d ⟨⟩
    exact hEnd
  have hTake := Text.takeWhile_append_stop h.bare hStop
  have hDrop := Text.dropWhile_append_stop h.bare hStop
  have hQuote : ∀ quote, isBare quote = false → ∀ s, key.toList ++ c :: rest ≠ quote :: s := by
    intro quote hOther s hEq
    obtain ⟨first, cs, hKey, hFirst⟩ := h.exists_cons
    rw [hKey, List.cons_append] at hEq
    exact ne_of_isBare hFirst hOther (List.cons.inj hEq).1
  rw [key?.eq_3 _ (hQuote '"' rfl) (hQuote '\'' rfl)]
  simp only [hTake, hDrop, if_neg h.nonempty]

theorem spacedKey?_of_bare (h : IsBareKey key) :
    spacedKey? (key.toList ++ ' ' :: '=' :: rest) = some (key, '=' :: rest) := by
  obtain ⟨c, cs, hKey, hFirst⟩ := h.exists_cons
  have hStart : skipBlanks (key.toList ++ ' ' :: '=' :: rest) =
      key.toList ++ ' ' :: '=' :: rest := by
    rw [hKey, List.cons_append, skipBlanks_cons (isBlank_of_isBare hFirst)]
  rw [spacedKey?, hStart, key?_of_bare h rfl]
  simp only [Option.map_some, String.ofList_toList]
  rfl

theorem path?_of_bare (h : IsBareKey key) :
    path? (key.toList ++ ' ' :: '=' :: rest) = some (⟨[], key⟩, '=' :: rest) := by
  have hKeys : keys? (key.toList ++ ' ' :: '=' :: rest) = some ([key], '=' :: rest) := by
    rw [keys?]
    split
    · rename_i hNone
      rw [spacedKey?_of_bare h] at hNone
      cases hNone
    · rename_i hDot
      rw [spacedKey?_of_bare h] at hDot
      cases hDot
    · rename_i hSome
      rw [spacedKey?_of_bare h] at hSome
      cases hSome
      rfl
  rw [path?, hKeys]
  rfl

/-! ## The number -/

theorem token?_toDigits (h : (n : Int) < wordLimit) :
    token? (Nat.toDigits 10 n) = some (.integer n) := by
  have hDigits := isDigit_of_mem_toDigits n
  have hTrue : Nat.toDigits 10 n ≠ ['t', 'r', 'u', 'e'] := by
    intro hEq
    exact notMem_of_digits hDigits (d := 't') rfl (by rw [hEq]; exact List.mem_cons_self)
  have hFalse : Nat.toDigits 10 n ≠ ['f', 'a', 'l', 's', 'e'] := by
    intro hEq
    exact notMem_of_digits hDigits (d := 'f') rfl (by rw [hEq]; exact List.mem_cons_self)
  rw [token?, if_neg hTrue, if_neg hFalse, isMoment_of_digits hDigits, if_neg Bool.false_ne_true,
    integer?_toDigits h]

theorem plain?_toDigits (h : (n : Int) < wordLimit) :
    plain? (Nat.toDigits 10 n ++ '\n' :: rest) = some (.integer n, '\n' :: rest) := by
  have hToken : ∀ c ∈ Nat.toDigits 10 n, isToken c = true := by
    intro c hc
    have hDigit := isDigit_of_mem_toDigits n c hc
    simp [isToken, Char.isAlphanum, hDigit]
  have hStop : ∀ c, ('\n' :: rest).head? = some c → isToken c = false := by
    rintro c ⟨⟩
    rfl
  rw [plain?, Text.takeWhile_append_stop hToken hStop, Text.dropWhile_append_stop hToken hStop]
  simp only [token?_toDigits h, Option.map_some]
  rfl

theorem exists_cons_toDigits (n : Nat) :
    ∃ c cs, Nat.toDigits 10 n = c :: cs ∧ c.isDigit = true := by
  obtain ⟨c, cs, hCons⟩ := List.exists_cons_of_ne_nil (Nat.toDigits_ne_nil (n := n) (b := 10))
  exact ⟨c, cs, hCons, isDigit_of_mem_toDigits n c (by rw [hCons]; exact List.mem_cons_self)⟩

theorem value_toDigits (h : (n : Int) < wordLimit) (depth : Nat) :
    (value depth).read (Nat.toDigits 10 n ++ '\n' :: rest) = some (.integer n, '\n' :: rest) := by
  obtain ⟨c, cs, hCons, hDigit⟩ := exists_cons_toDigits n
  -- a digit opens no string, array or table
  have hOther : ∀ opening : Char, opening.isDigit = false →
      ∀ s, Nat.toDigits 10 n ++ '\n' :: rest ≠ opening :: s := by
    intro opening hOpening s hEq
    rw [hCons, List.cons_append] at hEq
    rw [(List.cons.inj hEq).1, hOpening] at hDigit
    cases hDigit
  have hFlat : flat? (Nat.toDigits 10 n ++ '\n' :: rest) = some (.integer n, '\n' :: rest) := by
    rw [flat?.eq_3 _ (hOther '"' rfl) (hOther '\'' rfl), plain?_toDigits h]
  cases depth with
  | zero => exact hFlat
  | succ depth =>
    change nested? (value depth) _ = _
    rw [nested?.eq_3 _ _ (hOther '[' rfl) (hOther '\x7b' rfl), hFlat]

/-! ## The line -/

theorem settingLine_append (key : String) (n : Nat) (rest : List Char) :
    settingLine key n ++ rest =
      key.toList ++ ' ' :: '=' :: ' ' :: (Nat.toDigits 10 n ++ '\n' :: rest) := by
  simp [settingLine]

theorem binding?_settingLine (hKey : IsBareKey key) (h : (n : Int) < wordLimit) (depth : Nat) :
    binding? (value depth) (settingLine key n ++ rest) =
      some (settingBinding (key, n), '\n' :: rest) := by
  obtain ⟨c, cs, hCons, hDigit⟩ := exists_cons_toDigits n
  have hBlank : isBlank c = false := by
    apply isBlank_of_isBare
    simp [isBare, Char.isAlphanum, hDigit]
  have hSkip : skipBlanks (' ' :: (Nat.toDigits 10 n ++ '\n' :: rest)) =
      Nat.toDigits 10 n ++ '\n' :: rest := by
    rw [hCons, List.cons_append]
    exact skipBlanks_cons hBlank _
  rw [settingLine_append, binding?, path?_of_bare hKey]
  simp only [hSkip, value_toDigits h, Option.map_some]
  rfl

theorem exists_cons_settingLine (hKey : IsBareKey key) (n : Nat) (rest : List Char) :
    ∃ c s, settingLine key n ++ rest = c :: s ∧ isBare c = true := by
  obtain ⟨c, cs, hCons, hBare⟩ := hKey.exists_cons
  exact ⟨c, _, by rw [settingLine_append, hCons, List.cons_append], hBare⟩

theorem content?_settingLine (hKey : IsBareKey key) (h : (n : Int) < wordLimit) :
    content? (settingLine key n ++ rest) = some (.binding (settingBinding (key, n)), rest) := by
  obtain ⟨c, s, hCons, hBare⟩ := exists_cons_settingLine hKey n rest
  have hBracket : ∀ s', settingLine key n ++ rest ≠ '[' :: s' := by
    intro s' hEq
    rw [hCons] at hEq
    exact ne_of_isBare hBare rfl (List.cons.inj hEq).1
  rw [content?.eq_3 _ (fun _ => hBracket _) hBracket, binding?_settingLine hKey h]
  rfl

theorem skipBlanks_settingLine (hKey : IsBareKey key) (n : Nat) (rest : List Char) :
    skipBlanks (settingLine key n ++ rest) = settingLine key n ++ rest := by
  obtain ⟨c, s, hCons, hBare⟩ := exists_cons_settingLine hKey n rest
  rw [hCons, skipBlanks_cons (isBlank_of_isBare hBare)]

theorem endLine?_settingLine (hKey : IsBareKey key) (n : Nat) (rest : List Char) :
    endLine? (settingLine key n ++ rest) = none := by
  obtain ⟨c, s, hCons, hBare⟩ := exists_cons_settingLine hKey n rest
  have hComment : skipComment (c :: s) = c :: s := by
    rw [skipComment.eq_2]
    intro s' hEq
    exact ne_of_isBare hBare rfl (List.cons.inj hEq).1
  have hBreak : newline? (c :: s) = none := by
    rw [newline?.eq_3]
    · intro s' hEq
      exact ne_of_isBare hBare rfl (List.cons.inj hEq).1
    · intro s' hEq
      exact ne_of_isBare hBare rfl (List.cons.inj hEq).1
  rw [endLine?, skipBlanks_settingLine hKey, hCons, hComment]
  exact hBreak

theorem lines?_settingLine (hKey : IsBareKey key) (h : (n : Int) < wordLimit) :
    lines? (settingLine key n ++ rest) =
      (lines? rest).map (.binding (settingBinding (key, n)) :: ·) := by
  obtain ⟨c, s, hCons, -⟩ := exists_cons_settingLine hKey n rest
  have hSkip := skipBlanks_settingLine hKey n rest
  rw [lines?, dif_neg (by rw [hSkip, hCons]; exact List.cons_ne_nil _ _)]
  split
  · rename_i hEnd
    rw [hSkip, endLine?_settingLine hKey] at hEnd
    cases hEnd
  · split
    · rename_i hContent
      rw [hSkip, content?_settingLine hKey h] at hContent
      cases hContent
      rfl
    · rename_i hContent
      rw [hSkip, content?_settingLine hKey h] at hContent
      cases hContent

end Setting

/-! ## The document -/

variable {settings : List (String × Nat)}

theorem lines?_settings (hKeys : ∀ s ∈ settings, IsBareKey s.1)
    (hNumbers : ∀ s ∈ settings, (s.2 : Int) < wordLimit) :
    lines? (settings.flatMap fun s => settingLine s.1 s.2) =
      some (settings.map fun s => .binding (settingBinding s)) := by
  induction settings with
  | nil =>
    rw [List.flatMap_nil, lines?]
    rfl
  | cons s settings ih =>
    rw [List.forall_mem_cons] at hKeys hNumbers
    rw [List.flatMap_cons, lines?_settingLine hKeys.1 hNumbers.1, ih hKeys.2 hNumbers.2]
    rfl

theorem grouped_bindings (bs : List Binding) : grouped (bs.map .binding) = (bs, []) := by
  induction bs with
  | nil => rfl
  | cons b bs ih => rw [List.map_cons, grouped, ih]

theorem Entries.get?_eq_none_iff {es : Entries} {key : String} :
    es.get? key = none ↔ ∀ e ∈ es, e.1 ≠ key := by
  rw [get?, List.lookup_eq_none_iff]
  refine forall₂_congr fun e he => ?_
  rw [bne_iff_ne, ne_comm]

theorem Entries.bindAll_settings {es : Entries} (hNew : ∀ s ∈ settings, ∀ e ∈ es, e.1 ≠ s.1)
    (hOnce : (settings.map Prod.fst).Nodup) :
    es.bindAll (settings.map settingBinding) =
      some (es ++ settings.map fun s => (s.1, .integer (s.2 : Int))) := by
  induction settings generalizing es with
  | nil => rw [List.map_nil, List.map_nil, List.append_nil]; rfl
  | cons s settings ih =>
    rw [List.forall_mem_cons] at hNew
    rw [List.map_cons, List.nodup_cons] at hOnce
    have hBind : es.bind (settingBinding s) = some (es ++ [(s.1, .integer (s.2 : Int))]) := by
      rw [bind_of_tables_eq_nil rfl, bindName]
      simp only [settingBinding, get?_eq_none_iff.mpr hNew.1]
    have hRest : ∀ t ∈ settings, ∀ e ∈ es ++ [(s.1, Value.integer (s.2 : Int))], e.1 ≠ t.1 := by
      intro t ht e he
      rcases List.mem_append.mp he with he | he
      · exact hNew.2 t ht e he
      · rw [List.mem_singleton.mp he]
        intro hEq
        exact hOnce.1 (hEq ▸ List.mem_map_of_mem ht)
    have hStep : es.bindAll (settingBinding s :: settings.map settingBinding) =
        (es.bind (settingBinding s)).bind fun es => es.bindAll (settings.map settingBinding) := rfl
    rw [List.map_cons, hStep, hBind, Option.bind_some, ih hRest hOnce.2, List.append_assoc]
    rfl

/-- A document of settings has them as its entries. -/
theorem parse?_settings {text : String}
    (hText : text.toList = settings.flatMap fun s => settingLine s.1 s.2)
    (hKeys : ∀ s ∈ settings, IsBareKey s.1) (hNumbers : ∀ s ∈ settings, (s.2 : Int) < wordLimit)
    (hOnce : (settings.map Prod.fst).Nodup) :
    parse? text = some (settings.map fun s => (s.1, .integer (s.2 : Int))) := by
  have hMark : skipMark text.toList = text.toList := by
    rw [hText]
    cases settings with
    | nil => rfl
    | cons s settings =>
      rw [List.flatMap_cons]
      obtain ⟨c, s', hCons, hBare⟩ :=
        exists_cons_settingLine (hKeys s List.mem_cons_self) s.2 _
      rw [hCons, skipMark.eq_2]
      intro s'' hEq
      exact ne_of_isBare hBare rfl (List.cons.inj hEq).1
  have hLines : settings.map (fun s => Line.binding (settingBinding s)) =
      (settings.map settingBinding).map .binding := by
    rw [List.map_map]
    rfl
  rw [parse?, hMark, hText, lines?_settings hKeys hNumbers, Option.bind_some, ofLines?, hLines,
    grouped_bindings]
  simp only [Entries.bindAll_settings (fun _ _ _ he => absurd he List.not_mem_nil) hOnce]
  rfl

end BufferedHttp.Toml
