import BufferedHttp.Proofs.Uri.Splitting

/-!
# A request head is written as one text

The parts of a request head, written one behind the other, are a text that has the same head: no
boundary moves, although the scheme may have lost its spelling, the path may have got its slash and
a fragment is gone. So heads with the same text are the same.
-/

namespace BufferedHttp

/-- The parts of a head as one text. -/
def RequestHead.text (head : RequestHead) : String :=
  head.scheme.name ++ "://" ++ head.authority ++ head.pathWithQuery

theorem Scheme.eq_of_ofName_eq {name : String} {scheme : Scheme} (h : ofName name = scheme) :
    name = scheme.name := by
  rw [← h, name_ofName]

namespace Uri

/-! ## Schemes -/

theorem not_isPrefixOf_of_ne {known name : List Char} (other : List Char) (hKnown : ':' ∉ known)
    (hName : ':' ∉ name) (hNot : name.map Char.toLower ≠ known) :
    ¬(known ++ "://".toList).isPrefixOf ((name ++ "://".toList ++ other).map Char.toLower) := by
  intro hPrefix
  obtain ⟨spelling, hSpelling, hLower⟩ := exists_spelling_of_prefix known hPrefix
  have hSpellingColon : ':' ∉ spelling := fun hMem =>
    hKnown (hLower ▸ List.mem_map_of_mem (f := Char.toLower) hMem)
  obtain ⟨rfl, -⟩ := append_separator_inj hName hSpellingColon hSpelling
  exact hNot hLower

/-- A scheme that is not well-known is found in front of any text. -/
theorem splitScheme_of_other {name other : List Char}
    (hChars : ∀ c ∈ name, isSchemeChar c = true) (hHttp : name.map Char.toLower ≠ "http".toList)
    (hHttps : name.map Char.toLower ≠ "https".toList) (hShort : name.length ≤ maxSchemeLength)
    (hOther : other ≠ []) :
    splitScheme (name ++ "://".toList ++ other) = .ok (some (String.ofList name, other)) := by
  -- A well-known scheme would end at the same colon, and so be the name.
  have hColon : ':' ∉ name := fun hMem => absurd (hChars _ hMem) (by decide)
  have hNotHttp : ¬"http://".toList.isPrefixOf
      ((name ++ "://".toList ++ other).map Char.toLower) = true :=
    not_isPrefixOf_of_ne other (by decide) hColon hHttp
  have hNotHttps : ¬"https://".toList.isPrefixOf
      ((name ++ "://".toList ++ other).map Char.toLower) = true :=
    not_isPrefixOf_of_ne other (by decide) hColon hHttps
  have hStop : ∀ c, ("://".toList ++ other).head? = some c → isSchemeChar c = false := by
    rintro c ⟨⟩
    rfl
  have hTake : (name ++ "://".toList ++ other).takeWhile isSchemeChar = name := by
    rw [List.append_assoc, Text.takeWhile_append_stop hChars hStop]
  have hDrop : (name ++ "://".toList ++ other).dropWhile isSchemeChar =
      ':' :: '/' :: '/' :: other := by
    rw [List.append_assoc, Text.dropWhile_append_stop hChars hStop]
    rfl
  rw [splitScheme]
  dsimp only
  rw [if_neg hNotHttp, if_neg hNotHttps, hTake, hDrop]
  simp only [hOther, and_false, if_false, if_neg (Nat.not_lt.mpr hShort)]

theorem length_le_of_splitScheme {cs behind : List Char} {scheme : String}
    (h : splitScheme cs = .ok (some (scheme, behind))) :
    scheme.toList.length ≤ maxSchemeLength := by
  rw [splitScheme] at h
  dsimp only at h
  split at h
  · cases h
    decide
  split at h
  · cases h
    decide
  split at h
  case h_2 => cases h
  split at h
  · cases h
  split at h
  · cases h
  rename_i hShort
  cases h
  rw [String.toList_ofList]
  exact Nat.not_lt.mp hShort

theorem colon_notMem_of_splitScheme {cs behind : List Char} {scheme : String}
    (h : splitScheme cs = .ok (some (scheme, behind))) : ':' ∉ scheme.toList := by
  obtain ⟨spelling, -, hChars, hSpelled⟩ := exists_spelling_of_splitScheme h
  generalize hScheme : Scheme.ofName scheme = known at hSpelled
  obtain rfl := Scheme.eq_of_ofName_eq hScheme
  cases hSpelled with
  | http | https => decide
  | other =>
    rw [Scheme.name, String.toList_ofList]
    exact fun hMem => absurd (hChars _ hMem) (by decide)

/-- A scheme that was found in front of one text is found in front of any other. -/
theorem splitScheme_append {cs behind other : List Char} {scheme : String}
    (h : splitScheme cs = .ok (some (scheme, behind))) (hOther : other ≠ []) :
    splitScheme (scheme.toList ++ "://".toList ++ other) = .ok (some (scheme, other)) := by
  obtain ⟨spelling, -, hChars, hSpelled⟩ := exists_spelling_of_splitScheme h
  have hShort := length_le_of_splitScheme h
  generalize hScheme : Scheme.ofName scheme = known at hSpelled
  obtain rfl := Scheme.eq_of_ofName_eq hScheme
  cases hSpelled with
  | http => exact splitScheme_http other
  | https => exact splitScheme_https other
  | other hHttp hHttps =>
    rw [Scheme.name, String.toList_ofList] at hShort ⊢
    exact splitScheme_of_other hChars hHttp hHttps hShort hOther

/-! ## Authority, path and query -/

theorem check_of_split {cs authority rest : List Char}
    (h : Authority.split cs = .ok (authority, rest)) : Authority.check authority = .ok () := by
  rw [(split_authority h).1]
  rw [Authority.split] at h
  split at h
  · cases h
  · dsimp only at h
    split at h
    · assumption
    · cases h

/-- An authority that was found in front of one text is found in front of any other that ends
it. -/
theorem split_append {cs authority rest other : List Char}
    (h : Authority.split cs = .ok (authority, rest)) (hNonempty : authority ≠ [])
    (hOther : ∀ c, other.head? = some c → Authority.isEnd c = true) :
    Authority.split (authority ++ other) = .ok (authority, other) := by
  have hInside : ∀ c ∈ authority, (!Authority.isEnd c) = true := fun c hc => by
    rw [isEnd_of_mem_authority h c hc]
    rfl
  have hStop : ∀ c, other.head? = some c → (!Authority.isEnd c) = false := fun c hc => by
    rw [hOther c hc]
    rfl
  rw [Authority.split, if_neg (by simp [hNonempty])]
  dsimp only
  rw [Text.takeWhile_append_stop hInside hStop, Text.dropWhile_append_stop hInside hStop,
    check_of_split h]

/-- A query has no number sign, so it is read back. -/
theorem splitQuery_marked {cs : List Char} {query : Option (List Char)}
    (h : splitQuery cs = .ok query) : splitQuery (marked query) = .ok query := by
  rw [splitQuery.eq_def] at h
  split at h
  · rename_i behind
    dsimp only at h
    split at h
    · rename_i hChars
      cases h
      have hVisible : visible (visible behind) = visible behind :=
        List.takeWhile_eq_self_iff.mpr fun _ => List.mem_takeWhile_imp
      change splitQuery ('?' :: visible behind) = .ok (some (visible behind))
      rw [splitQuery, ← visible, hVisible]
      exact if_pos hChars
    · cases h
  · cases h
    rfl

/-- Characters that do not end a path. -/
def isInPath (c : Char) : Bool := c ≠ '?' ∧ c ≠ '#'

theorem splitPath_eq (cs : List Char) :
    splitPath cs =
      if (cs.takeWhile isInPath).all isPathChar then
        match splitQuery (cs.dropWhile isInPath) with
        | .ok query =>
          .ok (if cs.takeWhile isInPath = [] then ['/'] else cs.takeWhile isInPath, query)
        | .error fault => .error fault
      else .error .invalidCharacter := rfl

/-- What a path is made of that was read, the root for an empty one included. -/
theorem path_of_splitPath {cs path : List Char} {query : Option (List Char)}
    (h : splitPath cs = .ok (path, query)) :
    path ≠ [] ∧ path.all isPathChar = true ∧ (∀ c ∈ path, isInPath c = true) ∧
      ∃ behind, splitQuery behind = .ok query := by
  rw [splitPath_eq] at h
  split at h
  case isFalse => cases h
  rename_i hChars
  split at h
  case h_2 => cases h
  rename_i query' hQuery
  cases h
  split
  · exact ⟨by decide, by decide, by simp [isInPath], _, hQuery⟩
  · rename_i hNonempty
    exact ⟨hNonempty, hChars, fun _ => List.mem_takeWhile_imp, _, hQuery⟩

/-- A path with its query is read back. -/
theorem splitPath_append {cs path : List Char} {query : Option (List Char)}
    (h : splitPath cs = .ok (path, query)) :
    splitPath (path ++ marked query) = .ok (path, query) := by
  obtain ⟨hNonempty, hChars, hInside, behind, hQuery⟩ := path_of_splitPath h
  have hStop : ∀ c, (marked query).head? = some c → isInPath c = false := by
    intro c hc
    cases query with
    | none => cases hc
    | some query =>
      cases hc
      rfl
  rw [splitPath_eq, Text.takeWhile_append_stop hInside hStop,
    Text.dropWhile_append_stop hInside hStop, if_pos hChars, splitQuery_marked hQuery]
  dsimp only
  rw [if_neg hNonempty]

/-- What follows an authority begins with a slash once it is put under the root. -/
theorem isEnd_of_head?_append {cs path : List Char} {query : Option (List Char)}
    (hStart : ∀ c, cs.head? = some c → Authority.isEnd c = true)
    (h : splitPath cs = .ok (path, query)) :
    ∀ c, (path ++ marked query).head? = some c → Authority.isEnd c = true := by
  intro c hc
  rw [append_splitPath hStart h, rooted] at hc
  split at hc
  · rename_i hSlash
    obtain rfl := Option.some.inj (hSlash.symm.trans hc)
    rfl
  · cases hc
    rfl

/-! ## Texts in absolute form -/

theorem parse_of_scheme {text : String} {spelling behind : List Char}
    (hLength : text.utf8ByteSize ≤ maxLength)
    (hText : text.toList = spelling ++ "://".toList ++ behind)
    (hChars : ∀ c ∈ spelling, isSchemeChar c = true) :
    parse text = parseAbsolute text.toList := by
  have hParse {c d : Char} {cs : List Char} (hCons : text.toList = c :: d :: cs)
      (hSlash : c ≠ '/') : parse text = parseAbsolute text.toList := by
    rw [parse, if_neg (Nat.not_lt.mpr hLength), hCons]
    simp [hSlash]
  cases spelling with
  | nil => exact hParse hText (by decide)
  | cons c spelling =>
    have hSlash : c ≠ '/' := by
      rintro rfl
      exact absurd (hChars '/' List.mem_cons_self) (by decide)
    cases spelling with
    | nil => exact hParse hText hSlash
    | cons d spelling => exact hParse hText hSlash

theorem parseAbsolute_of_parts {cs behind authority rest path : List Char} {scheme : String}
    {query : Option (List Char)} (hScheme : splitScheme cs = .ok (some (scheme, behind)))
    (hSplit : Authority.split behind = .ok (authority, rest)) (hNonempty : authority ≠ [])
    (hPath : splitPath rest = .ok (path, query)) :
    parseAbsolute cs = .ok ⟨some scheme, some (String.ofList authority), String.ofList path,
      query.map String.ofList⟩ := by
  simp only [parseAbsolute, hScheme, hSplit, if_neg hNonempty, hPath]

end Uri

namespace RequestHead

/-- A text has a head when it is short enough and each of its parts is read. -/
theorem ofText_eq_ok_iff_parts {method : Method} {headers : FieldList} {text : String}
    {head : RequestHead} :
    ofText method headers text = .ok head ↔
      text.utf8ByteSize ≤ Uri.maxLength ∧
      ∃ scheme behind authority rest path query,
        Uri.splitScheme text.toList = .ok (some (scheme, behind)) ∧
        Authority.split behind = .ok (authority, rest) ∧ authority ≠ [] ∧ '@' ∉ authority ∧
        Uri.splitPath rest = .ok (path, query) ∧
        head = ⟨method, .ofName scheme, String.ofList authority,
          String.ofList (path ++ Uri.marked query), headers⟩ := by
  rw [ofText_eq_ok_iff]
  constructor
  · rintro ⟨u, hParse, hHead⟩
    obtain ⟨scheme, authority, hNamed, hAuthority, hUser, rfl⟩ := ofUri_eq_ok_iff.mp hHead
    obtain ⟨behind, authority, rest, path, query, hScheme, hSplit, hNonempty, hPath, rfl⟩ :=
      Uri.parts_of_parse hParse hNamed
    cases hAuthority
    have hShort : text.utf8ByteSize ≤ Uri.maxLength := by
      rw [Uri.parse] at hParse
      split at hParse
      · cases hParse
      · rename_i hShort
        exact Nat.not_lt.mp hShort
    rw [String.toList_ofList] at hUser
    refine ⟨hShort, scheme, behind, authority, rest, path, query, hScheme, hSplit, hNonempty,
      hUser, hPath, ?_⟩
    rw [← String.ofList_toList (s := Uri.pathWithQuery _), Uri.toList_pathWithQuery]
  · rintro ⟨hShort, scheme, behind, authority, rest, path, query, hScheme, hSplit, hNonempty,
      hUser, hPath, rfl⟩
    obtain ⟨spelling, hText, hChars, -⟩ := Uri.exists_spelling_of_splitScheme hScheme
    refine ⟨_, (Uri.parse_of_scheme hShort hText hChars).trans
      (Uri.parseAbsolute_of_parts hScheme hSplit hNonempty hPath), ?_⟩
    rw [ofUri_eq_ok_iff]
    refine ⟨scheme, String.ofList authority, rfl, rfl, by rwa [String.toList_ofList], ?_⟩
    rw [← String.ofList_toList (s := Uri.pathWithQuery _), Uri.toList_pathWithQuery]

theorem toList_text (method : Method) (headers : FieldList) (scheme : String)
    (authority rest : List Char) :
    (text ⟨method, .ofName scheme, String.ofList authority, String.ofList rest, headers⟩).toList =
      scheme.toList ++ "://".toList ++ (authority ++ rest) := by
  simp [text]

/-- The text of a head has that head, unless it is too long. -/
theorem ofText_text {method : Method} {headers : FieldList} {text : String} {head : RequestHead}
    (h : ofText method headers text = .ok head) (hLength : head.text.utf8ByteSize ≤ Uri.maxLength) :
    ofText method headers head.text = .ok head := by
  obtain ⟨-, scheme, behind, authority, rest, path, query, hScheme, hSplit, hNonempty, hUser,
    hPath, rfl⟩ := ofText_eq_ok_iff_parts.mp h
  rw [ofText_eq_ok_iff_parts]
  refine ⟨hLength, scheme, authority ++ (path ++ Uri.marked query), authority,
    path ++ Uri.marked query, path, query, ?_, ?_, hNonempty, hUser, Uri.splitPath_append hPath,
    rfl⟩
  · rw [toList_text]
    exact Uri.splitScheme_append hScheme (by simp [hNonempty])
  · have hStart := Uri.isEnd_of_head?_append (Uri.isEnd_of_head?_rest hSplit) hPath
    exact Uri.split_append hSplit hNonempty hStart

/-- No two heads that texts have are written as the same text. -/
theorem eq_of_text_eq {method : Method} {headers : FieldList} {text₁ text₂ : String}
    {head₁ head₂ : RequestHead} (h₁ : ofText method headers text₁ = .ok head₁)
    (h₂ : ofText method headers text₂ = .ok head₂) (hText : head₁.text = head₂.text) :
    head₁ = head₂ := by
  obtain ⟨-, scheme₁, _, authority₁, _, path₁, query₁, hScheme₁, hSplit₁, -, -, hPath₁, rfl⟩ :=
    ofText_eq_ok_iff_parts.mp h₁
  obtain ⟨-, scheme₂, _, authority₂, _, path₂, query₂, hScheme₂, hSplit₂, -, -, hPath₂, rfl⟩ :=
    ofText_eq_ok_iff_parts.mp h₂
  have hBoth := congrArg String.toList hText
  rw [toList_text, toList_text] at hBoth
  -- Each part ends where the first character stands that it cannot have.
  obtain ⟨hScheme, hBehind⟩ := Uri.append_separator_inj
    (Uri.colon_notMem_of_splitScheme hScheme₁) (Uri.colon_notMem_of_splitScheme hScheme₂) hBoth
  have hAuthority : authority₁ = authority₂ := by
    rw [← Uri.takeWhile_isEnd (Uri.isEnd_of_mem_authority hSplit₁)
        (Uri.isEnd_of_head?_append (Uri.isEnd_of_head?_rest hSplit₁) hPath₁), hBehind,
      Uri.takeWhile_isEnd (Uri.isEnd_of_mem_authority hSplit₂)
        (Uri.isEnd_of_head?_append (Uri.isEnd_of_head?_rest hSplit₂) hPath₂)]
  subst hAuthority
  rw [String.toList_inj.mp hScheme, List.append_cancel_left hBehind]

/-- The text of a head is its normal form: it has the same head, and two texts have the same head
exactly when their heads are written as one text. -/
theorem ofText_normal_form (method : Method) (headers : FieldList) :
    (∀ text head, ofText method headers text = .ok head →
      head.text.utf8ByteSize ≤ Uri.maxLength → ofText method headers head.text = .ok head) ∧
    ∀ text₁ text₂ head₁ head₂, ofText method headers text₁ = .ok head₁ →
      ofText method headers text₂ = .ok head₂ → (head₁ = head₂ ↔ head₁.text = head₂.text) := by
  constructor
  · intro text head
    exact ofText_text
  · intro text₁ text₂ head₁ head₂ h₁ h₂
    exact ⟨congrArg RequestHead.text, eq_of_text_eq h₁ h₂⟩

theorem ofText_normal_form_of_mixed_case :
    ofText .get [] "http://h:80/?a?b" = .ok ⟨.get, .http, "h:80", "/?a?b", []⟩ ∧
    ∃ head, ofText .get [] "HTTP://h:80?a?b#f" = .ok head ∧
      ofText .get [] "http://h:80?a?b" = .ok head := by
  obtain ⟨hSame, hInjective⟩ := ofText_normal_form .get []
  have hUpper : ofText .get [] "HTTP://h:80?a?b#f" = .ok ⟨.get, .http, "h:80", "/?a?b", []⟩ := by
    decide +kernel
  have hLower : ofText .get [] "http://h:80?a?b" = .ok ⟨.get, .http, "h:80", "/?a?b", []⟩ := by
    decide +kernel
  have hHeads := (hInjective _ _ _ _ hLower hUpper).mpr rfl
  exact ⟨hSame _ _ hUpper (by decide), _, hUpper, hHeads ▸ hLower⟩

end RequestHead

end BufferedHttp
