import BufferedHttp.Proofs.Text.Cut
import BufferedHttp.Proofs.Uri.Scheme
import Mathlib

/-!
# A URI is split without loss

A text that has a request head is, up to its first number sign, the scheme, a colon and two
slashes, the authority and the path with the query. Only a slash is put in front of a rest that
does not begin with one, and only a well-known scheme loses its spelling.
-/

namespace BufferedHttp

/-! ## Spellings of a scheme -/

/-- Only letters are the lower case of another character. -/
theorem Text.eq_of_toLower_eq {c d : Char} (h : c.toLower = d) (hOther : d.isLower = false) :
    c = d := by
  have hNotUpper : ¬c.isUpper = true := by
    intro hUpper
    rw [← h, Char.isLower_toLower_eq_isAlpha, Char.isAlpha, hUpper, Bool.true_or] at hOther
    cases hOther
  rw [← h, Char.toLower_eq_of_not_isUpper hNotUpper]

/-- A text that stands for a scheme: in any case for the well-known ones, literally for others. -/
inductive Scheme.Spelled : Scheme → List Char → Prop where
  | http {cs : List Char} (h : cs.map Char.toLower = "http".toList) : Spelled .http cs
  | https {cs : List Char} (h : cs.map Char.toLower = "https".toList) : Spelled .https cs
  | other {cs : List Char} (hHttp : cs.map Char.toLower ≠ "http".toList)
      (hHttps : cs.map Char.toLower ≠ "https".toList) : Spelled (.other (String.ofList cs)) cs

theorem Scheme.spelled_ofName {cs : List Char} (hHttp : cs.map Char.toLower ≠ "http".toList)
    (hHttps : cs.map Char.toLower ≠ "https".toList) :
    (Scheme.ofName (String.ofList cs)).Spelled cs := by
  have hOther {name : String} (hLower : name.toList.map Char.toLower = name.toList)
      (h : cs.map Char.toLower ≠ name.toList) : String.ofList cs ≠ name := by
    rintro rfl
    rw [String.toList_ofList] at hLower h
    exact h hLower
  rw [Scheme.ofName, if_neg (hOther rfl hHttp), if_neg (hOther rfl hHttps)]
  exact .other hHttp hHttps

namespace Uri

/-! ## The scheme in front of a text -/

theorem map_toLower_separator {cs : List Char} (h : cs.map Char.toLower = "://".toList) :
    cs = "://".toList := by
  obtain ⟨a, cs, rfl, ha, h⟩ := List.map_eq_cons_iff.mp h
  obtain ⟨b, cs, rfl, hb, h⟩ := List.map_eq_cons_iff.mp h
  obtain ⟨c, cs, rfl, hc, h⟩ := List.map_eq_cons_iff.mp h
  rw [Text.eq_of_toLower_eq ha rfl, Text.eq_of_toLower_eq hb rfl, Text.eq_of_toLower_eq hc rfl,
    List.map_eq_nil_iff.mp h]
  rfl

/-- A text that begins with a name in any case and the separator. -/
theorem exists_spelling_of_prefix (name : List Char) {cs : List Char}
    (h : (name ++ "://".toList).isPrefixOf (cs.map Char.toLower) = true) :
    ∃ spelling, cs = spelling ++ "://".toList ++ cs.drop (name.length + 3) ∧
      spelling.map Char.toLower = name := by
  obtain ⟨lower, hLower⟩ := List.isPrefixOf_iff_prefix.mp h
  obtain ⟨front, behind, rfl, hFront, -⟩ := List.map_eq_append_iff.mp hLower.symm
  obtain ⟨spelling, separator, rfl, hName, hSeparator⟩ := List.map_eq_append_iff.mp hFront
  have hLength : (spelling ++ separator).length = name.length + 3 := by
    rw [← hName, ← List.length_map Char.toLower, hFront, hName, List.length_append]
    rfl
  refine ⟨spelling, ?_, hName⟩
  rw [List.drop_left' hLength, map_toLower_separator hSeparator]

/-- The first separator of a text is found by its colon. -/
theorem append_separator_inj {front front' behind behind' : List Char} (hFront : ':' ∉ front)
    (hFront' : ':' ∉ front')
    (h : front ++ "://".toList ++ behind = front' ++ "://".toList ++ behind') :
    front = front' ∧ behind = behind' := by
  have hTake {cs rest : List Char} (hColon : ':' ∉ cs) :
      (cs ++ "://".toList ++ rest).takeWhile (· ≠ ':') = cs := by
    rw [List.append_assoc, List.takeWhile_append_of_pos (fun c hc => ?_)]
    · exact List.append_nil cs
    · exact decide_eq_true fun hSame => hColon (hSame ▸ hc)
  have hSame : front = front' := by rw [← hTake hFront, h, hTake hFront']
  subst hSame
  exact ⟨rfl, List.append_cancel_left h⟩

theorem isPrefixOf_of_spelling {name spelling behind : List Char}
    (h : spelling.map Char.toLower = name) :
    (name ++ "://".toList).isPrefixOf ((spelling ++ "://".toList ++ behind).map Char.toLower) := by
  rw [List.isPrefixOf_iff_prefix, List.map_append, List.map_append, h]
  exact List.prefix_append _ _

theorem isSchemeChar_of_spelling {name spelling : List Char}
    (hName : spelling.map Char.toLower = name) (hLower : ∀ c ∈ name, c.isLower = true) :
    ∀ c ∈ spelling, isSchemeChar c = true := by
  intro c hc
  have hAlpha := hLower _ (hName ▸ List.mem_map_of_mem hc)
  rw [Char.isLower_toLower_eq_isAlpha] at hAlpha
  simp [isSchemeChar, Char.isAlphanum, hAlpha]

/-- What stands in front of the separator stands for the scheme. -/
theorem exists_spelling_of_splitScheme {cs behind : List Char} {scheme : String}
    (h : splitScheme cs = .ok (some (scheme, behind))) :
    ∃ spelling, cs = spelling ++ "://".toList ++ behind ∧
      (∀ c ∈ spelling, isSchemeChar c = true) ∧ (Scheme.ofName scheme).Spelled spelling := by
  rw [splitScheme] at h
  dsimp only at h
  split at h
  case isTrue hHttp =>
    cases h
    obtain ⟨spelling, hText, hName⟩ := exists_spelling_of_prefix "http".toList hHttp
    have hChars := isSchemeChar_of_spelling hName (List.all_eq_true.mp rfl)
    exact ⟨spelling, hText, hChars, .http hName⟩
  case isFalse hHttp =>
    split at h
    case isTrue hHttps =>
      cases h
      obtain ⟨spelling, hText, hName⟩ := exists_spelling_of_prefix "https".toList hHttps
      have hChars := isSchemeChar_of_spelling hName (List.all_eq_true.mp rfl)
      exact ⟨spelling, hText, hChars, .https hName⟩
    case isFalse hHttps =>
      split at h
      case h_2 => cases h
      rename_i rest hRest
      split at h
      · cases h
      split at h
      · cases h
      cases h
      have hText : cs = cs.takeWhile isSchemeChar ++ "://".toList ++ behind := by
        rw [List.append_assoc]
        exact (List.takeWhile_append_dropWhile.symm.trans (by rw [hRest]; rfl))
      refine ⟨cs.takeWhile isSchemeChar, hText, fun c hc => List.mem_takeWhile_imp hc,
        Scheme.spelled_ofName (fun hName => hHttp ?_) (fun hName => hHttps ?_)⟩
      · exact hText ▸ isPrefixOf_of_spelling hName
      · exact hText ▸ isPrefixOf_of_spelling hName

/-! ## Authority, path and query -/

theorem head?_dropWhile {p : Char → Bool} {cs : List Char} {c : Char}
    (h : (cs.dropWhile p).head? = some c) : p c = false := by
  have hStop := List.head?_dropWhile_not p cs
  rwa [h] at hStop

theorem takeWhile_isEnd {authority rest : List Char}
    (hInside : ∀ c ∈ authority, Authority.isEnd c = false)
    (hRest : ∀ c, rest.head? = some c → Authority.isEnd c = true) :
    (authority ++ rest).takeWhile (!Authority.isEnd ·) = authority := by
  refine Text.takeWhile_append_stop (fun c hc => ?_) fun c hc => ?_
  · rw [hInside c hc, Bool.not_false]
  · rw [hRest c hc, Bool.not_true]

theorem split_authority {cs authority rest : List Char}
    (h : Authority.split cs = .ok (authority, rest)) :
    authority = cs.takeWhile (!Authority.isEnd ·) ∧ rest = cs.dropWhile (!Authority.isEnd ·) := by
  rw [Authority.split] at h
  split at h
  · cases h
  · dsimp only at h
    split at h
    · cases h
      exact ⟨rfl, rfl⟩
    · cases h

theorem isEnd_of_mem_authority {cs authority rest : List Char}
    (h : Authority.split cs = .ok (authority, rest)) :
    ∀ c ∈ authority, Authority.isEnd c = false := by
  rw [(split_authority h).1]
  intro c hc
  simpa using List.mem_takeWhile_imp hc

theorem isEnd_of_head?_rest {cs authority rest : List Char}
    (h : Authority.split cs = .ok (authority, rest)) :
    ∀ c, rest.head? = some c → Authority.isEnd c = true := by
  rw [(split_authority h).2]
  intro c hc
  simpa using head?_dropWhile hc

/-- A query as it stands behind its path, with its question mark. -/
def marked : Option (List Char) → List Char
  | some query => '?' :: query
  | none => []

/-- A rest put under the root. -/
def rooted (rest : List Char) : List Char :=
  if rest.head? = some '/' then rest else '/' :: rest

/-- A text up to its first number sign. -/
def visible (cs : List Char) : List Char := cs.takeWhile (· ≠ '#')

theorem marked_splitQuery {cs : List Char} {query : Option (List Char)}
    (hStart : ∀ c, cs.head? = some c → c = '?' ∨ c = '#') (h : splitQuery cs = .ok query) :
    marked query = visible cs := by
  rw [splitQuery.eq_def] at h
  split at h
  · dsimp only at h
    split at h
    · cases h
      rfl
    · cases h
  · rename_i hMark
    cases h
    cases cs with
    | nil => rfl
    | cons c cs =>
      obtain rfl | rfl := hStart c rfl
      · exact absurd rfl (hMark cs)
      · rfl

/-- Path and query of what follows an authority are that text up to its number sign, put under
the root. -/
theorem append_splitPath {cs path : List Char} {query : Option (List Char)}
    (hStart : ∀ c, cs.head? = some c → Authority.isEnd c = true)
    (h : splitPath cs = .ok (path, query)) :
    path ++ marked query = rooted (visible cs) := by
  let stop : Char → Bool := fun c => c ≠ '?' ∧ c ≠ '#'
  have hInPath : ∀ c ∈ cs.takeWhile stop, decide (c ≠ '#') = true := by
    intro c hc
    have hStop : stop c = true := List.mem_takeWhile_imp hc
    simp_all [stop]
  have hBehind : ∀ c, (cs.dropWhile stop).head? = some c → c = '?' ∨ c = '#' := by
    intro c hc
    have hStop := head?_dropWhile hc
    simp only [stop, decide_eq_false_iff_not, not_and_or, not_not] at hStop
    exact hStop
  rw [splitPath] at h
  split at h
  case isFalse => cases h
  split at h
  case h_2 => cases h
  rename_i query' hQuery
  cases h
  have hText : visible cs = cs.takeWhile stop ++ marked query := by
    calc visible cs
        = visible (cs.takeWhile stop ++ cs.dropWhile stop) := by
          rw [List.takeWhile_append_dropWhile]
      _ = cs.takeWhile stop ++ marked query := by
          rw [visible, List.takeWhile_append_of_pos hInPath, marked_splitQuery hBehind hQuery,
            visible]
  rw [hText]
  change (if cs.takeWhile stop = [] then ['/'] else cs.takeWhile stop) ++ marked query = _
  cases hPath : cs.takeWhile stop with
  | nil => cases query <;> rfl
  | cons c path =>
    -- a path that is not empty begins where the authority ends, and so with a slash
    have hEnd : Authority.isEnd c = true := by
      refine hStart c ?_
      rw [← List.takeWhile_append_dropWhile (p := stop) (l := cs), hPath]
      rfl
    have hStop : stop c = true := List.mem_takeWhile_imp (hPath ▸ List.mem_cons_self)
    have hSlash : c = '/' := by simp_all [stop, Authority.isEnd]
    subst hSlash
    rfl

/-! ## Texts in absolute form -/

theorem parseAbsolute_of_scheme {text scheme : String} {u : Uri} (h : parse text = .ok u)
    (hScheme : u.scheme = some scheme) : parseAbsolute text.toList = .ok u := by
  rw [parse] at h
  split at h
  · cases h
  split at h
  · cases h
  · rw [parseOne] at h
    split at h
    · cases h
      cases hScheme
    · split at h
      · cases h
      · split at h <;> cases h
        cases hScheme
  · rw [parseRelative] at h
    split at h <;> cases h
    cases hScheme
  · exact h

/-- A URI with a scheme is read in turn: the scheme, the authority, the path with the query. -/
theorem parts_of_parse {text scheme : String} {u : Uri} (h : parse text = .ok u)
    (hScheme : u.scheme = some scheme) :
    ∃ behind authority rest path query,
      splitScheme text.toList = .ok (some (scheme, behind)) ∧
      Authority.split behind = .ok (authority, rest) ∧ authority ≠ [] ∧
      splitPath rest = .ok (path, query) ∧
      u = ⟨some scheme, some (String.ofList authority), String.ofList path,
        query.map String.ofList⟩ := by
  have hAbsolute := parseAbsolute_of_scheme h hScheme
  rw [parseAbsolute] at hAbsolute
  split at hAbsolute
  · cases hAbsolute
  · split at hAbsolute
    · cases hAbsolute
    · split at hAbsolute <;> cases hAbsolute
      cases hScheme
  · rename_i named behind hSplit
    split at hAbsolute
    · cases hAbsolute
    · rename_i authority rest hAuthority
      split at hAbsolute
      · cases hAbsolute
      · rename_i hNonempty
        split at hAbsolute
        · cases hAbsolute
        · rename_i path query hPath
          cases hAbsolute
          cases hScheme
          exact ⟨behind, authority, rest, path, query, hSplit, hAuthority, hNonempty, hPath, rfl⟩

theorem toList_pathWithQuery (scheme authority : Option String) (path : List Char)
    (query : Option (List Char)) :
    (pathWithQuery ⟨scheme, authority, String.ofList path, query.map String.ofList⟩).toList =
      path ++ marked query := by
  cases query with
  | none => simp [pathWithQuery, marked]
  | some query => simp [pathWithQuery, marked]

end Uri

namespace RequestHead

/-- The head of a request that goes to the place a text names. -/
def ofText (method : Method) (headers : FieldList) (text : String) :
    Except UriFault RequestHead :=
  match Uri.parse text with
  | .ok u => ofUri method headers u
  | .error fault => .error fault

theorem ofText_eq_ok_iff {method : Method} {headers : FieldList} {text : String}
    {head : RequestHead} :
    ofText method headers text = .ok head ↔
      ∃ u, Uri.parse text = .ok u ∧ ofUri method headers u = .ok head := by
  rw [ofText]
  cases Uri.parse text <;> simp

theorem error_of_ofText_ne_ok {method : Method} {headers : FieldList} {text : String}
    (h : ∀ head, ofText method headers text ≠ .ok head) :
    ∃ fault, ofText method headers text = .error fault := by
  cases hHead : ofText method headers text with
  | ok head => exact absurd hHead (h head)
  | error fault => exact ⟨fault, rfl⟩

/-- What the parts of a head are to the text it comes from: `scheme` stands for its scheme and
`rest` follows its authority. -/
structure Splits (method : Method) (headers : FieldList) (text : String) (head : RequestHead)
    (scheme rest : List Char) : Prop where
  visible : Uri.visible text.toList =
    scheme ++ "://".toList ++ head.authority.toList ++ rest
  schemeChars : ∀ c ∈ scheme, Uri.isSchemeChar c = true
  spelled : head.scheme.Spelled scheme
  authority_ne : head.authority ≠ ""
  authorityChars : ∀ c ∈ head.authority.toList, c ≠ '@' ∧ c ≠ '/' ∧ c ≠ '?' ∧ c ≠ '#'
  start : ∀ c, rest.head? = some c → c = '/' ∨ c = '?'
  path : head.pathWithQuery.toList = Uri.rooted rest
  method : head.method = method
  headers : head.headers = headers

/-- What stands on the way from a text to its head. -/
theorem exists_parts {method : Method} {headers : FieldList} {text : String}
    {head : RequestHead} (h : ofText method headers text = .ok head) :
    ∃ scheme behind rest path query,
      text.toList = scheme ++ "://".toList ++ behind ∧
      (∀ c ∈ scheme, Uri.isSchemeChar c = true) ∧ head.scheme.Spelled scheme ∧
      Authority.split behind = .ok (head.authority.toList, rest) ∧ head.authority ≠ "" ∧
      '@' ∉ head.authority.toList ∧
      Uri.splitPath rest = .ok (path, query) ∧
      head.pathWithQuery.toList = path ++ Uri.marked query ∧
      head.method = method ∧ head.headers = headers := by
  obtain ⟨u, hParse, hHead⟩ := ofText_eq_ok_iff.mp h
  obtain ⟨named, authority, hNamed, hAuthority, hUser, rfl⟩ := ofUri_eq_ok_iff.mp hHead
  obtain ⟨behind, authority, rest, path, query, hScheme, hSplit, hNonempty, hPath, rfl⟩ :=
    Uri.parts_of_parse hParse hNamed
  cases hAuthority
  obtain ⟨scheme, hText, hChars, hSpelled⟩ := Uri.exists_spelling_of_splitScheme hScheme
  refine ⟨scheme, behind, rest, path, query, hText, hChars, hSpelled, ?_, ?_, hUser, hPath,
    Uri.toList_pathWithQuery .., rfl, rfl⟩
  · rw [String.toList_ofList]
    exact hSplit
  · intro hEmpty
    exact hNonempty (String.ofList_eq_empty_iff.mp hEmpty)

theorem exists_splits {method : Method} {headers : FieldList} {text : String}
    {head : RequestHead} (h : ofText method headers text = .ok head) :
    ∃ scheme rest, Splits method headers text head scheme rest := by
  obtain ⟨scheme, behind, rest, path, query, hText, hChars, hSpelled, hSplit, hNonempty, hUser,
    hPath, hPathWithQuery, hMethod, hHeaders⟩ := exists_parts h
  have hInside := Uri.isEnd_of_mem_authority hSplit
  have hStart := Uri.isEnd_of_head?_rest hSplit
  refine ⟨scheme, Uri.visible rest, ?_⟩
  constructor
  case visible =>
    have hFront : ∀ c ∈ scheme ++ "://".toList ++ head.authority.toList,
        decide (c ≠ '#') = true := by
      intro c hc
      rw [decide_eq_true_eq]
      rintro rfl
      rcases List.mem_append.mp hc with hc | hc
      · rcases List.mem_append.mp hc with hc | hc
        · exact absurd (hChars _ hc) (by decide)
        · exact absurd hc (by decide)
      · exact absurd (hInside _ hc) (by decide)
    rw [hText, ← Authority.append_of_split hSplit, ← List.append_assoc, Uri.visible,
      List.takeWhile_append_of_pos hFront, Uri.visible]
  case schemeChars => exact hChars
  case spelled => exact hSpelled
  case authority_ne => exact hNonempty
  case authorityChars =>
    intro c hc
    have hInner := hInside c hc
    simp only [Authority.isEnd, Bool.or_eq_false_iff, decide_eq_false_iff_not] at hInner
    exact ⟨fun hAt => hUser (hAt ▸ hc), hInner.1.1, hInner.1.2, hInner.2⟩
  case start =>
    intro c hc
    rw [Uri.visible, List.head?_takeWhile, Option.filter_eq_some_iff] at hc
    have hStop := hStart c hc.1
    simp only [Authority.isEnd, Bool.or_eq_true, decide_eq_true_eq] at hStop
    exact hStop.resolve_right (by simpa using hc.2)
  case path => exact hPathWithQuery.trans (Uri.append_splitPath hStart hPath)
  case method => exact hMethod
  case headers => exact hHeaders

/-- A text that names a user in front of its host has no head. -/
theorem ofText_ne_ok_of_user {method : Method} {headers : FieldList} {text : String}
    {scheme authority rest : List Char}
    (hText : text.toList = scheme ++ "://".toList ++ (authority ++ rest)) (hScheme : ':' ∉ scheme)
    (hInside : ∀ c ∈ authority, Authority.isEnd c = false)
    (hRest : ∀ c, rest.head? = some c → Authority.isEnd c = true) (hUser : '@' ∈ authority)
    (head : RequestHead) : ofText method headers text ≠ .ok head := by
  intro h
  obtain ⟨scheme', behind, rest', -, -, hText', hChars, -, hSplit, -, hNoUser, -⟩ :=
    exists_parts h
  have hScheme' : ':' ∉ scheme' := fun hColon => absurd (hChars _ hColon) (by decide)
  obtain ⟨-, rfl⟩ := Uri.append_separator_inj hScheme hScheme' (hText.symm.trans hText')
  rw [(Uri.split_authority hSplit).1, Uri.takeWhile_isEnd hInside hRest] at hNoUser
  exact hNoUser hUser

/-- The head of a text loses nothing that the text says, up to its number sign, and adds the root
slash at most. No text with a user in its authority has a head, and none without a scheme. -/
theorem ofText_splits (method : Method) (headers : FieldList) (text : String) :
    (∀ head, ofText method headers text = .ok head →
      ∃ scheme rest, Splits method headers text head scheme rest) ∧
    (∀ scheme authority rest, text.toList = scheme ++ "://".toList ++ (authority ++ rest) →
      ':' ∉ scheme → (∀ c ∈ authority, Authority.isEnd c = false) →
      (∀ c, rest.head? = some c → Authority.isEnd c = true) → '@' ∈ authority →
      ∃ fault, ofText method headers text = .error fault) ∧
    ((¬∃ scheme behind, text.toList = scheme ++ "://".toList ++ behind ∧
      ∀ c ∈ scheme, Uri.isSchemeChar c = true) →
      ∃ fault, ofText method headers text = .error fault) := by
  refine ⟨fun head => exists_splits, ?_, ?_⟩
  · intro scheme authority rest hText hScheme hInside hRest hUser
    exact error_of_ofText_ne_ok (ofText_ne_ok_of_user hText hScheme hInside hRest hUser)
  · intro hNone
    refine error_of_ofText_ne_ok fun head h => hNone ?_
    obtain ⟨scheme, behind, -, -, -, hText, hChars, -⟩ := exists_parts h
    exact ⟨scheme, behind, hText, hChars⟩

theorem ofText_splits_of_mixed_case :
    (∃ scheme rest, Splits .get [] "HTTP://h:80?a?b#f" ⟨.get, .http, "h:80", "/?a?b", []⟩
      scheme rest) ∧
    (∃ fault, ofText .get [] "s://u@h/" = .error fault) ∧
    ∃ fault, ofText .get [] "h/p" = .error fault := by
  refine ⟨(ofText_splits .get [] "HTTP://h:80?a?b#f").1 _ (by decide +kernel), ?_, ?_⟩
  · exact (ofText_splits .get [] "s://u@h/").2.1 "s".toList "u@h".toList "/".toList rfl
      (by decide) (by simp [Authority.isEnd]) (by simp [Authority.isEnd]) (by decide)
  · refine (ofText_splits .get [] "h/p").2.2 ?_
    rintro ⟨scheme, behind, hText, -⟩
    have hMem : ':' ∈ "h/p".toList := by simp [hText]
    exact absurd hMem (by decide)

end RequestHead

/-- A request's head is that of its text. -/
theorem Request.head_eq_ofText (r : Request) :
    r.head = RequestHead.ofText r.method r.headers.toFields r.uri := rfl

end BufferedHttp
