import BufferedHttp.Message.Head

/-!
# Schemes that a text begins with

A text that begins with one of the two well-known schemes in lower case is read as a URI of that
scheme, or not at all.
-/

namespace BufferedHttp

namespace Uri

theorem splitScheme_http (rest : List Char) :
    splitScheme ("http://".toList ++ rest) = .ok (some ("http", rest)) := by
  simp [splitScheme]

theorem splitScheme_https (rest : List Char) :
    splitScheme ("https://".toList ++ rest) = .ok (some ("https", rest)) := by
  simp [splitScheme]

theorem scheme_of_parseAbsolute {cs behind : List Char} {scheme : String} {u : Uri}
    (hScheme : splitScheme cs = .ok (some (scheme, behind))) (h : parseAbsolute cs = .ok u) :
    u.scheme = some scheme := by
  rw [parseAbsolute, hScheme] at h
  dsimp only at h
  split at h
  · cases h
  · split at h
    · cases h
    · split at h
      · cases h
      · cases h
        rfl

/-- A text of at least two characters that begins with a letter is read in absolute form. -/
theorem parseAbsolute_of_parse {text : String} {u : Uri} {c d : Char} {cs : List Char}
    (hText : text.toList = c :: d :: cs) (hLetter : c ≠ '/') (h : parse text = .ok u) :
    parseAbsolute (c :: d :: cs) = .ok u := by
  rw [parse, hText] at h
  split at h
  · cases h
  · simpa [hLetter] using h

theorem scheme_of_parse_http {text : String} {u : Uri}
    (hPrefix : "http://".toList <+: text.toList) (h : parse text = .ok u) :
    u.scheme = some "http" := by
  obtain ⟨rest, hText⟩ := hPrefix
  have hAbsolute := parseAbsolute_of_parse hText.symm (by decide) h
  exact scheme_of_parseAbsolute (splitScheme_http rest) hAbsolute

theorem scheme_of_parse_https {text : String} {u : Uri}
    (hPrefix : "https://".toList <+: text.toList) (h : parse text = .ok u) :
    u.scheme = some "https" := by
  obtain ⟨rest, hText⟩ := hPrefix
  have hAbsolute := parseAbsolute_of_parse hText.symm (by decide) h
  exact scheme_of_parseAbsolute (splitScheme_https rest) hAbsolute

end Uri

/-- The head names what the URI names, and no user. -/
theorem RequestHead.ofUri_eq_ok_iff {method : Method} {headers : FieldList} {u : Uri}
    {head : RequestHead} :
    ofUri method headers u = .ok head ↔
      ∃ scheme authority, u.scheme = some scheme ∧ u.authority = some authority ∧
        '@' ∉ authority.toList ∧
        head = ⟨method, .ofName scheme, authority, u.pathWithQuery, headers⟩ := by
  rw [ofUri]
  constructor
  · intro h
    split at h
    · cases h
    · cases h
    · rename_i scheme authority hScheme hAuthority
      split at h
      · cases h
      · rename_i hUser
        cases h
        exact ⟨scheme, authority, hScheme, hAuthority, hUser, rfl⟩
  · rintro ⟨scheme, authority, hScheme, hAuthority, hUser, rfl⟩
    simp only [hScheme, hAuthority, if_neg hUser]

theorem Request.head_eq_ok_iff {r : Request} {head : RequestHead} :
    r.head = .ok head ↔
      ∃ u, Uri.parse r.uri = .ok u ∧
        RequestHead.ofUri r.method r.headers.toFields u = .ok head := by
  rw [Request.head]
  cases Uri.parse r.uri <;> simp

end BufferedHttp
