import LiveTelemetry.Proofs.Url.Appended
/-!
Texts that begin like the URL of a service. Main statement: such a text with a resource after it
spells a URL exactly if it does so with a slash after it, or if it names no host.
-/
namespace LiveTelemetry.Url

/-- A text begins with the scheme of a service and two slashes. -/
structure Begins (url : String) (scheme after : List Char) : Prop where
  text : url.toList = scheme ++ ':' :: '/' :: '/' :: after
  http : scheme = "http".toList ∨ scheme = "https".toList

/-- No host is named where slashes of either kind, tabs and line ends are all there is. -/
def Hostless (after : List Char) : Prop :=
  ∀ c ∈ after, (c = '/' ∨ c = '\\') ∨ c = '\t' ∨ c = '\n' ∨ c = '\r'

theorem hostless_iff {after : List Char} :
    Hostless after ↔ (unbroken after).dropWhile (isSlash true) = [] := by
  rw [List.dropWhile_eq_nil_iff]
  constructor
  · intro h c hc
    obtain ⟨hmem, hkept⟩ := List.mem_filter.1 hc
    rcases h c hmem with hslash | hbreak
    · rcases hslash with rfl | rfl <;> rfl
    · exact absurd hbreak (by simpa using hkept)
  · intro h c hc
    by_cases hbreak : c = '\t' ∨ c = '\n' ∨ c = '\r'
    · exact .inr hbreak
    · have hslash := h c (List.mem_filter.2 ⟨hc, by simpa using hbreak⟩)
      exact .inl (by simpa [isSlash] using hslash)

theorem plain_nil : Plain [] := by
  intro c hc
  cases hc

section

variable {url : String} {scheme after : List Char} (h : Begins url scheme after)
include h

theorem Begins.special : isSpecial scheme = true ∧ isFile scheme = false := by
  rcases h.http with rfl | rfl
  · decide
  · decide

theorem Begins.first : ∀ c ∈ url.toList.head?, 0x20 < c.toNat := by
  intro c hc
  rw [h.text] at hc
  rcases h.http with rfl | rfl
  · obtain rfl : 'h' = c := Option.some.inj hc
    decide
  · obtain rfl : 'h' = c := Option.some.inj hc
    decide

theorem Begins.unbroken_eq :
    unbroken url.toList = scheme ++ ':' :: '/' :: '/' :: unbroken after := by
  rw [h.text]
  rcases h.http with rfl | rfl
  · simp [unbroken]
  · simp [unbroken]

/-- Slashes of either kind may follow those after the scheme. -/
theorem Begins.ofChars?_eq (x : List Char) :
    ofChars? (unbroken url.toList ++ x) =
      readAuthority scheme ((unbroken after ++ x).dropWhile (isSlash true)) := by
  have hscheme (rest : List Char) : scheme? (scheme ++ ':' :: rest) = some (scheme, rest) := by
    rcases h.http with rfl | rfl
    · rfl
    · rfl
  obtain ⟨special, file⟩ := h.special
  rw [h.unbroken_eq, List.append_assoc]
  have hread := ofChars?_of_scheme (hscheme ('/' :: '/' :: (unbroken after ++ x))) special file
  exact hread

theorem Begins.parse?_append {resource : String} {x : List Char} (hr : resource.toList = '/' :: x)
    (hx : Plain x) :
    parse? (url ++ resource) =
      readAuthority scheme ((unbroken after ++ '/' :: x).dropWhile (isSlash true)) := by
  rw [parse?, String.toList_append, hr, strip_append h.first hx, h.ofChars?_eq]

/-- Where a host is named, it is what decides whether there is a URL. -/
theorem Begins.parse?_iff_of_host (host : ¬ Hostless after) {resource : String} {x : List Char}
    (hr : resource.toList = '/' :: x) (hx : Plain x) :
    (∃ q, parse? (url ++ resource) = some q) ↔ ∃ base, parse? (url ++ "/") = some base := by
  rw [hostless_iff] at host
  have hread {resource : String} {x : List Char} (hr : resource.toList = '/' :: x)
      (hx : Plain x) : parse? (url ++ resource) =
        readAuthority scheme ((unbroken after).dropWhile (isSlash true) ++ '/' :: x) := by
    rw [h.parse?_append hr hx, List.dropWhile_append, if_neg (by simpa using host)]
  rw [hread hr hx, hread (rfl : "/".toList = ['/']) plain_nil]
  rcases readAuthority_cases h.special.1 ((unbroken after).dropWhile (isSlash true)) with
    hnone | ⟨u, front, -, -, hsome⟩
  · rw [hnone _ (by simp), hnone _ (by simp)]
  · rw [hsome _ (by simp), hsome _ (by simp)]
    simp

/-- Where no host is named, the resource is taken for one. -/
theorem Begins.parse?_of_hostless (hostless : Hostless after) {resource : String} {x : List Char}
    (hr : resource.toList = '/' :: x) (hx : Plain x) :
    parse? (url ++ resource) = readAuthority scheme (x.dropWhile (isSlash true)) := by
  rw [h.parse?_append hr hx, List.dropWhile_append, hostless_iff.1 hostless]
  rfl

theorem Begins.parse?_iff {resource : String} {x : List Char} (hr : resource.toList = '/' :: x)
    (hx : Plain x) (named : ∃ q, readAuthority scheme (x.dropWhile (isSlash true)) = some q) :
    (∃ q, parse? (url ++ resource) = some q) ↔
      (∃ base, parse? (url ++ "/") = some base) ∨ Hostless after := by
  by_cases hostless : Hostless after
  · rw [h.parse?_of_hostless hostless hr hx]
    exact iff_of_true named (.inr hostless)
  · rw [h.parse?_iff_of_host hostless hr hx, or_iff_left hostless]

theorem Begins.scheme_eq {resource : String} {x : List Char} (hr : resource.toList = '/' :: x)
    (hx : Plain x) {q : Url} (hq : parse? (url ++ resource) = some q) :
    q.scheme = scheme ∧ q.isHttp = true := by
  rw [h.parse?_append hr hx] at hq
  have hscheme := scheme_of_readAuthority hq
  refine ⟨hscheme, ?_⟩
  rw [isHttp, hscheme]
  rcases h.http with rfl | rfl
  · rfl
  · rfl

/-- A text that ends in a character that can be seen is enough of a URL by itself. -/
theorem Begins.parse?_iff_of_visible (last : ∀ c ∈ url.toList.getLast?, 0x20 < c.toNat) :
    (∃ r, parse? url = some r) ↔ ∃ base, parse? (url ++ "/") = some base := by
  have hurl : parse? url = readAuthority scheme ((unbroken after).dropWhile (isSlash true)) := by
    have hofChars := h.ofChars?_eq []
    rw [List.append_nil, List.append_nil] at hofChars
    rw [parse?, strip_of_visible h.first last, hofChars]
  rw [hurl, h.parse?_append (rfl : "/".toList = ['/']) plain_nil]
  by_cases hostless : Hostless after
  · rw [List.dropWhile_append, hostless_iff.1 hostless]
    rfl
  · rw [hostless_iff] at hostless
    rw [List.dropWhile_append, if_neg (by simpa using hostless)]
    rcases readAuthority_cases h.special.1 ((unbroken after).dropWhile (isSlash true)) with
      hnone | ⟨u, front, -, -, hsome⟩
    · have hnil := hnone [] (by simp)
      rw [List.append_nil] at hnil
      rw [hnil, hnone _ (by simp)]
    · have hnil := hsome [] (by simp)
      rw [List.append_nil, List.append_nil] at hnil
      rw [hnil, hsome _ (by simp)]
      simp

end

end LiveTelemetry.Url
