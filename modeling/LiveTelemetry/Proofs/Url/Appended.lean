import LiveTelemetry.Proofs.Text.Ends
import LiveTelemetry.Proofs.Url.Closing
/-!
Texts of URLs that go on. Main statement: the URL that a text spells with plain text after a slash
in place of the slashes at its end is the same, but for the part in which it ends.
-/
namespace LiveTelemetry.Url

open Text (cut cutLast)

/-- The site that an authority names, with no path yet, and what follows the digits of its port. -/
def site? (scheme authority : List Char) : Option (Url × List Char) := do
  let (userinfo, address) := cutLast (· == '@') authority
  let (username, password) := cut (· == ':') (userinfo.getD [])
  let (hostText, portText) := cutPort false address
  if hostText.isEmpty then none
  else
    let host ← readHost true hostText
    let (port, between) ← readPort scheme (portText.getD [])
    some (
      { scheme := scheme
        username := Part.userinfo.encode username
        password := Part.userinfo.encode (password.getD [])
        host := some host
        port := port
        path := .segments []
        query := none
        fragment := none }, between)

/-- An authority names the same site whatever follows it. -/
theorem readAuthority_append {scheme : List Char} (special : isSpecial scheme = true)
    {a b : List Char} (ha : ∀ c ∈ a, endsAuthority true c = false)
    (hb : ∀ c ∈ b.head?, endsAuthority true c = true) :
    readAuthority scheme (a ++ b) =
      (site? scheme a).map fun (u, between) => withPath u (between ++ b) := by
  have hin : ∀ c ∈ a, (decide (¬ endsAuthority true c = true)) = true := by
    intro c hc
    simp [ha c hc]
  have htake : (a ++ b).takeWhile (fun c => ¬ endsAuthority true c) = a := by
    rw [List.takeWhile_append_of_pos hin]
    cases b with
    | nil => simp
    | cons c b => simp [hb c rfl]
  have hdrop : (a ++ b).dropWhile (fun c => ¬ endsAuthority true c) = b := by
    rw [List.dropWhile_append_of_pos hin]
    cases b with
    | nil => rfl
    | cons c b => simp [hb c rfl]
  simp only [readAuthority, special, htake, hdrop, site?]
  generalize cutLast (fun c => c == '@') a = p
  obtain ⟨userinfo, address⟩ := p
  by_cases hhost : (cutPort false address).1.isEmpty = true
  · simp [hhost]
  · have haddress : address.isEmpty = false := by
      cases address with
      | nil => exact absurd rfl hhost
      | cons c rest => rfl
    simp only [hhost, haddress]
    cases readHost true (cutPort false address).1 with
    | none => simp
    | some host =>
      cases readPort scheme ((cutPort false address).2.getD []) with
      | none => simp
      | some port => simp

/-- What follows the digits of a port is nothing or a backslash. -/
theorem head_of_readPort {scheme s rest : List Char} {port : Option Nat}
    (h : readPort scheme s = some (port, rest)) : ∀ c ∈ rest.head?, c = '\\' := by
  have hhead (hnot : ¬ (s.dropWhile Char.isDigit).head?.any (· ≠ '\\') = true) :
      ∀ c ∈ (s.dropWhile Char.isDigit).head?, c = '\\' := by
    intro c hc
    by_contra hne
    exact hnot ((Option.any_eq_true _ _).2 ⟨c, hc, by simpa using hne⟩)
  simp only [readPort] at h
  split at h
  · contradiction
  · rename_i hnot
    split at h
    · obtain ⟨-, rfl⟩ := Prod.mk.inj (Option.some.inj h)
      exact hhead hnot
    · split at h
      · split at h
        · obtain ⟨-, rfl⟩ := Prod.mk.inj (Option.some.inj h)
          exact hhead hnot
        · contradiction
      · contradiction

theorem site?_eq_some {scheme a between : List Char} {u : Url}
    (h : site? scheme a = some (u, between)) :
    u.scheme = scheme ∧ ∀ c ∈ between.head?, c = '\\' := by
  simp only [site?] at h
  split at h
  · contradiction
  · simp only [Option.bind_eq_bind, Option.bind_eq_some_iff] at h
    obtain ⟨host, -, ⟨port, rest⟩, hport, h⟩ := h
    obtain ⟨rfl, rfl⟩ := Prod.mk.inj (Option.some.inj h)
    exact ⟨rfl, head_of_readPort hport⟩

/-- Text that begins with a slash is added to what stands after the authority. -/
theorem readAuthority_cases {scheme : List Char} (special : isSpecial scheme = true)
    (s : List Char) :
    (∀ x, (∀ c ∈ x.head?, c = '/') → readAuthority scheme (s ++ x) = none) ∨
    ∃ u front, u.scheme = scheme ∧ (∀ c ∈ front.head?, endsAuthority true c = true) ∧
      ∀ x, (∀ c ∈ x.head?, c = '/') →
        readAuthority scheme (s ++ x) = some (withPath u (front ++ x)) := by
  obtain ⟨name, below, rfl, hname, hbelow⟩ : ∃ name below, s = name ++ below ∧
      (∀ c ∈ name, endsAuthority true c = false) ∧
      ∀ c ∈ below.head?, endsAuthority true c = true := by
    have hsplit := List.takeWhile_append_dropWhile (p := fun c => ! endsAuthority true c) (l := s)
    refine ⟨_, _, hsplit.symm, ?_, ?_⟩
    · intro c hc
      simpa using List.mem_takeWhile_imp hc
    · intro c hc
      have hnot := List.head?_dropWhile_not (fun c => ! endsAuthority true c) s
      rw [Option.mem_def.1 hc] at hnot
      simpa using hnot
  have hmark (x : List Char) (hx : ∀ c ∈ x.head?, c = '/') :
      ∀ c ∈ (below ++ x).head?, endsAuthority true c = true := by
    cases below with
    | nil =>
      intro c hc
      rw [hx c hc]
      rfl
    | cons b rest => exact hbelow
  have hsite (x : List Char) (hx : ∀ c ∈ x.head?, c = '/') :=
    readAuthority_append special hname (hmark x hx)
  cases hu : site? scheme name with
  | none =>
    refine .inl fun x hx => ?_
    rw [List.append_assoc, hsite x hx, hu]
    rfl
  | some found =>
    obtain ⟨u, between⟩ := found
    obtain ⟨hscheme, hbetween⟩ := site?_eq_some hu
    refine .inr ⟨u, between ++ below, hscheme, ?_, ?_⟩
    · cases between with
      | nil => exact hbelow
      | cons b rest =>
        intro c hc
        rw [hbetween c hc]
        rfl
    · intro x hx
      rw [List.append_assoc, hsite x hx, hu, List.append_assoc]
      rfl

/-- The scheme of a text is in front of what is added, if it does not hold a colon. -/
theorem scheme?_append {s t name rest : List Char} (h : scheme? (s ++ t) = some (name, rest))
    (ht : ∀ c ∈ t, c ≠ ':') :
    ∃ front, rest = front ++ t ∧ ∀ x, scheme? (s ++ x) = some (name, front ++ x) := by
  have hmark (c : Char) (hc : c ≠ ':') : (c == ':') = false := by simpa using hc
  rcases Text.cut_cases (· == ':') s with ⟨before, after, hcut⟩ | hnone
  · simp only [scheme?, hcut] at h ⊢
    cases before with
    | nil => simp at h
    | cons c cs =>
      simp only at h ⊢
      split at h
      · rename_i hname
        obtain ⟨rfl, rfl⟩ := Prod.mk.inj (Option.some.inj h)
        exact ⟨after, rfl, fun x => if_pos hname⟩
      · simp at h
  · have hall := List.forall_mem_append.2 ⟨hnone, fun c hc => hmark c (ht c hc)⟩
    simp [scheme?, Text.cut_of_forall hall] at h

theorem scheme_of_readAuthority {scheme s : List Char} {u : Url}
    (h : readAuthority scheme s = some u) : u.scheme = scheme := by
  simp only [readAuthority] at h
  split at h
  · contradiction
  · split at h
    · contradiction
    · simp only [Option.bind_eq_bind, Option.bind_eq_some_iff] at h
      obtain ⟨host, -, port, -, h⟩ := h
      obtain rfl := Option.some.inj h
      rfl

theorem scheme_of_readFile {scheme s : List Char} {u : Url}
    (h : readFile scheme s = some u) : u.scheme = scheme := by
  have hat {host : Host} {path : List Char} {tail : Tail}
      (h : some (fileAt host scheme path tail) = some u) : u.scheme = scheme := by
    obtain rfl := Option.some.inj h
    rfl
  simp only [readFile] at h
  split at h
  · exact hat h
  · split at h
    · exact hat h
    · split at h
      · exact hat h
      · split at h
        · exact hat h
        · split at h
          · exact hat h
          · split at h
            · exact hat h
            · obtain ⟨host, -, h⟩ := Option.bind_eq_some_iff.1 h
              split at h
              · exact hat h
              · exact hat h

theorem scheme_of_readGeneric {scheme s : List Char} {u : Url}
    (h : readGeneric scheme s = some u) : u.scheme = scheme := by
  rw [readGeneric.eq_def] at h
  split at h
  · exact scheme_of_readAuthority h
  · obtain rfl := Option.some.inj h
    rfl
  · obtain rfl := Option.some.inj h
    rfl

/-- A URL of the kind that can be asked is read as an authority after slashes. -/
theorem ofChars?_eq_some_of_isHttp {s : List Char} {u : Url} (h : ofChars? s = some u)
    (http : u.isHttp = true) :
    ∃ rest, scheme? s = some (u.scheme, rest) ∧
      readAuthority u.scheme (rest.dropWhile (isSlash true)) = some u := by
  rw [ofChars?, Option.bind_eq_bind, Option.bind_eq_some_iff] at h
  obtain ⟨⟨scheme, rest⟩, hscheme, h⟩ := h
  have ⟨special, file⟩ := isSpecial_of_isHttp http
  simp only at h
  split at h
  · rename_i hfile
    rw [scheme_of_readFile h] at file
    simp [file] at hfile
  · split at h
    · obtain rfl := scheme_of_readAuthority h
      exact ⟨rest, hscheme, h⟩
    · rename_i hspecial
      rw [scheme_of_readGeneric h] at special
      exact absurd special hspecial

theorem ofChars?_of_scheme {s scheme rest : List Char} (h : scheme? s = some (scheme, rest))
    (special : isSpecial scheme = true) (file : isFile scheme = false) :
    ofChars? s = readAuthority scheme (rest.dropWhile (isSlash true)) := by
  simp [ofChars?, h, special, file]

/-- Slashes at the end of a text that spells a URL may be replaced by other text that begins with
one: its site stays, and what stands after that goes on. -/
theorem exists_withPath {s : List Char} {n : Nat} {r : Url}
    (h : ofChars? (s ++ List.replicate n '/') = some r) (http : r.isHttp = true) :
    ∃ u front, u.isHttp = true ∧ (∀ c ∈ front.head?, endsAuthority true c = true) ∧
      ∀ x, (∀ c ∈ x.head?, c = '/') → ofChars? (s ++ x) = some (withPath u (front ++ x)) := by
  obtain ⟨special, file⟩ := isSpecial_of_isHttp http
  obtain ⟨rest, hscheme, hread⟩ := ofChars?_eq_some_of_isHttp h http
  have hslashes : ∀ c ∈ List.replicate n '/', c = '/' := fun c hc => List.eq_of_mem_replicate hc
  obtain ⟨after, rfl, hname⟩ := scheme?_append hscheme fun c hc => by simp [hslashes c hc]
  -- An authority is never empty, so that no slash that is added stands before it.
  have hne : (after.dropWhile (isSlash true)).isEmpty = false := by
    by_contra hempty
    have hall : (List.replicate n '/').dropWhile (isSlash true) = [] :=
      List.dropWhile_eq_nil_iff.2 fun c hc => by rw [hslashes c hc]; rfl
    rw [List.dropWhile_append, if_pos (by simpa using hempty), hall] at hread
    simp [readAuthority, special, cutLast, cut, cutPort] at hread
  have hofChars (x : List Char) :
      ofChars? (s ++ x) = readAuthority r.scheme (after.dropWhile (isSlash true) ++ x) := by
    rw [ofChars?_of_scheme (hname x) special file, List.dropWhile_append, hne, if_neg (by simp)]
  rcases readAuthority_cases special (after.dropWhile (isSlash true)) with
    hnone | ⟨u, front, hu, hfront, hsite⟩
  · rw [hofChars, hnone _ fun c hc => hslashes c (List.mem_of_mem_head? hc)] at h
    contradiction
  · refine ⟨u, front, ?_, hfront, ?_⟩
    · rw [isHttp, hu]
      exact http
    · intro x hx
      rw [hofChars, hsite x hx]

/-- A text without its tabs and line ends. -/
def unbroken (s : List Char) : List Char := s.filter fun c => ¬ (c = '\t' ∨ c = '\n' ∨ c = '\r')

/-- Text whose first and last characters can be seen loses only tabs and line ends. -/
theorem strip_of_visible {s : List Char} (first : ∀ c ∈ s.head?, 0x20 < c.toNat)
    (last : ∀ c ∈ s.getLast?, 0x20 < c.toNat) : strip s = unbroken s := by
  have hfront : s.dropWhile (fun c => decide (c.toNat ≤ 0x20)) = s := by
    cases s with
    | nil => rfl
    | cons c s =>
      have hc := first c rfl
      exact List.dropWhile_cons_of_neg (by simpa using hc)
  have hback : Text.dropTrailing (fun c : Char => decide (c.toNat ≤ 0x20)) s = s :=
    Text.dropTrailing_of_last fun c hc => by simpa using last c hc
  rw [strip, hfront]
  exact congrArg _ hback

/-- Plain text after a slash is kept as it is. -/
theorem strip_append {s x : List Char} (first : ∀ c ∈ s.head?, 0x20 < c.toNat) (hx : Plain x) :
    strip (s ++ '/' :: x) = unbroken s ++ '/' :: x := by
  have hx := plain_slash hx
  have hvisible : ∀ c ∈ '/' :: x, 0x20 < c.toNat := fun c hc => (toNat_of_plain (hx c hc)).1
  have hkept : unbroken ('/' :: x) = '/' :: x := by
    apply List.filter_eq_self.2
    intro c hc
    rw [decide_eq_true_eq]
    rintro (rfl | rfl | rfl)
    · exact absurd (hvisible _ hc) (by decide)
    · exact absurd (hvisible _ hc) (by decide)
    · exact absurd (hvisible _ hc) (by decide)
  rw [strip_of_visible, unbroken, List.filter_append]
  · exact congrArg _ hkept
  · cases s with
    | nil => exact fun c hc => hvisible c (List.mem_of_mem_head? hc)
    | cons c s => exact first
  · intro c hc
    rw [List.getLast?_append_of_ne_nil s (List.cons_ne_nil '/' x)] at hc
    exact hvisible c (List.mem_of_mem_getLast? hc)

/-- A text with plain text after a slash in place of the slashes at its end spells the same URL, but
for the part in which it ends. -/
theorem exists_closes {text kept : String} {r : Url} (url : parse? text = some r)
    (http : r.isHttp = true) (shorter : Text.Unslashed text kept)
    (first : ∀ c ∈ text.toList.head?, 0x20 < c.toNat)
    (last : ∀ c ∈ text.toList.getLast?, 0x20 < c.toNat) :
    ∃ front, (∃ n, r.closing.text r = some (front ++ List.replicate n '/')) ∧
      ∀ (resource : String) (x : List Char), resource.toList = '/' :: x → Plain x →
        ∃ q, parse? (kept ++ resource) = some q ∧ Closes r (front ++ resource.toList) q := by
  obtain ⟨⟨n, htext⟩, -⟩ := shorter
  rw [htext] at first last
  have hfirst : ∀ c ∈ kept.toList.head?, 0x20 < c.toNat := by
    intro c hc
    apply first c
    rw [List.head?_append, Option.mem_def.1 hc]
    rfl
  have hslashes (n : Nat) : Plain (List.replicate n '/') := by
    intro c hc
    rw [List.eq_of_mem_replicate hc]
    decide
  have hstripped : strip text.toList = unbroken kept.toList ++ List.replicate n '/' := by
    rw [htext]
    cases n with
    | zero =>
      simp only [List.replicate_zero, List.append_nil] at last ⊢
      exact strip_of_visible hfirst last
    | succ n => exact strip_append hfirst (hslashes n)
  rw [parse?, hstripped] at url
  obtain ⟨u, above, hu, habove, hparts⟩ := exists_withPath url http
  obtain ⟨front, hcloses, m, hbeside⟩ := closes_withPath hu habove
  rw [hparts _ fun c hc => List.eq_of_mem_replicate (List.mem_of_mem_head? hc)] at url
  obtain rfl := Option.some.inj url
  obtain ⟨k, hplace⟩ : ∃ k, Closes (withPath u (above ++ ['/'])) (front ++ List.replicate k '/')
      (withPath u (above ++ List.replicate n '/')) := by
    cases n with
    | zero =>
      rw [List.replicate_zero, List.append_nil]
      exact ⟨m, hbeside⟩
    | succ n => exact ⟨n + 1, hcloses _ (hslashes n)⟩
  refine ⟨front, ⟨k, hplace.text_closing⟩, ?_⟩
  intro resource x hresource hx
  refine ⟨withPath u (above ++ '/' :: x), ?_, ?_⟩
  · rw [parse?, String.toList_append, hresource, strip_append hfirst hx]
    exact hparts _ fun c hc => (Option.some.inj hc).symm
  · rw [hresource]
    exact hplace.of_same (hcloses x hx)

end LiveTelemetry.Url
