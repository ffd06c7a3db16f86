import LiveTelemetry.Http.Request
import LiveTelemetry.Proofs.Text.Ends
import LiveTelemetry.Proofs.Url.Path
/-!
The part of a URL in which its text ends. Main statement: plain text that is added to the text of a
URL is added to that part, and no other part changes.
-/
namespace LiveTelemetry.Url

open Text (cut)

/-- The parts of a URL in which its text may end. -/
inductive Closing where
  | path
  | query
  | fragment
  deriving DecidableEq

def Closing.text : Closing → Url → Option (List Char)
  | path, u => some u.path.print
  | query, u => u.query
  | fragment, u => u.fragment

/-- The part in which the text of a URL ends. -/
def closing (u : Url) : Closing :=
  if u.fragment.isSome then .fragment else if u.query.isSome then .query else .path

/-- `v` is `u` but for its user, and for the part in which `u` ends: there it has `s`. -/
structure Closes (u : Url) (s : List Char) (v : Url) : Prop where
  scheme : v.scheme = u.scheme
  host : v.host = u.host
  port : v.port = u.port
  others : ∀ c, c ≠ u.closing → c.text v = c.text u
  last : u.closing.text v = some s

theorem Closes.closing_eq {u v : Url} {s : List Char} (h : Closes u s v) :
    v.closing = u.closing := by
  obtain ⟨-, -, -, hothers, hlast⟩ := h
  cases hc : u.closing with
  | path =>
    rw [hc] at hothers
    have hquery : v.query = u.query := hothers .query (by decide)
    have hfragment : v.fragment = u.fragment := hothers .fragment (by decide)
    rw [closing, hquery, hfragment, ← closing, hc]
  | query =>
    rw [hc] at hothers hlast
    have hfragment : v.fragment = u.fragment := hothers .fragment (by decide)
    have hquery : v.query = some s := hlast
    rw [closing] at hc ⊢
    split at hc
    · contradiction
    · rename_i hnone
      rw [hfragment, if_neg hnone, hquery]
      rfl
  | fragment =>
    rw [hc] at hlast
    have hfragment : v.fragment = some s := hlast
    rw [closing, hfragment]
    rfl

theorem Closes.text_closing {u v : Url} {s : List Char} (h : Closes u s v) :
    v.closing.text v = some s := by
  rw [h.closing_eq]
  exact h.last

/-- URLs that differ from one in the part in which they end differ from each other there. -/
theorem Closes.of_same {u v w : Url} {s t : List Char} (h : Closes u s v) (h' : Closes u t w) :
    Closes v t w := by
  have hclosing := h.closing_eq
  refine ⟨h'.scheme.trans h.scheme.symm, h'.host.trans h.host.symm,
    h'.port.trans h.port.symm, ?_, ?_⟩
  · intro c hc
    rw [hclosing] at hc
    exact (h'.others c hc).trans (h.others c hc).symm
  · rw [hclosing]
    exact h'.last

/-- A URL without its user is the same but for that. -/
theorem Closes.withoutUser {u v : Url} {s : List Char} (h : Closes u s v) :
    Closes u s v.withoutUser := by
  have hclear : Closes u s { v with username := [], password := [] } := by
    refine ⟨h.scheme, h.host, h.port, ?_, ?_⟩
    · intro c hc
      rw [← h.others c hc]
      cases c <;> rfl
    · rw [← h.last]
      cases u.closing <;> rfl
  rw [Url.withoutUser]
  split
  · exact hclear
  · exact h

theorem closing_eq_path_iff {u : Url} :
    u.closing = .path ↔ u.query = none ∧ u.fragment = none := by
  constructor
  · intro h
    rw [closing] at h
    split at h
    · contradiction
    · split at h
      · contradiction
      · rename_i hfragment hquery
        exact ⟨by simpa using hquery, by simpa using hfragment⟩
  · rintro ⟨hquery, hfragment⟩
    simp [closing, hquery, hfragment]

theorem doubled_iff {front : List Char} :
    ['/', '/'] <:+ front ++ ['/'] ↔ front.getLast? = some '/' := by
  rw [List.getLast?_eq_some_iff]
  constructor
  · rintro ⟨s, hs⟩
    have happend : front ++ ['/'] = (s ++ ['/']) ++ ['/'] := by
      rw [← hs]
      simp
    exact ⟨s, List.append_cancel_right happend⟩
  · rintro ⟨s, rfl⟩
    exact ⟨s, by simp⟩

/-- What stands in place of the slashes at the end of a URL is below its path, if it ends in the
path and no slashes are left there. -/
theorem Closes.path_iff {r b q : Url} {front resource : List Char} {n : Nat}
    (ends : r.closing.text r = some (front ++ List.replicate n '/'))
    (base : Closes r (front ++ ['/']) b) (place : Closes r (front ++ resource) q)
    (hresource : ∃ c ∈ resource, c ≠ '/') :
    q.path.print = Text.dropTrailing (· == '/') r.path.print ++ resource ↔
      r.query = none ∧ r.fragment = none ∧ ¬ ['/', '/'] <:+ b.path.print := by
  have hslashes : ∀ c ∈ List.replicate n '/', (c == '/') = true := by
    intro c hc
    rw [List.eq_of_mem_replicate hc]
    rfl
  rw [← and_assoc, ← closing_eq_path_iff]
  by_cases hpath : r.closing = .path
  · have hbase := base.last
    have hplace := place.last
    simp only [hpath, Closing.text, Option.some.injEq] at ends hbase hplace
    rw [and_iff_right hpath, ends, hbase, hplace, Text.dropTrailing_append front hslashes,
      List.append_left_inj, eq_comm, Text.dropTrailing_eq_iff, Text.last_not_slash_iff,
      and_iff_right ⟨[], (List.append_nil front).symm, by simp⟩]
    exact (not_congr doubled_iff).symm
  · have hsame : q.path.print = r.path.print :=
      Option.some.inj (place.others .path (Ne.symm hpath))
    constructor
    · intro heq
      -- The path is as it was, so that nothing but slashes could stand in place of its slashes.
      obtain ⟨⟨tail, htail, hall⟩, -⟩ :=
        Text.dropTrailing_eq_iff.1 (rfl : Text.dropTrailing (· == '/') r.path.print = _)
      obtain rfl := List.append_cancel_left (htail.symm.trans (hsame.symm.trans heq))
      obtain ⟨c, hc, hne⟩ := hresource
      exact absurd (by simpa using hall c hc) hne
    · rintro ⟨hpath', -⟩
      exact absurd hpath' hpath

/-- Plain text added to a text is added to its fragment if it has one, else to its query if it has
one, else to all of it. -/
theorem readTail_cases (s : List Char) :
    (∃ (tail : Tail) (f : List Char), ∀ x, Plain x →
      readTail true (s ++ x) = { tail with fragment := some (f ++ x) }) ∨
    (∃ (tail : Tail) (q : List Char), tail.fragment = none ∧ ∀ x, Plain x →
      readTail true (s ++ x) = { tail with query := some (q ++ x) }) ∨
    ((∀ c ∈ s, c ≠ '#' ∧ c ≠ '?') ∧ ∀ x, Plain x →
      readTail true (s ++ x) = ⟨s ++ x, none, none⟩) := by
  have hplain {x : List Char} (hx : Plain x) (mark : Char)
      (hmark : isPlain mark = false) : ∀ c ∈ x, (c == mark) = false := by
    intro c hc
    rw [beq_eq_false_iff_ne]
    rintro rfl
    simp [hx _ hc] at hmark
  have hencode (p : Part) (s x : List Char) : p.encode (s ++ x) = p.encode s ++ p.encode x :=
    List.flatMap_append
  rcases Text.cut_cases (· == '#') s with ⟨front, f, hcut⟩ | hfragment
  · refine .inl ⟨readTail true s, Part.fragment.encode f, ?_⟩
    intro x hx
    have hs := hcut []
    rw [List.append_nil] at hs
    simp only [readTail, hcut x, hs, Option.map_some, hencode,
      encode_of_plain (p := .fragment) (by decide) hx]
  · have hcut {x : List Char} (hx : Plain x) :
        cut (· == '#') (s ++ x) = (s ++ x, none) := by
      apply Text.cut_of_forall
      exact List.forall_mem_append.2 ⟨hfragment, hplain hx '#' (by decide)⟩
    rcases Text.cut_cases (· == '?') s with ⟨before, q, hquery⟩ | hquery
    · refine .inr (.inl ⟨readTail true s, Part.specialQuery.encode q, ?_, ?_⟩)
      · simp only [readTail, Text.cut_of_forall hfragment, Option.map_none]
      · intro x hx
        have hs := hquery []
        rw [List.append_nil] at hs
        simp only [readTail, hcut hx, Text.cut_of_forall hfragment, hquery x, hs, if_true,
          Option.map_some, hencode, encode_of_plain (p := .specialQuery) (by decide) hx]
    · refine .inr (.inr ⟨?_, ?_⟩)
      · intro c hc
        exact ⟨by simpa using hfragment c hc, by simpa using hquery c hc⟩
      · intro x hx
        have hall := List.forall_mem_append.2 ⟨hquery, hplain hx '?' (by decide)⟩
        simp only [readTail, hcut hx, Text.cut_of_forall hall, Option.map_none]

theorem isSpecial_of_isHttp {u : Url} (h : u.isHttp = true) :
    isSpecial u.scheme = true ∧ isFile u.scheme = false := by
  rw [isHttp, Bool.or_eq_true, beq_iff_eq, beq_iff_eq] at h
  rcases h with h | h
  · rw [h]
    decide
  · rw [h]
    decide

/-- A URL with what is read after its authority. -/
def withTail (u : Url) (t : Tail) : Url :=
  let path : Path :=
    match t.before with
    | [] => .segments [[]]
    | c :: rest => .segments (readSegments u.scheme (if isSlash true c then rest else c :: rest))
  { u with path := path, query := t.query, fragment := t.fragment }

theorem withPath_eq {u : Url} (special : isSpecial u.scheme = true) (s : List Char) :
    withPath u s = withTail u (readTail true s) := by
  simp only [withPath, withTail, special]
  rfl

section

variable {u : Url}

theorem closes_path (query : u.query = none) (fragment : u.fragment = none) (p : Path) {q : Path}
    {s : List Char} (h : q.print = s) : Closes { u with path := p } s { u with path := q } := by
  have hclosing : closing { u with path := p } = .path := by simp [closing, query, fragment]
  refine ⟨rfl, rfl, rfl, ?_, ?_⟩
  · intro c hc
    rw [hclosing] at hc
    cases c with
    | path => contradiction
    | query => rfl
    | fragment => rfl
  · rw [hclosing, Closing.text, h]

theorem closes_query (fragment : u.fragment = none) (s t : List Char) :
    Closes { u with query := some s } t { u with query := some t } := by
  have hclosing : closing { u with query := some s } = .query := by simp [closing, fragment]
  refine ⟨rfl, rfl, rfl, ?_, ?_⟩
  · intro c hc
    rw [hclosing] at hc
    cases c with
    | path => rfl
    | query => contradiction
    | fragment => rfl
  · rw [hclosing]
    rfl

theorem closes_fragment (u : Url) (s t : List Char) :
    Closes { u with fragment := some s } t { u with fragment := some t } := by
  refine ⟨rfl, rfl, rfl, ?_, rfl⟩
  intro c hc
  cases c with
  | path => rfl
  | query => rfl
  | fragment => contradiction

/-- Where there is neither query nor fragment, all that stands after the authority is the path. -/
theorem exists_print_withTail (special : isSpecial u.scheme = true) (file : isFile u.scheme = false)
    {s : List Char} (hs : ∀ c ∈ s.head?, isSlash true c = true) :
    ∃ front, (∀ x, Plain x →
        (withTail u ⟨s ++ '/' :: x, none, none⟩).path.print = front ++ '/' :: x) ∧
      ∃ n, (withTail u ⟨s, none, none⟩).path.print = front ++ List.replicate n '/' := by
  cases s with
  | nil =>
    refine ⟨[], ?_, 1, rfl⟩
    intro x hx
    have hprint := print_resolve_of_plain [] hx
    rw [← readSegments_eq special file] at hprint
    exact hprint
  | cons c s =>
    have hc : isSlash true c = true := hs c rfl
    have hpath (t : List Char) :
        (withTail u ⟨c :: t, none, none⟩).path = .segments (readSegments u.scheme t) := by
      simp only [withTail, hc, if_true]
    obtain ⟨front, hfront, n, hn⟩ := exists_print_readSegments special file s
    refine ⟨front, ?_, n, ?_⟩
    · intro x hx
      rw [List.cons_append, hpath, hfront x hx]
    · rw [hpath, hn]

/-- Plain text is added to the fragment or to the query, if there is one. -/
theorem closes_or_bare (special : isSpecial u.scheme = true) (s : List Char) :
    (∃ front, ∀ x y, Plain x → Plain y →
      Closes (withPath u (s ++ x)) (front ++ y) (withPath u (s ++ y))) ∨
    ((∀ c ∈ s, c ≠ '#' ∧ c ≠ '?') ∧ ∀ x, Plain x →
      withPath u (s ++ x) = withTail u ⟨s ++ x, none, none⟩) := by
  simp only [withPath_eq special]
  rcases readTail_cases s with ⟨tail, f, htail⟩ | ⟨tail, q, hnone, htail⟩ | ⟨hbare, htail⟩
  · refine .inl ⟨f, ?_⟩
    intro x y hx hy
    rw [htail x hx, htail y hy]
    exact closes_fragment (withTail u tail) _ _
  · refine .inl ⟨q, ?_⟩
    intro x y hx hy
    rw [htail x hx, htail y hy]
    exact closes_query (u := withTail u tail) hnone _ _
  · refine .inr ⟨hbare, ?_⟩
    intro x hx
    rw [htail x hx]

theorem plain_slash {x : List Char} (h : Plain x) : Plain ('/' :: x) :=
  List.forall_mem_cons.2 ⟨by decide, h⟩

/-- Plain text that follows a slash goes to the part in which the text ends. If nothing follows,
that part says the same but for slashes. -/
theorem closes_withPath (http : u.isHttp = true) {s : List Char}
    (hs : ∀ c ∈ s.head?, endsAuthority true c = true) :
    ∃ front, (∀ x, Plain x →
        Closes (withPath u (s ++ ['/'])) (front ++ '/' :: x) (withPath u (s ++ '/' :: x))) ∧
      ∃ n, Closes (withPath u (s ++ ['/'])) (front ++ List.replicate n '/') (withPath u s) := by
  obtain ⟨special, file⟩ := isSpecial_of_isHttp http
  have hempty : Plain [] := List.forall_mem_nil _
  have hone := plain_slash hempty
  rcases closes_or_bare special s with ⟨front, hfront⟩ | ⟨hbare, hpath⟩
  · refine ⟨front, fun x hx => hfront _ _ hone (plain_slash hx), 0, ?_⟩
    have hnothing := hfront _ _ hone hempty
    rwa [List.append_nil s] at hnothing
  · have hhead : ∀ c ∈ s.head?, isSlash true c = true := by
      intro c hc
      obtain ⟨hhash, hquestion⟩ := hbare c (List.mem_of_mem_head? hc)
      simpa [endsAuthority, hhash, hquestion] using hs c hc
    obtain ⟨front, hfront, n, hn⟩ := exists_print_withTail special file hhead
    have hcloses {b t : List Char} (ht : (withTail u ⟨b, none, none⟩).path.print = t) :
        Closes (withTail u ⟨s ++ ['/'], none, none⟩) t (withTail u ⟨b, none, none⟩) :=
      closes_path (u := withTail u ⟨b, none, none⟩) rfl rfl _ ht
    refine ⟨front, ?_, n, ?_⟩
    · intro x hx
      rw [hpath _ hone, hpath _ (plain_slash hx)]
      exact hcloses (hfront x hx)
    · have hnothing := hpath _ hempty
      rw [List.append_nil] at hnothing
      rw [hpath _ hone, hnothing]
      exact hcloses hn

end

end LiveTelemetry.Url
