import Mathlib.Data.List.Basic
import LiveTelemetry.Url.Parser
/-!
The path of a URL whose text goes on. Main statement: plain text after a slash is added to a path as
it stands, behind what the segments before it have come to.
-/
namespace LiveTelemetry.Url

open Text (fields)

/-- Letters and digits, which stand for themselves wherever they are, and the slash. -/
def isPlain (c : Char) : Bool := c.isAlphanum || c == '/'

def Plain (s : List Char) : Prop := ∀ c ∈ s, isPlain c = true

theorem isAlphanum_iff {c : Char} : c.isAlphanum = true ↔
    (65 ≤ c.toNat ∧ c.toNat ≤ 90 ∨ 97 ≤ c.toNat ∧ c.toNat ≤ 122) ∨
      48 ≤ c.toNat ∧ c.toNat ≤ 57 := by
  have hupper : c.isUpper = decide ('A'.val ≤ c.val ∧ c.val ≤ 'Z'.val) := rfl
  have hlower : c.isLower = (decide ('a'.val ≤ c.val) && decide (c.val ≤ 'z'.val)) := rfl
  have hdigit : c.isDigit = (decide ('0'.val ≤ c.val) && decide (c.val ≤ '9'.val)) := rfl
  have hall : c.isAlphanum = (c.isUpper || c.isLower || c.isDigit) := rfl
  rw [hall, hupper, hlower, hdigit]
  simp only [Bool.or_eq_true, Bool.and_eq_true, decide_eq_true_eq, UInt32.le_iff_toNat_le]
  rfl

theorem isAlphanum_toLower {c : Char} (h : c.isAlphanum = true) : c.toLower.isAlphanum = true := by
  have hall : ∀ n < 123, (Char.ofNat n).isAlphanum = true →
      (Char.ofNat n).toLower.isAlphanum = true := by decide +kernel
  have hcode : c.toNat < 123 := by
    have hrange := isAlphanum_iff.1 h
    omega
  have hc := hall c.toNat hcode
  rw [Char.ofNat_toNat] at hc
  exact hc h

/-- The names of places begin with a mark. -/
theorem not_place_of_alphanum {s : List Char} (h : ∀ c ∈ s, c.isAlphanum = true) :
    isHere s = false ∧ isAbove s = false := by
  have hfirst : ∀ c ∈ (s.map Char.toLower).head?, c.isAlphanum = true := by
    intro c hc
    obtain ⟨b, hb, rfl⟩ := List.mem_map.1 (List.mem_of_mem_head? hc)
    exact isAlphanum_toLower (h b hb)
  have hmark (t : String) (ht : t.toList.head?.any (!·.isAlphanum) = true) :
      t.toList ≠ s.map Char.toLower := by
    intro heq
    rw [heq] at ht
    obtain ⟨c, hc, hnot⟩ := (Option.any_eq_true _ _).1 ht
    simp [hfirst c hc] at hnot
  constructor
  · simp only [isHere, List.any_cons, List.any_nil, Bool.or_false, Bool.or_eq_false_iff,
      beq_eq_false_iff_ne]
    exact ⟨hmark _ (by decide), hmark _ (by decide)⟩
  · simp only [isAbove, List.any_cons, List.any_nil, Bool.or_false, Bool.or_eq_false_iff,
      beq_eq_false_iff_ne]
    exact ⟨hmark _ (by decide), hmark _ (by decide), hmark _ (by decide), hmark _ (by decide)⟩

theorem toNat_of_plain {c : Char} (h : isPlain c = true) : 0x20 < c.toNat ∧ c.toNat < 0x7F := by
  rw [isPlain, Bool.or_eq_true] at h
  rcases h with h | h
  · have hrange := isAlphanum_iff.1 h
    omega
  · obtain rfl : c = '/' := by simpa using h
    decide

theorem encodeChar_of_plain {p : Part} (hp : p ≠ .userinfo) {c : Char} (h : isPlain c = true) :
    p.encodeChar c = [c] := by
  have hrange := toNat_of_plain h
  have hlist (t : String) (ht : t.toList.all (!isPlain ·) = true) :
      t.toList.contains c = false := by
    rw [List.contains_eq_mem, decide_eq_false_iff_not]
    intro hmem
    have hnot := List.all_eq_true.1 ht c hmem
    simp [h] at hnot
  have hlow : ¬ c.toNat < 0x20 := by omega
  have hdel : (c.toNat == 0x7F) = false := by
    rw [beq_eq_false_iff_ne]
    omega
  have hkept : p.encodes c = false := by
    cases p with
    | userinfo => contradiction
    | verbatim => simp [Part.encodes, hlow, hdel]
    | fragment => simp only [Part.encodes, hlow, hdel, hlist " \"<>\x60" (by decide)]; rfl
    | query => simp only [Part.encodes, hlow, hdel, hlist " \"#<>" (by decide)]; rfl
    | specialQuery => simp only [Part.encodes, hlow, hdel, hlist " \"#<>'" (by decide)]; rfl
    | path => simp only [Part.encodes, hlow, hdel, hlist " \"<>\x60#?\x7b\x7d^" (by decide)]; rfl
  rw [Part.encodeChar, if_pos]
  exact ⟨by omega, by simp [hkept]⟩

theorem encode_of_plain {p : Part} (hp : p ≠ .userinfo) {s : List Char} (h : Plain s) :
    p.encode s = s := by
  induction s with
  | nil => rfl
  | cons c s ih =>
    obtain ⟨hc, hs⟩ := List.forall_mem_cons.1 h
    have ih := ih hs
    rw [Part.encode] at ih ⊢
    rw [List.flatMap_cons, encodeChar_of_plain hp hc, ih]
    rfl

/-- The segments of a path after one more, latest first. -/
def walk (done : List (List Char)) (s : List Char) : List (List Char) :=
  if isAbove s then shorten done else if isHere s then done else s :: done

theorem resolve_cons (done : List (List Char)) (s : List Char) {rest : List (List Char)}
    (h : rest ≠ []) : resolve false done (s :: rest) = resolve false (walk done s) rest := by
  have hlast : rest.isEmpty = false := by simpa using h
  rw [resolve, walk]
  split
  · simp [hlast]
  · split
    · simp [hlast]
    · simp

theorem resolve_append (done front : List (List Char)) {rest : List (List Char)} (h : rest ≠ []) :
    resolve false done (front ++ rest) = resolve false (front.foldl walk done) rest := by
  induction front generalizing done with
  | nil => rfl
  | cons s front ih =>
    rw [List.cons_append, resolve_cons done s (by simp [h]), ih, List.foldl_cons]

/-- A path has the segments that it walks through, and an empty one if the last names a place. -/
theorem exists_resolve_eq (done : List (List Char)) {segments : List (List Char)}
    (h : segments ≠ []) :
    ∃ n, resolve false done segments =
      (segments.foldl walk done).reverse ++ List.replicate n [] := by
  obtain ⟨front, s, rfl⟩ := (List.eq_nil_or_concat' segments).resolve_left h
  rw [resolve_append done front (List.cons_ne_nil s []), List.foldl_append]
  generalize front.foldl walk done = done
  rw [resolve, List.foldl_cons, List.foldl_nil, walk]
  split
  · exact ⟨1, by simp [resolve]⟩
  · split
    · exact ⟨1, by simp [resolve]⟩
    · exact ⟨0, by simp [resolve]⟩

theorem resolve_of_names (done : List (List Char)) {names : List (List Char)}
    (h : ∀ s ∈ names, ∀ c ∈ s, c.isAlphanum = true) :
    resolve false done names = done.reverse ++ names := by
  induction names generalizing done with
  | nil => simp [resolve]
  | cons s names ih =>
    obtain ⟨hs, hnames⟩ := List.forall_mem_cons.1 h
    obtain ⟨hhere, habove⟩ := not_place_of_alphanum hs
    rw [resolve]
    simp [hhere, habove, ih _ hnames]

/-- The segments of a text, encoded as they are in a path. -/
def pieces (s : List Char) : List (List Char) :=
  (fields (isSlash true) s).map Part.path.encode

theorem pieces_ne_nil (s : List Char) : pieces s ≠ [] := by
  simp [pieces, Text.fields_ne_nil]

/-- What plain segments are added to stands before them as it was. -/
theorem print_resolve_of_plain (done : List (List Char)) {x : List Char} (h : Plain x) :
    (Path.segments (resolve false done (pieces x))).print =
      (Path.segments done.reverse).print ++ '/' :: x := by
  have hslash : ∀ c ∈ x, isSlash true c = true → c = '/' := by
    intro c hc hslash
    by_contra hne
    obtain rfl : c = '\\' := by simpa [isSlash, hne] using hslash
    exact absurd (h _ hc) (by decide)
  have hnames : ∀ f ∈ fields (isSlash true) x, ∀ c ∈ f, c.isAlphanum = true := by
    intro f hf c hc
    obtain ⟨hmem, hnot⟩ := Text.mem_of_mem_fields hf hc
    have hne : c ≠ '/' := by
      rintro rfl
      contradiction
    simpa [isPlain, hne] using h c hmem
  have hpieces : pieces x = fields (isSlash true) x := by
    refine (List.map_congr_left fun f hf => ?_).trans (List.map_id _)
    exact encode_of_plain (by decide) fun c hc => by simp [isPlain, hnames f hf c hc]
  rw [hpieces, resolve_of_names done hnames, Path.print, List.flatMap_append,
    Text.flatMap_fields hslash]
  rfl

section

variable {scheme : List Char} (special : isSpecial scheme = true) (file : isFile scheme = false)
include special file

theorem readSegments_eq (s : List Char) : readSegments scheme s = resolve false [] (pieces s) := by
  rw [readSegments, special, file]
  rfl

/-- Whatever path stands before it, plain text is added to the same segments. -/
theorem exists_print_readSegments (s : List Char) :
    ∃ front, (∀ x, Plain x →
        (Path.segments (readSegments scheme (s ++ '/' :: x))).print = front ++ '/' :: x) ∧
      ∃ n, (Path.segments (readSegments scheme s)).print = front ++ List.replicate n '/' := by
  refine ⟨(Path.segments ((pieces s).foldl walk []).reverse).print, ?_, ?_⟩
  · intro x hx
    have happend : pieces (s ++ '/' :: x) = pieces s ++ pieces x := by
      rw [pieces, Text.fields_append_cons s rfl, List.map_append]
      rfl
    rw [readSegments_eq special file, happend, resolve_append _ _ (pieces_ne_nil x),
      print_resolve_of_plain _ hx]
  · obtain ⟨n, hn⟩ := exists_resolve_eq [] (pieces_ne_nil s)
    refine ⟨n, ?_⟩
    rw [readSegments_eq special file, hn, Path.print, List.flatMap_append]
    simp [Path.print, List.flatMap_replicate]

end

end LiveTelemetry.Url
