import LiveTelemetry.Json.Skip
import LiveTelemetry.Proofs.Json.Numerals
/-!
How values of a JSON text may be written, in whatever depth, and what it takes to pass over one.
Main statements: what is passed over is a value, and every value is passed over up to its end.
-/
namespace LiveTelemetry.Json

open Text (Symbol)
open Skip (Bracket)

def Skip.Bracket.opening : Bracket → Symbol
  | square => .scalar '['
  | curly => .scalar '{'

/-- How a value without parts is written. -/
inductive Atomic : List Symbol → Prop
  | str {t : List Symbol} (inside : Str.Passable t) :
      Atomic (.scalar '"' :: (t ++ [.scalar '"']))
  | null : Atomic (['n', 'u', 'l', 'l'].map .scalar)
  | true : Atomic (['t', 'r', 'u', 'e'].map .scalar)
  | false : Atomic (['f', 'a', 'l', 's', 'e'].map .scalar)
  | number {t : List Symbol} (h : Number.Written t) : Atomic t

/-- What stands in front of the value of an element, which has a name in an object. -/
inductive Label : Bracket → List Symbol → Prop
  | square : Label .square []
  | curly {w t w' : List Symbol} (before : Blank w) (key : Str.Passable t) (after : Blank w') :
      Label .curly (w ++ .scalar '"' :: (t ++ .scalar '"' :: (w' ++ [.scalar ':'])))

/-- What a text may be: a value, or what is left of a collection before its first element or
behind another one. -/
inductive Form where
  | value
  | rest (b : Bracket) (first : Bool)

/-- How a text of some form is written. -/
inductive Spelled : Form → List Symbol → Prop
  | atom {t : List Symbol} (h : Atomic t) : Spelled .value t
  | collection {b : Bracket} {t : List Symbol} (rest : Spelled (.rest b true) t) :
      Spelled .value (b.opening :: t)
  | close {b : Bracket} {first : Bool} {w : List Symbol} (blank : Blank w) :
      Spelled (.rest b first) (w ++ [b.closing])
  | element {b : Bracket} {first : Bool} {w l w' v t : List Symbol} (before : Blank w)
      (label : Label b l) (after : Blank w') (value : Spelled .value v)
      (more : Spelled (.rest b false) t) :
      Spelled (.rest b first) (w ++ comma first ++ l ++ w' ++ v ++ t)

section

variable {s r t v w : List Symbol} {c : Symbol}

theorem eq_of_isSpace (h : isSpace c = true) :
    c = .scalar ' ' ∨ c = .scalar '\n' ∨ c = .scalar '\t' ∨ c = .scalar '\r' := by
  cases c with
  | broken n => contradiction
  | scalar c => simpa [isSpace, or_assoc] using h

theorem isSpace_of_start (h : start c ≠ .nothing) : isSpace c = false := by
  rw [← Bool.not_eq_true]
  intro hspace
  rcases eq_of_isSpace hspace with rfl | rfl | rfl | rfl <;> exact h rfl

theorem ne_closing_of_start (h : start c ≠ .nothing) (b : Bracket) : c ≠ b.closing := by
  rintro rfl
  cases b <;> exact h rfl

theorem start_opening (b : Bracket) : start b.opening ≠ .nothing := by
  cases b <;> exact nofun

/-- A digit is none of the other characters that announce a value. -/
theorem exists_of_digit (h : (Number.digit? c).isSome) :
    ∃ d, c = .scalar d ∧ ('0' ≤ d ∧ d ≤ '9') ∧ ∀ e, ¬ ('0' ≤ e ∧ e ≤ '9') → d ≠ e := by
  cases c with
  | broken n => contradiction
  | scalar d =>
    have hrange : '0' ≤ d ∧ d ≤ '9' := by
      by_contra hnot
      simp [Number.digit?, hnot] at h
    refine ⟨d, rfl, hrange, ?_⟩
    rintro e he rfl
    exact he hrange

theorem start_of_digit (h : (Number.digit? c).isSome) : start c = .atom := by
  obtain ⟨d, rfl, hrange, hne⟩ := exists_of_digit h
  rw [start, if_neg (hne _ (by decide)), if_neg (hne _ (by decide)), if_pos (by simp [hrange])]

theorem Atomic.head (h : Atomic t) : ∃ c u, t = c :: u ∧ start c = .atom := by
  cases h with
  | str inside => exact ⟨_, _, rfl, rfl⟩
  | null => exact ⟨_, _, rfl, rfl⟩
  | true => exact ⟨_, _, rfl, rfl⟩
  | false => exact ⟨_, _, rfl, rfl⟩
  | number h =>
    cases h with
    | plain h =>
      obtain ⟨x, u, rfl, hx⟩ := h.head
      exact ⟨x, u, rfl, start_of_digit hx⟩
    | negative h => exact ⟨_, _, rfl, rfl⟩

/-- A value begins with what announces one. -/
theorem Spelled.head (h : Spelled .value v) : ∃ c u, v = c :: u ∧ start c ≠ .nothing := by
  cases h with
  | atom h =>
    obtain ⟨c, u, rfl, hc⟩ := h.head
    exact ⟨c, u, rfl, by simp [hc]⟩
  | collection rest => exact ⟨_, _, rfl, start_opening _⟩

theorem skipSpace_spelled (hw : Blank w) (h : Spelled .value v) (r : List Symbol) :
    skipSpace (w ++ v ++ r) = v ++ r := by
  obtain ⟨c, u, rfl, hc⟩ := h.head
  rw [List.append_assoc, skipSpace_append hw]
  exact skipSpace_cons (isSpace_of_start hc) _

/-- What comes behind a value in a collection is closed. -/
theorem closed_of_head (h : ∀ x ∈ s.head?, isSpace x = true ∨ x = .scalar ',' ∨ x = .scalar ']' ∨
    x = .scalar '}') : Closed s := by
  intro x hx
  rcases h x hx with hspace | rfl | rfl | rfl
  · rcases eq_of_isSpace hspace with rfl | rfl | rfl | rfl <;> decide
  · decide
  · decide
  · decide

theorem closed_blank (hw : Blank w) (hs : Closed s) : Closed (w ++ s) := by
  cases w with
  | nil => exact hs
  | cons x w =>
    refine closed_of_head ?_
    rintro y ⟨⟩
    exact .inl (hw x (by simp))

theorem closed_rest {b : Bracket} (h : Spelled (.rest b false) t) (r : List Symbol) :
    Closed (t ++ r) := by
  cases h with
  | @close _ _ w blank =>
    have hclosing : Closed (b.closing :: r) := by
      cases b
      · exact closed_bracket r
      · exact closed_brace r
    rw [List.append_assoc]
    exact closed_blank blank hclosing
  | element before label after value more =>
    simp only [List.append_assoc]
    exact closed_blank before (closed_comma _)

end

namespace Skip

section

variable {s r rest t : List Symbol} {c : Symbol} {frames : List Bracket} {b : Bracket}

theorem run_opening (h : skipSpace s = b.opening :: rest) :
    run .before frames s = run .opened (b :: frames) rest := by
  conv_lhs => rw [run]
  split
  · simp_all
  · rename_i c rest' hs
    obtain ⟨rfl, rfl⟩ := List.cons.inj (h.symm.trans hs)
    cases b <;> rfl

theorem run_atom (h : skipSpace s = c :: rest) (hc : start c = .atom)
    (ha : atom (c :: rest) = .ok r) : run .before frames s = run .after frames r := by
  rw [run]
  split
  · simp_all
  · rename_i c' rest' hs
    obtain ⟨rfl, rfl⟩ := List.cons.inj (h.symm.trans hs)
    rw [hc]
    dsimp only
    split
    · simp_all
    · rename_i r' hr
      obtain rfl := Except.ok.inj (ha.symm.trans hr)
      rfl

theorem run_closing (h : skipSpace s = b.closing :: rest) {place : Place}
    (hp : place ≠ .before) : run place (b :: frames) s = run .after frames rest := by
  cases place with
  | before => contradiction
  | opened =>
    rw [run]
    split
    · simp_all
    · rename_i c rest' hs
      obtain ⟨rfl, rfl⟩ := List.cons.inj (h.symm.trans hs)
      rw [if_pos rfl]
  | after =>
    rw [run]
    split
    · simp_all
    · rename_i c rest' hs
      obtain ⟨rfl, rfl⟩ := List.cons.inj (h.symm.trans hs)
      rw [if_pos rfl]

theorem run_first (h : skipSpace s = c :: rest) (hc : c ≠ b.closing)
    (hl : lead b (c :: rest) = .ok r) :
    run .opened (b :: frames) s = run .before (b :: frames) r := by
  rw [run]
  split
  · simp_all
  · rename_i c' rest' hs
    obtain ⟨rfl, rfl⟩ := List.cons.inj (h.symm.trans hs)
    rw [if_neg hc]
    split
    · simp_all
    · rename_i r' hr
      obtain rfl := Except.ok.inj (hl.symm.trans hr)
      rfl

theorem run_later (h : skipSpace s = .scalar ',' :: rest) (hl : lead b rest = .ok r) :
    run .after (b :: frames) s = run .before (b :: frames) r := by
  have hc : (.scalar ',' : Symbol) ≠ b.closing := by cases b <;> decide
  rw [run]
  split
  · simp_all
  · rename_i c' rest' hs
    obtain ⟨rfl, rfl⟩ := List.cons.inj (h.symm.trans hs)
    rw [if_neg hc, if_pos rfl]
    split
    · simp_all
    · rename_i r' hr
      obtain rfl := Except.ok.inj (hl.symm.trans hr)
      rfl

end

section

variable {s r t : List Symbol}

theorem exists_of_atom (h : atom s = .ok r) : ∃ t, Atomic t ∧ s = t ++ r := by
  unfold atom at h
  split at h
  · split at h
    · rename_i hc
      obtain ⟨t, ht, rfl⟩ := Str.skip_eq_ok_iff.1 h
      exact ⟨_, .str ht, by simp [hc]⟩
    · split at h
      · rename_i hc
        obtain rfl := keyword_eq_ok_iff.1 h
        exact ⟨_, .null, by simp [hc]⟩
      · split at h
        · rename_i hc
          obtain rfl := keyword_eq_ok_iff.1 h
          exact ⟨_, .true, by simp [hc]⟩
        · split at h
          · rename_i hc
            obtain rfl := keyword_eq_ok_iff.1 h
            exact ⟨_, .false, by simp [hc]⟩
          · split at h
            · rename_i hc
              obtain ⟨t, ht, rfl⟩ := Number.exists_of_skip h
              exact ⟨_, .number (.negative ht), by simp [hc]⟩
            · obtain ⟨t, ht, hs⟩ := Number.exists_of_skip h
              exact ⟨_, .number (.plain ht), hs⟩
  · contradiction

theorem atom_append (h : Atomic t) (hr : Closed r) : atom (t ++ r) = .ok r := by
  cases h with
  | @str t inside =>
    rw [List.cons_append, List.append_assoc, atom, if_pos rfl]
    exact Str.skip_passable inside r
  | null => exact keyword_eq_ok_iff.2 rfl
  | true => exact keyword_eq_ok_iff.2 rfl
  | false => exact keyword_eq_ok_iff.2 rfl
  | number h =>
    cases h with
    | negative h => exact Number.skip_append h hr
    | plain h =>
      have hskip := Number.skip_append h hr
      obtain ⟨x, u, rfl, hx⟩ := h.head
      obtain ⟨d, rfl, -, hne⟩ := exists_of_digit hx
      rw [List.cons_append, atom, if_neg (hne _ (by decide)), if_neg (hne _ (by decide)),
        if_neg (hne _ (by decide)), if_neg (hne _ (by decide)), if_neg (hne _ (by decide))]
      exact hskip

theorem exists_of_colon (h : colon s = .ok r) : ∃ w, Blank w ∧ s = w ++ .scalar ':' :: r := by
  unfold colon at h
  split at h
  · contradiction
  · rename_i c rest hc
    obtain ⟨w, hw, rfl⟩ := exists_of_skipSpace hc
    split at h
    · rename_i hcolon
      obtain rfl := Except.ok.inj h
      exact ⟨w, hw, by rw [hcolon]⟩
    · contradiction

theorem exists_of_lead {b : Bracket} (h : lead b s = .ok r) : ∃ l, Label b l ∧ s = l ++ r := by
  cases b with
  | square => exact ⟨[], .square, Except.ok.inj h⟩
  | curly =>
    simp only [lead, Skip.key] at h
    split at h
    · contradiction
    · rename_i c rest hc
      obtain ⟨w, hw, rfl⟩ := exists_of_skipSpace hc
      split at h
      · rename_i hmark
        obtain ⟨u, hu, hcolon⟩ := bind_eq_ok.1 h
        obtain ⟨t, ht, rfl⟩ := Str.skip_eq_ok_iff.1 hu
        obtain ⟨w', hw', rfl⟩ := exists_of_colon hcolon
        refine ⟨_, .curly hw ht hw', ?_⟩
        rw [hmark]
        simp
      · contradiction

theorem lead_label {b : Bracket} {l : List Symbol} (h : Label b l) (s : List Symbol) :
    lead b (l ++ s) = .ok s := by
  cases h with
  | square => rfl
  | @curly w t w' before key after =>
    have hlist : w ++ .scalar '"' :: (t ++ .scalar '"' :: (w' ++ [.scalar ':'])) ++ s =
        w ++ .scalar '"' :: (t ++ .scalar '"' :: (w' ++ .scalar ':' :: s)) := by simp
    have hmark : isSpace (.scalar '"') = false := rfl
    have hcolon : isSpace (.scalar ':') = false := rfl
    rw [hlist, lead, Skip.key, skipSpace_append before, skipSpace_cons hmark]
    simp only [if_true]
    refine bind_eq_ok.2 ⟨_, Str.skip_passable key _, ?_⟩
    rw [colon, skipSpace_append after, skipSpace_cons hcolon]
    simp

/-- The first element begins behind blanks, and not like the end of a collection. -/
theorem exists_first {b : Bracket} {l w v : List Symbol} (label : Label b l) (blank : Blank w)
    (value : Spelled .value v) (r : List Symbol) :
    ∃ c rest w', skipSpace (l ++ w ++ v ++ r) = c :: rest ∧ c ≠ b.closing ∧ Blank w' ∧
      lead b (c :: rest) = .ok (w' ++ v ++ r) := by
  cases label with
  | square =>
    have hskip := skipSpace_spelled blank value r
    obtain ⟨c, u, rfl, hc⟩ := value.head
    exact ⟨c, u ++ r, [], hskip, ne_closing_of_start hc _, blank_nil, rfl⟩
  | @curly w₀ t w₁ before key after =>
    have hmark : isSpace (.scalar '"') = false := rfl
    have hlead := lead_label (.curly blank_nil key after) (w ++ v ++ r)
    refine ⟨.scalar '"', _, w, ?_, by decide, blank, hlead⟩
    simp [skipSpace_append before, skipSpace_cons hmark]

theorem eq_of_start {c : Symbol} :
    (start c = .list → c = Bracket.square.opening) ∧
      (start c = .object → c = Bracket.curly.opening) := by
  cases c with
  | broken n => exact ⟨nofun, nofun⟩
  | scalar c =>
    simp only [start]
    constructor
    · intro h
      split at h
      · rename_i hc
        rw [hc]
        rfl
      · split at h
        · contradiction
        · split at h <;> contradiction
    · intro h
      split at h
      · contradiction
      · split at h
        · rename_i hc
          rw [hc]
          rfl
        · split at h <;> contradiction

end

/-- What still has to come once a value is passed over that stands in brackets. -/
inductive Closes : List Bracket → List Symbol → Prop
  | nil : Closes [] []
  | cons {b : Bracket} {frames : List Bracket} {t u : List Symbol}
      (rest : Spelled (.rest b false) t) (outer : Closes frames u) : Closes (b :: frames) (t ++ u)

/-- What has to come from some place on. -/
def Finishes : Place → List Bracket → List Symbol → Prop
  | .before, frames, t => ∃ w v u, Blank w ∧ Spelled .value v ∧ Closes frames u ∧ t = w ++ v ++ u
  | .opened, [], t => t = []
  | .opened, b :: outer, t => ∃ x u, Spelled (.rest b true) x ∧ Closes outer u ∧ t = x ++ u
  | .after, frames, t => Closes frames t

/-- Nothing is passed over but what has to come. -/
theorem exists_of_run {place : Place} {frames : List Bracket} {s r : List Symbol}
    (h : run place frames s = .ok r) : ∃ t, Finishes place frames t ∧ s = t ++ r := by
  have hopening {b : Bracket} {frames : List Bracket} {s rest : List Symbol}
      (hs : skipSpace s = b.opening :: rest)
      (ih : ∃ t, Finishes .opened (b :: frames) t ∧ rest = t ++ r) :
      ∃ t, Finishes .before frames t ∧ s = t ++ r := by
    obtain ⟨w, hw, rfl⟩ := exists_of_skipSpace hs
    obtain ⟨_, ⟨x, u, hx, hu, rfl⟩, rfl⟩ := ih
    exact ⟨_, ⟨w, _, u, hw, .collection hx, hu, rfl⟩, by simp⟩
  -- Along the run: the frames are the brackets still open, and what `ih` finds closes them.
  fun_induction run place frames s with
  | case1 s => exact ⟨[], .nil, Except.ok.inj h⟩
  | case2 s => exact ⟨[], rfl, Except.ok.inj h⟩
  | case3 => contradiction
  | case4 s b outer rest hs _ ih =>
    obtain ⟨w, hw, rfl⟩ := exists_of_skipSpace hs
    obtain ⟨u, hu, rfl⟩ := ih h
    exact ⟨_, .cons (.close hw) hu, by simp⟩
  | case5 => contradiction
  | case6 s b outer rest next hlead _ hs _ _ ih =>
    obtain ⟨w, hw, rfl⟩ := exists_of_skipSpace hs
    obtain ⟨l, label, rfl⟩ := exists_of_lead hlead
    obtain ⟨_, ⟨w', v, _, hw', hv, _ | ⟨more, hu⟩, rfl⟩, rfl⟩ := ih h
    exact ⟨_, .cons (.element hw label hw' hv more) hu, by simp [comma]⟩
  | case7 => contradiction
  | case8 => contradiction
  | case9 s b outer rest hs _ ih =>
    obtain ⟨w, hw, rfl⟩ := exists_of_skipSpace hs
    obtain ⟨u, hu, rfl⟩ := ih h
    exact ⟨_, ⟨_, u, .close hw, hu, rfl⟩, by simp⟩
  | case10 => contradiction
  | case11 s b outer c rest hs _ _ next hlead _ ih =>
    obtain ⟨w, hw, rfl⟩ := exists_of_skipSpace hs
    obtain ⟨l, label, hl⟩ := exists_of_lead hlead
    obtain ⟨_, ⟨w', v, _, hw', hv, _ | ⟨more, hu⟩, rfl⟩, rfl⟩ := ih h
    exact ⟨_, ⟨_, _, .element hw label hw' hv more, hu, rfl⟩, by simp [hl, comma]⟩
  | case12 => contradiction
  | case13 s frames c rest hs _ hc ih =>
    rw [eq_of_start.1 hc] at hs
    exact hopening hs (ih h)
  | case14 s frames c rest hs _ hc ih =>
    rw [eq_of_start.2 hc] at hs
    exact hopening hs (ih h)
  | case15 => contradiction
  | case16 => contradiction
  | case17 s frames c rest hs _ _ next hatom _ ih =>
    obtain ⟨w, hw, rfl⟩ := exists_of_skipSpace hs
    obtain ⟨v, hv, hrest⟩ := exists_of_atom hatom
    obtain ⟨u, hu, rfl⟩ := ih h
    exact ⟨_, ⟨w, v, u, hw, .atom hv, hu, rfl⟩, by simp [hrest]⟩

/-- All that has to come is passed over. -/
theorem run_spelled {form : Form} {t : List Symbol} (h : Spelled form t) :
    match form with
    | .value => ∀ frames w r, Blank w → Closed r →
        run .before frames (w ++ t ++ r) = run .after frames r
    | .rest b first => ∀ frames r,
        run (if first then .opened else .after) (b :: frames) (t ++ r) = run .after frames r := by
  -- On how the text is written, for whatever brackets are open around it.
  induction h with
  | @atom v h =>
    intro frames w r hw hr
    have hskip := skipSpace_spelled hw (.atom h) r
    have hatom := atom_append h hr
    obtain ⟨c, u, rfl, hc⟩ := h.head
    exact run_atom hskip hc hatom
  | @collection b t rest ih =>
    intro frames w r hw _
    have hskip := skipSpace_spelled hw (.collection rest) r
    rw [run_opening hskip]
    exact ih frames r
  | @close b first w blank =>
    intro frames r
    have hclosing : isSpace b.closing = false := by cases b <;> rfl
    have hskip : skipSpace (w ++ [b.closing] ++ r) = b.closing :: r := by
      rw [List.append_assoc, skipSpace_append blank]
      exact skipSpace_cons hclosing r
    exact run_closing hskip (by split <;> decide)
  | @element b first w l w' v t before label after value more ihValue ihMore =>
    intro frames r
    have hclosed := closed_rest more r
    cases first with
    | true =>
      obtain ⟨c, rest, w'', hskip, hc, hw'', hlead⟩ := exists_first label after value (t ++ r)
      have hlist : w ++ comma true ++ l ++ w' ++ v ++ t ++ r =
          w ++ (l ++ w' ++ v ++ (t ++ r)) := by simp [comma]
      rw [← skipSpace_append before, ← hlist] at hskip
      rw [if_pos rfl, run_first hskip hc hlead, ihValue _ _ _ hw'' hclosed]
      exact ihMore frames r
    | false =>
      have hcomma : isSpace (.scalar ',') = false := rfl
      have hskip : skipSpace (w ++ comma false ++ l ++ w' ++ v ++ t ++ r) =
          .scalar ',' :: (l ++ (w' ++ v ++ (t ++ r))) := by
        simp only [List.append_assoc]
        exact (skipSpace_append before _).trans (skipSpace_cons hcomma _)
      rw [if_neg (by decide), run_later hskip (lead_label label _), ihValue _ _ _ after hclosed]
      exact ihMore frames r

end Skip

namespace Reader

theorem ignored_run (s : List Symbol) : ignored.run s = (Skip.run .before [] s).map ((), ·) := by
  rw [Skip.run]
  simp only [ignored, afterSpace]
  split
  · rename_i hs
    split
    · rfl
    · simp_all
  · rename_i c rest hs
    split
    · simp_all
    · rename_i c' rest' hs'
      obtain ⟨rfl, rfl⟩ := List.cons.inj (hs.symm.trans hs')
      rw [Skip.value]
      cases hc : start c with
      | list => rfl
      | object => rfl
      | nothing => rfl
      | atom =>
        dsimp only
        split
        · rename_i e he
          rw [he]
        · rename_i r hr
          rw [hr, Skip.run]

section

variable {s r v w : List Symbol}

theorem exists_of_ignored {u : Unit} (h : ignored.run s = .ok (u, r)) :
    ∃ w v, Blank w ∧ Spelled .value v ∧ s = w ++ v ++ r := by
  rw [ignored_run] at h
  obtain ⟨r', hrun, heq⟩ := map_eq_ok.1 h
  obtain ⟨-, rfl⟩ := Prod.mk.inj heq
  obtain ⟨_, ⟨w, v, _, hw, hv, ⟨⟩, rfl⟩, rfl⟩ := Skip.exists_of_run hrun
  exact ⟨w, v, hw, hv, by simp⟩

/-- A value is passed over up to its end. -/
theorem ignored_spelled (hw : Blank w) (hv : Spelled .value v) (hr : Closed r) :
    ignored.run (w ++ v ++ r) = .ok ((), r) := by
  rw [ignored_run, Skip.run_spelled hv [] w r hw hr, Skip.run]
  rfl

end

end Reader

/-- A text begins with one value at most. -/
theorem Spelled.unique {w v r w' v' r' : List Symbol} (hv : Spelled .value v) (hw : Blank w)
    (hr : Closed r) (hv' : Spelled .value v') (hw' : Blank w') (hr' : Closed r')
    (h : w ++ v ++ r = w' ++ v' ++ r') : v = v' ∧ r = r' := by
  have hrest : r = r' := by
    have hrun := Reader.ignored_spelled hw hv hr
    rw [h, Reader.ignored_spelled hw' hv' hr'] at hrun
    exact (Prod.mk.inj (Except.ok.inj hrun)).2.symm
  subst hrest
  have hskip := congrArg skipSpace h
  rw [skipSpace_spelled hw hv, skipSpace_spelled hw' hv'] at hskip
  exact ⟨List.append_cancel_right hskip, rfl⟩

end LiveTelemetry.Json
