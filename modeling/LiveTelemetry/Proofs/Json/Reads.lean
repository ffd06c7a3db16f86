import Mathlib.Data.List.Forall2
import Mathlib.Data.List.TakeWhile
import LiveTelemetry.Proofs.Json.Tokens
/-!
Readers that give back what was printed, and what they make together: lists whose elements, and
objects whose members, are read one by one.
-/
namespace LiveTelemetry.Json

open Text (Symbol)

/-- The text may be an element of a list, and the reader takes it for `a`. -/
structure Reader.Reads (p : Reader α) (text : List Char) (a : α) : Prop where
  opens : ∃ c cs, text = c :: cs ∧ isSpace (.scalar c) = false ∧ c ≠ ']'
  run : ∀ rest, Closed rest → p.run (text.map .scalar ++ rest) = .ok (a, rest)

theorem skipSpace_cons {s : Symbol} (h : isSpace s = false) (rest : List Symbol) :
    skipSpace (s :: rest) = s :: rest := by
  simp [skipSpace, h]

/-- Nothing but blanks. -/
def Blank (w : List Symbol) : Prop := ∀ s ∈ w, isSpace s = true

theorem blank_nil : Blank [] := by simp [Blank]

theorem Blank.append {v w : List Symbol} (hv : Blank v) (hw : Blank w) : Blank (v ++ w) :=
  fun x hx => (List.mem_append.1 hx).elim (hv x) (hw x)

theorem skipSpace_append {w : List Symbol} (h : Blank w) (s : List Symbol) :
    skipSpace (w ++ s) = skipSpace s :=
  List.dropWhile_append_of_pos h

theorem exists_blank (s : List Symbol) : ∃ w, Blank w ∧ s = w ++ skipSpace s :=
  ⟨s.takeWhile isSpace, fun _ hx => List.mem_takeWhile_imp hx,
    (List.takeWhile_append_dropWhile (p := isSpace)).symm⟩

theorem exists_of_skipSpace {s t : List Symbol} (h : skipSpace s = t) :
    ∃ w, Blank w ∧ s = w ++ t :=
  h ▸ exists_blank s

/-- What parts an element from the one before it, unless it is the first one. -/
def comma (first : Bool) : List Symbol := if first then [] else [.scalar ',']

namespace Reader

theorem afterSpace_run {run : Symbol → List Symbol → Except Fault (α × List Symbol)}
    {shrinks : ∀ {c s a r}, run c s = .ok (a, r) → r.length ≤ s.length} {c : Symbol}
    (h : isSpace c = false) (rest : List Symbol) :
    (afterSpace run @shrinks).run (c :: rest) = run c rest := by
  simp only [afterSpace, skipSpace_cons h]

theorem reads_afterSpace {run : Symbol → List Symbol → Except Fault (α × List Symbol)}
    {shrinks : ∀ {c s a r}, run c s = .ok (a, r) → r.length ≤ s.length} (c : Char)
    (cs : List Char) {a : α} (hspace : isSpace (.scalar c) = false) (hc : c ≠ ']')
    (h : ∀ rest, Closed rest → run (.scalar c) (cs.map .scalar ++ rest) = .ok (a, rest)) :
    (afterSpace run @shrinks).Reads (c :: cs) a := by
  refine ⟨⟨c, cs, rfl, hspace, hc⟩, ?_⟩
  intro rest hrest
  exact (afterSpace_run hspace _).trans (h rest hrest)

namespace Reads

variable {p : Reader α} {text : List Char} {a : α}

theorem map (h : p.Reads text a) (f : α → β) : (p.map f).Reads text (f a) := by
  refine ⟨h.opens, ?_⟩
  intro rest hrest
  simp only [Reader.map, h.run rest hrest]

theorem refine (h : p.Reads text a) {f : α → Except Fault β} {b : β} (hf : f a = .ok b) :
    (p.refine f).Reads text b := by
  refine ⟨h.opens, ?_⟩
  intro rest hrest
  simp only [Reader.refine, h.run rest hrest, hf]

theorem readAll (h : p.Reads text a) : readAll p (text.map .scalar) = .ok a := by
  have hrun := h.run [] closed_nil
  rw [List.append_nil] at hrun
  exact bind_eq_ok.2 ⟨(a, []), hrun, rfl⟩

theorem optional (h : p.Reads text a) (hnull : text.head? ≠ some 'n') :
    p.optional.Reads text (some a) := by
  refine ⟨h.opens, ?_⟩
  intro rest hrest
  have hrun := (h.map some).run rest hrest
  obtain ⟨c, cs, rfl, hspace, -⟩ := h.opens
  have hskip : skipSpace ((c :: cs).map .scalar ++ rest) = (c :: cs).map .scalar ++ rest :=
    skipSpace_cons hspace _
  simp only [Reader.optional, hskip]
  split
  · rename_i heq
    obtain ⟨hc, -⟩ := List.cons.inj heq
    obtain rfl := Symbol.scalar.inj hc
    exact absurd rfl hnull
  · contradiction
  · exact hrun

end Reads

theorem reads_text (expected s : String) : (text expected).Reads (printString s) s := by
  refine reads_afterSpace '"' (s.toList.flatMap escapeChar ++ ['"']) rfl (by decide) ?_
  intro rest _
  exact Str.reader_run s rest

end Reader

theorem commas_cons (x : List Char) (xs : List (List Char)) :
    commas (x :: xs) = x ++ xs.flatMap (',' :: ·) := by
  induction xs generalizing x with
  | nil => simp [commas]
  | cons y ys ih => simp [commas, ih]

section Elements

variable {p : Reader α}

variable {w w' : List Symbol}

theorem nextElement_closing (hw : Blank w) (first : Bool) (rest : List Symbol) :
    nextElement first (w ++ .scalar ']' :: rest) = .ok (.stop rest) := by
  have hclosing : isSpace (.scalar ']') = false := rfl
  simp [nextElement, skipSpace_append hw, skipSpace_cons hclosing]

theorem nextElement_opening {c : Symbol} (hw : Blank w) (hw' : Blank w') (hc : isSpace c = false)
    (hclosing : c ≠ .scalar ']') (first : Bool) (rest : List Symbol) :
    nextElement first (w ++ comma first ++ w' ++ c :: rest) = .ok (.more (c :: rest)) := by
  have hcomma : isSpace (.scalar ',') = false := rfl
  cases first <;>
    simp [nextElement, comma, skipSpace_append hw, skipSpace_append hw', skipSpace_cons hcomma,
      skipSpace_cons hc, hclosing]

theorem elements_stop {first : Bool} {s rest : List Symbol}
    (hnext : nextElement first s = .ok (.stop rest)) (done : List α) :
    elements p first done s = .ok (done.reverse, rest) := by
  rw [elements]
  split
  · simp_all
  · rename_i rest' hstop
    obtain rfl := Next.stop.inj (Except.ok.inj (hnext.symm.trans hstop))
    rfl
  · simp_all

theorem elements_more {a : α} {first : Bool} {s t r : List Symbol}
    (hnext : nextElement first s = .ok (.more t)) (hrun : p.run t = .ok (a, r)) (done : List α) :
    elements p first done s = elements p false (a :: done) r := by
  rw [elements]
  split
  · simp_all
  · simp_all
  · rename_i t' ht
    obtain rfl := Next.more.inj (Except.ok.inj (hnext.symm.trans ht))
    split
    · simp_all
    · rename_i b r' hb
      obtain ⟨rfl, rfl⟩ := Prod.mk.inj (Except.ok.inj (hrun.symm.trans hb))
      rfl

theorem elements_end (first : Bool) (done : List α) (rest : List Symbol) :
    elements p first done (.scalar ']' :: rest) = .ok (done.reverse, rest) :=
  elements_stop (nextElement_closing blank_nil first rest) done

theorem elements_step {text : List Char} {a : α} (h : p.Reads text a) {first : Bool}
    {s more : List Symbol}
    (hnext : nextElement first s = .ok (.more (text.map .scalar ++ more))) (hmore : Closed more)
    (done : List α) : elements p first done s = elements p false (a :: done) more :=
  elements_more hnext (h.run more hmore) done

/-- What follows an element is closed. -/
theorem closed_elements (texts : List (List Char)) (rest : List Symbol) :
    Closed ((texts.flatMap (',' :: ·)).map .scalar ++ .scalar ']' :: rest) := by
  cases texts with
  | nil => exact closed_bracket rest
  | cons t ts => exact closed_comma _

theorem elements_tail {texts : List (List Char)} {as : List α}
    (h : List.Forall₂ p.Reads texts as) (done : List α) (rest : List Symbol) :
    elements p false done ((texts.flatMap (',' :: ·)).map .scalar ++ .scalar ']' :: rest) =
      .ok (done.reverse ++ as, rest) := by
  induction h generalizing done with
  | nil => simpa using elements_end false done rest
  | @cons text a texts as hread _ ih =>
    have hnext : nextElement false (((text :: texts).flatMap (',' :: ·)).map .scalar ++
        .scalar ']' :: rest) = .ok (.more (text.map .scalar ++
          ((texts.flatMap (',' :: ·)).map .scalar ++ .scalar ']' :: rest))) := by
      obtain ⟨c, cs, rfl, hspace, hc⟩ := hread.opens
      have hclosing : Symbol.scalar c ≠ .scalar ']' := by simpa using hc
      simpa [comma] using nextElement_opening blank_nil blank_nil hspace hclosing false _
    rw [elements_step hread hnext (closed_elements texts rest), ih]
    simp

/-- Printed elements are read in order. -/
theorem elements_printed {texts : List (List Char)} {as : List α}
    (h : List.Forall₂ p.Reads texts as) (rest : List Symbol) :
    elements p true [] ((commas texts ++ [']']).map .scalar ++ rest) = .ok (as, rest) := by
  rw [List.map_append, List.append_assoc]
  cases h with
  | nil => exact elements_end true [] rest
  | @cons text a texts as hread hrest =>
    have hnext : nextElement true ((commas (text :: texts)).map .scalar ++
        ([']'].map .scalar ++ rest)) = .ok (.more (text.map .scalar ++
          ((texts.flatMap (',' :: ·)).map .scalar ++ .scalar ']' :: rest))) := by
      obtain ⟨c, cs, rfl, hspace, hc⟩ := hread.opens
      have hclosing : Symbol.scalar c ≠ .scalar ']' := by simpa using hc
      rw [commas_cons]
      simpa [comma] using nextElement_opening blank_nil blank_nil hspace hclosing true _
    rw [elements_step hread hnext (closed_elements texts rest), elements_tail hrest]
    rfl

end Elements

section Members

variable {member : σ → String → Except Fault (Reader σ)}

/-- Members, printed, are taken up one after the other. -/
inductive Folds (member : σ → String → Except Fault (Reader σ)) :
    σ → List (String × List Char) → σ → Prop where
  | nil (acc : σ) : Folds member acc [] acc
  | cons {acc mid out : σ} {name : String} {text : List Char} {p : Reader σ}
      {ms : List (String × List Char)} (reader : member acc name = .ok p)
      (reads : p.Reads text mid) (rest : Folds member mid ms out) :
      Folds member acc ((name, text) :: ms) out

variable {w w' : List Symbol}

theorem nextKey_closing (hw : Blank w) (first : Bool) (rest : List Symbol) :
    nextKey first (w ++ .scalar '}' :: rest) = .ok (.stop rest) := by
  have hclosing : isSpace (.scalar '}') = false := rfl
  simp [nextKey, skipSpace_append hw, skipSpace_cons hclosing]

theorem nextKey_mark (hw : Blank w) (hw' : Blank w') (first : Bool) (rest : List Symbol) :
    nextKey first (w ++ comma first ++ w' ++ .scalar '"' :: rest) = .ok (.more rest) := by
  have hmark : isSpace (.scalar '"') = false := rfl
  have hcomma : isSpace (.scalar ',') = false := rfl
  cases first <;>
    simp [nextKey, comma, skipSpace_append hw, skipSpace_append hw', skipSpace_cons hmark,
      skipSpace_cons hcomma]

theorem colon_append (hw : Blank w) (rest : List Symbol) :
    colon (w ++ .scalar ':' :: rest) = .ok rest := by
  have hcolon : isSpace (.scalar ':') = false := rfl
  simp [colon, skipSpace_append hw, skipSpace_cons hcolon]

theorem members_stop {first : Bool} {s rest : List Symbol}
    (hnext : nextKey first s = .ok (.stop rest)) (acc : σ) :
    members member first acc s = .ok (acc, rest) := by
  rw [members]
  split
  · simp_all
  · rename_i rest' hstop
    obtain rfl := Next.stop.inj (Except.ok.inj (hnext.symm.trans hstop))
    rfl
  · simp_all

theorem members_more {acc mid : σ} {name : String} {p : Reader σ} {first : Bool}
    {s t u v r : List Symbol} (hnext : nextKey first s = .ok (.more t))
    (hname : Str.reader.run t = .ok (name, u)) (hcolon : colon u = .ok v)
    (reader : member acc name = .ok p) (hrun : p.run v = .ok (mid, r)) :
    members member first acc s = members member false mid r := by
  rw [members]
  split
  · simp_all
  · simp_all
  · rename_i t' ht
    obtain rfl := Next.more.inj (Except.ok.inj (hnext.symm.trans ht))
    split
    · simp_all
    · rename_i name' u' hn
      obtain ⟨rfl, rfl⟩ := Prod.mk.inj (Except.ok.inj (hname.symm.trans hn))
      rw [reader]
      dsimp only
      split
      · simp_all
      · rename_i v' hc
        obtain rfl := Except.ok.inj (hcolon.symm.trans hc)
        split
        · simp_all
        · rename_i mid' r' hv
          obtain ⟨rfl, rfl⟩ := Prod.mk.inj (Except.ok.inj (hrun.symm.trans hv))
          rfl

theorem members_end (first : Bool) (acc : σ) (rest : List Symbol) :
    members member first acc (.scalar '}' :: rest) = .ok (acc, rest) :=
  members_stop (nextKey_closing blank_nil first rest) acc

/-- The rest of a member, behind the opening mark of its name. -/
def memberTail (name : String) (text : List Char) : List Char :=
  name.toList.flatMap escapeChar ++ ['"'] ++ ':' :: text

theorem printMember_eq (name : String) (text : List Char) :
    printMember name text = '"' :: memberTail name text := by
  simp [printMember, printString, memberTail]

theorem members_step {acc mid : σ} {name : String} {text : List Char} {p : Reader σ}
    (reader : member acc name = .ok p) (reads : p.Reads text mid) {first : Bool}
    {s more : List Symbol}
    (hnext : nextKey first s = .ok (.more ((memberTail name text).map .scalar ++ more)))
    (hmore : Closed more) : members member first acc s = members member false mid more := by
  have hname : Str.reader.run ((memberTail name text).map .scalar ++ more) =
      .ok (name, .scalar ':' :: (text.map .scalar ++ more)) := by
    simpa [memberTail] using Str.reader_run name (.scalar ':' :: (text.map .scalar ++ more))
  exact members_more hnext hname (colon_append blank_nil _) reader (reads.run more hmore)

/-- Members of an object, printed, each with a comma in front. -/
def printTail (ms : List (String × List Char)) : List Char :=
  (ms.map fun (n, v) => printMember n v).flatMap (',' :: ·)

theorem closed_members (ms : List (String × List Char)) (rest : List Symbol) :
    Closed ((printTail ms).map .scalar ++ .scalar '}' :: rest) := by
  cases ms with
  | nil => exact closed_brace rest
  | cons m ms => exact closed_comma _

theorem members_tail {acc out : σ} {ms : List (String × List Char)}
    (h : Folds member acc ms out) (rest : List Symbol) :
    members member false acc ((printTail ms).map .scalar ++ .scalar '}' :: rest) =
      .ok (out, rest) := by
  induction h with
  | nil acc => exact members_end false acc rest
  | @cons acc mid out name text p ms reader reads _ ih =>
    have hnext : nextKey false ((printTail ((name, text) :: ms)).map .scalar ++
        .scalar '}' :: rest) = .ok (.more ((memberTail name text).map .scalar ++
          ((printTail ms).map .scalar ++ .scalar '}' :: rest))) := by
      simpa [printTail, printMember_eq, comma] using nextKey_mark blank_nil blank_nil false _
    rw [members_step reader reads hnext (closed_members ms rest), ih]

/-- Printed members are taken up in order. -/
theorem members_printed {acc out : σ} {ms : List (String × List Char)}
    (h : Folds member acc ms out) (rest : List Symbol) :
    members member true acc ((commas (ms.map fun (n, v) => printMember n v) ++ ['}']).map .scalar ++
      rest) = .ok (out, rest) := by
  rw [List.map_append, List.append_assoc]
  cases h with
  | nil => exact members_end true acc rest
  | @cons _ mid _ name text p ms reader reads hrest =>
    have hnext : nextKey true ((commas (((name, text) :: ms).map fun (n, v) => printMember n v)).map
        .scalar ++ (['}'].map .scalar ++ rest)) = .ok (.more ((memberTail name text).map .scalar ++
          ((printTail ms).map .scalar ++ .scalar '}' :: rest))) := by
      rw [List.map_cons, commas_cons]
      simpa [printTail, printMember_eq, comma] using nextKey_mark blank_nil blank_nil true _
    rw [members_step reader reads hnext (closed_members ms rest), members_tail hrest]

end Members

end LiveTelemetry.Json
