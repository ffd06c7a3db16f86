import LiveTelemetry.Proofs.Json.Ordered
import LiveTelemetry.Proofs.Json.Passing
/-!
Readers that take what is written for the same wherever it stands, and take nothing but whole
values. Main statements: all readers of this library do, and the members of an object are those
that its text is made of.
-/
namespace LiveTelemetry.Json

open Text (Symbol)
open Skip (Bracket)

namespace Reader

/-- The reader takes the text for `a`, behind blanks and in front of all that is closed. -/
def Takes (p : Reader α) (t : List Symbol) (a : α) : Prop :=
  ∀ w r, Blank w → Closed r → p.run (w ++ t ++ r) = .ok (a, r)

/-- What the reader reads is a value, and is taken for the same elsewhere. -/
def Sound (p : Reader α) : Prop :=
  ∀ s a r, p.run s = .ok (a, r) →
    ∃ w t, Blank w ∧ Spelled .value t ∧ p.Takes t a ∧ s = w ++ t ++ r

/-- The same of a run behind the first symbol of a value. -/
def SoundAt (c : Symbol) (run : List Symbol → Outcome α) : Prop :=
  ∀ s a r, run s = .ok (a, r) →
    ∃ t, Spelled .value (c :: t) ∧ s = t ++ r ∧ ∀ r', Closed r' → run (t ++ r') = .ok (a, r')

section

variable {p : Reader α} {t w r r' : List Symbol} {a : α}

/-- A value that is followed by something closed is read to its end or not at all. -/
theorem Sound.takes (h : p.Sound) (ht : Spelled .value t) (hw : Blank w) (hr : Closed r)
    (hr' : Closed r') (hrun : p.run (w ++ t ++ r) = .ok (a, r')) : r' = r ∧ p.Takes t a := by
  obtain ⟨w', t', hw', ht', htakes, heq⟩ := h _ _ _ hrun
  obtain ⟨rfl, rfl⟩ := ht.unique hw hr ht' hw' hr' heq
  exact ⟨rfl, htakes⟩

theorem Takes.unique {b : α} (ha : p.Takes t a) (hb : p.Takes t b) : a = b := by
  have heq := (ha [] [] blank_nil closed_nil).symm.trans (hb [] [] blank_nil closed_nil)
  exact (Prod.mk.inj (Except.ok.inj heq)).1

theorem Takes.map (h : p.Takes t a) (f : α → β) : (p.map f).Takes t (f a) := by
  intro w r hw hr
  simp only [Reader.map, h w r hw hr]

theorem Sound.map (h : p.Sound) (f : α → β) : (p.map f).Sound := by
  intro s b r hrun
  obtain ⟨a, ha, rfl⟩ := map_run hrun
  obtain ⟨w, t, hw, ht, htakes, hs⟩ := h s a r ha
  exact ⟨w, t, hw, ht, htakes.map f, hs⟩

/-- What is made of a value is made of what is read. -/
theorem Sound.takes_map_iff (h : p.Sound) (ht : Spelled .value t) {f : α → β} {b : β} :
    (p.map f).Takes t b ↔ ∃ a, p.Takes t a ∧ f a = b := by
  constructor
  · intro htakes
    obtain ⟨a, ha, hb⟩ := map_run (htakes [] [] blank_nil closed_nil)
    exact ⟨a, (h.takes ht blank_nil closed_nil closed_nil ha).2, hb⟩
  · rintro ⟨a, ha, rfl⟩
    exact ha.map f

theorem refine_eq_ok_iff {f : α → Except Fault β} {s : List Symbol} {b : β} :
    (p.refine f).run s = .ok (b, r) ↔ ∃ a, p.run s = .ok (a, r) ∧ f a = .ok b := by
  simp only [Reader.refine]
  constructor
  · intro hrun
    split at hrun
    · rename_i a r₀ ha
      split at hrun
      · rename_i b₀ hb
        obtain ⟨rfl, rfl⟩ := Prod.mk.inj (Except.ok.inj hrun)
        exact ⟨a, ha, hb⟩
      · contradiction
    · contradiction
  · rintro ⟨a, ha, hb⟩
    simp only [ha, hb]

theorem Sound.refine (h : p.Sound) (f : α → Except Fault β) : (p.refine f).Sound := by
  intro s b r hrun
  obtain ⟨a, ha, hb⟩ := refine_eq_ok_iff.1 hrun
  obtain ⟨w, t, hw, ht, htakes, hs⟩ := h s a r ha
  exact ⟨w, t, hw, ht, fun w' r' hw' hr' => refine_eq_ok_iff.2 ⟨a, htakes w' r' hw' hr', hb⟩, hs⟩

theorem sound_afterSpace {run : Symbol → List Symbol → Outcome α}
    {shrinks : ∀ {c s a r}, run c s = .ok (a, r) → r.length ≤ s.length}
    (h : ∀ c, SoundAt c (run c)) : (afterSpace run @shrinks).Sound := by
  intro s a r hrun
  simp only [afterSpace] at hrun
  split at hrun
  · contradiction
  · rename_i c rest hc
    obtain ⟨w, hw, rfl⟩ := exists_of_skipSpace hc
    obtain ⟨t, ht, rfl, hgoes⟩ := h c rest a r hrun
    refine ⟨w, c :: t, hw, ht, ?_, by simp⟩
    intro w' r' hw' hr'
    have hskip := skipSpace_spelled hw' ht r'
    rw [List.cons_append] at hskip
    simp only [afterSpace, hskip]
    exact hgoes r' hr'

section

variable {c : Symbol} {run : List Symbol → Outcome α}

theorem soundAt_error (e : Fault) : SoundAt c fun _ => (.error e : Outcome α) := nofun

/-- What depends on the first symbol is decided by it. -/
theorem soundAt_ite {x : Symbol} (h : SoundAt x run) {other : List Symbol → Fault} :
    SoundAt c fun s => if c = x then run s else .error (other s) := by
  intro s a r hrun
  dsimp only at hrun ⊢
  split at hrun
  · rename_i hc
    subst hc
    simpa using h s a r hrun
  · contradiction

theorem SoundAt.refine {p : Reader α} (h : SoundAt c p.run) (f : α → Except Fault β) :
    SoundAt c (p.refine f).run := by
  intro s b r hrun
  obtain ⟨a, ha, hb⟩ := refine_eq_ok_iff.1 hrun
  obtain ⟨t, ht, hs, hgoes⟩ := h s a r ha
  exact ⟨t, ht, hs, fun r' hr' => refine_eq_ok_iff.2 ⟨a, hgoes r' hr', hb⟩⟩

theorem SoundAt.map {p : Reader α} (h : SoundAt c p.run) (f : α → β) :
    SoundAt c (p.map f).run := by
  intro s b r hrun
  obtain ⟨a, ha, rfl⟩ := map_run hrun
  obtain ⟨t, ht, hs, hgoes⟩ := h s a r ha
  refine ⟨t, ht, hs, ?_⟩
  intro r' hr'
  simp only [Reader.map, hgoes r' hr']

theorem soundAt_string : SoundAt (.scalar '"') Str.reader.run := by
  intro s a r hrun
  obtain ⟨t, ht, rfl⟩ := Str.reader_eq_ok_iff.1 hrun
  refine ⟨t ++ [.scalar '"'], .atom (.str ht.passable), by simp, ?_⟩
  intro r' _
  exact Str.reader_eq_ok_iff.2 ⟨t, ht, by simp⟩

theorem soundAt_null (a : α) :
    SoundAt (.scalar 'n') fun s => (keyword ['u', 'l', 'l'] s).map (a, ·) := by
  intro s b r hrun
  obtain ⟨r', hword, heq⟩ := map_eq_ok.1 hrun
  obtain ⟨rfl, rfl⟩ := Prod.mk.inj heq
  refine ⟨_, .atom .null, keyword_eq_ok_iff.1 hword, ?_⟩
  intro r' _
  exact map_eq_ok.2 ⟨r', keyword_eq_ok_iff.2 rfl, rfl⟩

end

theorem text_eq_ok_iff {expected a : String} {s r : List Symbol} :
    (text expected).run s = .ok (a, r) ↔
      ∃ w t, Blank w ∧ Str.Spells a.toList t ∧ s = w ++ .scalar '"' :: (t ++ .scalar '"' :: r) := by
  have hmark : isSpace (.scalar '"') = false := rfl
  constructor
  · intro h
    simp only [text, afterSpace] at h
    split at h
    · contradiction
    · rename_i c rest hc
      obtain ⟨w, hw, rfl⟩ := exists_of_skipSpace hc
      split at h
      · rename_i hcmark
        obtain ⟨t, ht, rfl⟩ := Str.reader_eq_ok_iff.1 h
        exact ⟨w, t, hw, ht, by rw [hcmark]⟩
      · contradiction
  · rintro ⟨w, t, hw, ht, rfl⟩
    simp only [text, afterSpace, skipSpace_append hw, skipSpace_cons hmark, if_true]
    exact Str.reader_eq_ok_iff.2 ⟨t, ht, rfl⟩

theorem sound_text (expected : String) : (text expected).Sound :=
  sound_afterSpace fun _ => soundAt_ite soundAt_string

theorem sound_null (expected : String) : (null expected).Sound :=
  sound_afterSpace fun _ => soundAt_ite (soundAt_null ())

end

end Reader

section

variable {p : Reader α} {text : List Char} {a : α}

/-- What is read back where it was printed is a value. -/
theorem Reader.Reads.spelled (h : p.Reads text a) (sound : p.Sound) :
    Spelled .value (text.map .scalar) := by
  obtain ⟨c, cs, rfl, hc, -⟩ := h.opens
  obtain ⟨w, t, hw, ht, -, heq⟩ := sound _ _ _ (h.run [] closed_nil)
  have hskip := congrArg skipSpace heq
  rw [skipSpace_spelled hw ht, List.map_cons, List.cons_append, skipSpace_cons hc] at hskip
  have hsame : (c :: cs).map Symbol.scalar = t := by simpa using hskip
  exact hsame ▸ ht

theorem Reader.Reads.takes (h : p.Reads text a) (sound : p.Sound) :
    p.Takes (text.map .scalar) a :=
  (sound.takes (h.spelled sound) Json.blank_nil closed_nil closed_nil (h.run [] closed_nil)).2

end

theorem readAll_eq_ok_iff {p : Reader α} {s : List Symbol} {a : α} :
    readAll p s = .ok a ↔ ∃ r, p.run s = .ok (a, r) ∧ Blank r := by
  have hblank (r : List Symbol) : (skipSpace r).isEmpty = true ↔ Blank r := by
    rw [List.isEmpty_iff]
    exact List.dropWhile_eq_nil_iff
  constructor
  · intro h
    obtain ⟨⟨b, r⟩, hrun, hend⟩ := bind_eq_ok.1 h
    dsimp only at hend
    split at hend
    · rename_i hr
      obtain rfl := Except.ok.inj hend
      exact ⟨r, hrun, (hblank r).1 hr⟩
    · contradiction
  · rintro ⟨r, hrun, hr⟩
    exact bind_eq_ok.2 ⟨_, hrun, if_pos ((hblank r).2 hr)⟩

theorem exists_of_atom {s r : List Symbol} {a : Atom} (h : atom s = .ok (a, r)) :
    ∃ t, Atomic t ∧ s = t ++ r ∧ ∀ r', Closed r' → atom (t ++ r') = .ok (a, r') := by
  have hword {cs : List Char} {s : List Symbol} {b : Atom}
      (hw : (keyword cs s).map (b, ·) = .ok (a, r)) :
      s = cs.map .scalar ++ r ∧
      ∀ r', (keyword cs (cs.map .scalar ++ r')).map (b, ·) = .ok (a, r') := by
    obtain ⟨r₀, hr, heq⟩ := map_eq_ok.1 hw
    obtain ⟨rfl, rfl⟩ := Prod.mk.inj heq
    exact ⟨keyword_eq_ok_iff.1 hr, fun r' => map_eq_ok.2 ⟨r', keyword_eq_ok_iff.2 rfl, rfl⟩⟩
  unfold atom at h
  split at h
  · rename_i c rest
    split at h
    · rename_i hc
      subst hc
      obtain ⟨⟨x, r₀⟩, hx, heq⟩ := map_eq_ok.1 h
      obtain ⟨rfl, rfl⟩ := Prod.mk.inj heq
      obtain ⟨t, ht, rfl⟩ := Str.reader_eq_ok_iff.1 hx
      refine ⟨_, .str ht.passable, by simp, ?_⟩
      intro r' _
      have hx' := Str.reader_eq_ok_iff.2 ⟨t, ht, Eq.refl (t ++ .scalar '"' :: r')⟩
      rw [List.cons_append, List.append_assoc, atom, if_pos rfl]
      exact map_eq_ok.2 ⟨_, hx', rfl⟩
    · split at h
      · rename_i hc
        subst hc
        obtain ⟨rfl, hgoes⟩ := hword h
        exact ⟨_, .null, rfl, fun r' _ => hgoes r'⟩
      · split at h
        · rename_i hc
          subst hc
          obtain ⟨rfl, hgoes⟩ := hword h
          exact ⟨_, .true, rfl, fun r' _ => hgoes r'⟩
        · split at h
          · rename_i hc
            subst hc
            obtain ⟨rfl, hgoes⟩ := hword h
            exact ⟨_, .false, rfl, fun r' _ => hgoes r'⟩
          · rename_i hmark hnull htrue hfalse
            obtain ⟨⟨n, r₀⟩, hn, heq⟩ := map_eq_ok.1 h
            obtain ⟨rfl, rfl⟩ := Prod.mk.inj heq
            obtain ⟨t, ht, hs, hgoes⟩ := Number.exists_of_read hn
            refine ⟨t, .number ht, hs, ?_⟩
            intro r' hr'
            obtain ⟨x, u, rfl, -⟩ := (Atomic.number ht).head
            obtain ⟨rfl, -⟩ := List.cons.inj hs
            have hread := hgoes r' hr'
            rw [List.cons_append] at hread ⊢
            rw [atom, if_neg hmark, if_neg hnull, if_neg htrue, if_neg hfalse]
            exact map_eq_ok.2 ⟨_, hread, rfl⟩
  · contradiction

namespace Reader

/-- A value without parts, at its first symbol. -/
theorem exists_of_atom_cons {c : Symbol} {s r : List Symbol} {a : Atom}
    (h : atom (c :: s) = .ok (a, r)) :
    ∃ t, Atomic (c :: t) ∧ s = t ++ r ∧ start c = .atom ∧
      ∀ r', Closed r' → atom (c :: (t ++ r')) = .ok (a, r') := by
  obtain ⟨t, ht, hs, hgoes⟩ := exists_of_atom h
  obtain ⟨x, u, rfl, hx⟩ := ht.head
  obtain ⟨rfl, rfl⟩ := List.cons.inj hs
  exact ⟨u, ht, rfl, hx, hgoes⟩

theorem sound_float : float.Sound := by
  refine sound_afterSpace ?_
  intro c s a r hrun
  dsimp only at hrun ⊢
  split at hrun
  · rename_i n r₀ hatom _
    obtain ⟨rfl, rfl⟩ := Prod.mk.inj (Except.ok.inj hrun)
    obtain ⟨t, ht, rfl, hstart, hgoes⟩ := exists_of_atom_cons hatom
    refine ⟨t, .atom ht, rfl, ?_⟩
    intro r' hr'
    simp only [hgoes r' hr', hstart]
  · contradiction

/-- What need not be there may be nothing. -/
theorem optional_null (p : Reader α) :
    p.optional.Takes (['n', 'u', 'l', 'l'].map .scalar) none := by
  intro w r hw _
  simp only [Reader.optional, skipSpace_spelled hw (.atom .null) r]
  exact map_eq_ok.2 ⟨r, keyword_eq_ok_iff.2 rfl, rfl⟩

theorem Sound.optional {p : Reader α} (h : p.Sound) : p.optional.Sound := by
  intro s a r hrun
  obtain ⟨w, hw, hs⟩ := exists_blank s
  simp only [Reader.optional] at hrun
  split at hrun
  · rename_i rest hskip
    obtain ⟨r', hword, heq⟩ := map_eq_ok.1 hrun
    obtain ⟨rfl, rfl⟩ := Prod.mk.inj heq
    obtain rfl := keyword_eq_ok_iff.1 hword
    exact ⟨w, _, hw, .atom .null, optional_null p, by rw [hs, hskip]; simp⟩
  · obtain ⟨a', ha, -⟩ := map_run hrun
    have hshrinks := p.shrinks ha
    contradiction
  · rename_i hnull _
    -- What was read does not start like `null`, so it is left to `p` elsewhere, too.
    obtain ⟨w', t, hw', ht, htakes, heq⟩ := h.map some _ _ _ hrun
    refine ⟨w ++ w', t, hw.append hw', ht, ?_, by rw [hs, heq]; simp⟩
    intro v r' hv hr'
    obtain ⟨c, u, rfl, hc⟩ := ht.head
    have hhead : skipSpace s = c :: (u ++ r) := by
      rw [hs, skipSpace_append hw, heq]
      exact skipSpace_spelled hw' ht r
    have hn : c ≠ .scalar 'n' := by
      rintro rfl
      exact hnull _ hhead
    have hrun' := htakes [] r' blank_nil hr'
    have hskip := skipSpace_spelled hv ht r'
    simp only [Reader.optional, hskip]
    split
    · rename_i heq'
      exact absurd (List.cons.inj heq').1 hn
    · contradiction
    · exact hrun'

end Reader

section Collections

variable {p : Reader α}

theorem exists_of_nextElement {first : Bool} {s : List Symbol} {n : Next}
    (h : nextElement first s = .ok n) :
    (∃ w rest, n = .stop rest ∧ Blank w ∧ s = w ++ .scalar ']' :: rest) ∨
      ∃ w w' t, n = .more t ∧ Blank w ∧ Blank w' ∧ s = w ++ comma first ++ w' ++ t := by
  unfold nextElement at h
  split at h
  · contradiction
  · rename_i c rest hc
    obtain ⟨w, hw, rfl⟩ := exists_of_skipSpace hc
    split at h
    · rename_i hclosing
      obtain rfl := Except.ok.inj h
      exact .inl ⟨w, rest, rfl, hw, by rw [hclosing]⟩
    · split at h
      · rename_i hfirst
        obtain rfl := Except.ok.inj h
        exact .inr ⟨w, [], _, rfl, hw, blank_nil, by simp [comma, hfirst]⟩
      · rename_i hfirst
        split at h
        · rename_i hcomma
          split at h
          · contradiction
          · rename_i d after hd
            obtain ⟨w', hw', rfl⟩ := exists_of_skipSpace hd
            split at h
            · contradiction
            · obtain rfl := Except.ok.inj h
              exact .inr ⟨w, w', _, rfl, hw, hw', by simp [comma, hfirst, hcomma]⟩
        · contradiction

theorem nextElement_value {w w' v : List Symbol} (hw : Blank w) (hw' : Blank w')
    (hv : Spelled .value v) (first : Bool) (r : List Symbol) :
    nextElement first (w ++ comma first ++ w' ++ v ++ r) = .ok (.more (v ++ r)) := by
  obtain ⟨c, u, rfl, hc⟩ := hv.head
  rw [List.append_assoc, List.cons_append]
  exact nextElement_opening hw hw' (isSpace_of_start hc) (ne_closing_of_start hc .square) first _

/-- The rest of a list is read for the same whatever follows it. -/
theorem exists_of_elements (hp : p.Sound) {first : Bool} {done xs : List α} {s r : List Symbol}
    (h : elements p first done s = .ok (xs, r)) :
    ∃ t, Spelled (.rest .square first) t ∧ s = t ++ r ∧
      ∀ r', elements p first done (t ++ r') = .ok (xs, r') := by
  fun_induction elements p first done s with
  | case1 => contradiction
  | case2 first done s rest hnext =>
    obtain ⟨rfl, rfl⟩ := Prod.mk.inj (Except.ok.inj h)
    rcases exists_of_nextElement hnext with ⟨w, rest', heq, hw, rfl⟩ | ⟨w, w', t, heq, -⟩
    · obtain rfl := Next.stop.inj heq
      refine ⟨_, .close hw, by simp [Bracket.closing], ?_⟩
      intro r'
      rw [List.append_assoc]
      exact elements_stop (nextElement_closing hw first r') done
    · contradiction
  | case3 => contradiction
  | case4 first done s t hnext a r₁ hrun _ _ ih =>
    rcases exists_of_nextElement hnext with ⟨w, rest', heq, -⟩ | ⟨w, w', t', heq, hw, hw', rfl⟩
    · contradiction
    · obtain rfl := Next.more.inj heq
      obtain ⟨w'', v, hw'', hv, htakes, rfl⟩ := hp _ _ _ hrun
      obtain ⟨u, hu, rfl, hgoes⟩ := ih h
      have hblank : Blank (w' ++ w'') := hw'.append hw''
      refine ⟨_, .element hw .square hblank hv hu, by simp, ?_⟩
      intro r'
      have hnext' := nextElement_value hw hblank hv first (u ++ r')
      have hrun' := htakes [] (u ++ r') blank_nil (closed_rest hu r')
      have hlist : w ++ comma first ++ [] ++ (w' ++ w'') ++ v ++ u ++ r' =
          w ++ comma first ++ (w' ++ w'') ++ v ++ (u ++ r') := by simp
      rw [hlist, elements_more hnext' hrun' done]
      exact hgoes r'

end Collections

namespace Reader

theorem soundAt_list {element : Option (Reader α)} (h : ∀ p ∈ element, p.Sound) :
    SoundAt (.scalar '[') (list element).run := by
  intro s xs r hrun
  simp only [list] at hrun ⊢
  cases element with
  | none => contradiction
  | some p =>
    obtain ⟨t, ht, hs, hgoes⟩ := exists_of_elements (h p rfl) hrun
    exact ⟨t, .collection ht, hs, fun r' _ => hgoes r'⟩

end Reader

end LiveTelemetry.Json
