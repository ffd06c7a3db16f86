import LiveTelemetry.Proofs.Json.Takes
/-!
Objects of a JSON text, member by member. Main statements: the members of a text are those it is
written from, and they are read one after the other.
-/
namespace LiveTelemetry.Json

open Text (Symbol)
open Skip (Bracket)

/-- Blanks between the parts of a text. -/
abbrev Gap := { w : List Symbol // Blank w }

theorem Str.spells_printed (s : String) :
    Str.Spells s.toList ((s.toList.flatMap escapeChar).map .scalar) := by
  obtain ⟨t, ht, heq⟩ := Str.reader_eq_ok_iff.1 (Str.reader_run s [])
  have hsame : (s.toList.flatMap escapeChar).map Symbol.scalar = t := by simpa using heq
  exact hsame ▸ ht

/-- A member of an object as it is written: its name, in some spelling, its value, and the blanks in
front of the key, of the colon and of the value, and behind the value. -/
structure Member where
  name : String
  value : List Symbol
  key : List Symbol
  before : Gap
  middle : Gap
  inside : Gap
  after : Gap
  spells : Str.Spells name.toList key
  spelled : Spelled .value value

namespace Member

/-- Name and value, without the way in which they are written down. -/
def entry (m : Member) : String × List Symbol := (m.name, m.value)

/-- The member behind the opening mark of its key. -/
def tail (m : Member) : List Symbol :=
  m.key ++ .scalar '"' :: (m.middle.1 ++ .scalar ':' :: (m.inside.1 ++ m.value ++ m.after.1))

def text (m : Member) : List Symbol := m.before.1 ++ .scalar '"' :: m.tail

/-- A member without blanks, whose name is spelled as it is printed. -/
def printed (name : String) {v : List Symbol} (h : Spelled .value v) : Member where
  name := name
  value := v
  key := (name.toList.flatMap escapeChar).map .scalar
  before := ⟨[], blank_nil⟩
  middle := ⟨[], blank_nil⟩
  inside := ⟨[], blank_nil⟩
  after := ⟨[], blank_nil⟩
  spells := Str.spells_printed name
  spelled := h

end Member

/-- Members up to the brace that closes their object. -/
def row : Bool → List Member → List Symbol
  | _, [] => [.scalar '}']
  | first, m :: ms => comma first ++ m.text ++ row false ms

/-- Members, in this order, are taken up one after the other. -/
inductive Gathers (member : σ → String → Except Fault (Reader σ)) :
    σ → List (String × List Symbol) → σ → Prop
  | nil (acc : σ) : Gathers member acc [] acc
  | cons {acc mid out : σ} {name : String} {v : List Symbol} {p : Reader σ}
      {es : List (String × List Symbol)} (reader : member acc name = .ok p) (takes : p.Takes v mid)
      (rest : Gathers member mid es out) : Gathers member acc ((name, v) :: es) out

theorem spelled_row (first : Bool) (ms : List Member) {w : List Symbol} (hw : Blank w) :
    Spelled (.rest .curly first) (w ++ row first ms) := by
  induction ms generalizing first w with
  | nil => exact .close hw
  | cons m ms ih =>
    have hmore := ih false m.after.2
    have hlabel := Label.curly m.before.2 m.spells.passable m.middle.2
    have helement : Spelled (.rest .curly first) _ :=
      .element hw hlabel m.inside.2 m.spelled hmore
    simpa [row, Member.text, Member.tail] using helement

theorem closed_row (ms : List Member) {w : List Symbol} (hw : Blank w) (r : List Symbol) :
    Closed (w ++ row false ms ++ r) :=
  closed_rest (spelled_row false ms hw) r

section

variable {first : Bool} {s r w w' t : List Symbol}

theorem exists_of_nextKey {n : Next} (h : nextKey first s = .ok n) :
    (∃ w rest, n = .stop rest ∧ Blank w ∧ s = w ++ .scalar '}' :: rest) ∨
      ∃ w w' t, n = .more t ∧ Blank w ∧ Blank w' ∧
        s = w ++ comma first ++ w' ++ .scalar '"' :: t := by
  unfold nextKey at h
  split at h
  · contradiction
  · rename_i c rest hc
    obtain ⟨w, hw, rfl⟩ := exists_of_skipSpace hc
    split at h
    · rename_i hclosing
      obtain rfl := Except.ok.inj h
      exact .inl ⟨w, rest, rfl, hw, by rw [hclosing]⟩
    · split at h
      · rename_i hfirst
        split at h
        · rename_i hmark
          obtain rfl := Except.ok.inj h
          exact .inr ⟨w, [], _, rfl, hw, blank_nil, by simp [comma, hmark, hfirst]⟩
        · contradiction
      · rename_i hfirst
        split at h
        · rename_i hcomma
          split at h
          · contradiction
          · rename_i d after hd
            obtain ⟨w', hw', rfl⟩ := exists_of_skipSpace hd
            split at h
            · rename_i hmark
              obtain rfl := Except.ok.inj h
              exact .inr ⟨w, w', _, rfl, hw, hw', by simp [comma, hfirst, hcomma, hmark]⟩
            · split at h <;> contradiction
        · contradiction

theorem nextKey_row (hw : Blank w) (first : Bool) (m : Member) (ms : List Member)
    (r : List Symbol) :
    nextKey first (w ++ row first (m :: ms) ++ r) =
      .ok (.more (m.tail ++ (row false ms ++ r))) := by
  have hnext := nextKey_mark hw m.before.2 first (m.tail ++ (row false ms ++ r))
  simpa [row, Member.text] using hnext

theorem reader_tail (m : Member) (t : List Symbol) :
    Str.reader.run (m.tail ++ t) =
      .ok (m.name, m.middle.1 ++ .scalar ':' :: (m.inside.1 ++ m.value ++ (m.after.1 ++ t))) :=
  Str.reader_eq_ok_iff.2 ⟨m.key, m.spells, by simp [Member.tail]⟩

end

section

variable {σ : Type} {member : σ → String → Except Fault (Reader σ)} {acc out : σ} {first : Bool}
  {s r w : List Symbol}

/-- Members that are taken up are read from any text that is written from them. -/
theorem members_row {ms : List Member} (h : Gathers member acc (ms.map Member.entry) out)
    (hw : Blank w) (first : Bool) (r : List Symbol) :
    members member first acc (w ++ row first ms ++ r) = .ok (out, r) := by
  induction ms generalizing acc first w with
  | nil =>
    cases h
    rw [row, List.append_assoc]
    exact members_stop (nextKey_closing hw first r) _
  | cons m ms ih =>
    cases h with
    | @cons _ mid _ name v p es reader takes rest =>
      have hrun := takes m.inside.1 (m.after.1 ++ row false ms ++ r) m.inside.2
        (closed_row ms m.after.2 r)
      rw [List.append_assoc m.after.1] at hrun
      rw [members_more (nextKey_row hw first m ms r) (reader_tail m _) (colon_append m.middle.2 _)
        reader hrun, ← List.append_assoc]
      exact ih rest m.after.2 false

/-- What is read as members is written from some, and they are taken up. -/
theorem exists_of_members (sound : ∀ {acc : σ} {name : String} {p : Reader σ},
    member acc name = .ok p → p.Sound)
    (h : members member first acc s = .ok (out, r)) :
    ∃ w ms, Blank w ∧ s = w ++ row first ms ++ r ∧
      Gathers member acc (ms.map Member.entry) out := by
  fun_induction members member first acc s with
  | case1 => contradiction
  | case2 first acc s rest hnext =>
    obtain ⟨rfl, rfl⟩ := Prod.mk.inj (Except.ok.inj h)
    rcases exists_of_nextKey hnext with ⟨w, rest', heq, hw, rfl⟩ | ⟨w, w', t, heq, -⟩
    · obtain rfl := Next.stop.inj heq
      exact ⟨w, [], hw, by simp [row], .nil _⟩
    · contradiction
  | case3 => contradiction
  | case4 => contradiction
  | case5 => contradiction
  | case6 => contradiction
  | case7 first acc s t hnext name u hname p reader v hcolon mid r₁ hrun _ _ _ _ ih =>
    rcases exists_of_nextKey hnext with ⟨w, rest', heq, -⟩ | ⟨w, w', t', heq, hw, hw', rfl⟩
    · contradiction
    · obtain rfl := Next.more.inj heq
      obtain ⟨key, spells, rfl⟩ := Str.reader_eq_ok_iff.1 hname
      obtain ⟨middle, hmiddle, rfl⟩ := Skip.exists_of_colon hcolon
      obtain ⟨inside, value, hinside, spelled, takes, rfl⟩ := sound reader _ _ _ hrun
      obtain ⟨after, ms, hafter, rfl, rest⟩ := ih h
      let m : Member := ⟨name, value, key, ⟨w', hw'⟩, ⟨middle, hmiddle⟩, ⟨inside, hinside⟩,
        ⟨after, hafter⟩, spells, spelled⟩
      exact ⟨w, m :: ms, hw, by simp [row, Member.text, Member.tail, m], .cons reader takes rest⟩

/-- A text is written from one row of members. -/
theorem row_unique {w w' r r' : List Symbol} {ms ms' : List Member} (hw : Blank w)
    (hw' : Blank w') (h : w ++ row first ms ++ r = w' ++ row first ms' ++ r') :
    ms.map Member.entry = ms'.map Member.entry ∧ r = r' := by
  induction ms generalizing first w w' ms' with
  | nil =>
    have hstop : nextKey first (w ++ row first [] ++ r) = .ok (.stop r) := by
      rw [row, List.append_assoc]
      exact nextKey_closing hw first r
    rw [h] at hstop
    cases ms' with
    | nil =>
      rw [row, List.append_assoc, List.singleton_append, nextKey_closing hw'] at hstop
      exact ⟨rfl, (Next.stop.inj (Except.ok.inj hstop)).symm⟩
    | cons m' ms' =>
      rw [nextKey_row hw'] at hstop
      exact absurd (Except.ok.inj hstop) nofun
  | cons m ms ih =>
    have hmore := nextKey_row hw first m ms r
    rw [h] at hmore
    cases ms' with
    | nil =>
      rw [row, List.append_assoc, List.singleton_append, nextKey_closing hw'] at hmore
      exact absurd (Except.ok.inj hmore) nofun
    | cons m' ms' =>
      rw [nextKey_row hw'] at hmore
      have htail := Next.more.inj (Except.ok.inj hmore)
      have hname := reader_tail m (row false ms ++ r)
      rw [← htail, reader_tail m'] at hname
      obtain ⟨hsame, hrest⟩ := Prod.mk.inj (Except.ok.inj hname)
      have hcolon := congrArg colon hrest
      rw [colon_append m.middle.2, colon_append m'.middle.2] at hcolon
      obtain ⟨hvalue, hafter⟩ := m'.spelled.unique m'.inside.2 (closed_row ms' m'.after.2 r')
        m.spelled m.inside.2 (closed_row ms m.after.2 r)
        (by simpa using Except.ok.inj hcolon)
      obtain ⟨hentries, hr⟩ := ih m.after.2 m'.after.2 (by simpa using hafter.symm)
      exact ⟨by simp [Member.entry, hsame, hvalue, hentries], hr⟩

/-- What members are read for depends on their names and values alone. -/
theorem members_row_iff (sound : ∀ {acc : σ} {name : String} {p : Reader σ},
    member acc name = .ok p → p.Sound) {ms : List Member} (hw : Blank w) {r' : List Symbol} :
    members member first acc (w ++ row first ms ++ r) = .ok (out, r') ↔
      r' = r ∧ Gathers member acc (ms.map Member.entry) out := by
  constructor
  · intro h
    obtain ⟨w', ms', hw', heq, hgathers⟩ := exists_of_members sound h
    obtain ⟨hentries, hr⟩ := row_unique hw hw' heq
    exact ⟨hr.symm, hentries ▸ hgathers⟩
  · rintro ⟨rfl, hgathers⟩
    exact members_row hgathers hw first _

end

/-- An object as it is written, with nothing but blanks around it. -/
structure Object where
  front : Gap
  inside : Gap
  members : List Member
  back : Gap

namespace Object

def entries (o : Object) : List (String × List Symbol) := o.members.map Member.entry

/-- An object without blanks around its members. -/
def printed (ms : List Member) : Object := ⟨⟨[], blank_nil⟩, ⟨[], blank_nil⟩, ms, ⟨[], blank_nil⟩⟩

def text (o : Object) : List Symbol :=
  o.front.1 ++ .scalar '{' :: (o.inside.1 ++ row true o.members ++ o.back.1)

theorem skipSpace_text (o : Object) :
    skipSpace o.text = .scalar '{' :: (o.inside.1 ++ row true o.members ++ o.back.1) := by
  have hbrace : isSpace (.scalar '{') = false := rfl
  rw [text, skipSpace_append o.front.2, skipSpace_cons hbrace]

/-- A text is that of one object. -/
theorem entries_unique {o o' : Object} (h : o.text = o'.text) : o.entries = o'.entries := by
  have hskip := congrArg skipSpace h
  rw [skipSpace_text, skipSpace_text] at hskip
  exact (row_unique o.inside.2 o'.inside.2 (List.cons.inj hskip).2).1

end Object

namespace Reader

theorem soundAt_object {value : Option (Reader Json)} (h : ∀ p ∈ value, p.Sound) :
    SoundAt (.scalar '{') (object value).run := by
  intro s out r hrun
  simp only [object] at hrun ⊢
  cases value with
  | none => contradiction
  | some p =>
    have sound {acc : Members} {name : String} {q : Reader Members}
        (hq : .ok (p.map fun v => Members.insert name v acc) = (.ok q : Except Fault _)) :
        q.Sound := by
      obtain rfl := Except.ok.inj hq
      exact (h p rfl).map _
    obtain ⟨w, ms, hw, rfl, hgathers⟩ := exists_of_members sound hrun
    exact ⟨_, .collection (spelled_row true ms hw), rfl,
      fun r' _ => members_row hgathers hw true r'⟩

theorem sound_valueOver {inner : Option (Reader Json)} (h : ∀ p ∈ inner, p.Sound) :
    (valueOver inner).Sound := by
  refine sound_afterSpace ?_
  intro c
  have hbrackets := Skip.eq_of_start (c := c)
  cases hc : start c with
  | atom =>
    intro s j r hrun
    dsimp only at hrun ⊢
    obtain ⟨⟨a, r₀⟩, hatom, heq⟩ := map_eq_ok.1 hrun
    obtain ⟨rfl, rfl⟩ := Prod.mk.inj heq
    obtain ⟨t, ht, hs, -, hgoes⟩ := exists_of_atom_cons hatom
    exact ⟨t, .atom ht, hs, fun r' hr' => map_eq_ok.2 ⟨_, hgoes r' hr', rfl⟩⟩
  | list =>
    obtain rfl := hbrackets.1 hc
    exact (soundAt_list h).map Json.arr
  | object =>
    obtain rfl := hbrackets.2 hc
    exact (soundAt_object h).map Json.obj
  | nothing => exact soundAt_error _

theorem sound_value (room : Nat) : (value room).Sound := by
  induction room with
  | zero => exact sound_valueOver (by simp)
  | succ room ih => exact sound_valueOver (by simpa using ih)

theorem sound_ignored : ignored.Sound := by
  intro s u r hrun
  obtain ⟨w, v, hw, hv, hs⟩ := exists_of_ignored hrun
  exact ⟨w, v, hw, hv, fun w' r' hw' hr' => ignored_spelled hw' hv hr', hs⟩

end Reader

end LiveTelemetry.Json
