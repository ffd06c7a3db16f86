import LiveTelemetry.Proofs.Telemetry.Fields
import LiveTelemetry.Proofs.Telemetry.RoundTrip
/-!
Items as objects, whatever their members stand in between. Main statement: an item is read for its
known members alone, each of which stands once or, if it need not be there, not at all.
-/
namespace LiveTelemetry.Telemetry

open Json (Reader Blank Member Object Gathers Spelled row skipSpace)
open Text (Symbol)

namespace Item

/-- The values that stand under a name, in their order. -/
def valuesOf (name : String) (es : List (String × List Symbol)) : List (List Symbol) :=
  (es.filter (·.1 == name)).map Prod.snd

theorem valuesOf_cons_self (name : String) (v : List Symbol) (es : List (String × List Symbol)) :
    valuesOf name ((name, v) :: es) = v :: valuesOf name es := by
  simp [valuesOf]

theorem valuesOf_cons_of_ne {name other : String} (h : other ≠ name) (v : List Symbol)
    (es : List (String × List Symbol)) :
    valuesOf name ((other, v) :: es) = valuesOf name es := by
  simp [valuesOf, h]

theorem valuesOf_append (name : String) (es es' : List (String × List Symbol)) :
    valuesOf name (es ++ es') = valuesOf name es ++ valuesOf name es' := by
  simp [valuesOf]

theorem valuesOf_eq_nil {name : String} {es : List (String × List Symbol)}
    (h : ∀ e ∈ es, e.1 ≠ name) : valuesOf name es = [] := by
  rw [valuesOf, List.map_eq_nil_iff, List.filter_eq_nil_iff]
  simpa using h

theorem valuesOf_perm (name : String) {es es' : List (String × List Symbol)} (h : es.Perm es') :
    (valuesOf name es).Perm (valuesOf name es') :=
  (h.filter _).map _

theorem length_valuesOf (name : String) (es : List (String × List Symbol)) :
    (valuesOf name es).length = (es.map Prod.fst).count name := by
  rw [valuesOf, List.length_map, ← List.countP_eq_length_filter, List.count, List.countP_map]
  rfl

/-- What becomes of a field by the values under its name, of which there may be one, and none if
something is held already. -/
inductive Filled (room : Nat) (f : Field) (d d' : Draft) : List (List Symbol) → Prop
  | kept (same : f.get d' = f.get d) : Filled room f d d' []
  | read {v : List Symbol} {a : f.Content} (free : f.get d = none)
      (takes : (f.reader room).Takes v a) (held : f.get d' = some a) : Filled room f d d' [v]

section

variable {room : Nat} {d d' : Draft} {name : String} {v : List Symbol}
  {es : List (String × List Symbol)}

theorem sound_member {p : Reader Draft} (h : Draft.member room d name = .ok p) : p.Sound := by
  by_cases hname : ∃ f : Field, name = f.label
  · obtain ⟨f, rfl⟩ := hname
    rw [Draft.member_label, once] at h
    split at h
    · contradiction
    · obtain rfl := Except.ok.inj h
      exact (f.sound_reader room).map _
  · rw [Draft.member_other room d (not_exists.1 hname)] at h
    obtain rfl := Except.ok.inj h
    exact Reader.sound_ignored.map _

/-- A member of a known name is taken up if nothing is held under it, and is held then. -/
theorem gathers_label_iff (f : Field) (hv : Spelled .value v) :
    Gathers (Draft.member room) d ((f.label, v) :: es) d' ↔
      f.get d = none ∧ ∃ a, (f.reader room).Takes v a ∧
        Gathers (Draft.member room) (f.set d a) es d' := by
  constructor
  · rintro (_ | ⟨reader, takes, rest⟩)
    rw [Draft.member_label, once] at reader
    split at reader
    · contradiction
    · rename_i hfree
      obtain rfl := Except.ok.inj reader
      obtain ⟨a, ha, rfl⟩ := ((f.sound_reader room).takes_map_iff hv).1 takes
      exact ⟨by simpa using hfree, a, ha, rest⟩
  · rintro ⟨hfree, a, takes, rest⟩
    refine .cons ?_ (takes.map (f.set d)) rest
    rw [Draft.member_label, once, hfree]
    rfl

/-- A member of another name changes nothing. -/
theorem gathers_other_iff (h : ∀ f : Field, name ≠ f.label) (hv : Spelled .value v) :
    Gathers (Draft.member room) d ((name, v) :: es) d' ↔ Gathers (Draft.member room) d es d' := by
  constructor
  · rintro (_ | ⟨reader, takes, rest⟩)
    rw [Draft.member_other room d h] at reader
    obtain rfl := Except.ok.inj reader
    obtain ⟨_, -, rfl⟩ := (Reader.sound_ignored.takes_map_iff hv).1 takes
    exact rest
  · intro rest
    have takes : Reader.ignored.Takes v () := fun w r hw hr => Reader.ignored_spelled hw hv hr
    exact .cons (Draft.member_other room d h) (takes.map fun _ => d) rest

theorem Filled.congr {f : Field} {e : Draft} {vs : List (List Symbol)}
    (h : Filled room f d d' vs) (same : f.get d = f.get e) : Filled room f e d' vs := by
  cases h with
  | kept kept => exact .kept (kept.trans same)
  | read free takes held => exact .read (same.symm.trans free) takes held

theorem filled_label_iff (g : Field) :
    (∀ f : Field, Filled room f d d' (valuesOf f.label ((g.label, v) :: es))) ↔
      g.get d = none ∧ ∃ a, (g.reader room).Takes v a ∧
        ∀ f : Field, Filled room f (g.set d a) d' (valuesOf f.label es) := by
  have hne {f : Field} (hfg : f ≠ g) :
      valuesOf f.label ((g.label, v) :: es) = valuesOf f.label es :=
    valuesOf_cons_of_ne (fun h => hfg (Field.label_inj h).symm) v es
  constructor
  · intro h
    have hown := h g
    rw [valuesOf_cons_self] at hown
    generalize hvs : valuesOf g.label es = vs at hown
    cases hown with
    | @read _ a free takes held =>
      refine ⟨free, a, takes, ?_⟩
      intro f
      by_cases hfg : f = g
      · subst hfg
        rw [hvs]
        exact .kept (held.trans (f.get_set_self d a).symm)
      · exact hne hfg ▸ (h f).congr (Field.get_set_of_ne d hfg a).symm
  · rintro ⟨free, a, takes, rest⟩ f
    have hrest := rest f
    by_cases hfg : f = g
    · subst hfg
      rw [valuesOf_cons_self]
      generalize valuesOf f.label es = vs at hrest
      cases hrest with
      | kept same => exact .read free takes (same.trans (f.get_set_self d a))
      | read free' => exact absurd ((f.get_set_self d a).symm.trans free') nofun
    · rw [hne hfg]
      exact hrest.congr (Field.get_set_of_ne d hfg a)

/-- Members fill a draft field by field, whatever their order. -/
theorem gathers_iff (hes : ∀ e ∈ es, Spelled .value e.2) :
    Gathers (Draft.member room) d es d' ↔
      ∀ f : Field, Filled room f d d' (valuesOf f.label es) := by
  -- The first member is either that of one field, and every other field skips it, or of none.
  induction es generalizing d with
  | nil =>
    constructor
    · rintro ⟨⟩ f
      exact .kept rfl
    · intro h
      obtain rfl : d = d' := Draft.ext_get fun f => by
        cases h f with
        | kept same => exact same.symm
      exact .nil _
  | cons e es ih =>
    obtain ⟨name, v⟩ := e
    obtain ⟨hv, hrest⟩ := List.forall_mem_cons.1 hes
    by_cases hname : ∃ f : Field, name = f.label
    · obtain ⟨g, rfl⟩ := hname
      rw [gathers_label_iff g hv, filled_label_iff]
      simp only [ih hrest]
    · have hother := not_exists.1 hname
      rw [gathers_other_iff hother hv, ih hrest]
      refine forall_congr' fun f => ?_
      rw [valuesOf_cons_of_ne (hother f)]

/-- What an item has under a field, by the values under its name. -/
inductive Given (room : Nat) (i : Item) (f : Field) : List (List Symbol) → Prop
  | missing (default : f.default? = some (f.content i)) : Given room i f []
  | once {v : List Symbol} (takes : (f.reader room).Takes v (f.content i)) : Given room i f [v]

theorem exists_gathers_iff {i : Item} (hes : ∀ e ∈ es, Spelled .value e.2) :
    (∃ d, Gathers (Draft.member room) Draft.empty es d ∧ d.finish = .ok i) ↔
      ∀ f : Field, Given room i f (valuesOf f.label es) := by
  constructor
  · rintro ⟨d, hgathers, hfinish⟩ f
    have hfilled := (gathers_iff hes).1 hgathers f
    have hcontent := (Draft.finish_eq_ok_iff d i).1 hfinish f
    generalize valuesOf f.label es = vs at hfilled
    cases hfilled with
    | kept same =>
      rw [same, Draft.get_empty, Option.none_or] at hcontent
      exact .missing hcontent
    | read _ takes held =>
      rw [held, Option.some_or] at hcontent
      obtain rfl := Option.some.inj hcontent
      exact .once takes
  · intro h
    -- The draft is determined by the item: it holds what stands there, and nothing by default.
    let held (f : Field) : Option f.Content :=
      if valuesOf f.label es = [] then none else some (f.content i)
    have hget (f : Field) : f.get (Draft.holding held) = held f := Draft.get_holding held f
    refine ⟨Draft.holding held, (gathers_iff hes).2 fun f => ?_,
      (Draft.finish_eq_ok_iff _ i).2 fun f => ?_⟩
    · have hgiven := h f
      have hheld := hget f
      simp only [held] at hheld
      generalize valuesOf f.label es = vs at hgiven hheld
      cases hgiven with
      | missing => exact .kept (hheld.trans (Draft.get_empty f).symm)
      | once takes => exact .read (Draft.get_empty f) takes hheld
    · have hgiven := h f
      rw [hget f]
      simp only [held]
      generalize valuesOf f.label es = vs at hgiven
      cases hgiven with
      | missing default => exact default
      | once => rfl

end

section

variable {i : Item} {s r r' w : List Symbol} {room : Nat}

theorem readObject_eq_ok_iff :
    readObject room s = .ok (i, r) ↔
      ∃ d, Json.members (Draft.member room) true Draft.empty s = .ok (d, r) ∧ d.finish = .ok i := by
  constructor
  · intro h
    obtain ⟨⟨d, r₀⟩, hmembers, h⟩ := Json.bind_eq_ok.1 h
    obtain ⟨j, hfinish, h⟩ := Json.bind_eq_ok.1 h
    obtain ⟨rfl, rfl⟩ := Prod.mk.inj (Except.ok.inj h)
    exact ⟨d, hmembers, hfinish⟩
  · rintro ⟨d, hmembers, hfinish⟩
    exact Json.bind_eq_ok.2 ⟨_, hmembers, Json.bind_eq_ok.2 ⟨i, hfinish, rfl⟩⟩

/-- A text that starts as an object is read as one, to its end. -/
theorem parse_eq_ok_iff_of_brace {rest : List Symbol} (h : skipSpace s = .scalar '{' :: rest) :
    parse s = .ok i ↔ ∃ r, readObject (Json.maxDepth - 1) rest = .ok (i, r) ∧ Blank r := by
  have hrun : (reader Json.maxDepth).run s = readObject (Json.maxDepth - 1) rest := by
    simp only [reader, readStructure, Reader.afterSpace, h]
    rfl
  rw [parse, Json.readAll_eq_ok_iff, hrun]

/-- An item is read from an object field by field. -/
theorem parse_text_iff (o : Object) :
    parse o.text = .ok i ↔
      ∀ f : Field, Given (Json.maxDepth - 1) i f (valuesOf f.label o.entries) := by
  have hes : ∀ e ∈ o.entries, Spelled .value e.2 := by
    intro e he
    obtain ⟨m, -, rfl⟩ := List.mem_map.1 he
    exact m.spelled
  rw [parse_eq_ok_iff_of_brace o.skipSpace_text, ← exists_gathers_iff hes]
  simp only [readObject_eq_ok_iff, Json.members_row_iff sound_member o.inside.2]
  constructor
  · rintro ⟨_, ⟨d, ⟨rfl, hgathers⟩, hfinish⟩, -⟩
    exact ⟨d, hgathers, hfinish⟩
  · rintro ⟨d, hgathers, hfinish⟩
    exact ⟨_, ⟨d, ⟨rfl, hgathers⟩, hfinish⟩, o.back.2⟩

/-- A text that starts as an object and is read for an item is that of an object. -/
theorem exists_of_parse (hbrace : (skipSpace s).head? = some (.scalar '{'))
    (h : parse s = .ok i) : ∃ o : Object, o.text = s := by
  obtain ⟨rest, hrest⟩ := List.head?_eq_some_iff.1 hbrace
  obtain ⟨back, hobject, hback⟩ := (parse_eq_ok_iff_of_brace hrest).1 h
  obtain ⟨front, hfront, rfl⟩ := Json.exists_of_skipSpace hrest
  obtain ⟨d, hmembers, -⟩ := readObject_eq_ok_iff.1 hobject
  obtain ⟨inside, ms, hinside, rfl, -⟩ := Json.exists_of_members sound_member hmembers
  exact ⟨⟨⟨front, hfront⟩, ⟨inside, hinside⟩, ms, ⟨back, hback⟩⟩, rfl⟩

/-- The members that an item has to have. -/
def needed : List String := ["id", "timestamp", "kind", "name"]

/-- The other members of an item. -/
def possible : List String := ["value", "properties"]

theorem mem_needed_iff {name : String} :
    name ∈ needed ↔ ∃ f : Field, f.label = name ∧ f.default? = none := by
  constructor
  · intro h
    simp only [needed, List.mem_cons, List.not_mem_nil, or_false] at h
    obtain rfl | rfl | rfl | rfl := h
    · exact ⟨.id, rfl, rfl⟩
    · exact ⟨.time, rfl, rfl⟩
    · exact ⟨.kind, rfl, rfl⟩
    · exact ⟨.name, rfl, rfl⟩
  · rintro ⟨f, rfl, hdefault⟩
    cases f <;> first | decide | contradiction

theorem mem_possible_iff {name : String} :
    name ∈ possible ↔ ∃ f : Field, f.label = name ∧ f.default?.isSome := by
  constructor
  · intro h
    simp only [possible, List.mem_cons, List.not_mem_nil, or_false] at h
    obtain rfl | rfl := h
    · exact ⟨.value, rfl, rfl⟩
    · exact ⟨.properties, rfl, rfl⟩
  · rintro ⟨f, rfl, hdefault⟩
    cases f <;> first | decide | contradiction

theorem label_mem (f : Field) : f.label ∈ needed ++ possible := by
  cases f <;> decide

theorem Given.perm {f : Field} {vs ws : List (List Symbol)} (h : Given room i f vs)
    (hperm : vs.Perm ws) : Given room i f ws := by
  cases h with
  | missing default =>
    obtain rfl := hperm.nil_eq
    exact .missing default
  | once takes =>
    obtain rfl := List.singleton_perm.1 hperm
    exact .once takes

/-- `null` says as much as nothing where nothing has to be said. -/
theorem given_null_iff {f : Field} (h : f.default?.isSome) :
    Given room i f [['n', 'u', 'l', 'l'].map .scalar] ↔ Given room i f [] := by
  have hnull {α : Type} {p : Reader α} {a : Option α} :
      p.optional.Takes (['n', 'u', 'l', 'l'].map .scalar) a ↔ some none = some a := by
    constructor
    · intro takes
      rw [(Reader.optional_null p).unique takes]
    · intro heq
      exact Option.some.inj heq ▸ Reader.optional_null p
  constructor
  · rintro (_ | ⟨takes⟩)
    refine .missing ?_
    cases f <;> first | contradiction | exact hnull.1 takes
  · rintro (⟨default⟩ | _)
    refine .once ?_
    cases f <;> first | contradiction | exact hnull.2 default

/-- The order of the values under each name does not matter, and `null` is as good as none. -/
theorem parse_iff_of_values {o o' : Object} (h : ∀ f : Field,
    (valuesOf f.label o'.entries).Perm (valuesOf f.label o.entries) ∨
      f.default?.isSome ∧ valuesOf f.label o.entries = [] ∧
        valuesOf f.label o'.entries = [['n', 'u', 'l', 'l'].map .scalar]) :
    parse o'.text = .ok i ↔ parse o.text = .ok i := by
  rw [parse_text_iff, parse_text_iff]
  refine forall_congr' fun f => ?_
  obtain hperm | ⟨hdefault, hnone, hnull⟩ := h f
  · exact ⟨fun given => given.perm hperm, fun given => given.perm hperm.symm⟩
  · rw [hnone, hnull]
    exact given_null_iff hdefault

end

/-- The members of an item that has neither value nor properties. -/
def bareMembers (stamp : Stamp) (kind : Kind) (name : String) : List Member :=
  [.printed "id" ((reads_id stamp.id).spelled sound_readId),
    .printed "timestamp" ((reads_time stamp.time).spelled sound_readTime),
    .printed "kind" ((reads_kind 0 kind).spelled (sound_readKind 0)),
    .printed "name" ((Reader.reads_text _ name).spelled sound_readText)]

theorem parse_bareMembers (stamp : Stamp) (kind : Kind) (name : String) :
    parse (Object.printed (bareMembers stamp kind name)).text = .ok (make stamp kind name) := by
  rw [parse_text_iff]
  intro f
  cases f with
  | id => exact .once ((reads_id stamp.id).takes sound_readId)
  | time => exact .once ((reads_time stamp.time).takes sound_readTime)
  | kind => exact .once ((reads_kind _ kind).takes (sound_readKind _))
  | name => exact .once ((Reader.reads_text _ name).takes sound_readText)
  | value => exact .missing rfl
  | properties => exact .missing rfl

/-- An item is read from an object for its known members alone. Whatever starts as an object and is
read for an item is the text of an object, whose members are told by the text. The item is the one
whose fields are what stands once under their names, or what stands for them where nothing does. So
the same members in any order, written in any way and with any others among them, are read for the
same; each member that an item has to have stands there, none of the known ones twice, and one that
need not be there may be missing or be `null`. -/
theorem known_members_decide :
    (∀ s i, (skipSpace s).head? = some (.scalar '{') → parse s = .ok i →
      ∃ o : Object, o.text = s) ∧
    (∀ o o' : Object, o.text = o'.text → o.entries = o'.entries) ∧
    ∀ o : Object,
      (∀ i, parse o.text = .ok i ↔
        ∀ f : Field, Given (Json.maxDepth - 1) i f (valuesOf f.label o.entries)) ∧
      (∀ (o' : Object) (others : List (String × List Symbol)),
        (∀ e ∈ others, e.1 ∉ needed ++ possible) → o'.entries.Perm (others ++ o.entries) →
          ∀ i, parse o'.text = .ok i ↔ parse o.text = .ok i) ∧
      (∀ name ∈ needed, (o.entries.map Prod.fst).count name = 0 → ∀ i, parse o.text ≠ .ok i) ∧
      (∀ name ∈ needed ++ possible, 2 ≤ (o.entries.map Prod.fst).count name →
        ∀ i, parse o.text ≠ .ok i) ∧
      ∀ name ∈ possible, (o.entries.map Prod.fst).count name = 0 → ∀ o' : Object,
        o'.entries.Perm ((name, ['n', 'u', 'l', 'l'].map .scalar) :: o.entries) →
          ∀ i, parse o'.text = .ok i ↔ parse o.text = .ok i := by
  refine ⟨fun s i => exists_of_parse, fun o o' => Object.entries_unique, fun o =>
    ⟨fun i => parse_text_iff o, ?_, ?_, ?_, ?_⟩⟩
  · intro o' others hothers hperm i
    refine parse_iff_of_values fun f => .inl ?_
    have hnone : valuesOf f.label others = [] :=
      valuesOf_eq_nil fun e he hname => hothers e he (hname ▸ label_mem f)
    have hvalues := valuesOf_perm f.label hperm
    rwa [valuesOf_append, hnone, List.nil_append] at hvalues
  · intro name hname hcount i hparse
    obtain ⟨f, rfl, hdefault⟩ := mem_needed_iff.1 hname
    have hgiven := (parse_text_iff o).1 hparse f
    rw [← length_valuesOf, List.length_eq_zero_iff] at hcount
    rw [hcount] at hgiven
    cases hgiven with
    | missing default => exact absurd (hdefault.symm.trans default) nofun
  · intro name hname hcount i hparse
    obtain ⟨f, rfl⟩ : ∃ f : Field, f.label = name := by
      rcases List.mem_append.1 hname with h | h
      · exact (mem_needed_iff.1 h).imp fun _ => And.left
      · exact (mem_possible_iff.1 h).imp fun _ => And.left
    have hgiven := (parse_text_iff o).1 hparse f
    rw [← length_valuesOf] at hcount
    generalize valuesOf f.label o.entries = vs at hgiven hcount
    cases hgiven with
    | missing => exact absurd hcount (by decide)
    | once => exact absurd hcount (by simp)
  · intro name hname hcount o' hperm i
    obtain ⟨g, rfl, hdefault⟩ := mem_possible_iff.1 hname
    rw [← length_valuesOf, List.length_eq_zero_iff] at hcount
    refine parse_iff_of_values fun f => ?_
    have hvalues := valuesOf_perm f.label hperm
    by_cases hfg : f = g
    · subst hfg
      rw [valuesOf_cons_self, hcount] at hvalues
      exact .inr ⟨hdefault, hcount, List.perm_singleton.1 hvalues⟩
    · rw [valuesOf_cons_of_ne fun h => hfg (Field.label_inj h).symm] at hvalues
      exact .inl hvalues

theorem spelled_list_null : Spelled .value (['[', 'n', 'u', 'l', 'l', ']'].map .scalar) :=
  .collection (b := .square)
    (.element Json.blank_nil .square Json.blank_nil (.atom .null) (.close Json.blank_nil))

/-- A leap second is read with its members the other way round and a list among them, or with a
value of `null`, but not without its name or with all of its members twice. -/
theorem known_members_decide_of_leap_second :
    ∃ o : Object, o.entries = (bareMembers farLeap .event "leap").map Member.entry ∧
      parse o.text = .ok (make farLeap .event "leap") ∧
      parse (Object.printed (.printed "more" spelled_list_null :: o.members.reverse)).text =
        .ok (make farLeap .event "leap") ∧
      parse (Object.printed (.printed "value" (.atom .null) :: o.members)).text =
        .ok (make farLeap .event "leap") ∧
      (∀ i, parse (Object.printed o.members.dropLast).text ≠ .ok i) ∧
      ∀ i, parse (Object.printed (o.members ++ o.members)).text ≠ .ok i := by
  obtain ⟨whole, unique, each⟩ := known_members_decide
  have hparse := parse_bareMembers farLeap .event "leap"
  obtain ⟨o, ho⟩ := whole _ _ (by rw [Object.skipSpace_text]; rfl) hparse
  have hentries : o.entries = (bareMembers farLeap .event "leap").map Member.entry := unique _ _ ho
  have hnames : o.entries.map Prod.fst = ["id", "timestamp", "kind", "name"] := by
    rw [hentries]
    rfl
  rw [← ho] at hparse
  refine ⟨o, hentries, hparse, ?_, ?_, ?_, ?_⟩
  · refine ((each o).2.1 _ [("more", ['[', 'n', 'u', 'l', 'l', ']'].map .scalar)] ?_ ?_ _).2 hparse
    · simp [needed, possible]
    · simp [Object.entries, Object.printed, Member.entry, Member.printed]
  · refine ((each o).2.2.2.2 "value" (by decide) ?_ _ ?_ _).2 hparse
    · rw [hnames]
      decide
    · simp [Object.entries, Object.printed, Member.entry, Member.printed]
  · refine (each _).2.2.1 "name" (by decide) ?_
    have hlast : (Object.printed o.members.dropLast).entries.map Prod.fst =
        (o.entries.map Prod.fst).dropLast := by
      simp [Object.entries, Object.printed, List.map_dropLast]
    rw [hlast, hnames]
    decide
  · refine (each _).2.2.2.1 "id" (by decide) ?_
    have htwice : (Object.printed (o.members ++ o.members)).entries.map Prod.fst =
        o.entries.map Prod.fst ++ o.entries.map Prod.fst := by
      simp [Object.entries, Object.printed]
    rw [htwice, hnames]
    decide

end Item

end LiveTelemetry.Telemetry
