import LiveTelemetry.Proofs.Json.Objects
import LiveTelemetry.Telemetry.Parser
/-!
The fields of an item: how each is read, and where a draft holds it. Main statement: an item is
finished from what the draft holds under each field, or from what stands for it.
-/
namespace LiveTelemetry.Telemetry

open Json (Reader Blank Spelled)
open Text (Symbol)

section Readers

theorem sound_readId : readId.Sound := (Reader.sound_text _).refine _

theorem sound_readTime : readTime.Sound := (Reader.sound_text _).refine _

theorem sound_readText : readText.Sound := Reader.sound_text _

theorem closeKind_eq_ok_iff {s r : List Symbol} :
    closeKind s = .ok r ↔ ∃ w, Blank w ∧ s = w ++ .scalar '}' :: r := by
  have hbrace : Json.isSpace (.scalar '}') = false := rfl
  constructor
  · intro h
    unfold closeKind at h
    split at h
    · contradiction
    · rename_i c rest hc
      obtain ⟨w, hw, rfl⟩ := Json.exists_of_skipSpace hc
      split at h
      · rename_i hclosing
        obtain rfl := Except.ok.inj h
        exact ⟨w, hw, by rw [hclosing]⟩
      · contradiction
  · rintro ⟨w, hw, rfl⟩
    simp [closeKind, Json.skipSpace_append hw, Json.skipSpace_cons hbrace]

/-- A kind that is written as the one member of an object. -/
theorem soundAt_readKindMember : Reader.SoundAt (.scalar '{') readKindMember := by
  intro s k r h
  obtain ⟨⟨k', s₁⟩, hname, h⟩ := Json.bind_eq_ok.1 h
  obtain ⟨s₂, hcolon, h⟩ := Json.bind_eq_ok.1 h
  obtain ⟨⟨⟨⟩, s₃⟩, hnull, h⟩ := Json.bind_eq_ok.1 h
  obtain ⟨s₄, hclose, h⟩ := Json.bind_eq_ok.1 h
  obtain ⟨rfl, rfl⟩ := Prod.mk.inj (Except.ok.inj h)
  obtain ⟨a, ha, hkind⟩ := Reader.refine_eq_ok_iff.1 hname
  obtain ⟨w, key, hw, spells, rfl⟩ := Reader.text_eq_ok_iff.1 ha
  obtain ⟨w₁, hw₁, rfl⟩ := Json.Skip.exists_of_colon hcolon
  obtain ⟨w₂, v, hw₂, hv, htakes, rfl⟩ := Reader.sound_null "unit" _ _ _ hnull
  obtain ⟨w₃, hw₃, rfl⟩ := closeKind_eq_ok_iff.1 hclose
  have hlabel := Json.Label.curly hw spells.passable hw₁
  have hclosing : Spelled (.rest .curly false) (w₃ ++ [.scalar '}']) := .close hw₃
  refine ⟨_, .collection (.element Json.blank_nil hlabel hw₂ hv hclosing), by simp [Json.comma], ?_⟩
  intro r' _
  have hname' : ((Reader.text "variant identifier").refine kindOf).run
      (w ++ .scalar '"' :: (key ++ .scalar '"' :: (w₁ ++ .scalar ':' ::
        (w₂ ++ v ++ (w₃ ++ .scalar '}' :: r'))))) =
      .ok (k', w₁ ++ .scalar ':' :: (w₂ ++ v ++ (w₃ ++ .scalar '}' :: r'))) :=
    Reader.refine_eq_ok_iff.2 ⟨a, Reader.text_eq_ok_iff.2 ⟨w, key, hw, spells, rfl⟩, hkind⟩
  have hnull' := htakes w₂ (w₃ ++ .scalar '}' :: r') hw₂
    (by simpa using Json.closed_rest hclosing r')
  have hlist : [] ++ Json.comma true ++ (w ++ .scalar '"' :: (key ++ .scalar '"' ::
      (w₁ ++ [.scalar ':']))) ++ w₂ ++ v ++ (w₃ ++ [.scalar '}']) ++ r' =
      w ++ .scalar '"' :: (key ++ .scalar '"' :: (w₁ ++ .scalar ':' ::
        (w₂ ++ v ++ (w₃ ++ .scalar '}' :: r')))) := by simp [Json.comma]
  rw [hlist]
  refine Json.bind_eq_ok.2 ⟨_, hname', Json.bind_eq_ok.2 ⟨_, Json.colon_append hw₁ _, ?_⟩⟩
  refine Json.bind_eq_ok.2 ⟨_, hnull', Json.bind_eq_ok.2 ⟨r', ?_, rfl⟩⟩
  exact closeKind_eq_ok_iff.2 ⟨w₃, hw₃, rfl⟩

theorem sound_readKind (room : Nat) : (readKind room).Sound := by
  refine Reader.sound_afterSpace ?_
  intro c s k r h
  dsimp only at h ⊢
  split at h
  · rename_i hmark
    subst hmark
    exact (Reader.soundAt_string.refine kindOf) s k r h
  · split at h
    · rename_i hmark hbrace
      subst hbrace
      split at h
      · contradiction
      · rename_i hroom
        obtain ⟨t, ht, hs, hgoes⟩ := soundAt_readKindMember s k r h
        refine ⟨t, ht, hs, ?_⟩
        intro r' hr'
        rw [if_neg hmark, if_pos rfl, if_neg hroom]
        exact hgoes r' hr'
    · contradiction

theorem sound_readProperties (room : Nat) : (readProperties room).Sound := by
  refine Reader.sound_afterSpace ?_
  intro c s ms r h
  dsimp only at h ⊢
  split at h
  · contradiction
  · rename_i inner hc
    obtain rfl := Json.Skip.eq_of_start.2 hc
    have sound : ∀ p ∈ some (Reader.value inner), p.Sound := by
      rintro p ⟨⟩
      exact Reader.sound_value inner
    exact Reader.soundAt_object sound s ms r h
  · contradiction

end Readers

namespace Item

/-- The members of an item that mean something. -/
inductive Field where
  | id
  | time
  | kind
  | name
  | value
  | properties
  deriving DecidableEq

namespace Field

def label : Field → String
  | id => "id"
  | time => "timestamp"
  | kind => "kind"
  | name => "name"
  | value => "value"
  | properties => "properties"

def Content : Field → Type
  | id => Uuid
  | time => Instant
  | kind => Kind
  | name => String
  | value => Option Float
  | properties => Option Members

def reader (room : Nat) : (f : Field) → Reader f.Content
  | id => readId
  | time => readTime
  | kind => readKind room
  | name => readText
  | value => Reader.optional Reader.float
  | properties => Reader.optional (readProperties room)

/-- What stands for a member that is not there, if it need not be. -/
def default? : (f : Field) → Option f.Content
  | id => none
  | time => none
  | kind => none
  | name => none
  | value => some none
  | properties => some none

def get (d : Draft) : (f : Field) → Option f.Content
  | id => d.id
  | time => d.time
  | kind => d.kind
  | name => d.name
  | value => d.value
  | properties => d.properties

def set (d : Draft) : (f : Field) → f.Content → Draft
  | id, v => { d with id := some v }
  | time, v => { d with time := some v }
  | kind, v => { d with kind := some v }
  | name, v => { d with name := some v }
  | value, v => { d with value := some v }
  | properties, v => { d with properties := some v }

/-- What an item has under a field. -/
def content (i : Item) : (f : Field) → f.Content
  | id => i.stamp.id
  | time => i.stamp.time
  | kind => i.kind
  | name => i.name
  | value => i.value
  | properties => i.properties

theorem label_inj {f g : Field} (h : f.label = g.label) : f = g := by
  cases f <;> cases g <;> first | rfl | exact absurd h (by decide)

theorem get_set_self (d : Draft) (f : Field) (a : f.Content) : f.get (f.set d a) = some a := by
  cases f <;> rfl

theorem get_set_of_ne (d : Draft) {f g : Field} (h : f ≠ g) (a : g.Content) :
    f.get (g.set d a) = f.get d := by
  cases f <;> cases g <;> first | rfl | contradiction

theorem sound_reader (room : Nat) (f : Field) : (f.reader room).Sound := by
  cases f with
  | id => exact sound_readId
  | time => exact sound_readTime
  | kind => exact sound_readKind room
  | name => exact sound_readText
  | value => exact Reader.sound_float.optional
  | properties => exact (sound_readProperties room).optional

end Field

namespace Draft

/-- The draft that holds this under each field. -/
def holding (held : (f : Field) → Option f.Content) : Draft :=
  ⟨held .id, held .time, held .kind, held .name, held .value, held .properties⟩

theorem get_holding (held : (f : Field) → Option f.Content) (f : Field) :
    f.get (holding held) = held f := by
  cases f <;> rfl

theorem holding_get (d : Draft) : holding (fun f => f.get d) = d := rfl

theorem ext_get {d d' : Draft} (h : ∀ f : Field, f.get d = f.get d') : d = d' := by
  have hheld : (fun f : Field => f.get d) = fun f => f.get d' := funext h
  rw [← holding_get d, hheld, holding_get]

theorem get_empty (f : Field) : f.get empty = none := by
  cases f <;> rfl

/-- A member of a known name is read once, for its field. -/
theorem member_label (room : Nat) (d : Draft) (f : Field) :
    d.member room f.label = once f.label (f.get d) ((f.reader room).map (f.set d)) := by
  cases f <;> rfl

/-- A member of another name is passed over. -/
theorem member_other (room : Nat) (d : Draft) {name : String} (h : ∀ f : Field, name ≠ f.label) :
    d.member room name = .ok (Reader.ignored.map fun _ => d) := by
  unfold member
  split
  · exact absurd rfl (h .id)
  · exact absurd rfl (h .time)
  · exact absurd rfl (h .kind)
  · exact absurd rfl (h .name)
  · exact absurd rfl (h .value)
  · exact absurd rfl (h .properties)
  · rfl

theorem required_eq_ok_iff {name : String} {held : Option α} {a : α} :
    required name held = .ok a ↔ held.or none = some a := by
  cases held <;> simp [required]

theorem or_some_none_eq_some_iff {held : Option (Option α)} {a : Option α} :
    held.or (some none) = some a ↔ held.getD none = a := by
  cases held <;> simp

/-- An item is finished from what its fields hold, and from what stands for the others. -/
theorem finish_eq_ok_iff (d : Draft) (i : Item) :
    d.finish = .ok i ↔ ∀ f : Field, (f.get d).or f.default? = some (f.content i) := by
  constructor
  · intro h f
    obtain ⟨id, hid, h⟩ := Json.bind_eq_ok.1 h
    obtain ⟨time, htime, h⟩ := Json.bind_eq_ok.1 h
    obtain ⟨kind, hkind, h⟩ := Json.bind_eq_ok.1 h
    obtain ⟨name, hname, h⟩ := Json.bind_eq_ok.1 h
    obtain rfl := Except.ok.inj h
    cases f with
    | id => exact required_eq_ok_iff.1 hid
    | time => exact required_eq_ok_iff.1 htime
    | kind => exact required_eq_ok_iff.1 hkind
    | name => exact required_eq_ok_iff.1 hname
    | value => exact or_some_none_eq_some_iff.2 rfl
    | properties => exact or_some_none_eq_some_iff.2 rfl
  · intro h
    have hid : required "id" d.id = .ok i.stamp.id := required_eq_ok_iff.2 (h .id)
    have htime : required "timestamp" d.time = .ok i.stamp.time := required_eq_ok_iff.2 (h .time)
    have hkind : required "kind" d.kind = .ok i.kind := required_eq_ok_iff.2 (h .kind)
    have hname : required "name" d.name = .ok i.name := required_eq_ok_iff.2 (h .name)
    have hvalue : d.value.getD none = i.value := or_some_none_eq_some_iff.1 (h .value)
    have hproperties : d.properties.getD none = i.properties :=
      or_some_none_eq_some_iff.1 (h .properties)
    refine Json.bind_eq_ok.2 ⟨_, hid, Json.bind_eq_ok.2 ⟨_, htime, Json.bind_eq_ok.2 ⟨_, hkind,
      Json.bind_eq_ok.2 ⟨_, hname, ?_⟩⟩⟩⟩
    rw [hvalue, hproperties]

end Draft

end Item

end LiveTelemetry.Telemetry
