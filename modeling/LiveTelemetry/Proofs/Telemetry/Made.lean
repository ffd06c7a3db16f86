import LiveTelemetry.Proofs.Json.Ordered
import LiveTelemetry.Telemetry.Parser
/-!
Items and batches as they come about. Main statement: the properties of an item that is made step by
step, or read, are in order throughout.
-/
namespace LiveTelemetry.Telemetry

open Json (Reader)
open Text (Symbol)

namespace Item

/-- Items that are made from a kind and a name, with values and properties set one by one, or that
are read. -/
inductive Made : Item → Prop where
  | make (stamp : Stamp) (kind : Kind) (name : String) : Made (make stamp kind name)
  | withValue {i : Item} (made : Made i) (value : Float) : Made (i.withValue value)
  | withProperty {i : Item} (made : Made i) (name : String) {value : Json}
    (ordered : value.Ordered) : Made (i.withProperty name value)
  | parse {s : List Symbol} {i : Item} (parsed : Item.parse s = .ok i) : Made i

/-- The properties, if there are any, are in order throughout. -/
def Ordered (i : Item) : Prop := ∀ ms ∈ i.properties, ms.Ordered

end Item

theorem eq_of_once {name : String} {held : Option α} {p q : Reader β}
    (h : once name held p = .ok q) : q = p := by
  unfold once at h
  split at h
  · contradiction
  · exact (Except.ok.inj h).symm

theorem exists_of_optional {p : Reader α} {s r : List Symbol} {o : Option α}
    (h : (Reader.optional p).run s = .ok (o, r)) : ∀ a ∈ o, ∃ t u, p.run t = .ok (a, u) := by
  rintro a rfl
  simp only [Reader.optional] at h
  split at h
  · obtain ⟨_, -, h⟩ := Json.map_eq_ok.1 h
    cases h
  · obtain ⟨b, hb, hab⟩ := Reader.map_run h
    obtain rfl := Option.some.inj hab
    exact ⟨_, _, hb⟩
  · obtain ⟨b, hb, hab⟩ := Reader.map_run h
    obtain rfl := Option.some.inj hab
    exact ⟨_, _, hb⟩

/-- What is read as an object or as a list has what both have. -/
theorem of_readStructure {P : α → Prop} {name : String} {room : Nat}
    {object list : Nat → List Symbol → Except Json.Fault (α × List Symbol)}
    {ho : ∀ {n s a r}, object n s = .ok (a, r) → r.length < s.length}
    {hl : ∀ {n s a r}, list n s = .ok (a, r) → r.length < s.length}
    (hobject : ∀ {n s a r}, object n s = .ok (a, r) → P a)
    (hlist : ∀ {n s a r}, list n s = .ok (a, r) → P a) {s r : List Symbol} {a : α}
    (h : (readStructure name room object list @ho @hl).run s = .ok (a, r)) : P a := by
  simp only [readStructure, Reader.afterSpace] at h
  split at h
  · contradiction
  · split at h
    · contradiction
    · exact hobject h
    · contradiction
    · exact hlist h
    · contradiction

theorem exists_of_readAll {p : Reader α} {s : List Symbol} {a : α}
    (h : Json.readAll p s = .ok a) : ∃ r, p.run s = .ok (a, r) := by
  obtain ⟨⟨b, r⟩, hb, h⟩ := Json.bind_eq_ok.1 h
  dsimp only at h
  split at h
  · obtain rfl := Except.ok.inj h
    exact ⟨r, hb⟩
  · contradiction

theorem ordered_of_readProperties {room : Nat} {s r : List Symbol} {ms : Members}
    (h : (readProperties room).run s = .ok (ms, r)) : ms.Ordered := by
  simp only [readProperties, Reader.afterSpace] at h
  split at h
  · contradiction
  · split at h
    · contradiction
    · exact Reader.ordered_of_object Reader.ordered_of_value h
    · contradiction

theorem exists_of_readNth {p : Reader α} {n : Nat} {expected : String} {s r : List Symbol} {a : α}
    (h : readNth p n expected s = .ok (a, r)) : ∃ t, p.run t = .ok (a, r) := by
  unfold readNth at h
  split at h
  · contradiction
  · contradiction
  · exact ⟨_, h⟩

namespace Item

theorem Made.metric (stamp : Stamp) (name : String) (value : Float) :
    Made (Item.metric stamp name value) :=
  .withValue (.make stamp .metric name) value

/-- The properties of a draft, if they have been read, are in order throughout. -/
def Draft.Ordered (d : Draft) : Prop := ∀ o ∈ d.properties, ∀ ms ∈ o, ms.Ordered

theorem Draft.Ordered.member {room : Nat} {d out : Draft} {name : String} {q : Reader Draft}
    {s r : List Symbol} (h : d.Ordered) (hq : Draft.member room d name = .ok q)
    (hrun : q.run s = .ok (out, r)) : out.Ordered := by
  unfold Draft.member at hq
  split at hq
  case h_6 =>
    obtain rfl := eq_of_once hq
    obtain ⟨o, ho, rfl⟩ := Reader.map_run hrun
    rintro _ ⟨⟩ ms hms
    obtain ⟨t, u, ht⟩ := exists_of_optional ho ms hms
    exact ordered_of_readProperties ht
  case h_7 =>
    obtain rfl := Except.ok.inj hq
    obtain ⟨_, -, rfl⟩ := Reader.map_run hrun
    exact h
  all_goals
    obtain rfl := eq_of_once hq
    obtain ⟨_, -, rfl⟩ := Reader.map_run hrun
    exact h

theorem ordered_of_readObject {room : Nat} {s r : List Symbol} {i : Item}
    (h : readObject room s = .ok (i, r)) : i.Ordered := by
  obtain ⟨⟨d, t⟩, hd, h⟩ := Json.bind_eq_ok.1 h
  obtain ⟨item, hitem, h⟩ := Json.bind_eq_ok.1 h
  obtain ⟨rfl, -⟩ := Prod.mk.inj (Except.ok.inj h)
  have hempty : Draft.empty.Ordered := by simp [Draft.Ordered, Draft.empty]
  have hdraft : d.Ordered := Json.members_keeps Draft.Ordered.member hempty hd
  obtain ⟨id, -, hitem⟩ := Json.bind_eq_ok.1 hitem
  obtain ⟨time, -, hitem⟩ := Json.bind_eq_ok.1 hitem
  obtain ⟨kind, -, hitem⟩ := Json.bind_eq_ok.1 hitem
  obtain ⟨name, -, hitem⟩ := Json.bind_eq_ok.1 hitem
  obtain rfl := Except.ok.inj hitem
  intro ms hms
  cases hp : d.properties with
  | none => simp [hp] at hms
  | some o => exact hdraft o hp ms (by simpa [hp] using hms)

theorem ordered_of_readList {room : Nat} {s r : List Symbol} {i : Item}
    (h : readList room s = .ok (i, r)) : i.Ordered := by
  obtain ⟨⟨id, s₁⟩, -, h⟩ := Json.bind_eq_ok.1 h
  obtain ⟨⟨time, s₂⟩, -, h⟩ := Json.bind_eq_ok.1 h
  obtain ⟨⟨kind, s₃⟩, -, h⟩ := Json.bind_eq_ok.1 h
  obtain ⟨⟨name, s₄⟩, -, h⟩ := Json.bind_eq_ok.1 h
  obtain ⟨⟨value, s₅⟩, -, h⟩ := Json.bind_eq_ok.1 h
  obtain ⟨⟨properties, s₆⟩, hproperties, h⟩ := Json.bind_eq_ok.1 h
  obtain ⟨s₇, -, h⟩ := Json.bind_eq_ok.1 h
  obtain ⟨rfl, -⟩ := Prod.mk.inj (Except.ok.inj h)
  intro ms hms
  obtain ⟨t, ht⟩ := exists_of_readNth hproperties
  obtain ⟨u, v, hu⟩ := exists_of_optional ht ms hms
  exact ordered_of_readProperties hu

theorem ordered_of_reader {room : Nat} {s r : List Symbol} {i : Item}
    (h : (reader room).run s = .ok (i, r)) : i.Ordered :=
  of_readStructure ordered_of_readObject ordered_of_readList h

/-- However an item is made, its properties are in order throughout. -/
theorem Made.ordered {i : Item} (h : i.Made) : i.Ordered := by
  induction h with
  | make => simp [Item.make, Item.Ordered]
  | withValue _ _ ih => exact ih
  | @withProperty i _ name value hvalue ih =>
    rintro ms ⟨⟩
    refine Members.Ordered.insert ?_ name hvalue
    cases hp : i.properties with
    | none => exact Members.Ordered.nil
    | some ms => exact ih ms hp
  | parse parsed =>
    obtain ⟨r, hr⟩ := exists_of_readAll parsed
    exact ordered_of_reader hr

end Item

namespace Batch

/-- Batches that are made of items, or that are read. -/
inductive Made : Batch → Prop where
  | make (stamp : Stamp) (source : String) {items : List Item} (each : ∀ i ∈ items, i.Made)
    (endpoint : Option String) : Made ⟨stamp, source, items, endpoint⟩
  | parse {s : List Symbol} {b : Batch} (parsed : Batch.parse s = .ok b) : Made b

theorem ordered_of_readItems {room : Nat} {s r : List Symbol} {items : List Item}
    (h : (readItems room).run s = .ok (items, r)) : ∀ i ∈ items, i.Ordered := by
  simp only [readItems, Reader.afterSpace] at h
  split at h
  · contradiction
  · split at h
    · contradiction
    · exact Json.elements_forall Item.ordered_of_reader (by simp) h
    · contradiction

/-- The items of a draft, if they have been read, have their properties in order. -/
def Draft.Ordered (d : Draft) : Prop := ∀ items ∈ d.items, ∀ i ∈ items, i.Ordered

theorem Draft.Ordered.member {room : Nat} {d out : Draft} {name : String} {q : Reader Draft}
    {s r : List Symbol} (h : d.Ordered) (hq : Draft.member room d name = .ok q)
    (hrun : q.run s = .ok (out, r)) : out.Ordered := by
  unfold Draft.member at hq
  split at hq
  case h_4 =>
    obtain rfl := eq_of_once hq
    obtain ⟨items, hitems, rfl⟩ := Reader.map_run hrun
    rintro _ ⟨⟩
    exact ordered_of_readItems hitems
  case h_5 =>
    obtain rfl := Except.ok.inj hq
    obtain ⟨_, -, rfl⟩ := Reader.map_run hrun
    exact h
  all_goals
    obtain rfl := eq_of_once hq
    obtain ⟨_, -, rfl⟩ := Reader.map_run hrun
    exact h

theorem ordered_of_readObject {room : Nat} {s r : List Symbol} {b : Batch}
    (h : readObject room s = .ok (b, r)) : ∀ i ∈ b.items, i.Ordered := by
  obtain ⟨⟨d, t⟩, hd, h⟩ := Json.bind_eq_ok.1 h
  obtain ⟨batch, hbatch, h⟩ := Json.bind_eq_ok.1 h
  obtain ⟨rfl, -⟩ := Prod.mk.inj (Except.ok.inj h)
  have hempty : Draft.empty.Ordered := by simp [Draft.Ordered, Draft.empty]
  have hdraft : d.Ordered := Json.members_keeps Draft.Ordered.member hempty hd
  obtain ⟨id, -, hbatch⟩ := Json.bind_eq_ok.1 hbatch
  obtain ⟨time, -, hbatch⟩ := Json.bind_eq_ok.1 hbatch
  obtain ⟨source, -, hbatch⟩ := Json.bind_eq_ok.1 hbatch
  obtain ⟨items, hitems, hbatch⟩ := Json.bind_eq_ok.1 hbatch
  obtain rfl := Except.ok.inj hbatch
  unfold required at hitems
  split at hitems
  · rename_i held heq
    obtain rfl := Except.ok.inj hitems
    exact hdraft _ heq
  · contradiction

theorem ordered_of_readList {room : Nat} {s r : List Symbol} {b : Batch}
    (h : readList room s = .ok (b, r)) : ∀ i ∈ b.items, i.Ordered := by
  obtain ⟨⟨id, s₁⟩, -, h⟩ := Json.bind_eq_ok.1 h
  obtain ⟨⟨time, s₂⟩, -, h⟩ := Json.bind_eq_ok.1 h
  obtain ⟨⟨source, s₃⟩, -, h⟩ := Json.bind_eq_ok.1 h
  obtain ⟨⟨items, s₄⟩, hitems, h⟩ := Json.bind_eq_ok.1 h
  obtain ⟨s₅, -, h⟩ := Json.bind_eq_ok.1 h
  obtain ⟨rfl, -⟩ := Prod.mk.inj (Except.ok.inj h)
  obtain ⟨t, ht⟩ := exists_of_readNth hitems
  exact ordered_of_readItems ht

/-- However a batch is made, its items have their properties in order. -/
theorem Made.ordered {b : Batch} (h : b.Made) : ∀ i ∈ b.items, i.Ordered := by
  cases h with
  | make stamp source each endpoint => exact fun i hi => (each i hi).ordered
  | parse parsed =>
    obtain ⟨r, hr⟩ := exists_of_readAll parsed
    exact of_readStructure (P := fun b => ∀ i ∈ b.items, i.Ordered) ordered_of_readObject
      ordered_of_readList hr

end Batch

end LiveTelemetry.Telemetry
