import LiveTelemetry.Proofs.Json.RoundTrip
import LiveTelemetry.Proofs.Telemetry.Made
import LiveTelemetry.Proofs.Text.Utf8
import LiveTelemetry.Proofs.Time.RoundTrip
import LiveTelemetry.Telemetry.Printer
/-!
Items and batches as JSON text. Main statement: what is printed is read for itself, to the
nanosecond and whatever the order of its properties, but for the endpoint of a batch, which its text
says nothing about.
-/
namespace LiveTelemetry.Telemetry

open Json (Reader Folds escapeChar printString printObject printList)
open Text

theorem quoted_eq {cs : List Char} (h : ∀ c ∈ cs, escapeChar c = [c]) :
    quoted cs = printString (String.ofList cs) := by
  have hflat : cs.flatMap escapeChar = cs := by
    rw [List.flatMap_congr h, List.flatMap_singleton']
  simp [quoted, printString, hflat]

theorem escapeChar_of_isDigit {c : Char} (h : c.isDigit = true) : escapeChar c = [c] := by
  have hne {d : Char} (hd : d.isDigit = false) : c ≠ d := by
    rintro rfl
    rw [h] at hd
    contradiction
  have hcontrol : ¬ c.toNat < 0x20 := by
    have hrange : 48 ≤ c.toNat ∧ c.toNat ≤ 57 := Char.isDigit_iff_toNat.1 h
    omega
  rw [escapeChar, if_neg (hne rfl), if_neg (hne rfl), if_neg (hne rfl), if_neg (hne rfl),
    if_neg (hne rfl), if_neg (hne rfl), if_neg (hne rfl), if_neg hcontrol]

theorem mem_hyphenate {ns : List Nat} {s : List Char} {c : Char} (h : c ∈ Uuid.hyphenate ns s) :
    c = '-' ∨ c ∈ s := by
  induction ns generalizing s with
  | nil => exact .inr h
  | cons n ns ih =>
    rw [Uuid.hyphenate, List.mem_append, List.mem_cons] at h
    rcases h with h | h | h
    · exact .inr (List.mem_of_mem_take h)
    · exact .inl h
    · exact (ih h).imp_right List.mem_of_mem_drop

theorem reads_id (u : Uuid) : readId.Reads (quoted u.print) u := by
  have hhex : ∀ d : Fin 16, escapeChar (Text.hexDigit d) = [Text.hexDigit d] := by decide
  have hplain : ∀ c ∈ u.print, escapeChar c = [c] := by
    intro c hc
    rcases mem_hyphenate hc with rfl | hc
    · decide
    · obtain ⟨d, -, rfl⟩ := List.mem_map.1 hc
      exact hhex d
  rw [quoted_eq hplain]
  refine (Reader.reads_text _ _).refine ?_
  simp

/-- A moment is written without anything that would have to be escaped. -/
theorem escapeChar_of_mem_print {i : Instant} : ∀ c ∈ i.print, escapeChar c = [c] := by
  have hdigits (width n : Nat) : ∀ c ∈ Instant.padded width n, escapeChar c = [c] :=
    fun c hc => escapeChar_of_isDigit (Instant.isDigit_of_mem_padded hc)
  have hyear : ∀ c ∈ Instant.printYear i.date.year, escapeChar c = [c] := by
    unfold Instant.printYear
    split
    · exact hdigits _ _
    · refine List.forall_mem_cons.2 ⟨?_, hdigits _ _⟩
      split <;> decide
  have hfraction : ∀ c ∈ Instant.printFraction i.nanos, escapeChar c = [c] := by
    have hpoint (width n : Nat) : ∀ c ∈ '.' :: Instant.padded width n, escapeChar c = [c] :=
      List.forall_mem_cons.2 ⟨by decide, hdigits width n⟩
    unfold Instant.printFraction
    split
    · simp
    · split
      · exact hpoint _ _
      · split <;> exact hpoint _ _
  have hmark {mark : Char} (h : escapeChar mark = [mark]) (n : Nat) :
      ∀ c ∈ mark :: Instant.padded 2 n, escapeChar c = [c] :=
    List.forall_mem_cons.2 ⟨h, hdigits 2 n⟩
  simp only [Instant.print, Instant.printWith, List.forall_mem_append]
  exact ⟨⟨⟨⟨⟨⟨⟨hyear, hmark (by decide) _⟩, hmark (by decide) _⟩, hmark (by decide) _⟩,
    hmark (by decide) _⟩, hmark (by decide) _⟩, hfraction⟩, List.forall_mem_singleton.2 (by decide)⟩

theorem reads_time (i : Instant) : readTime.Reads (quoted i.print) i := by
  rw [quoted_eq escapeChar_of_mem_print]
  refine (Reader.reads_text _ _).refine ?_
  simp [Instant.read?_print]

theorem reads_kind (room : Nat) (k : Kind) : (readKind room).Reads (printString k.name) k := by
  refine Reader.reads_afterSpace '"' (k.name.toList.flatMap escapeChar ++ ['"']) rfl (by decide) ?_
  intro rest _
  have hrun := Json.Str.reader_run k.name rest
  simp only [if_true, Reader.refine, hrun, kindOf, Kind.ofName?_name]

/-- Properties are read for themselves, in whatever order they were printed. -/
theorem reads_properties {room : Nat} {ms new : Members} (plain : (Json.obj ms).Plain)
    (ordered : ms.Ordered) (hdepth : (Json.obj ms).depth ≤ room) (perm : new.Perm ms) :
    (readProperties room).Reads (Json.obj new).print ms := by
  obtain ⟨inner, rfl⟩ : ∃ inner, room = inner + 1 :=
    Nat.exists_eq_succ_of_ne_zero (by rw [Json.depth] at hdepth; omega)
  have hinner : Json.depthOfValues ms ≤ inner := Nat.le_of_succ_le_succ hdepth
  have hreads : ∀ m ∈ new, (Reader.value inner).Reads m.2.print m.2 := by
    intro m hm
    have hms : m ∈ ms := perm.mem_iff.1 hm
    cases plain with
    | obj each =>
      exact Reader.reads_value (each m hms) (ordered.2 m hms)
        (Nat.le_trans (Json.depth_le_depthOfValues hms) hinner)
  refine Reader.reads_afterSpace '{' _ rfl (by decide) ?_
  intro rest _
  exact Reader.object_run hreads ordered.1 perm rest

/-- A structure is read from its members, printed. -/
theorem reads_structure {name : String} {room : Nat}
    {object list : Nat → List Symbol → Except Json.Fault (α × List Symbol)}
    {ho : ∀ {n s a r}, object n s = .ok (a, r) → r.length < s.length}
    {hl : ∀ {n s a r}, list n s = .ok (a, r) → r.length < s.length} {a : α}
    (ms : List (String × List Char))
    (h : ∀ rest, object room ((Json.commas (ms.map fun (n, v) => Json.printMember n v) ++
      ['}']).map .scalar ++ rest) = .ok (a, rest)) :
    (readStructure name (room + 1) object list @ho @hl).Reads (printObject ms) a := by
  refine Reader.reads_afterSpace '{' _ rfl (by decide) ?_
  intro rest _
  exact h rest

namespace Item

/-- Whether JSON text keeps an item, in as many brackets one inside the other as there is room
for. -/
structure Plain (i : Item) (room : Nat) : Prop where
  value : i.value = none
  properties : ∀ ms ∈ i.properties, (Json.obj ms).Plain ∧ (Json.obj ms).depth + 1 ≤ room

theorem Plain.mono {i : Item} {m n : Nat} (h : i.Plain m) (hle : m ≤ n) : i.Plain n := by
  refine ⟨h.value, ?_⟩
  intro ms hms
  obtain ⟨hplain, hdepth⟩ := h.properties ms hms
  exact ⟨hplain, Nat.le_trans hdepth hle⟩

/-- The same item, with its properties in any order. -/
inductive Shuffled (i : Item) : Item → Prop where
  | none (bare : i.properties = none) : Shuffled i i
  | some {ms new : Members} (properties : i.properties = some ms) (perm : new.Perm ms) :
    Shuffled i { i with properties := some new }

/-- The members that every item has fill a draft but for its properties. -/
theorem folds_head {room : Nat} {stamp : Stamp} {kind : Kind} {name : String}
    {tail : List (String × List Char)} {out : Draft}
    (h : Folds (Draft.member room)
      ⟨some stamp.id, some stamp.time, some kind, some name, none, none⟩ tail out) :
    Folds (Draft.member room) Draft.empty ([("id", quoted stamp.id.print),
      ("timestamp", quoted stamp.time.print), ("kind", printString kind.name),
      ("name", printString name)] ++ tail) out := by
  refine .cons rfl ((reads_id stamp.id).map _) ?_
  refine .cons rfl ((reads_time stamp.time).map _) ?_
  refine .cons rfl ((reads_kind room kind).map _) ?_
  exact .cons rfl ((Reader.reads_text _ name).map _) h

/-- The members of a printed item fill a draft. -/
theorem folds_members {room : Nat} {i j : Item} (ordered : i.Ordered) (plain : i.Plain (room + 1))
    (shuffled : i.Shuffled j) :
    Folds (Draft.member room) Draft.empty j.members
      ⟨some i.stamp.id, some i.stamp.time, some i.kind, some i.name, none,
        i.properties.map some⟩ := by
  cases shuffled with
  | none bare =>
    simp only [members, plain.value, bare, Option.map_none, Option.toList_none, List.append_nil]
    exact folds_head (.nil _)
  | @some ms new properties perm =>
    simp only [members, plain.value, properties, Option.map_none, Option.map_some,
      Option.toList_none, Option.toList_some, List.append_nil]
    obtain ⟨hplain, hdepth⟩ := plain.properties ms properties
    have hreads := reads_properties hplain (ordered ms properties)
      (Nat.le_of_succ_le_succ hdepth) perm
    have hoptional := hreads.optional (by simp [Json.print, printObject])
    exact folds_head (.cons rfl (hoptional.map _) (.nil _))

/-- A printed item is read for itself. -/
theorem reads_print {room : Nat} {i j : Item} (ordered : i.Ordered) (plain : i.Plain (room + 1))
    (shuffled : i.Shuffled j) : (reader (room + 1)).Reads j.print i := by
  refine reads_structure j.members ?_
  intro rest
  have hrun := Json.members_printed (folds_members ordered plain shuffled) rest
  refine Json.bind_eq_ok.2 ⟨_, hrun, Json.bind_eq_ok.2 ⟨i, ?_, rfl⟩⟩
  have hvalue := plain.value
  obtain ⟨stamp, kind, name, value, properties⟩ := i
  subst hvalue
  cases properties <;> rfl

end Item

namespace Batch

theorem forall₂_reads {room : Nat} {items shown : List Item} (ordered : ∀ i ∈ items, i.Ordered)
    (plain : ∀ i ∈ items, i.Plain (room + 1))
    (shuffled : List.Forall₂ Item.Shuffled items shown) :
    List.Forall₂ (Item.reader (room + 1)).Reads (shown.map Item.print) items := by
  induction shuffled with
  | nil => exact .nil
  | cons first _ ih =>
    obtain ⟨hordered, horderedRest⟩ := List.forall_mem_cons.1 ordered
    obtain ⟨hplain, hplainRest⟩ := List.forall_mem_cons.1 plain
    exact .cons (Item.reads_print hordered hplain first) (ih horderedRest hplainRest)

theorem reads_items {room : Nat} {items shown : List Item} (ordered : ∀ i ∈ items, i.Ordered)
    (plain : ∀ i ∈ items, i.Plain (room + 1)) (shuffled : List.Forall₂ Item.Shuffled items shown) :
    (readItems (room + 2)).Reads (printList (shown.map Item.print)) items := by
  refine Reader.reads_afterSpace '[' _ rfl (by decide) ?_
  intro rest _
  exact Json.elements_printed (forall₂_reads ordered plain shuffled) rest

/-- A printed batch is read for itself, but for its endpoint. -/
theorem reads_print {room : Nat} {b : Batch} {shown : List Item}
    (ordered : ∀ i ∈ b.items, i.Ordered)
    (plain : ∀ i ∈ b.items, i.Plain (room + 1))
    (shuffled : List.Forall₂ Item.Shuffled b.items shown) (endpoint : Option String) :
    (reader (room + 3)).Reads (Batch.print ⟨b.stamp, b.source, shown, endpoint⟩)
      { b with endpoint := none } := by
  refine reads_structure (members ⟨b.stamp, b.source, shown, endpoint⟩) ?_
  intro rest
  have hfolds : Folds (Draft.member (room + 2)) Draft.empty
      (members ⟨b.stamp, b.source, shown, endpoint⟩)
      ⟨some b.stamp.id, some b.stamp.time, some b.source, some b.items⟩ := by
    refine .cons rfl ((reads_id b.stamp.id).map _) ?_
    refine .cons rfl ((reads_time b.stamp.time).map _) ?_
    refine .cons rfl ((Reader.reads_text _ b.source).map _) ?_
    exact .cons rfl ((reads_items ordered plain shuffled).map _) (.nil _)
  exact Json.bind_eq_ok.2 ⟨_, Json.members_printed hfolds rest, rfl⟩

end Batch

/-- The bytes of an item that JSON keeps tell all there is to it, and so do the bytes of a batch of
such items, but for its endpoint, which they say nothing about. -/
theorem nothing_lost :
    (∀ i : Item, i.Made → i.Plain Json.maxDepth → ∀ shown, i.Shuffled shown →
      Item.parse (Utf8.decode (Utf8.encode shown.print)) = .ok i) ∧
    ∀ b : Batch, b.Made → (∀ i ∈ b.items, i.Plain (Json.maxDepth - 2)) →
      ∀ shown, List.Forall₂ Item.Shuffled b.items shown → ∀ endpoint,
        Batch.parse (Utf8.decode (Utf8.encode
          (Batch.print ⟨b.stamp, b.source, shown, endpoint⟩))) = .ok { b with endpoint := none } ∧
        Batch.print ⟨b.stamp, b.source, shown, endpoint⟩ =
          Batch.print ⟨b.stamp, b.source, shown, b.endpoint⟩ := by
  refine ⟨?_, ?_⟩
  · intro i made plain shown shuffled
    rw [Utf8.decode_encode]
    exact (Item.reads_print made.ordered plain shuffled).readAll
  · intro b made plain shown shuffled endpoint
    rw [Utf8.decode_encode]
    exact ⟨(Batch.reads_print made.ordered plain shuffled endpoint).readAll, rfl⟩

/-- The leap second at the end of a year of five digits. -/
def farLeap : Stamp :=
  ⟨Uuid.nil, ⟨⟨12345, 12, 31, by decide, by decide, by decide⟩, 23, 59, 60, 123456789, by decide,
    by decide, by decide, by decide⟩⟩

/-- A list with the least integer of 64 bits and an object in it. -/
def nested : Json := .arr [.null, .int (-0x8000000000000000), .obj [("k", .bool true)]]

/-- An item of that time, whose name has a control in it and whose properties stand in no order
when they are given. -/
def farItem : Item :=
  ((Item.make farLeap .event "\"\x01é").withProperty "z" nested).withProperty "a" .null

theorem farItem_properties : farItem.properties = some [("a", .null), ("z", nested)] := rfl

theorem farItem_made : farItem.Made := by
  refine .withProperty (.withProperty (.make _ _ _) "z" (.arr ?_)) "a" .null
  simp only [List.forall_mem_cons]
  exact ⟨.null, .int _, .obj (List.pairwise_singleton _ _) (by simpa using .bool true), by simp⟩

theorem farItem_plain : farItem.Plain 5 := by
  refine ⟨rfl, ?_⟩
  intro ms hms
  obtain rfl := Option.some.inj (farItem_properties.symm.trans hms)
  refine ⟨.obj ?_, by decide⟩
  simp only [List.forall_mem_cons]
  refine ⟨.null, .arr ?_, by simp⟩
  simp only [List.forall_mem_cons]
  exact ⟨.null, .int (by decide), .obj (by simpa using .bool true), by simp⟩

/-- The properties may be written in the other order, and the batch may be for any endpoint. -/
theorem nothing_lost_of_far_item :
    ∃ shown, farItem.Shuffled shown ∧ shown.properties = some [("z", nested), ("a", .null)] ∧
      Item.parse (Utf8.decode (Utf8.encode shown.print)) = .ok farItem ∧
      Batch.parse (Utf8.decode (Utf8.encode
        (Batch.print ⟨farLeap, "edge", [shown], some "https://west"⟩))) =
          .ok ⟨farLeap, "edge", [farItem], none⟩ := by
  have shuffled : farItem.Shuffled
      { farItem with properties := some [("z", nested), ("a", .null)] } :=
    .some farItem_properties (.swap _ _ _)
  have made : Batch.Made ⟨farLeap, "edge", [farItem], none⟩ :=
    .make _ _ (by simpa using farItem_made) none
  have plain : ∀ i ∈ [farItem], i.Plain (Json.maxDepth - 2) := by
    simpa using farItem_plain.mono (by decide)
  exact ⟨_, shuffled, rfl,
    nothing_lost.1 farItem farItem_made (farItem_plain.mono (by decide)) _ shuffled,
    (nothing_lost.2 _ made plain _ (.cons shuffled .nil) (some "https://west")).1⟩

end LiveTelemetry.Telemetry
