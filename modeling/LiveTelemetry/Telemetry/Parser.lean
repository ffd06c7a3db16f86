import LiveTelemetry.Json.Skip
import LiveTelemetry.Telemetry.Item
import LiveTelemetry.Time.Rfc3339
/-!
Reading items and batches from JSON text: as objects, whose members may come in any order and may
have others among them, or as lists of the members' values in their order.
-/
namespace LiveTelemetry.Telemetry

open Json (Reader Fault Next nextElement endList members colon start mismatch skipSpace)
open Text (Symbol)

/-- An identifier. -/
def readId : Reader Uuid :=
  (Reader.text "a formatted UUID string").refine fun s =>
    match Uuid.read? s.toList with
    | some u => .ok u
    | none => .error .badId

/-- A moment. -/
def readTime : Reader Instant :=
  (Reader.text "an RFC 3339 formatted date and time string").refine fun s =>
    match Instant.read? s.toList with
    | some i => .ok i
    | none => .error .badTime

def readText : Reader String := Reader.text "a string"

def kindOf (s : String) : Except Fault Kind :=
  match Kind.ofName? s with
  | some k => .ok k
  | none => .error (.unknownVariant s (Kind.all.map Kind.name))

/-- The brace after a kind that is written as a member. -/
def closeKind (s : List Symbol) : Except Fault (List Symbol) :=
  match skipSpace s with
  | [] => .error .endOfObject
  | c :: rest => if c = .scalar '}' then .ok rest else .error .expectedValue

theorem closeKind_length {s r : List Symbol} (h : closeKind s = .ok r) : r.length < s.length := by
  have hs := Json.skipSpace_length_le s
  unfold closeKind at h
  split at h
  · cases h
  · rename_i c rest hc
    rw [hc, List.length_cons] at hs
    split at h
    · cases h; omega
    · cases h

/-- A kind written as the one member of an object, whose value is null. -/
def readKindMember (s : List Symbol) : Except Fault (Kind × List Symbol) := do
  let (kind, s) ← ((Reader.text "variant identifier").refine kindOf).run s
  let s ← colon s
  let ((), s) ← (Reader.null "unit").run s
  let s ← closeKind s
  .ok (kind, s)

theorem readKindMember_length {s r : List Symbol} {k : Kind}
    (h : readKindMember s = .ok (k, r)) : r.length < s.length := by
  unfold readKindMember at h
  obtain ⟨⟨k', s1⟩, h1, h⟩ := Json.bind_eq_ok.1 h
  obtain ⟨s2, h2, h⟩ := Json.bind_eq_ok.1 h
  obtain ⟨⟨u, s3⟩, h3, h⟩ := Json.bind_eq_ok.1 h
  obtain ⟨s4, h4, h⟩ := Json.bind_eq_ok.1 h
  have h1 := Reader.shrinks _ h1
  have h2 := Json.colon_length h2
  have h3 := Reader.shrinks _ h3
  have h4 := closeKind_length h4
  simp only [Except.ok.injEq, Prod.mk.injEq] at h
  obtain ⟨_, rfl⟩ := h
  omega

/-- A kind by its name. -/
def readKind (room : Nat) : Reader Kind :=
  Reader.afterSpace
    (fun c rest =>
      if c = .scalar '"' then (Json.Str.reader.refine kindOf).run rest
      else if c = .scalar '{' then
        if room = 0 then .error .recursionLimit else readKindMember rest
      else .error .expectedValue)
    (fun {c s a r} h => by
      split at h
      · exact Nat.le_of_lt (Reader.shrinks _ h)
      · split at h
        · split at h
          · cases h
          · exact Nat.le_of_lt (readKindMember_length h)
        · cases h)

/-- An object of any values. -/
def readProperties (room : Nat) : Reader Members :=
  Reader.afterSpace
    (fun c rest => match start c, room with
      | .object, 0 => .error .recursionLimit
      | .object, inner + 1 => (Reader.object (some (Reader.value inner))).run rest
      | _, _ => .error (mismatch "a map" (c :: rest)))
    (fun {c s a r} h => by
      split at h
      · cases h
      · exact Nat.le_of_lt (Reader.shrinks _ h)
      · cases h)

/-- A value's place in a list of members; the list may be too short. -/
def readNth (p : Reader α) (n : Nat) (expected : String) (s : List Symbol) :
    Except Fault (α × List Symbol) :=
  match nextElement (n = 0) s with
  | .error e => .error e
  | .ok (.stop _) => .error (.invalidLength n expected)
  | .ok (.more t) => p.run t

theorem readNth_length {p : Reader α} {n : Nat} {expected : String} {s r : List Symbol} {a : α}
    (h : readNth p n expected s = .ok (a, r)) : r.length < s.length := by
  unfold readNth at h
  split at h
  · cases h
  · cases h
  · rename_i t ht
    have := Json.nextElement_length ht
    have := p.shrinks h
    simp only [Next.rest] at *
    omega

/-- A structure written as an object or as a list; `room` brackets may be opened. -/
def readStructure (name : String) (room : Nat)
    (object list : Nat → List Symbol → Except Fault (α × List Symbol))
    (ho : ∀ {n s a r}, object n s = .ok (a, r) → r.length < s.length)
    (hl : ∀ {n s a r}, list n s = .ok (a, r) → r.length < s.length) : Reader α :=
  Reader.afterSpace
    (fun c rest => match start c, room with
      | .object, 0 => .error .recursionLimit
      | .object, inner + 1 => object inner rest
      | .list, 0 => .error .recursionLimit
      | .list, inner + 1 => list inner rest
      | _, _ => .error (mismatch ("struct " ++ name) (c :: rest)))
    (fun {c s a r} h => by
      split at h
      · cases h
      · exact Nat.le_of_lt (ho h)
      · cases h
      · exact Nat.le_of_lt (hl h)
      · cases h)

/-- A member that may stand only once: `held` is what was read under its name before. -/
def once (name : String) (held : Option α) (p : Reader β) : Except Fault (Reader β) :=
  if held.isSome then .error (.duplicateField name) else .ok p

/-- A member that has to be there. -/
def required (name : String) (held : Option α) : Except Fault α :=
  match held with
  | some a => .ok a
  | none => .error (.missingField name)

namespace Item

/-- The members of an item that have been read. -/
structure Draft where
  id : Option Uuid
  time : Option Instant
  kind : Option Kind
  name : Option String
  value : Option (Option Float)
  properties : Option (Option Members)

namespace Draft

def empty : Draft := ⟨none, none, none, none, none, none⟩

/-- How the member `name` is read; members of other names are passed over. -/
def member (room : Nat) (d : Draft) (name : String) : Except Fault (Reader Draft) :=
  match name with
  | "id" => once name d.id (readId.map fun v => { d with id := some v })
  | "timestamp" => once name d.time (readTime.map fun v => { d with time := some v })
  | "kind" => once name d.kind ((readKind room).map fun v => { d with kind := some v })
  | "name" => once name d.name (readText.map fun v => { d with name := some v })
  | "value" =>
    once name d.value ((Reader.optional Reader.float).map fun v => { d with value := some v })
  | "properties" =>
    once name d.properties
      ((Reader.optional (readProperties room)).map fun v => { d with properties := some v })
  | _ => .ok (Reader.ignored.map fun _ => d)

/-- The item, if no member is missing that has to be there. -/
def finish (d : Draft) : Except Fault Item := do
  let id ← required "id" d.id
  let time ← required "timestamp" d.time
  let kind ← required "kind" d.kind
  let name ← required "name" d.name
  .ok ⟨⟨id, time⟩, kind, name, d.value.getD none, d.properties.getD none⟩

end Draft

def readObject (room : Nat) (s : List Symbol) : Except Fault (Item × List Symbol) := do
  let (d, s) ← members (Draft.member room) true Draft.empty s
  let item ← d.finish
  .ok (item, s)

def expectedList : String := "struct TelemetryItem with 6 elements"

def readList (room : Nat) (s : List Symbol) : Except Fault (Item × List Symbol) := do
  let (id, s) ← readNth readId 0 expectedList s
  let (time, s) ← readNth readTime 1 expectedList s
  let (kind, s) ← readNth (readKind room) 2 expectedList s
  let (name, s) ← readNth readText 3 expectedList s
  let (value, s) ← readNth (Reader.optional Reader.float) 4 expectedList s
  let (properties, s) ← readNth (Reader.optional (readProperties room)) 5 expectedList s
  let s ← endList s
  .ok (⟨⟨id, time⟩, kind, name, value, properties⟩, s)

theorem readObject_length {room : Nat} {s r : List Symbol} {i : Item}
    (h : readObject room s = .ok (i, r)) : r.length < s.length := by
  unfold readObject at h
  obtain ⟨⟨d, t⟩, hd, h⟩ := Json.bind_eq_ok.1 h
  obtain ⟨item, _, h⟩ := Json.bind_eq_ok.1 h
  have := Json.members_length hd
  simp only [Except.ok.injEq, Prod.mk.injEq] at h
  obtain ⟨_, rfl⟩ := h
  exact this

theorem readList_length {room : Nat} {s r : List Symbol} {i : Item}
    (h : readList room s = .ok (i, r)) : r.length < s.length := by
  unfold readList at h
  obtain ⟨⟨_, s1⟩, h1, h⟩ := Json.bind_eq_ok.1 h
  obtain ⟨⟨_, s2⟩, h2, h⟩ := Json.bind_eq_ok.1 h
  obtain ⟨⟨_, s3⟩, h3, h⟩ := Json.bind_eq_ok.1 h
  obtain ⟨⟨_, s4⟩, h4, h⟩ := Json.bind_eq_ok.1 h
  obtain ⟨⟨_, s5⟩, h5, h⟩ := Json.bind_eq_ok.1 h
  obtain ⟨⟨_, s6⟩, h6, h⟩ := Json.bind_eq_ok.1 h
  obtain ⟨s7, h7, h⟩ := Json.bind_eq_ok.1 h
  have h1 := readNth_length h1
  have h2 := readNth_length h2
  have h3 := readNth_length h3
  have h4 := readNth_length h4
  have h5 := readNth_length h5
  have h6 := readNth_length h6
  have h7 := Json.endList_length h7
  simp only [Except.ok.injEq, Prod.mk.injEq] at h
  obtain ⟨_, rfl⟩ := h
  dsimp only at *
  omega

def reader (room : Nat) : Reader Item :=
  readStructure "TelemetryItem" room readObject readList readObject_length readList_length

/-- The item that a text spells. -/
def parse (s : List Symbol) : Except Fault Item := Json.readAll (reader Json.maxDepth) s

end Item

namespace Batch

/-- The items of a batch, in brackets. -/
def readItems (room : Nat) : Reader (List Item) :=
  Reader.afterSpace
    (fun c rest => match start c, room with
      | .list, 0 => .error .recursionLimit
      | .list, inner + 1 => (Reader.list (some (Item.reader inner))).run rest
      | _, _ => .error (mismatch "a sequence" (c :: rest)))
    (fun {c s a r} h => by
      split at h
      · cases h
      · exact Nat.le_of_lt (Reader.shrinks _ h)
      · cases h)

/-- The members of a batch that have been read. -/
structure Draft where
  id : Option Uuid
  time : Option Instant
  source : Option String
  items : Option (List Item)

namespace Draft

def empty : Draft := ⟨none, none, none, none⟩

/-- How the member `name` is read; members of other names are passed over. -/
def member (room : Nat) (d : Draft) (name : String) : Except Fault (Reader Draft) :=
  match name with
  | "batch_id" => once name d.id (readId.map fun v => { d with id := some v })
  | "created_at" => once name d.time (readTime.map fun v => { d with time := some v })
  | "source" => once name d.source (readText.map fun v => { d with source := some v })
  | "items" => once name d.items ((readItems room).map fun v => { d with items := some v })
  | _ => .ok (Reader.ignored.map fun _ => d)

/-- The batch, if no member is missing. -/
def finish (d : Draft) : Except Fault Batch := do
  let id ← required "batch_id" d.id
  let time ← required "created_at" d.time
  let source ← required "source" d.source
  let items ← required "items" d.items
  .ok ⟨⟨id, time⟩, source, items, none⟩

end Draft

def readObject (room : Nat) (s : List Symbol) : Except Fault (Batch × List Symbol) := do
  let (d, s) ← members (Draft.member room) true Draft.empty s
  let batch ← d.finish
  .ok (batch, s)

def expectedList : String := "struct TelemetryBatch with 4 elements"

def readList (room : Nat) (s : List Symbol) : Except Fault (Batch × List Symbol) := do
  let (id, s) ← readNth readId 0 expectedList s
  let (time, s) ← readNth readTime 1 expectedList s
  let (source, s) ← readNth readText 2 expectedList s
  let (items, s) ← readNth (readItems room) 3 expectedList s
  let s ← endList s
  .ok (⟨⟨id, time⟩, source, items, none⟩, s)

theorem readObject_length {room : Nat} {s r : List Symbol} {b : Batch}
    (h : readObject room s = .ok (b, r)) : r.length < s.length := by
  unfold readObject at h
  obtain ⟨⟨d, t⟩, hd, h⟩ := Json.bind_eq_ok.1 h
  obtain ⟨batch, _, h⟩ := Json.bind_eq_ok.1 h
  have := Json.members_length hd
  simp only [Except.ok.injEq, Prod.mk.injEq] at h
  obtain ⟨_, rfl⟩ := h
  exact this

theorem readList_length {room : Nat} {s r : List Symbol} {b : Batch}
    (h : readList room s = .ok (b, r)) : r.length < s.length := by
  unfold readList at h
  obtain ⟨⟨_, s1⟩, h1, h⟩ := Json.bind_eq_ok.1 h
  obtain ⟨⟨_, s2⟩, h2, h⟩ := Json.bind_eq_ok.1 h
  obtain ⟨⟨_, s3⟩, h3, h⟩ := Json.bind_eq_ok.1 h
  obtain ⟨⟨_, s4⟩, h4, h⟩ := Json.bind_eq_ok.1 h
  obtain ⟨s5, h5, h⟩ := Json.bind_eq_ok.1 h
  have h1 := readNth_length h1
  have h2 := readNth_length h2
  have h3 := readNth_length h3
  have h4 := readNth_length h4
  have h5 := Json.endList_length h5
  simp only [Except.ok.injEq, Prod.mk.injEq] at h
  obtain ⟨_, rfl⟩ := h
  dsimp only at *
  omega

def reader (room : Nat) : Reader Batch :=
  readStructure "TelemetryBatch" room readObject readList readObject_length readList_length

/-- The batch that a text spells. -/
def parse (s : List Symbol) : Except Fault Batch := Json.readAll (reader Json.maxDepth) s

end Batch

/-- The kind that a text spells. -/
def Kind.parse (s : List Symbol) : Except Fault Kind := Json.readAll (readKind Json.maxDepth) s

end LiveTelemetry.Telemetry
