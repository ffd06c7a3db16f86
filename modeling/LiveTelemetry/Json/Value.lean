import LiveTelemetry.Text.Blank
/-!
JSON values. Integers and other numbers are kept apart, and the members of an object are kept in
the order of their names, one for each name.
-/
namespace LiveTelemetry

inductive Json where
  | null
  | bool (b : Bool)
  | int (i : Int)
  | real (f : Float)
  | str (s : String)
  | arr (elements : List Json)
  | obj (members : List (String × Json))
  deriving Inhabited

/-- Named values, in the order of their names. -/
abbrev Members := List (String × Json)

namespace Members

/-- Adds a member; an earlier one of that name is replaced. -/
def insert (name : String) (value : Json) : Members → Members
  | [] => [(name, value)]
  | (n, v) :: rest =>
    if name < n then (name, value) :: (n, v) :: rest
    else if name = n then (name, value) :: rest
    else (n, v) :: insert name value rest

def get? (name : String) (ms : Members) : Option Json := ms.lookup name

theorem get?_insert_self (name : String) (value : Json) (ms : Members) :
    (insert name value ms).get? name = some value := by
  induction ms with
  | nil => simp [insert, get?]
  | cons m ms ih =>
    obtain ⟨n, v⟩ := m
    simp only [insert]
    split
    · simp [get?]
    · split
      · simp [get?]
      · rename_i h
        simpa [get?, List.lookup_cons, beq_false_of_ne h] using ih

theorem get?_insert_of_ne {name other : String} (h : other ≠ name) (value : Json) (ms : Members) :
    (insert name value ms).get? other = ms.get? other := by
  induction ms with
  | nil => simp [insert, get?, List.lookup_cons, beq_false_of_ne h]
  | cons m ms ih =>
    obtain ⟨n, v⟩ := m
    simp only [insert]
    split
    · simp [get?, List.lookup_cons, beq_false_of_ne h]
    · split
      · rename_i hn
        subst hn
        simp [get?, List.lookup_cons, beq_false_of_ne h]
      · simp only [get?, List.lookup_cons] at ih ⊢
        split
        · rfl
        · exact ih

end Members

namespace Json

def str? : Json → Option String
  | str s => some s
  | _ => none

def bool? : Json → Option Bool
  | bool b => some b
  | _ => none

/-- The member `name` of an object. -/
def member? (name : String) : Json → Option Json
  | obj ms => ms.lookup name
  | _ => none

end Json

end LiveTelemetry
