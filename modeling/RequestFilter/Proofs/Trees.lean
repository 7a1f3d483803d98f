import RequestFilter.Json.Basic
import RequestFilter.Value

/-! # JSON values and filter values as trees

Induction over the items and members of JSON values (`Json.inductionOn`) and over
the items of filter values (`Value.inductionOn`), the parts of filter values
(`Value.Part`), and the places in lists that lead to a part (`Value.at?`).
-/

namespace RequestFilter

namespace Json

/-- Induction over a value, its items and the values of its members. -/
@[elab_as_elim]
theorem inductionOn {motive : Json → Prop} (json : Json) (null : motive .null)
    (bool : ∀ value, motive (.bool value)) (integer : ∀ value, motive (.integer value))
    (double : ∀ value, motive (.double value)) (string : ∀ value, motive (.string value))
    (array : ∀ items, (∀ item ∈ items, motive item) → motive (.array items))
    (object : ∀ members, (∀ member ∈ members, motive member.2) → motive (.object members)) :
    motive json :=
  match json with
  | .null => null
  | .bool value => bool value
  | .integer value => integer value
  | .double value => double value
  | .string value => string value
  | .array items =>
    array items fun item inside =>
      have : sizeOf item < sizeOf items := List.sizeOf_lt_of_mem inside
      item.inductionOn null bool integer double string array object
  | .object members =>
    object members fun (name, value) inside =>
      have : sizeOf (name, value) < sizeOf members := List.sizeOf_lt_of_mem inside
      value.inductionOn null bool integer double string array object
termination_by json
decreasing_by
  · simp only [Json.array.sizeOf_spec]
    omega
  · simp only [Json.object.sizeOf_spec, Prod.mk.sizeOf_spec] at *
    omega

/-- No name stands twice in the value, if it is an object. -/
def DistinctNames : Json → Prop
  | .object members => (members.map Prod.fst).Nodup
  | _ => True

instance : (json : Json) → Decidable json.DistinctNames
  | .object members => inferInstanceAs (Decidable (members.map Prod.fst).Nodup)
  | .null | .bool _ | .integer _ | .double _ | .string _ | .array _ => .isTrue trivial

end Json

/-- Induction over a value and the items of lists. -/
@[elab_as_elim]
theorem Value.inductionOn {motive : Value → Prop} (value : Value)
    (plain : ∀ value : Value, value.isList = false → motive value)
    (list : ∀ items, (∀ item ∈ items, motive item) → motive (.list items)) : motive value :=
  match value with
  | .list items =>
    list items fun item inside =>
      have : sizeOf item < sizeOf items := List.sizeOf_lt_of_mem inside
      item.inductionOn plain list
  | .null | .bool _ | .integer _ | .double _ | .text _ | .date _ | .timestamp _ | .order _ =>
    plain _ rfl
termination_by value
decreasing_by
  simp only [Value.list.sizeOf_spec]
  omega

/-- A value is part of another: the same value, or part of one of the items of a list. -/
inductive Value.Part (part : Value) : Value → Prop
  | self : Part part part
  | item {item : Value} {items : List Value} (member : item ∈ items) (inside : Part part item) :
    Part part (.list items)

/-- The value that places in lists lead to, one for each depth. -/
def Value.at? : Value → List Nat → Option Value
  | value, [] => some value
  | .list items, place :: path => items[place]?.bind fun item => item.at? path
  | _, _ :: _ => none

/-- Places in lists lead to parts. -/
theorem Value.part_of_at? {value part : Value} {path : List Nat}
    (found : value.at? path = some part) : part.Part value := by
  induction path generalizing value with
  | nil =>
      cases found
      exact .self
  | cons place path ih =>
      cases value with
      | list items =>
          obtain ⟨item, here, below⟩ := Option.bind_eq_some_iff.mp found
          exact .item (List.mem_of_getElem? here) (ih below)
      | _ => cases found

end RequestFilter
