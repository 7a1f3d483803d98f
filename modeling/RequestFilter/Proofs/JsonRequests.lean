import Mathlib.Data.List.Nodup
import RequestFilter.Proofs.Named
import RequestFilter.Proofs.NearestDouble
import RequestFilter.Proofs.Outcome
import RequestFilter.Proofs.Trees
import RequestFilter.Request

/-! # Requests from JSON

Which JSON values filters accept, said without reading them (`Json.Accepted`), and
what a filter value is as JSON again (`Value.toJson?`).  A JSON value is read
exactly if it is accepted, and the filter value that it is read as is the same
JSON again, except that numbers are settled: an integer beyond 64 bits with a
sign is the double nearest to it (`Json.settled`).  An object is a request if all
of its values are accepted, and the first one that is not is complained about
(`Request.ofJson_accepted`).
-/

namespace RequestFilter

open Outcome

/-- A filter accepts a JSON value: a scalar, an array of values that it accepts, or a direction over
a field or over a relation and a field. -/
inductive Json.Accepted : Json → Prop
  | null : Accepted .null
  | bool (value : Bool) : Accepted (.bool value)
  | integer (value : Int) : Accepted (.integer value)
  | double (value : Double) : Accepted (.double value)
  | string (value : String) : Accepted (.string value)
  | array {items : List Json} (each : ∀ item ∈ items, Accepted item) : Accepted (.array items)
  | directed (direction : Direction) (field : String) :
    Accepted (.object [(direction.name, .string field)])
  | qualified (direction : Direction) (relation field : String) :
    Accepted (.object [(direction.name, .array [.string relation, .string field])])

mutual

/-- A JSON value with numbers as filters hold them: integers of 64 bits with a sign, and doubles. -/
def Json.settled : Json → Json
  | .null => .null
  | .bool value => .bool value
  | .integer value =>
    if (Number.int64? value).isSome then .integer value else .double (.ofInteger value)
  | .double value => .double value
  | .string value => .string value
  | .array items => .array (settledItems items)
  | .object members => .object (settledMembers members)

/-- The items of an array with numbers as filters hold them. -/
def Json.settledItems : List Json → List Json
  | [] => []
  | item :: rest => item.settled :: settledItems rest

/-- The members of an object with numbers as filters hold them. -/
def Json.settledMembers : List (String × Json) → List (String × Json)
  | [] => []
  | (name, value) :: rest => (name, value.settled) :: settledMembers rest

end

theorem toInt_of_int64? {value : Int} {word : Int64} (fits : Number.int64? value = some word) :
    word.toInt = value := by
  unfold Number.int64? at fits
  split at fits
  · rename_i inside
    cases fits
    rw [Int64.toInt_minValue, Int64.toInt_maxValue] at inside
    exact Int64.toInt_ofInt_of_le inside.1 (by omega)
  · cases fits

theorem toInt_ne_of_int64? {value : Int} (outside : Number.int64? value = none) (word : Int64) :
    word.toInt ≠ value := by
  intro same
  unfold Number.int64? at outside
  rw [if_pos] at outside
  · cases outside
  · rw [← same]
    exact ⟨word.minValue_le_toInt, word.toInt_le⟩

/-- An integer that JSON states stays one if it fits into 64 bits with a sign, and is the double
nearest to it otherwise. -/
theorem Json.settled_integer {value : Int} (bounded : value.natAbs < 2 ^ 64) :
    (∃ word : Int64, word.toInt = value) ∧ (Json.integer value).settled = .integer value ∨
      (∀ word : Int64, word.toInt ≠ value) ∧
        ∃ number : Double, (Json.integer value).settled = .double number ∧
          number.IsNearest value := by
  rw [Json.settled]
  cases fits : Number.int64? value with
  | some word => exact .inl ⟨⟨word, toInt_of_int64? fits⟩, rfl⟩
  | none => exact .inr ⟨toInt_ne_of_int64? fits, _, rfl, Double.isNearest_ofInteger bounded⟩

namespace Value

mutual

/-- A filter value as JSON.  Days, points in time and names to sort by that have no direction have
no JSON. -/
def toJson? : Value → Option Json
  | .null => some .null
  | .bool value => some (.bool value)
  | .integer value => some (.integer value.toInt)
  | .double value => some (.double value)
  | .text value => some (.string value)
  | .date _ | .timestamp _ | .order (.field _) => none
  | .list items => (toJsonItems? items).map .array
  | .order (.directed direction field) => some (.object [(direction.name, .string field)])
  | .order (.qualified direction relation field) =>
    some (.object [(direction.name, .array [.string relation, .string field])])

/-- The items of a list as JSON. -/
def toJsonItems? : List Value → Option (List Json)
  | [] => some []
  | item :: rest => do
    let json ← toJson? item
    let jsons ← toJsonItems? rest
    some (json :: jsons)

end

/-- A value of a kind that JSON has no way to state. -/
inductive Unstatable : Value → Prop
  | date (value : Date) : Unstatable (.date value)
  | timestamp (value : Timestamp) : Unstatable (.timestamp value)
  | field (name : String) : Unstatable (.order (.field name))

section Items

variable {items : List Json} {values : List Value}

theorem ofJsonItems?_cons_eq_some_iff {item : Json} :
    ofJsonItems? (item :: items) = some values ↔
      ∃ value others, ofJson? item = some value ∧ ofJsonItems? items = some others ∧
        values = value :: others := by
  simp only [ofJsonItems?, Option.bind_eq_bind, Option.bind_eq_some_iff, Option.some.injEq]
  constructor
  · intro ⟨value, found, others, rest, same⟩
    exact ⟨value, others, found, rest, same.symm⟩
  · intro ⟨value, others, found, rest, same⟩
    exact ⟨value, found, others, rest, same.symm⟩

/-- An array is read when each of its items is. -/
theorem exists_ofJsonItems?_iff :
    (∃ values, ofJsonItems? items = some values) ↔
      ∀ item ∈ items, ∃ value, ofJson? item = some value := by
  induction items with
  | nil => exact ⟨fun _ _ member => absurd member List.not_mem_nil, fun _ => ⟨[], rfl⟩⟩
  | cons item rest ih =>
      rw [List.forall_mem_cons, ← ih]
      simp only [ofJsonItems?_cons_eq_some_iff]
      constructor
      · intro ⟨_, value, others, found, read, _⟩
        exact ⟨⟨value, found⟩, ⟨others, read⟩⟩
      · intro ⟨⟨value, found⟩, ⟨others, read⟩⟩
        exact ⟨_, value, others, found, read, rfl⟩

/-- A list is written item by item, whatever its items are read from. -/
theorem toJsonItems?_of_ofJsonItems?
    (each : ∀ item ∈ items, ∀ {value}, ofJson? item = some value →
      value.toJson? = some item.settled)
    (success : ofJsonItems? items = some values) :
    toJsonItems? values = some (Json.settledItems items) := by
  induction items generalizing values with
  | nil =>
      cases success
      rfl
  | cons item rest ih =>
      obtain ⟨first, others⟩ := List.forall_mem_cons.mp each
      obtain ⟨value, more, found, read, rfl⟩ := ofJsonItems?_cons_eq_some_iff.mp success
      rw [toJsonItems?, first found, ih others read]
      rfl

theorem exists_of_toJsonItems? {jsons : List Json} (stated : toJsonItems? values = some jsons)
    {value : Value} (member : value ∈ values) : ∃ json, value.toJson? = some json := by
  induction values generalizing jsons with
  | nil => exact absurd member List.not_mem_nil
  | cons first rest ih =>
      simp only [toJsonItems?, Option.bind_eq_bind, Option.bind_eq_some_iff] at stated
      obtain ⟨json, found, others, read, _⟩ := stated
      rcases List.mem_cons.mp member with same | later
      · exact ⟨json, same ▸ found⟩
      · exact ih read later

end Items

/-- An object is read as a direction over a field or over a relation and a field. -/
theorem ofJson?_object_eq_some_iff {members : List (String × Json)} {value : Value} :
    ofJson? (.object members) = some value ↔
      ∃ direction : Direction,
        (∃ field, members = [(direction.name, .string field)] ∧
          value = .order (.directed direction field)) ∨
        ∃ relation field,
          members = [(direction.name, .array [.string relation, .string field])] ∧
            value = .order (.qualified direction relation field) := by
  constructor
  · intro success
    unfold ofJson? at success
    split at success
    case h_7 name field same =>
        obtain ⟨direction, found, rfl⟩ := Option.map_eq_some_iff.mp success
        cases same
        rw [Direction.ofName?_eq_some_iff.mp found]
        exact ⟨direction, .inl ⟨field, rfl, rfl⟩⟩
    case h_8 name relation field same =>
        obtain ⟨direction, found, rfl⟩ := Option.map_eq_some_iff.mp success
        cases same
        rw [Direction.ofName?_eq_some_iff.mp found]
        exact ⟨direction, .inr ⟨relation, field, rfl, rfl⟩⟩
    case h_9 => cases success
    -- No other shape is an object.
    all_goals
      rename_i same
      cases same
  · intro ⟨direction, stated⟩
    have found : Direction.ofName? direction.name = some direction :=
      Direction.ofName?_eq_some_iff.mpr rfl
    rcases stated with ⟨field, same, read⟩ | ⟨relation, field, same, read⟩
    · rw [same, read, ofJson?, found]
      rfl
    · rw [same, read, ofJson?, found]
      rfl

/-- A JSON value is read exactly if it is accepted. -/
theorem exists_ofJson?_iff {json : Json} :
    (∃ value, ofJson? json = some value) ↔ json.Accepted := by
  induction json using Json.inductionOn with
  | null => exact ⟨fun _ => .null, fun _ => ⟨_, rfl⟩⟩
  | bool value => exact ⟨fun _ => .bool value, fun _ => ⟨_, rfl⟩⟩
  | integer value =>
      refine ⟨fun _ => .integer value, fun _ => ?_⟩
      rw [ofJson?]
      cases Number.int64? value with
      | none => exact ⟨_, rfl⟩
      | some word => exact ⟨_, rfl⟩
  | double value => exact ⟨fun _ => .double value, fun _ => ⟨_, rfl⟩⟩
  | string value => exact ⟨fun _ => .string value, fun _ => ⟨_, rfl⟩⟩
  | array items ih =>
      constructor
      · intro ⟨value, success⟩
        rw [ofJson?] at success
        obtain ⟨values, read, _⟩ := Option.map_eq_some_iff.mp success
        refine .array ?_
        intro item member
        exact (ih item member).mp (exists_ofJsonItems?_iff.mp ⟨values, read⟩ item member)
      · intro accepted
        cases accepted with | array each =>
        obtain ⟨values, read⟩ := exists_ofJsonItems?_iff.mpr fun item member =>
          (ih item member).mpr (each item member)
        rw [ofJson?, read]
        exact ⟨_, rfl⟩
  | object members _ =>
      simp only [ofJson?_object_eq_some_iff]
      constructor
      · intro ⟨value, direction, stated⟩
        rcases stated with ⟨field, same, _⟩ | ⟨relation, field, same, _⟩
        · rw [same]
          exact .directed direction field
        · rw [same]
          exact .qualified direction relation field
      · intro accepted
        cases accepted with
        | directed direction field => exact ⟨_, direction, .inl ⟨field, rfl, rfl⟩⟩
        | qualified direction relation field =>
            exact ⟨_, direction, .inr ⟨relation, field, rfl, rfl⟩⟩

/-- What a JSON value is read as is the same JSON value with settled numbers. -/
theorem toJson?_of_ofJson? {json : Json} {value : Value} (success : ofJson? json = some value) :
    value.toJson? = some json.settled := by
  induction json using Json.inductionOn generalizing value with
  | null =>
      cases success
      rfl
  | bool flag =>
      cases success
      rfl
  | integer number =>
      rw [ofJson?] at success
      rw [Json.settled]
      cases fits : Number.int64? number with
      | some word =>
          rw [fits] at success
          cases success
          rw [toJson?, toInt_of_int64? fits]
          rfl
      | none =>
          rw [fits] at success
          cases success
          rfl
  | double number =>
      cases success
      rfl
  | string text =>
      cases success
      rfl
  | array items ih =>
      rw [ofJson?] at success
      obtain ⟨values, read, rfl⟩ := Option.map_eq_some_iff.mp success
      rw [toJson?, Json.settled, toJsonItems?_of_ofJsonItems? (fun item member => ih item member) read]
      rfl
  | object members _ =>
      obtain ⟨direction, stated⟩ := ofJson?_object_eq_some_iff.mp success
      rcases stated with ⟨field, rfl, rfl⟩ | ⟨relation, field, rfl, rfl⟩
      · rfl
      · rfl

/-- What has JSON has no part that JSON cannot state. -/
theorem not_unstatable_of_toJson? {part value : Value} (inside : part.Part value) {json : Json}
    (stated : value.toJson? = some json) : ¬part.Unstatable := by
  induction inside generalizing json with
  | self =>
      intro unstatable
      cases unstatable <;> cases stated
  | item member _ ih =>
      rw [toJson?] at stated
      obtain ⟨jsons, written, _⟩ := Option.map_eq_some_iff.mp stated
      obtain ⟨_, found⟩ := exists_of_toJsonItems? written member
      exact ih found

end Value

namespace Request

/-- Reads a member of an object as a filter. -/
def readMember (member : String × Json) : Except ReadError (Key × Value) :=
  match Value.ofJson? member.2 with
  | some value => .ok (.text member.1, value)
  | none => .error (.unsupported member.1 member.2)

theorem readMember_eq_ok_iff {member : String × Json} {entry : Key × Value} :
    readMember member = .ok entry ↔
      entry.1 = .text member.1 ∧ Value.ofJson? member.2 = some entry.2 := by
  unfold readMember
  cases Value.ofJson? member.2 with
  | none =>
      constructor
      · intro success
        cases success
      · intro ⟨_, absent⟩
        cases absent
  | some value =>
      constructor
      · intro success
        cases success
        exact ⟨rfl, rfl⟩
      · intro ⟨key, same⟩
        cases same
        exact congrArg Except.ok (Prod.ext key.symm rfl)

theorem exists_readMember_iff {member : String × Json} :
    (∃ entry, readMember member = .ok entry) ↔ member.2.Accepted := by
  rw [← Value.exists_ofJson?_iff]
  constructor
  · intro ⟨entry, success⟩
    exact ⟨entry.2, (readMember_eq_ok_iff.mp success).2⟩
  · intro ⟨value, found⟩
    exact ⟨(.text member.1, value), readMember_eq_ok_iff.mpr ⟨rfl, found⟩⟩

theorem readMember_eq_error_iff {member : String × Json} {fault : ReadError} :
    readMember member = .error fault ↔
      ¬member.2.Accepted ∧ fault = .unsupported member.1 member.2 := by
  rw [← exists_readMember_iff]
  unfold readMember
  cases Value.ofJson? member.2 with
  | none =>
      constructor
      · intro failure
        cases failure
        refine ⟨?_, rfl⟩
        intro ⟨_, success⟩
        cases success
      · intro ⟨_, same⟩
        rw [same]
  | some value =>
      constructor
      · intro failure
        cases failure
      · intro ⟨refused, _⟩
        exact absurd ⟨_, rfl⟩ refused

/-- The members of an object are read one by one, and what they are read as is set in order. -/
theorem addMembers_eq (request : Request) (members : List (String × Json)) :
    addMembers request members =
      (members.mapM readMember).map fun entries =>
        entries.foldl (fun request entry => request.insert entry.1 entry.2) request := by
  induction members generalizing request with
  | nil => rfl
  | cons member rest ih =>
      obtain ⟨name, json⟩ := member
      rw [addMembers, List.mapM_cons, readMember]
      cases Value.ofJson? json with
      | none => rfl
      | some value =>
          change addMembers (request.insert (.text name) value) rest = _
          rw [ih]
          cases rest.mapM readMember <;> rfl

theorem ofJson_object (members : List (String × Json)) :
    ofJson (.object members) = (members.mapM readMember).map ofList :=
  addMembers_eq empty members

theorem isSetter_setEntry : IsSetter setEntry where
  nil _ _ := rfl
  cons _ _ _ _ := rfl

theorem entries_foldl_insert (entries : List (Key × Value)) (request : Request) :
    (entries.foldl (fun request entry => request.insert entry.1 entry.2) request).entries =
      entries.foldl (fun entries entry => setEntry entry.1 entry.2 entries) request.entries := by
  induction entries generalizing request with
  | nil => rfl
  | cons entry rest ih => exact ih (request.insert entry.1 entry.2)

/-- Filters under distinct keys are a request in their order. -/
theorem entries_ofList {entries : List (Key × Value)} (distinct : (entries.map Prod.fst).Nodup) :
    (ofList entries).entries = entries :=
  (entries_foldl_insert entries empty).trans (isSetter_setEntry.foldl_eq_append_of_fresh distinct)

theorem exists_ofJson_object_iff {members : List (String × Json)} :
    (∃ request, ofJson (.object members) = .ok request) ↔
      ∀ member ∈ members, member.2.Accepted := by
  simp only [ofJson_object, map_eq_ok_iff, ← exists_readMember_iff, ← exists_mapM_iff]
  constructor
  · intro ⟨_, entries, success, _⟩
    exact ⟨entries, success⟩
  · intro ⟨entries, success⟩
    exact ⟨_, entries, success, rfl⟩

/-- What is read from an object without repeated names stands under its names in order. -/
theorem mapM_readMember_of_ofJson {members : List (String × Json)} {request : Request}
    (distinct : (members.map Prod.fst).Nodup)
    (success : ofJson (.object members) = .ok request) :
    members.mapM readMember = .ok request.entries := by
  rw [ofJson_object, map_eq_ok_iff] at success
  obtain ⟨entries, read, rfl⟩ := success
  have keys : entries.map Prod.fst = (members.map Prod.fst).map Key.text := by
    rw [List.map_map]
    exact map_eq_of_mapM (fun _ _ found => (readMember_eq_ok_iff.mp found).1) read
  have fresh : (entries.map Prod.fst).Nodup := by
    rw [keys]
    exact distinct.map fun _ _ same => Key.text.inj same
  rw [entries_ofList fresh, read]

theorem map_toJson?_of_ofJson {members : List (String × Json)} {request : Request}
    (distinct : (members.map Prod.fst).Nodup)
    (success : ofJson (.object members) = .ok request) :
    (request.entries.map fun entry => (entry.1, entry.2.toJson?)) =
      members.map fun member => (.text member.1, some member.2.settled) := by
  apply map_eq_of_mapM _ (mapM_readMember_of_ofJson distinct success)
  intro member entry found
  obtain ⟨key, found⟩ := readMember_eq_ok_iff.mp found
  rw [key, Value.toJson?_of_ofJson? found]

/-- **Requests are read from objects of accepted values.**  An object is a request exactly when all
of its values are accepted.  The request then has the names of the object as texts in order, each
with a value that is the value of the object with settled numbers when it is written as JSON again,
and with no part that JSON cannot state.  Otherwise the first member is complained about whose value
is not accepted, and what is no object is complained about as such.  An integer is settled as itself
if it fits into 64 bits with a sign, and as the double nearest to it otherwise. -/
theorem ofJson_accepted {json : Json} (distinct : json.DistinctNames) :
    ((∃ request, ofJson json = .ok request) ↔
        ∃ members, json = .object members ∧ ∀ member ∈ members, member.2.Accepted) ∧
      (∀ members request, json = .object members → ofJson json = .ok request →
        (request.entries.map fun entry => (entry.1, entry.2.toJson?)) =
            (members.map fun member => (.text member.1, some member.2.settled)) ∧
          ∀ entry ∈ request.entries, ∀ part : Value, part.Part entry.2 → ¬part.Unstatable) ∧
      (∀ members fault, json = .object members →
        (ofJson json = .error fault ↔
          ∃ before name value after, members = before ++ (name, value) :: after ∧
            (∀ member ∈ before, member.2.Accepted) ∧ ¬value.Accepted ∧
              fault = .unsupported name value)) ∧
      ((∀ members, json ≠ .object members) → ofJson json = .error (.notObject json)) ∧
      ∀ value : Int, value.natAbs < 2 ^ 64 →
        (∃ word : Int64, word.toInt = value) ∧ (Json.integer value).settled = .integer value ∨
          (∀ word : Int64, word.toInt ≠ value) ∧
            ∃ number : Double, (Json.integer value).settled = .double number ∧
              number.IsNearest value := by
  refine ⟨?_, ?_, ?_, ?_, fun _ bounded => Json.settled_integer bounded⟩
  · cases json with
    | object members =>
        rw [exists_ofJson_object_iff]
        constructor
        · intro each
          exact ⟨members, rfl, each⟩
        · intro ⟨_, same, each⟩
          cases same
          exact each
    | _ =>
        constructor
        · intro ⟨_, success⟩
          cases success
        · intro ⟨_, same, _⟩
          cases same
  · intro members request same success
    subst same
    have written := map_toJson?_of_ofJson distinct success
    refine ⟨written, ?_⟩
    intro entry inside part isPart
    have listed := List.mem_map_of_mem (f := fun entry => (entry.1, entry.2.toJson?)) inside
    rw [written] at listed
    obtain ⟨member, _, same⟩ := List.mem_map.mp listed
    exact Value.not_unstatable_of_toJson? isPart (congrArg Prod.snd same).symm
  · intro members fault same
    subst same
    rw [ofJson_object, map_eq_error_iff, mapM_eq_error_iff]
    simp only [exists_readMember_iff, readMember_eq_error_iff]
    simp only [Prod.exists]
  · intro other
    cases json with
    | object members => exact absurd rfl (other members)
    | _ => rfl

/-- An object with a large number, a direction and a nested list, and one whose second value holds an
empty object deep inside. -/
theorem ofJson_accepted_nested :
    ∃ (json refused : Json) (request : Request),
      json = .object [("limit", .integer 9223372036854775808),
        ("order_by", .array [.object [("desc", .string "age")], .array [.null]])] ∧
      refused = .object [("name", .string "a"), ("ids", .array [.array [.object []]]),
        ("tags", .object [])] ∧
      json.DistinctNames ∧ refused.DistinctNames ∧ ofJson json = .ok request ∧
      request.entries.map (fun entry => (entry.1, entry.2.toJson?)) =
        [(.text "limit", some (.double ⟨0x43e0000000000000⟩)),
          (.text "order_by",
            some (.array [.object [("desc", .string "age")], .array [.null]]))] ∧
      ofJson refused = .error (.unsupported "ids" (.array [.array [.object []]])) ∧
      ¬(Json.array [.array [.object []]]).Accepted := by
  refine ⟨_, _, _, rfl, rfl, by decide, by decide, rfl, ?_, rfl, ?_⟩
  · have read := @ofJson_accepted (.object [("limit", .integer 9223372036854775808),
      ("order_by", .array [.object [("desc", .string "age")], .array [.null]])] ) (by decide)
    exact (read.2.1 _ _ rfl rfl).1
  · have read := @ofJson_accepted (.object [("name", .string "a"),
      ("ids", .array [.array [.object []]]), ("tags", .object [])]) (by decide)
    obtain ⟨before, name, value, after, same, _, refused, faulty⟩ := (read.2.2.1 _ _ rfl).mp rfl
    cases faulty
    exact refused

end Request

end RequestFilter
