import RequestFilter.Calendar.Timestamp
import RequestFilter.Directive
import RequestFilter.Json.Basic
import RequestFilter.Number.Digits
import RequestFilter.Number.Layout

/-! # Filter values

The value of a filter in a request is a scalar, a list of values or, inside a
sort list, a sort directive.
-/

namespace RequestFilter

/-- The value of a filter. -/
inductive Value where
  /-- The absent value. -/
  | null
  /-- A truth value. -/
  | bool (value : Bool)
  /-- A signed 64-bit integer. -/
  | integer (value : Int64)
  /-- A double-precision number. -/
  | double (value : Double)
  /-- A text. -/
  | text (value : String)
  /-- A day of the calendar. -/
  | date (value : Date)
  /-- A point in time. -/
  | timestamp (value : Timestamp)
  /-- Values in order. -/
  | list (items : List Value)
  /-- A sort directive. -/
  | order (directive : Directive)
deriving Inhabited

namespace Value

/-- The value is a list. -/
def isList : Value → Bool
  | .list _ => true
  | _ => false

/-- The value is neither a list nor a sort directive. -/
def isScalar : Value → Bool
  | .list _ => false
  | .order _ => false
  | _ => true

/-- The items of a list. -/
def items? : Value → Option (List Value)
  | .list items => some items
  | _ => none

/-- The text that a value gives to a pattern. -/
def patternText? : Value → Option String
  | .text value => some value
  | .integer value => some (toString value.toInt)
  | .double value => some (value.text .plain)
  | .bool value => some (if value then "true" else "false")
  | .date value => some value.text
  | .timestamp value => value.internetText?
  | .null | .list _ | .order _ => none

/-- The number of rows that a value asks for. -/
def count? : Value → Option Count
  | .integer value => Count.ofInt64? value
  | .text value => Count.ofText? value
  | _ => none

mutual

/-- The value that a JSON value stands for.  An integer beyond 64 bits with a sign becomes a double.
An object is accepted only as a sort directive: one name, which is a direction, over a field name
or a pair of a relation and a field. -/
def ofJson? : Json → Option Value
  | .null => some .null
  | .bool value => some (.bool value)
  | .integer value =>
    match Number.int64? value with
    | some word => some (.integer word)
    | none => some (.double (.ofInteger value))
  | .double value => some (.double value)
  | .string value => some (.text value)
  | .array items => (ofJsonItems? items).map .list
  | .object [(name, .string field)] =>
    (Direction.ofName? name).map fun direction => .order (.directed direction field)
  | .object [(name, .array [.string relation, .string field])] =>
    (Direction.ofName? name).map fun direction => .order (.qualified direction relation field)
  | .object _ => none

/-- The values that the items of a JSON array stand for. -/
def ofJsonItems? : List Json → Option (List Value)
  | [] => some []
  | item :: rest => do
    let value ← ofJson? item
    let values ← ofJsonItems? rest
    some (value :: values)

end

mutual

/-- A value in diagnostics. -/
def inspect : Value → String
  | .null => "Null"
  | .bool value => "Bool(" ++ (if value then "true" else "false") ++ ")"
  | .integer value => "Integer(" ++ toString value.toInt ++ ")"
  | .double value => "Float(" ++ value.text .diagnostic ++ ")"
  | .text value => "Text(" ++ Text.quoted value ++ ")"
  | .date value => "Date(" ++ value.text ++ ")"
  | .timestamp value => "Timestamp(" ++ value.fullText ++ ")"
  | .list items => "List([" ++ ", ".intercalate (inspectItems items) ++ "])"
  | .order directive => "Order(" ++ directive.inspect ++ ")"

/-- The items of a list in diagnostics. -/
def inspectItems : List Value → List String
  | [] => []
  | item :: rest => inspect item :: inspectItems rest

end

end Value

end RequestFilter
