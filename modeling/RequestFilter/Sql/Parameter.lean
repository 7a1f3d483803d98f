import RequestFilter.Sql.Identifier
import RequestFilter.Value

/-! # Bound parameters

The values that accompany a statement.  Every filter value can be bound except a
sort directive, at whatever depth it stands.
-/

namespace RequestFilter.Sql

/-- A value bound to a placeholder. -/
inductive Parameter where
  /-- A text. -/
  | text (value : String)
  /-- A signed 64-bit integer. -/
  | integer (value : Int64)
  /-- A double-precision number. -/
  | double (value : Double)
  /-- A truth value. -/
  | bool (value : Bool)
  /-- A day of the calendar. -/
  | date (value : Date)
  /-- A point in time. -/
  | timestamp (value : Timestamp)
  /-- Values in order. -/
  | array (items : List Parameter)
  /-- The absent value. -/
  | null
deriving Inhabited

namespace Parameter

mutual

/-- Binds a filter value. -/
def ofValue : Value → Except BuildError Parameter
  | .null => .ok .null
  | .bool value => .ok (.bool value)
  | .integer value => .ok (.integer value)
  | .double value => .ok (.double value)
  | .text value => .ok (.text value)
  | .date value => .ok (.date value)
  | .timestamp value => .ok (.timestamp value)
  | .list items => (ofItems items).map .array
  | .order directive => .error (.unboundDirective directive.display)

/-- Binds filter values in order, up to the first that cannot be bound. -/
def ofItems : List Value → Except BuildError (List Parameter)
  | [] => .ok []
  | item :: rest => do
    let parameter ← ofValue item
    let parameters ← ofItems rest
    return parameter :: parameters

end

/-- Binds filter values as one array. -/
def ofList (values : List Value) : Except BuildError Parameter :=
  (ofItems values).map .array

mutual

/-- A bound value as a text to look at. -/
def display : Parameter → String
  | .text value => value
  | .integer value => toString value.toInt
  | .double value => value.text .plain
  | .bool value => if value then "true" else "false"
  | .date value => value.text
  | .timestamp value => value.displayText
  | .array items => "\x7b" ++ ",".intercalate (displayItems items) ++ "\x7d"
  | .null => "NULL"

/-- The items of an array as texts to look at. -/
def displayItems : List Parameter → List String
  | [] => []
  | item :: rest => display item :: displayItems rest

end

end Parameter

end RequestFilter.Sql
