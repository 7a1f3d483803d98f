import RequestFilter.Proofs.Compiled
import RequestFilter.Proofs.JsonNumbers

/-! # Pages asked for in JSON

A request for a page states its number of rows as a JSON number or as a string.  The
two are read on different ways, so they agree for a reason: what a number is read as
asks for as many rows as its text, unless only 64 bits without a sign hold it
(`Table.applyText?_number`).
-/

namespace RequestFilter

section Pages

variable {Query Fault : Type} [Filterable Query Fault]

/-- What a kind that is switched on as a whole does with a number of rows; sorting takes none. -/
def Toggle.assign? : Toggle → Option (Query → Count → Except Fault Query)
  | .limit => some Filterable.limit
  | .offset => some Filterable.offset
  | .orderBy => none

omit [Filterable Query Fault] in
/-- What applying the text of a request gives: nothing if the text is not JSON, and a complaint if
it is JSON but no request. -/
def Table.applyText? (table : Table Query Fault) (query : Query) (text : String) :
    Option (Except Request.ReadError (Except (DispatchError Fault) Query)) :=
  (Json.ofText? text).map fun json => (Request.ofJson json).map (table.apply query)

omit [Filterable Query Fault] in
/-- Only the number of rows that a value asks for matters. -/
theorem Definitions.assignCount_congr {assign : Query → Count → Except Fault Query} {query : Query}
    {key : Key} {first second : Value} (same : first.count? = second.count?) :
    assignCount assign query key first = assignCount assign query key second := by
  unfold assignCount
  rw [same]

variable {definitions : Definitions} {relation : String} {resolver : Resolver Query}
  {table : Table Query Fault} {which : Toggle} {assign : Query → Count → Except Fault Query}
  {text : String} {integer : Int}

/-- The key of a page is taken for the page, whatever entries have the same key. -/
theorem Definitions.reading?_page (assigns : which.assign? = some assign)
    (strings : definitions.stringKeys = true) (on : definitions.isOn which = true)
    (value : Value) : definitions.reading? (.text which.name) value = some (.toggle which) := by
  have accepted : definitions.acceptsForm (.text which.name) = true := strings
  have itself : which ≠ .orderBy →
      definitions.readingAs? which.name value (.toggle which) = some (.toggle which) := by
    intro noSort
    have anyShape : Kind.toggle which ∉ Kind.ofLists := by
      cases which with
      | orderBy => exact absurd rfl noSort
      | _ => decide
    simp only [readingAs?, anyShape, decide_false, Bool.false_and, Bool.false_eq_true, ↓reduceIte,
      on, decide_true, Bool.and_self]
  rw [reading?, if_pos accepted, Kind.dispatchOrder, List.findSome?_cons, Key.name]
  cases which with
  | orderBy => cases assigns
  | limit => rw [itself Toggle.noConfusion]
  | offset =>
      -- The limit is asked first, and has another name.
      have other : definitions.readingAs? (Toggle.name .offset) value (.toggle .limit) = none := by
        have anyShape : Kind.toggle .limit ∉ Kind.ofLists := by decide
        simp only [readingAs?, anyShape, Toggle.name, decide_false, Bool.false_and,
          Bool.false_eq_true, ↓reduceIte, String.reduceEq, Bool.and_false]
      rw [other, List.findSome?_cons, itself Toggle.noConfusion]

/-- A request for nothing but a page gives its number of rows to the query. -/
theorem Table.apply_page (assigns : which.assign? = some assign)
    (compiled : Table.compile definitions relation resolver = .ok table)
    (strings : definitions.stringKeys = true) (on : definitions.isOn which = true)
    (query : Query) (value : Value) :
    table.apply query (.ofList [(.text which.name, value)]) =
      Definitions.assignCount assign query (.text which.name) value := by
  have carried : definitions.interpretEntry relation resolver query (.text which.name) value =
      Definitions.assignCount assign query (.text which.name) value := by
    unfold Definitions.interpretEntry
    rw [Definitions.reading?_page assigns strings on]
    cases which with
    | orderBy => cases assigns
    | limit =>
        cases assigns
        rfl
    | offset =>
        cases assigns
        rfl
  rw [Table.apply_eq_foldlM compiled, ← carried]
  exact bind_pure _

/-- What is read as a value is applied as the value. -/
theorem Table.applyText?_page (assigns : which.assign? = some assign)
    (compiled : Table.compile definitions relation resolver = .ok table)
    (strings : definitions.stringKeys = true) (on : definitions.isOn which = true)
    (query : Query) {document : String} {json : Json} {value : Value}
    (read : Json.ofText? document = some (.object [(which.name, json)]))
    (means : Value.ofJson? json = some value) :
    table.applyText? query document =
      some (.ok (Definitions.assignCount assign query (.text which.name) value)) := by
  have request : Request.ofJson (.object [(which.name, json)]) =
      .ok (.ofList [(.text which.name, value)]) := by
    rw [Request.ofJson, Request.addMembers, means]
    rfl
  rw [Table.applyText?, read, Option.map_some, request, ← Table.apply_page assigns compiled strings on]
  rfl

/-- A page stated as a string has the number of rows that the string asks for. -/
theorem Table.applyText?_string (assigns : which.assign? = some assign)
    (compiled : Table.compile definitions relation resolver = .ok table)
    (strings : definitions.stringKeys = true) (on : definitions.isOn which = true)
    (query : Query) (text : String) :
    table.applyText? query (Json.memberDocument which.name (Json.stringText text)) =
      some (.ok (Definitions.assignCount assign query (.text which.name) (.text text))) :=
  Table.applyText?_page assigns compiled strings on query
    (Json.ofText?_memberDocument_stringText which.name text) rfl

/-- A page stated as a number has the number of rows that the same string asks for, if 64 bits with a
sign hold it, and is refused otherwise. -/
theorem Table.applyText?_number (assigns : which.assign? = some assign)
    (compiled : Table.compile definitions relation resolver = .ok table)
    (strings : definitions.stringKeys = true) (on : definitions.isOn which = true)
    (written : Json.WritesInteger text integer) (query : Query) :
    table.applyText? query (Json.memberDocument which.name text) =
      (Json.numberOf? text.toList).map fun _ =>
        .ok (if integer < 2 ^ 63 then
            Definitions.assignCount assign query (.text which.name) (.text text)
          else .error (.invalidValue (.text which.name) .notCount)) := by
  have document := Json.ofText?_memberDocument written which.name
  cases found : Json.numberOf? text.toList with
  | none =>
      rw [found] at document
      rw [Table.applyText?, document]
      rfl
  | some number =>
      rw [found] at document
      obtain ⟨value, means, asks⟩ := Value.exists_ofJson?_of_writes written found
      rw [Table.applyText?_page assigns compiled strings on query document means]
      refine congrArg (some ∘ Except.ok) ?_
      by_cases small : integer < 2 ^ 63
      · rw [if_pos small] at asks ⊢
        exact Definitions.assignCount_congr asks
      · rw [if_neg small] at asks ⊢
        rw [Definitions.assignCount, asks]

/-- **Numbers and strings ask for the same page.**  An integer is stated as a JSON number or as a
string with the same digits, under the key of a page that is on, in a request for nothing else.  The
string gives its number of rows to the query if it is one of 64 bits, and is refused otherwise.  The
number, whenever JSON can read it, has the outcome of the string, except where 64 bits hold it only
without a sign.  There it was read as a double, which is no number of rows. -/
theorem Table.applyText?_spellings (assigns : which.assign? = some assign)
    (compiled : Table.compile definitions relation resolver = .ok table)
    (strings : definitions.stringKeys = true) (on : definitions.isOn which = true)
    (written : Json.WritesInteger text integer) (query : Query) :
    ∃ quoted : Except (DispatchError Fault) Query,
      table.applyText? query (Json.memberDocument which.name (Json.stringText text)) =
          some (.ok quoted) ∧
        (∀ count : Count, (count.toNat : Int) = integer → text ≠ "-0" →
          quoted = (assign query count).mapError .query) ∧
        (integer < 0 ∨ 2 ^ 64 ≤ integer ∨ text = "-0" →
          quoted = .error (.invalidValue (.text which.name) .notCount)) ∧
        (integer < 2 ^ 63 ∨ 2 ^ 64 ≤ integer → ∀ outcome,
          table.applyText? query (Json.memberDocument which.name text) = some outcome →
            outcome = .ok quoted) ∧
        (2 ^ 63 ≤ integer → integer < 2 ^ 64 →
          table.applyText? query (Json.memberDocument which.name text) =
            some (.ok (.error (.invalidValue (.text which.name) .notCount)))) ∧
        (-2 ^ 63 ≤ integer → integer < 2 ^ 64 →
          ∃ outcome, table.applyText? query (Json.memberDocument which.name text) = some outcome) := by
  have number := Table.applyText?_number assigns compiled strings on written query
  have refused : integer < 0 ∨ 2 ^ 64 ≤ integer ∨ text = "-0" →
      Definitions.assignCount assign query (.text which.name) (.text text) =
        .error (.invalidValue (.text which.name) .notCount) := by
    intro outside
    have none_asked : (Value.text text).count? = none := by
      refine Option.eq_none_iff_forall_ne_some.mpr fun count found => ?_
      obtain ⟨same, notMinusZero⟩ := (Count.ofText?_of_writes written).mp found
      have bound : count.toNat < 2 ^ 64 := count.toNat_lt_size
      rcases outside with negative | large | minusZero
      · omega
      · omega
      · exact notMinusZero minusZero
    rw [Definitions.assignCount, none_asked]
  refine ⟨_, Table.applyText?_string assigns compiled strings on query text, ?_, refused,
    ?_, ?_, ?_⟩
  · intro count same notMinusZero
    have asked : (Value.text text).count? = some count :=
      (Count.ofText?_of_writes written).mpr ⟨same, notMinusZero⟩
    rw [Definitions.assignCount, asked]
  · intro away outcome applied
    rw [number] at applied
    obtain ⟨_, _, rfl⟩ := Option.map_eq_some_iff.mp applied
    by_cases small : integer < 2 ^ 63
    · rw [if_pos small]
    · rw [if_neg small, refused (.inr (.inl (away.resolve_left small)))]
  · intro large fits
    obtain ⟨read, found⟩ := Json.exists_numberOf?_of_writes written (by omega) fits
    rw [number, found, Option.map_some, if_neg (Int.not_lt.mpr large)]
  · intro low fits
    obtain ⟨read, found⟩ := Json.exists_numberOf?_of_writes written low fits
    rw [number, found]
    exact ⟨_, rfl⟩

/-- Definitions of pages. -/
def Definitions.paged : Definitions where
  stringKeys := true
  limit := true
  offset := true

theorem Table.applyText?_spellings_paged :
    ∃ table : Table Recorder Recorder.Rejected,
      Table.compile .paged "users" (Resolver.joinOnce Recorder.join) = .ok table ∧
        (table.applyText? { base := "users" } "\x7b\"offset\":20\x7d").isSome = true ∧
        ∀ outcome, table.applyText? { base := "users" } "\x7b\"offset\":20\x7d" = some outcome →
          outcome = .ok (.ok { base := "users", offset := some 20 }) := by
  obtain ⟨table, compiled⟩ : ∃ table : Table Recorder Recorder.Rejected,
      Table.compile .paged "users" (Resolver.joinOnce Recorder.join) = .ok table := ⟨_, rfl⟩
  have assigns : Toggle.assign? .offset = some (@Filterable.offset Recorder _ _) := rfl
  obtain ⟨quoted, _, given, _, agree, _, read⟩ := Table.applyText?_spellings assigns compiled rfl rfl
    (Json.writesInteger_toString 20) { base := "users" }
  refine ⟨table, compiled, ?_, ?_⟩
  · obtain ⟨outcome, applied⟩ := read (by decide) (by decide)
    exact Option.isSome_iff_exists.mpr ⟨outcome, applied⟩
  · intro outcome applied
    rw [agree (.inl (by decide)) outcome applied, given 20 rfl (by decide)]
    rfl

/-- As a string 2^63 is a limit, and as a number it is none. -/
theorem Table.applyText?_spellings_differ :
    ∃ table : Table Recorder Recorder.Rejected,
      Table.compile .paged "users" (Resolver.joinOnce Recorder.join) = .ok table ∧
        table.applyText? { base := "users" } "\x7b\"limit\":9223372036854775808\x7d" =
          some (.ok (.error (.invalidValue (.text "limit") .notCount))) ∧
        table.applyText? { base := "users" } "\x7b\"limit\":\"9223372036854775808\"\x7d" =
          some (.ok (.ok { base := "users", limit := some 9223372036854775808 })) ∧
        table.applyText? { base := "users" } "\x7b\"limit\":9223372036854775808\x7d" ≠
          table.applyText? { base := "users" } "\x7b\"limit\":\"9223372036854775808\"\x7d" := by
  obtain ⟨table, compiled⟩ : ∃ table : Table Recorder Recorder.Rejected,
      Table.compile .paged "users" (Resolver.joinOnce Recorder.join) = .ok table := ⟨_, rfl⟩
  have written := Json.writesInteger_toString 9223372036854775808
  have asked : (Value.text "9223372036854775808").count? = some 9223372036854775808 :=
    (Count.ofText?_of_writes written).mpr ⟨rfl, by decide⟩
  obtain ⟨read, found⟩ := Json.exists_numberOf?_of_writes written (by decide) (by decide)
  have assigns : Toggle.assign? .limit = some (@Filterable.limit Recorder _ _) := rfl
  have number := Table.applyText?_number assigns compiled rfl rfl written { base := "users" }
  rw [found, Option.map_some, if_neg (by decide)] at number
  have quoted := Table.applyText?_string assigns compiled rfl rfl { base := "users" }
    "9223372036854775808"
  rw [Definitions.assignCount, asked] at quoted
  refine ⟨table, compiled, number, quoted, ?_⟩
  intro same
  cases number.symm.trans (same.trans quoted)

end Pages

end RequestFilter
