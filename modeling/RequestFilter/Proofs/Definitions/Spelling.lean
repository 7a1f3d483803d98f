import Mathlib.Data.List.Forall2
import RequestFilter.Definitions.Reader
import RequestFilter.Proofs.Named
import RequestFilter.Proofs.Outcome

/-! # How entries are spelled

An entry is spelled as a text, as an array or as a table of texts, and an entry
reads as what it spells and as nothing else (`Entry.ofJson_eq_ok_iff`).  A table
of texts is refused for the lack of a key, or else for the least of the names in
it that mean nothing (`Entry.ofJson_ofTexts_eq_error_iff`).
-/

namespace RequestFilter

open Outcome

/-- The object of some named texts. -/
def Json.ofTexts (texts : List (String × String)) : Json :=
  .object (texts.map fun text => (text.1, .string text.2))

namespace Entry

/-- The entry of a key, of a relation and a field where they are written out. -/
def ofParts (key : String) : (relation? field? : Option String) → Entry
  | some relation, field? => .qualified key relation (field?.getD key)
  | none, some field => .aliased key field
  | none, none => .bare key

theorem key_ofParts (key : String) (relation? field? : Option String) :
    (ofParts key relation? field?).key = key := by
  cases relation? <;> cases field? <;> rfl

/-- What is not written out is the default relation, and the field that has the key for a name. -/
theorem target_ofParts (key : String) (relation? field? : Option String) (default : String) :
    (ofParts key relation? field?).target default =
      ⟨relation?.getD default, field?.getD key⟩ := by
  cases relation? <;> cases field? <;> rfl

/-- The names that mean something in a table. -/
def tableNames : List String := ["key", "field", "relation"]

/-- A JSON value spells an entry. -/
inductive Spells : Json → Entry → Prop
  | key (key : String) : Spells (.string key) (.ofParts key none none)
  | field (key field : String) :
      Spells (.array [.string key, .string field]) (.ofParts key none (some field))
  | column (key relation field : String) :
      Spells (.array [.string key, .array [.string relation, .string field]])
        (.ofParts key (some relation) (some field))
  | table {texts : List (String × String)} {key : String}
      (hasKey : texts.lookup "key" = some key)
      (known : ∀ name ∈ texts.map Prod.fst, name ∈ tableNames) :
      Spells (.ofTexts texts)
        (.ofParts key (texts.lookup "relation") (texts.lookup "field"))

/-- What is wrong with a table of texts. -/
inductive TableFault (texts : List (String × String)) : EntryFault → Prop
  | missingKey (absent : "key" ∉ texts.map Prod.fst) : TableFault texts .missingKey
  | unknownField {name : String} (hasKey : "key" ∈ texts.map Prod.fst)
      (present : name ∈ texts.map Prod.fst) (unknown : name ∉ tableNames)
      (least : ∀ other ∈ texts.map Prod.fst, other ∉ tableNames → name ≤ other) :
      TableFault texts (.unknownField name)

theorem least?_eq_none_iff {texts : List String} : least? texts = none ↔ texts = [] := by
  cases texts <;> simp only [least?, reduceCtorEq]

/-- The least of some texts is one of them and none of them is less. -/
theorem least?_spec {texts : List String} {least : String} (found : least? texts = some least) :
    least ∈ texts ∧ ∀ text ∈ texts, least ≤ text := by
  cases texts with
  | nil => cases found
  | cons first rest =>
      cases found
      induction rest generalizing first with
      | nil =>
          refine ⟨List.mem_singleton_self first, ?_⟩
          intro text member
          rw [List.mem_singleton.mp member]
          exact String.le_refl first
      | cons second rest ih =>
          rw [List.foldl_cons]
          obtain ⟨member, below⟩ := ih (if second < first then second else first)
          obtain ⟨belowHead, belowRest⟩ := List.forall_mem_cons.mp below
          by_cases less : second < first
          · rw [if_pos less] at member belowHead belowRest ⊢
            refine ⟨List.mem_cons_of_mem _ member, List.forall_mem_cons.mpr ⟨?_,
              List.forall_mem_cons.mpr ⟨belowHead, belowRest⟩⟩⟩
            exact String.le_trans belowHead (Std.le_of_lt less)
          · rw [if_neg less] at member belowHead belowRest ⊢
            refine ⟨?_, List.forall_mem_cons.mpr ⟨belowHead,
              List.forall_mem_cons.mpr ⟨?_, belowRest⟩⟩⟩
            · rcases List.mem_cons.mp member with same | later
              · exact List.mem_cons.mpr (.inl same)
              · exact List.mem_cons_of_mem _ (List.mem_cons_of_mem _ later)
            · exact String.le_trans belowHead (String.not_lt.mp less)

theorem mem_unknown_iff {texts : List (String × String)} {name : String} :
    name ∈ (texts.map Prod.fst).filter (· ∉ ["key", "field", "relation"]) ↔
      name ∈ texts.map Prod.fst ∧ name ∉ tableNames := by
  rw [List.mem_filter, decide_eq_true_eq]
  rfl

section Tables

variable {texts : List (String × String)}

/-- A table of texts states an entry, or something is wrong with it. -/
theorem ofTable_spec (texts : List (String × String)) :
    (∃ key, texts.lookup "key" = some key ∧ (∀ name ∈ texts.map Prod.fst, name ∈ tableNames) ∧
        ofTable texts = .ok (.ofParts key (texts.lookup "relation") (texts.lookup "field"))) ∨
      ∃ fault, TableFault texts fault ∧ ofTable texts = .error fault := by
  unfold ofTable
  cases hasKey : texts.lookup "key" with
  | none => exact .inr ⟨_, .missingKey (lookup_eq_none_iff_not_mem.mp hasKey), rfl⟩
  | some key =>
      cases search : least? ((texts.map Prod.fst).filter (· ∉ ["key", "field", "relation"])) with
      | some name =>
          obtain ⟨member, least⟩ := least?_spec search
          obtain ⟨present, unknown⟩ := mem_unknown_iff.mp member
          refine .inr ⟨_, .unknownField (exists_lookup_iff_mem.mp ⟨key, hasKey⟩) present unknown ?_,
            rfl⟩
          intro other inside outside
          exact least other (mem_unknown_iff.mpr ⟨inside, outside⟩)
      | none =>
          refine .inl ⟨key, rfl, ?_, ?_⟩
          · intro name member
            by_contra unknown
            have listed := mem_unknown_iff.mpr ⟨member, unknown⟩
            rw [least?_eq_none_iff.mp search] at listed
            exact List.not_mem_nil listed
          · cases texts.lookup "relation" <;> cases texts.lookup "field" <;> rfl

theorem TableFault.ofTable_eq {fault : EntryFault} (faulty : TableFault texts fault) :
    ofTable texts = .error fault := by
  rcases ofTable_spec texts with ⟨key, hasKey, known, _⟩ | ⟨other, otherFaulty, failure⟩
  · cases faulty with
    | missingKey absent => exact absurd (exists_lookup_iff_mem.mp ⟨key, hasKey⟩) absent
    | unknownField _ present unknown _ => exact absurd (known _ present) unknown
  · rw [failure]
    cases faulty with
    | missingKey absent =>
        cases otherFaulty with
        | missingKey _ => rfl
        | unknownField hasKey _ _ _ => exact absurd hasKey absent
    | unknownField hasKey present unknown least =>
        cases otherFaulty with
        | missingKey absent => exact absurd hasKey absent
        | unknownField _ otherPresent otherUnknown otherLeast =>
            rw [String.le_antisymm (otherLeast _ present unknown)
              (least _ otherPresent otherUnknown)]

theorem texts?_map (texts : List (String × String)) :
    texts? (texts.map fun text => (text.1, .string text.2)) = some texts := by
  induction texts with
  | nil => rfl
  | cons text rest ih =>
      rw [List.map_cons]
      unfold texts?
      rw [ih]
      rfl

theorem eq_map_of_texts? {members : List (String × Json)} (found : texts? members = some texts) :
    members = texts.map fun text => (text.1, .string text.2) := by
  induction members generalizing texts with
  | nil =>
      cases found
      rfl
  | cons member rest ih =>
      obtain ⟨name, value⟩ := member
      cases value with
      | string text =>
          obtain ⟨others, found, same⟩ := Option.map_eq_some_iff.mp found
          rw [← same, List.map_cons, ← ih found]
      | _ => cases found

theorem ofJson_ofTexts (texts : List (String × String)) :
    ofJson (.ofTexts texts) = (ofTable texts).mapError DefinitionsError.entry := by
  unfold ofJson Json.ofTexts
  simp only [texts?_map]

end Tables

/-- A table of texts is refused for what is wrong with it. -/
theorem ofJson_ofTexts_eq_error_iff {texts : List (String × String)} {fault : DefinitionsError} :
    ofJson (.ofTexts texts) = .error fault ↔
      ∃ named, fault = .entry named ∧ TableFault texts named := by
  rw [ofJson_ofTexts]
  constructor
  · intro failure
    rcases ofTable_spec texts with ⟨_, _, _, success⟩ | ⟨named, faulty, refused⟩
    · rw [success] at failure
      cases failure
    · rw [refused] at failure
      cases failure
      exact ⟨named, rfl, faulty⟩
  · intro ⟨named, same, faulty⟩
    rw [faulty.ofTable_eq, same]
    rfl

/-- An object is read as an entry only if it is a table of texts. -/
theorem ofJson_object (members : List (String × Json)) :
    (∃ texts, .object members = Json.ofTexts texts) ∨
      ofJson (.object members) = .error .malformed := by
  cases found : texts? members with
  | none =>
      right
      unfold ofJson
      simp only [found]
  | some texts => exact .inl ⟨texts, congrArg Json.object (eq_map_of_texts? found)⟩

theorem spells_of_ofJson {json : Json} {entry : Entry} (success : ofJson json = .ok entry) :
    Spells json entry := by
  cases json with
  | string key =>
      cases success
      exact .key key
  | array items =>
      unfold ofJson at success
      split at success
      · rename_i same
        cases same
      · rename_i key field same
        cases same
        cases success
        exact .field key field
      · rename_i key relation field same
        cases same
        cases success
        exact .column key relation field
      · rename_i same
        cases same
      · cases success
  | object members =>
      rcases ofJson_object members with ⟨texts, same⟩ | refused
      · rw [same] at success ⊢
        rw [ofJson_ofTexts] at success
        rcases ofTable_spec texts with ⟨key, hasKey, known, stated⟩ | ⟨fault, _, refused⟩
        · rw [stated] at success
          cases success
          exact .table hasKey known
        · rw [refused] at success
          cases success
      · rw [refused] at success
        cases success
  | _ => cases success

/-- An entry reads as what it spells and as nothing else. -/
theorem ofJson_eq_ok_iff {json : Json} {entry : Entry} :
    ofJson json = .ok entry ↔ Spells json entry := by
  refine ⟨spells_of_ofJson, ?_⟩
  intro spelled
  cases spelled with
  | key key => rfl
  | field key field => rfl
  | column key relation field => rfl
  | @table texts key hasKey known =>
      rw [ofJson_ofTexts]
      rcases ofTable_spec texts with ⟨other, found, _, stated⟩ | ⟨fault, faulty, _⟩
      · rw [hasKey] at found
        cases found
        rw [stated]
        rfl
      · cases faulty with
        | missingKey absent => exact absurd (exists_lookup_iff_mem.mp ⟨key, hasKey⟩) absent
        | unknownField _ present unknown _ => exact absurd (known _ present) unknown

/-- Only a table of texts is refused with a complaint of its own. -/
theorem ofJson_eq_error_entry_iff {json : Json} {named : EntryFault} :
    ofJson json = .error (.entry named) ↔
      ∃ texts, json = .ofTexts texts ∧ TableFault texts named := by
  constructor
  · intro failure
    cases json with
    | object members =>
        rcases ofJson_object members with ⟨texts, same⟩ | refused
        · rw [same] at failure
          obtain ⟨other, matching, faulty⟩ := ofJson_ofTexts_eq_error_iff.mp failure
          cases matching
          exact ⟨texts, same, faulty⟩
        · rw [refused] at failure
          cases failure
    | array items =>
        unfold ofJson at failure
        split at failure
        · cases failure
        · cases failure
        · cases failure
        · rename_i same
          cases same
        · cases failure
    | _ => cases failure
  · intro ⟨texts, same, faulty⟩
    rw [same]
    exact ofJson_ofTexts_eq_error_iff.mpr ⟨named, rfl, faulty⟩

end Entry

end RequestFilter
