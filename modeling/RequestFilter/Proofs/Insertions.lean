import Mathlib.Data.List.Nodup
import RequestFilter.Proofs.JsonRequests
import RequestFilter.Table

/-! # Filters set one after the other

Setting a key again replaces its value where it stands.  So a request that is built
from filters one by one has each key at the place of its first filter, with the
value of its last one (`Request.entries_ofList_eq`), and to apply the request is to
dispatch these filters in their order (`Table.applyWith_ofList`).
-/

namespace RequestFilter

namespace Request

/-- The keys of some filters, each once, where they come up first, with the values that come up
last. -/
def settled (inserted : List (Key × Value)) : List (Key × Value) :=
  (inserted.map Prod.fst).eraseDups.filterMap fun key =>
    (inserted.reverse.lookup key).map fun value => (key, value)

section Entries

variable (request : Request)

theorem get?_insert (key other : Key) (value : Value) :
    (request.insert key value).get? other =
      if other = key then some value else request.get? other :=
  isSetter_setEntry.lookup_eq key other value request.entries

theorem keys_insert (key : Key) (value : Value) :
    (request.insert key value).keys =
      if key ∈ request.keys then request.keys else request.keys ++ [key] :=
  keys_setEntry key value request.entries

theorem get?_eq_some_iff {key : Key} {value : Value} :
    request.get? key = some value ↔ (key, value) ∈ request.entries :=
  lookup_eq_some_iff_mem request.distinct

/-- A request is its keys in order with their values. -/
theorem entries_eq_filterMap :
    request.entries =
      request.keys.filterMap fun key => (request.get? key).map fun value => (key, value) := by
  unfold keys
  rw [List.filterMap_map]
  symm
  refine (List.filterMap_congr fun entry member => ?_).trans List.filterMap_some
  obtain ⟨key, value⟩ := entry
  exact congrArg (Option.map _) (request.get?_eq_some_iff.mpr member)

end Entries

section Insertions

variable (inserted : List (Key × Value))

theorem ofList_concat (entry : Key × Value) :
    ofList (inserted ++ [entry]) = (ofList inserted).insert entry.1 entry.2 :=
  List.foldl_concat ..

/-- The value of a key is the last that was set. -/
theorem get?_ofList (key : Key) : (ofList inserted).get? key = inserted.reverse.lookup key := by
  induction inserted using List.reverseRecOn with
  | nil => rfl
  | append_singleton inserted entry ih =>
      rw [ofList_concat, get?_insert, ih, List.reverse_concat, lookup_cons_eq_ite]

/-- The keys stand in the order in which they come up first. -/
theorem keys_ofList : (ofList inserted).keys = (inserted.map Prod.fst).eraseDups := by
  induction inserted using List.reverseRecOn with
  | nil => rfl
  | append_singleton inserted entry ih =>
      rw [ofList_concat, keys_insert, ih, List.map_append, List.map_singleton, eraseDups_concat]
      by_cases old : entry.1 ∈ inserted.map Prod.fst
      · rw [if_pos (List.mem_eraseDups.mpr old), if_pos old, List.append_nil]
      · rw [if_neg fun member => old (List.mem_eraseDups.mp member), if_neg old]

theorem mem_keys_ofList {key : Key} :
    key ∈ (ofList inserted).keys ↔ key ∈ inserted.map Prod.fst := by
  rw [keys_ofList, List.mem_eraseDups]

/-- A key stands before another one that comes up later. -/
theorem pairwise_keys_ofList :
    (ofList inserted).keys.Pairwise fun first second =>
      (inserted.map Prod.fst).idxOf first < (inserted.map Prod.fst).idxOf second := by
  induction inserted using List.reverseRecOn with
  | nil => exact List.Pairwise.nil
  | append_singleton inserted entry ih =>
      rw [ofList_concat, keys_insert, List.map_append, List.map_singleton]
      -- Filters that were there before keep their places in the longer list.
      have kept : (ofList inserted).keys.Pairwise fun first second =>
          (inserted.map Prod.fst ++ [entry.1]).idxOf first <
            (inserted.map Prod.fst ++ [entry.1]).idxOf second := by
        refine ih.imp_of_mem fun inFirst inSecond earlier => ?_
        rwa [List.idxOf_append_of_mem ((mem_keys_ofList inserted).mp inFirst),
          List.idxOf_append_of_mem ((mem_keys_ofList inserted).mp inSecond)]
      by_cases old : entry.1 ∈ (ofList inserted).keys
      · rwa [if_pos old]
      · rw [if_neg old, List.pairwise_append]
        refine ⟨kept, List.pairwise_singleton _ _, fun first inFirst second isNew => ?_⟩
        rw [mem_keys_ofList] at old inFirst
        rw [List.mem_singleton.mp isNew, List.idxOf_append_of_mem inFirst,
          List.idxOf_append_of_notMem old]
        exact Nat.lt_add_right _ (List.idxOf_lt_length_of_mem inFirst)

/-- A request holds the filters that are left when each key keeps its first place and its last
value. -/
theorem entries_ofList_eq : (ofList inserted).entries = settled inserted := by
  rw [entries_eq_filterMap, keys_ofList]
  simp only [get?_ofList]
  rfl

theorem mem_entries_ofList {key : Key} {value : Value} :
    (key, value) ∈ (ofList inserted).entries ↔
      ∃ before after, inserted = before ++ (key, value) :: after ∧ key ∉ after.map Prod.fst := by
  rw [← get?_eq_some_iff, get?_ofList, List.lookup_eq_some_iff]
  constructor
  · intro ⟨after, before, same, other⟩
    refine ⟨before.reverse, after.reverse, ?_, ?_⟩
    · rw [← List.reverse_reverse inserted, same, List.reverse_append, List.reverse_cons,
        List.append_assoc, List.singleton_append]
    · rw [List.map_reverse, List.mem_reverse, List.mem_map]
      intro ⟨entry, inside, named⟩
      exact bne_iff_ne.mp (other entry inside) named.symm
  · intro ⟨before, after, same, other⟩
    refine ⟨after.reverse, before.reverse, ?_, ?_⟩
    · rw [same, List.reverse_append, List.reverse_cons, List.append_assoc, List.singleton_append]
    · intro entry inside
      rw [List.mem_reverse] at inside
      exact bne_iff_ne.mpr fun named => other (List.mem_map.mpr ⟨entry, inside, named.symm⟩)

end Insertions

end Request

/-- To apply a request that was built filter by filter is to dispatch what is left of the filters. -/
theorem Table.applyWith_ofList {Query Fault : Type} (table : Table Query Fault)
    (custom : List (Rule Query Fault)) (fallback : Fallback Query Fault) (query : Query)
    (inserted : List (Key × Value)) :
    table.applyWith custom fallback query (.ofList inserted) =
      (Request.settled inserted).foldlM
        (fun query entry =>
          dispatchEntry (custom ++ table.rules) fallback query entry.1 entry.2) query := by
  unfold Table.applyWith dispatch
  rw [Request.entries_ofList_eq, dispatchEntries_eq_foldlM_dispatchEntry]

/-- **A request keeps first places and last values.**  A request that is built filter by filter has
each key once, in the order in which the keys come up first, with the value that was set last, and
this is the value that a look-up finds.  The two forms of a name are two keys, and to set one leaves
the other alone.  To apply the request, with any rules of the caller and any fallback, is to dispatch
what is left of the filters one after the other. -/
theorem Request.ofList_settles (inserted : List (Key × Value)) :
    (ofList inserted).keys.Nodup ∧
      (∀ key, key ∈ (ofList inserted).keys ↔ key ∈ inserted.map Prod.fst) ∧
      ((ofList inserted).keys.Pairwise fun first second =>
        (inserted.map Prod.fst).idxOf first < (inserted.map Prod.fst).idxOf second) ∧
      (∀ key value, (key, value) ∈ (ofList inserted).entries ↔
        ∃ before after, inserted = before ++ (key, value) :: after ∧
          key ∉ after.map Prod.fst) ∧
      (∀ key value, (ofList inserted).get? key = some value ↔
        (key, value) ∈ (ofList inserted).entries) ∧
      (∀ name value, Key.atom name ≠ Key.text name ∧
        (ofList (inserted ++ [(.atom name, value)])).get? (.text name) =
          (ofList inserted).get? (.text name) ∧
        (ofList (inserted ++ [(.text name, value)])).get? (.atom name) =
          (ofList inserted).get? (.atom name)) ∧
      ∀ {Query Fault : Type} (table : Table Query Fault) (custom : List (Rule Query Fault))
        (fallback : Fallback Query Fault) (query : Query),
        table.applyWith custom fallback query (ofList inserted) =
          (settled inserted).foldlM
            (fun query entry =>
              dispatchEntry (custom ++ table.rules) fallback query entry.1 entry.2) query := by
  have apart (name : String) : Key.atom name ≠ Key.text name := Key.noConfusion
  refine ⟨(ofList inserted).distinct, fun _ => mem_keys_ofList inserted,
    pairwise_keys_ofList inserted, fun _ _ => mem_entries_ofList inserted,
    fun _ _ => (ofList inserted).get?_eq_some_iff, fun name value => ⟨apart name, ?_, ?_⟩,
    fun table custom fallback query => table.applyWith_ofList custom fallback query inserted⟩
  · rw [ofList_concat, get?_insert, if_neg (apart name).symm]
  · rw [ofList_concat, get?_insert, if_neg (apart name)]

example : (Request.ofList [(.atom "limit", .integer 2), (.text "limit", .text "7"),
    (.atom "name", .null), (.atom "limit", .integer 3)]).keys =
      [.atom "limit", .text "limit", .atom "name"] := rfl

end RequestFilter
