import RequestFilter.Definitions.Writer
import RequestFilter.Proofs.Definitions.Contents
import RequestFilter.Proofs.JsonText

/-! # Definitions read back

What is written for definitions reads back as the same definitions
(`Definitions.ofJson_toJson`), also from its text
(`Definitions.ofText?_compact_toJson`).  So definitions are written apart from
each other, and a document may be replaced by what is written for the definitions
that it states (`Definitions.reads_back`).
-/

namespace RequestFilter

open Outcome

/-- A written entry is read in the shape that it was written in, whatever texts it holds. -/
theorem Entry.ofJson_toJson (entry : Entry) : ofJson entry.toJson = .ok entry := by
  cases entry <;> rfl

theorem Json.NumberFree.pair {first second : Json} (free : first.NumberFree)
    (others : second.NumberFree) : NumberFree (.array [first, second]) := by
  refine .array ?_
  intro item member
  rcases List.mem_cons.mp member with rfl | later
  · exact free
  · rw [List.mem_singleton.mp later]
    exact others

theorem Entry.numberFree_toJson (entry : Entry) : entry.toJson.NumberFree := by
  cases entry with
  | bare key => exact .string key
  | aliased key field => exact .pair (.string key) (.string field)
  | qualified key relation field =>
      exact .pair (.string key) (.pair (.string relation) (.string field))

namespace Definitions

theorem readEntries_map_toJson (entries : List Entry) :
    readEntries (.array (entries.map Entry.toJson)) = .ok entries := by
  change (entries.map Entry.toJson).mapM Entry.ofJson = _
  rw [mapM_eq_ok_iff_forall₂, List.forall₂_map_left_iff, List.forall₂_same]
  intro entry _
  exact entry.ofJson_toJson

theorem read_settingJson (definitions : Definitions) (setting : Setting) :
    setting.read strictFlag? (definitions.settingJson setting) =
      .ok (definitions.content setting) := by
  cases setting with
  | entries kind => exact readEntries_map_toJson (definitions.fieldEntries kind)
  | atomKeys => rfl
  | stringKeys => rfl
  | toggle which => rfl

theorem statements?_toJson (definitions : Definitions) :
    statements? definitions.toJson =
      some (Setting.all.map fun setting => (some setting, definitions.settingJson setting)) := by
  apply congrArg some
  rw [List.map_map]
  apply List.map_congr_left
  intro setting _
  have named : Setting.ofName? setting.name = some setting := Setting.ofName?_eq_some_iff.mpr rfl
  exact congrArg (fun found => (found, definitions.settingJson setting)) named

/-- What definitions hold, setting by setting. -/
def contents (definitions : Definitions) : List ((setting : Setting) × setting.Content) :=
  Setting.all.map fun setting => ⟨setting, definitions.content setting⟩

theorem map_fst_contents (definitions : Definitions) :
    definitions.contents.map Sigma.fst = Setting.all := by
  rw [contents, List.map_map]
  exact List.map_id _

theorem putAll_contents (initial definitions : Definitions) :
    initial.putAll definitions.contents = definitions := by
  apply ext_content
  intro setting
  apply content_putAll_of_mem
  · rw [map_fst_contents]
    exact Setting.all_nodup
  · exact List.mem_map_of_mem setting.mem_all

theorem mapM_readStatement_settings (definitions : Definitions) :
    (Setting.all.map fun setting => (some setting, definitions.settingJson setting)).mapM
        (readStatement strictFlag?) =
      .ok definitions.contents := by
  rw [contents, mapM_eq_ok_iff_forall₂, List.forall₂_map_left_iff, List.forall₂_map_right_iff,
    List.forall₂_same]
  intro setting _
  exact readStatement_eq_ok_iff.mpr ⟨rfl, definitions.read_settingJson setting⟩

/-- Written definitions read back. -/
theorem ofJson_toJson (definitions : Definitions) :
    ofJson definitions.toJson = .ok definitions :=
  (ofJson_eq_ok_iff definitions.statements?_toJson).mpr
    ⟨_, definitions.mapM_readStatement_settings, (empty.putAll_contents definitions).symm⟩

theorem numberFree_toJson (definitions : Definitions) : definitions.toJson.NumberFree := by
  apply Json.NumberFree.object
  · rw [List.map_map]
    exact Setting.all_nodup.map Setting.name_injective
  · intro member inside
    obtain ⟨setting, _, rfl⟩ := List.mem_map.mp inside
    cases setting with
    | entries kind =>
        refine .array ?_
        intro item inside
        obtain ⟨entry, _, rfl⟩ := List.mem_map.mp inside
        exact entry.numberFree_toJson
    | atomKeys => exact .bool _
    | stringKeys => exact .bool _
    | toggle which => exact .bool _

/-- Definitions read back from the text of what is written for them. -/
theorem ofText?_compact_toJson (definitions : Definitions) :
    (Json.ofText? definitions.toJson.compact).map ofJson = some (.ok definitions) := by
  rw [Json.ofText?_compact definitions.numberFree_toJson, Option.map_some, ofJson_toJson]

/-- **Definitions read back as they were written.**  Reading what is written for definitions gives
them, from its JSON and from its text, whatever texts they hold.  So no two of them are written
alike, and any document means what is written for the definitions that it states. -/
theorem reads_back :
    (∀ definitions : Definitions, ofJson definitions.toJson = .ok definitions ∧
        (Json.ofText? definitions.toJson.compact).map ofJson = some (.ok definitions)) ∧
      (Function.Injective fun definitions : Definitions => definitions.toJson.compact) ∧
        ∀ json, (ofJson json >>= fun definitions => ofJson definitions.toJson) = ofJson json := by
  refine ⟨fun definitions => ⟨definitions.ofJson_toJson, definitions.ofText?_compact_toJson⟩, ?_,
    ?_⟩
  · intro first second same
    have read := first.ofText?_compact_toJson
    change first.toJson.compact = second.toJson.compact at same
    rw [same, second.ofText?_compact_toJson] at read
    cases read
    rfl
  · intro json
    cases ofJson json with
    | error fault => rfl
    | ok definitions => exact bind_eq_ok_iff.mpr ⟨definitions, rfl, definitions.ofJson_toJson⟩

end Definitions

end RequestFilter
