import Mathlib.Data.List.Infix
import RequestFilter.Definitions.Surroundings
import RequestFilter.Proofs.Texts

/-! # Paths to files

Where a path leads, said for the path as a whole: to a file exactly when the parts
before the last lead to directories (`Surroundings.find_eq_file_iff`), whether the
path starts at the root or at the current directory, and whether or not it leaves
that directory on the way.  The name at the end of a path has an extension when
something stands before its last point (`Surroundings.extension_eq`).
-/

namespace RequestFilter

namespace Surroundings

section Files

variable {surroundings : Surroundings} {text : String}

/-- The parts of a path lead to a file when all before the last lead to directories and the last one
does not. -/
theorem follow_eq_file_iff {names parts : List Name} :
    surroundings.follow names parts = .file text ↔
      parts ≠ [] ∧
        (∀ before, before <+: parts → before ≠ [] → before ≠ parts →
          surroundings.hasDirectory (before.foldl goOn names) = true) ∧
        surroundings.hasDirectory (parts.foldl goOn names) = false ∧
        surroundings.fileAt? (parts.foldl goOn names) = some text := by
  induction parts generalizing names with
  | nil => simp only [follow, reduceCtorEq, ne_eq, not_true_eq_false, false_and]
  | cons part rest ih =>
      unfold follow
      rw [List.foldl_cons]
      by_cases inside : surroundings.hasDirectory (goOn names part) = true
      · rw [if_pos inside, ih]
        constructor
        · rintro ⟨-, way, stop, here⟩
          refine ⟨List.cons_ne_nil _ _, fun before first nonempty more => ?_, stop, here⟩
          rcases List.prefix_cons_iff.mp first with rfl | ⟨others, rfl, inner⟩
          · exact absurd rfl nonempty
          · by_cases last : others = []
            · rw [last]
              exact inside
            · exact way others inner last fun same => more (congrArg _ same)
        · rintro ⟨-, way, stop, here⟩
          refine ⟨?_, fun before first nonempty more => ?_, stop, here⟩
          · rintro rfl
            exact absurd inside (Bool.eq_false_iff.mp stop)
          · exact way (part :: before) ((List.prefix_cons_inj part).mpr first)
              (List.cons_ne_nil _ _) fun same => more (List.cons.inj same).2
      · rw [if_neg inside]
        cases rest with
        | nil =>
            have way (before : List Name) (first : before <+: [part]) (nonempty : before ≠ [])
                (more : before ≠ [part]) :
                surroundings.hasDirectory (before.foldl goOn names) = true :=
              absurd (first.eq_of_length_le (List.length_pos_iff.mpr nonempty)) more
            have stop := Bool.eq_false_iff.mpr inside
            cases here : surroundings.fileAt? (goOn names part) with
            | none => simp only [reduceCtorEq, List.foldl_nil, here, and_false]
            | some found =>
                simp only [Found.file.injEq, List.foldl_nil, here, Option.some.injEq]
                exact ⟨fun same => ⟨List.cons_ne_nil _ _, way, stop, same⟩, fun all => all.2.2.2⟩
        | cons next rest =>
            simp only [reduceCtorEq, false_iff]
            rintro ⟨-, way, -⟩
            have first : [part] <+: part :: next :: rest :=
              (List.prefix_cons_inj part).mpr List.nil_prefix
            exact inside (way [part] first (List.cons_ne_nil _ _) fun same => by cases same)

theorem segments_ne_nil (path : List Char) : segments path ≠ [] := by
  intro none
  unfold segments at none
  split at none
  · cases none
  · cases none
  · split at none <;> cases none

/-- A path leads to the file that it names when all its parts before the last lead to
directories. -/
theorem find_eq_file_iff {path : String} :
    surroundings.find path = .file text ↔
      path ≠ "" ∧
        (∀ before, before <+: segments path.toList → before ≠ [] → before ≠ segments path.toList →
          surroundings.hasDirectory (before.foldl goOn (surroundings.start path)) = true) ∧
        surroundings.hasDirectory (surroundings.namesOf path) = false ∧
        surroundings.fileAt? (surroundings.namesOf path) = some text := by
  unfold find
  by_cases empty : path = ""
  · simp only [empty, ↓reduceIte, reduceCtorEq, ne_eq, not_true_eq_false, false_and]
  · rw [if_neg empty, follow_eq_file_iff]
    exact and_congr_left' (iff_of_true (segments_ne_nil _) empty)

end Files

section Extensions

/-- What goes on without a slash goes on in the last part. -/
theorem exists_segments_append (text : List Char) {rest : List Char} (free : '/' ∉ rest) :
    ∃ before name, segments (text ++ rest) = before ++ [name ++ rest] := by
  induction text with
  | nil =>
      refine ⟨[], [], ?_⟩
      rw [List.nil_append]
      induction rest with
      | nil => rfl
      | cons c rest ih =>
          rw [List.mem_cons, not_or] at free
          rw [segments, ih free.2]
          · rfl
          · exact fun slash => free.1 slash.symm
  | cons c text ih =>
      obtain ⟨before, name, same⟩ := ih
      by_cases slash : c = '/'
      · refine ⟨[] :: before, name, ?_⟩
        rw [List.cons_append, slash, segments, same]
        rfl
      · rw [List.cons_append, segments, same]
        · cases before with
          | nil => exact ⟨[], c :: name, rfl⟩
          | cons first before => exact ⟨(c :: first) :: before, name, rfl⟩
        · exact slash

/-- The extension of a path is what follows its last point, where a name stands before the point. -/
theorem extension_eq {path : String} {front extension : List Char} {last : Char}
    (ends : path.toList = front ++ last :: '.' :: extension) (named : last ≠ '/')
    (plain : ∀ c ∈ extension, c ≠ '.' ∧ c ≠ '/') :
    Surroundings.extension path = String.ofList extension := by
  have free : '/' ∉ last :: '.' :: extension := by
    simp only [List.mem_cons, not_or]
    exact ⟨named.symm, by decide, fun member => (plain '/' member).2 rfl⟩
  obtain ⟨before, name, parts⟩ := exists_segments_append front free
  have onward : stays (name ++ last :: '.' :: extension) = false := by
    cases name <;> simp [stays]
  have reversed : (name ++ last :: '.' :: extension).reverse =
      extension.reverse ++ '.' :: last :: name.reverse := by simp
  have within : ∀ c ∈ extension.reverse, decide (c ≠ '.') = true := fun c member =>
    decide_eq_true (plain c (List.mem_reverse.mp member)).1
  have stops : ∀ c ∈ ('.' :: last :: name.reverse).head?, decide (c ≠ '.') = false := by
    rintro c ⟨⟩
    rfl
  unfold Surroundings.extension
  rw [ends, parts, List.filter_append, List.filter_singleton, onward, Bool.not_false, cond_true,
    List.getLast?_concat]
  dsimp only
  rw [reversed, dropWhile_append_of_ends within stops, takeWhile_append_of_ends within stops,
    List.reverse_reverse]

/-- A path ends in the name of a TOML file. -/
def EndsInToml (path : String) : Prop :=
  ∃ front last, path.toList = front ++ last :: ".toml".toList ∧ last ≠ '/'

theorem EndsInToml.extension_eq {path : String} (ends : EndsInToml path) :
    Surroundings.extension path = "toml" := by
  obtain ⟨front, last, ends, named⟩ := ends
  have spelled : ".toml".toList = '.' :: ['t', 'o', 'm', 'l'] := by decide
  rw [spelled] at ends
  exact Surroundings.extension_eq ends named (by simp)

end Extensions

end Surroundings

end RequestFilter
