import ShadingGraph.Field.Path
import ShadingGraph.Proofs.Split

/-! # Parents and last pieces

A path is cut at its last point. Reading goes through the segments of the parent and then
through the last piece, unless that piece is empty: then it stays at the parent.
-/

namespace ShadingGraph

namespace Path

/-- Segments that lead to the parent of the place that a write fills. -/
def parent (path : String) : List String :=
  segments (parentAndLast path).1

/-- What the place is called in its parent. It may be empty. -/
def last (path : String) : String :=
  (parentAndLast path).2

/-- Steps to the place that a write fills: the root for the empty path. -/
def place (path : String) : List String :=
  if path = "" then [] else parent path ++ [last path]

theorem segments_of_not_mem {text : String} (plain : separator ∉ text.toList) :
    segments text = if text = "" then [] else [text] := by
  rw [segments, Text.splitOn_of_not_mem plain]
  by_cases empty : text = ""
  · simp [empty]
  · simp [empty, String.toList_eq_nil_iff]

/-- The last piece of a path is its last segment, or empty and none of its segments. -/
theorem segments_eq (path : String) :
    segments path = parent path ++ if last path = "" then [] else [last path] := by
  rw [parent, last, parentAndLast]
  cases split : Text.splitLast? separator path.toList with
  | none =>
      have root : segments "" = [] := by decide
      rw [segments_of_not_mem (Text.splitLast?_eq_none.mp split), root, List.nil_append]
  | some parts =>
      obtain ⟨before, after⟩ := parts
      obtain ⟨whole, plain⟩ := Text.splitLast?_eq_some split
      have plain' : separator ∉ (String.ofList after).toList := by
        rwa [String.toList_ofList]
      have tail := segments_of_not_mem plain'
      rw [segments, whole, Text.splitOn_append, List.filter_append, List.map_append, ← tail]
      simp only [segments, String.toList_ofList]

theorem last_eq_empty {path : String} :
    last path = "" ↔ path = "" ∨ path.toList.getLast? = some separator := by
  rw [last, parentAndLast]
  cases split : Text.splitLast? separator path.toList with
  | none =>
      have plain := Text.splitLast?_eq_none.mp split
      exact (or_iff_left fun ends => plain (List.mem_of_getLast? ends)).symm
  | some parts =>
      obtain ⟨before, after⟩ := parts
      obtain ⟨whole, plain⟩ := Text.splitLast?_eq_some split
      have nonempty : path ≠ "" := by
        rintro rfl
        cases split
      dsimp only
      rw [or_iff_right nonempty, whole, List.getLast?_append, List.getLast?_cons]
      cases after with
      | nil => simp
      | cons c rest =>
          have other : (c :: rest).getLast? ≠ some separator := fun ends =>
            plain (List.mem_of_getLast? ends)
          simpa [List.getLast?_cons] using other

end Path

end ShadingGraph
