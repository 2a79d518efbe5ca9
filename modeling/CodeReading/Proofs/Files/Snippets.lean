import CodeReading.Proofs.Files.Sources
import CodeReading.Proofs.Graph.Skeleton
import CodeReading.Proofs.Text.Window

set_option autoImplicit false

namespace CodeReading

open Files

theorem Node.allBlank_skeleton (g : CallGraph) (node : Node) :
    Text.allBlank (node.skeleton g).toList = false := by
  obtain ⟨line, lines, body⟩ := List.exists_cons_of_ne_nil (bodyLines_ne_nil g node)
  have mem : line ∈ node.bodyLines g := by simp [body]
  obtain ⟨c, ends, shown⟩ := getLast?_of_mem_bodyLines mem
  have notBlank : Text.isBlankLine line = false :=
    Text.allBlank_eq_false (List.mem_of_getLast? ends) shown
  rw [skeleton_eq]
  exact Text.allBlank_intercalate (List.mem_append_right node.upperLines mem) notBlank

theorem Node.allBlank_text_ofFiles (g : CallGraph) (node : Node) (files : List (String × String)) :
    Text.allBlank (node.text g (.ofFiles files)).toList = false := by
  unfold text
  cases found : SourceLookup.ofFiles files node with
  | none => exact allBlank_skeleton g node
  | some slice =>
    obtain ⟨contents, -, sliced⟩ := Option.bind_eq_some_iff.1 found
    exact Text.allBlank_slice sliced

/-- Nothing wraps where a window is computed, a slice is what the window shows, adjacent slices make
    up one slice, and no text of a node is blank, be its source in memory or in a file tree. -/
theorem snippets_are_shown (text : String) (first last : UInt64) (g : CallGraph) (node : Node) :
    (1 ≤ first → first ≤ last → Text.IsExactWindow first last) ∧
    (∀ slice, Text.sliceLines text first last = some slice ↔
      Text.IsSlice text first.toNat last.toNat slice) ∧
    (∀ middle front back, Text.sliceLines text first middle = some front →
      Text.sliceLines text (middle + 1) last = some back →
      Text.sliceLines text first last = some (front ++ "\n" ++ back)) ∧
    (∀ files, Text.allBlank (node.text g (.ofFiles files)).toList = false) ∧
    ∀ (tree : Tree) (root : String) (read : CallGraph),
      Text.allBlank (node.text g ((sourceLookup Tree.access root read).run tree).1).toList
        = false := by
  refine ⟨Text.isExactWindow, fun slice => Text.sliceLines_eq_some_iff,
    fun middle front back => Text.sliceLines_append, node.allBlank_text_ofFiles g, ?_⟩
  intro tree root read
  rw [run_sourceLookup]
  exact node.allBlank_text_ofFiles g _

/-- The second line is blank, and the last window goes on behind the text. -/
theorem snippets_are_shown_beyond :
    Text.sliceLines "def f():\r\n\t\r\n    pass" 2 2 = none ∧
    Text.IsExactWindow 1 18446744073709551615 ∧
    Text.sliceLines "def f():\r\n\t\r\n    pass" 1 18446744073709551615
      = some "def f():\n\t\n    pass" ∧
    Text.IsSlice "def f():\r\n\t\r\n    pass" 1 18446744073709551615 "def f():\n\t\n    pass" := by
  obtain ⟨exact, isSlice, join, -⟩ := snippets_are_shown "def f():\r\n\t\r\n    pass" 1
    18446744073709551615 ⟨[], [], ∅⟩ { id := "f", name := "f", kind := .function }
  have slice := join 2 "def f():\n\t" "    pass" (by decide +kernel) (by decide +kernel)
  exact ⟨by decide +kernel, exact (by decide) (by decide), slice, (isSlice _).1 slice⟩

end CodeReading
