import ConfigLayers.Proofs.Tree.Calls
import ConfigLayers.Proofs.Overlay.Run

/-!
# One write, many calls

A write is asked for by the segments of its way, by its dotted path, by a key of the root, or by an
assignment of the overlay, which takes the call for keys where its name is one. All of them come to
the same: what a call does is settled by the dotted path that it names and by its node. Only
segments with dots inside are another matter, as the path that they name is cut elsewhere.
-/

namespace ConfigLayers

namespace Path

/-- No segment contains a dot. -/
def Dotless (segments : List String) : Prop := ∀ segment ∈ segments, '.' ∉ segment.toList

/-- No segment and one empty segment name the same path. -/
theorem keys_dotted_nil : keys (dotted []) = [""] := rfl

end Path

namespace Tree

variable {segments : List String}

/-- Without segments a write fails in the same way as with one that is empty. -/
theorem setInPlace_nil (t : Tree) (node : Node) :
    t.setInPlace [] node = t.setInPlace [""] node := by
  have hmem : "" ∈ [""] := List.mem_singleton.mpr rfl
  rw [setInPlace, setInPlace, if_pos hmem, Path.dotted_singleton]

/-- Dotless segments may be joined and cut again before a write. -/
theorem setInPlace_keys_dotted (h : Path.Dotless segments) (t : Tree) (node : Node) :
    t.setInPlace (Path.keys (Path.dotted segments)) node = t.setInPlace segments node := by
  cases segments with
  | nil => rw [Path.keys_dotted_nil, setInPlace_nil]
  | cons key rest => rw [Path.keys_dotted (List.cons_ne_nil key rest) h]

namespace Call

/-- The dotted path that the call names. -/
def path (call : Call) : String := Path.dotted call.way

/-- A call with a dotless way is the call for its dotted path. -/
theorem perform_eq_setPath (call : Call) (h : Path.Dotless call.way) (t : Tree) :
    call.perform t = (setPath call.path call.node).perform t := by
  rw [perform_eq_setInPlace, perform_eq_setInPlace, path, way, setInPlace_keys_dotted h]
  rfl

end Call

end Tree

namespace Overlay

/-- Whoever asks for a write gets the write at a dotted path, with the same result and the same tree
left: for dotless segments it is the path that they join to, for a dotless key of the root the key,
and for an assignment of the overlay its name, whatever the name is. -/
theorem writes_agree :
    (∀ (t : Tree) (segments : List String) (node : Node),
      (∀ segment ∈ segments, '.' ∉ segment.toList) →
        (Tree.Call.set segments node).perform t =
            (Tree.Call.setPath (Path.dotted segments) node).perform t ∧
          t.set segments node = t.setPath (Path.dotted segments) node) ∧
    (∀ (t : Tree) (key : String) (node : Node), '.' ∉ key.toList →
        (Tree.Call.assign key node).perform t = (Tree.Call.setPath key node).perform t ∧
          t.assign key node = t.setPath key node) ∧
    (∀ (t : Tree) (name value : String),
        assign t name value = (Tree.Call.setPath name (.string value)).perform t ∧
          (assign t name value).toExcept = t.setPath name (.string value)) := by
  refine ⟨?_, ?_, ?_⟩
  · intro t segments node hdotless
    have hsame := Tree.Call.perform_eq_setPath (.set segments node) hdotless t
    exact ⟨hsame, congrArg Tree.Written.toExcept hsame⟩
  · intro t key node hdotless
    have hway : Path.Dotless [key] := List.forall_mem_singleton.mpr hdotless
    have hsame := Tree.Call.perform_eq_setPath (.assign key node) hway t
    rw [Tree.Call.path, Tree.Call.way, Path.dotted_singleton] at hsame
    exact ⟨hsame, congrArg Tree.Written.toExcept hsame⟩
  · intro t name value
    have hsame : assign t name value = (Tree.Call.setPath name (.string value)).perform t :=
      assign_eq_write t name value
    exact ⟨hsame, congrArg Tree.Written.toExcept hsame⟩

/-- Without segments, through a leaf, and with an empty name. -/
theorem writes_agree_refused :
    ∃ t : Tree, t.lookup "a" = .ok (.string "x") ∧
      t.set [] .null = t.setPath "" .null ∧
      t.set ["a", "b"] .null = t.setPath "a.b" .null ∧
      t.setPath "a.b" .null = .error (.kindConflict "a" .string .tree) ∧
      t.assign "a" .null = t.setPath "a" .null ∧
      (assign t "" "y").toExcept = t.setPath "" (.string "y") := by
  let t : Tree := .ofEntries [("a", .string "x")]
  obtain ⟨hset, hassign, hoverlay⟩ := writes_agree
  have hdotless : ∀ segment ∈ ["a", "b"], '.' ∉ segment.toList := by decide
  exact ⟨t, rfl, (hset t [] .null (fun _ h => absurd h List.not_mem_nil)).2,
    (hset t ["a", "b"] .null hdotless).2, rfl, (hassign t "a" .null (by decide)).2,
    (hoverlay t "" "y").2⟩

end Overlay

end ConfigLayers
