import Mathlib.Data.List.Basic
import ConfigLayers.Text.Quoted
import ConfigLayers.Path.Basic

/-!
# Lines

A text stands on one line if there is no line break in it. A quoted text always does, because it has
an escape for every break. A joined path does not if there is a break in one of its parts.
-/

namespace ConfigLayers

namespace Text

variable {c : Char} {s t : String}

/-- There is no line break: neither a line feed nor a carriage return. -/
def OneLine (s : String) : Prop := ∀ c ∈ s.toList, c ≠ '\n' ∧ c ≠ '\r'

instance (s : String) : Decidable (OneLine s) := List.decidableBAll _ s.toList

theorem oneLine_append : OneLine (s ++ t) ↔ OneLine s ∧ OneLine t := by
  rw [OneLine, String.toList_append, List.forall_mem_append]
  rfl

theorem oneLine_append_left (hs : OneLine s) : OneLine (s ++ t) ↔ OneLine t := by
  rw [oneLine_append, and_iff_right hs]

theorem oneLine_append_right (ht : OneLine t) : OneLine (s ++ t) ↔ OneLine s := by
  rw [oneLine_append, and_iff_left ht]

/-! ### Quoted texts -/

/-- The digits of a number are written with the characters of digits. -/
theorem exists_eq_digitChar_of_mem_hexDigits {n : Nat} (h : c ∈ hexDigits n) :
    ∃ d, c = Nat.digitChar d := by
  induction n using Nat.strongRecOn with
  | ind n ih =>
    rw [hexDigits, Nat.toDigits_eq_if (by decide)] at h
    split at h
    · exact ⟨n, List.mem_singleton.mp h⟩
    · rcases List.mem_append.mp h with h | h
      · exact ih (n / 16) (by omega) h
      · exact ⟨n % 16, List.mem_singleton.mp h⟩

theorem oneLine_hexDigits (n : Nat) : OneLine (String.ofList (hexDigits n)) := by
  intro c hc
  rw [String.toList_ofList] at hc
  obtain ⟨d, rfl⟩ := exists_eq_digitChar_of_mem_hexDigits hc
  exact ⟨Nat.digitChar_ne '\n' (by decide), Nat.digitChar_ne '\r' (by decide)⟩

theorem oneLine_codePointEscape (d : Char) : OneLine (String.ofList (codePointEscape d)) := by
  rw [codePointEscape, String.ofList_append, String.ofList_append,
    oneLine_append_right (by decide), oneLine_append_left (by decide)]
  exact oneLine_hexDigits d.toNat

/-- A quoted character is no line break: a break has an escape of its own. -/
theorem oneLine_quoteChar (d : Char) : OneLine (String.ofList (quoteChar d)) := by
  unfold quoteChar
  split
  case h_7 hfeed hreturn _ _ =>
    split
    · exact oneLine_codePointEscape d
    · intro c hc
      rw [String.toList_ofList, List.mem_singleton] at hc
      rw [hc]
      exact ⟨hfeed, hreturn⟩
  all_goals decide

theorem oneLine_quote (s : String) : OneLine (quote s) := by
  intro c hc
  rw [quote, String.toList_ofList, List.cons_append, List.mem_cons, List.mem_append,
    List.mem_singleton] at hc
  rcases hc with rfl | hc | rfl
  · decide
  · obtain ⟨d, -, hd⟩ := List.mem_flatMap.mp hc
    exact oneLine_quoteChar d c (by rwa [String.toList_ofList])
  · decide

end Text

/-! ### Joined paths -/

open Text (OneLine oneLine_append oneLine_append_right)

/-- A joined path has the breaks of both parts, but an absolute name stands for itself. -/
theorem Path.oneLine_join_iff {dir name : String} :
    OneLine (join dir name) ↔ OneLine name ∧ (name.toList.head? ≠ some '/' → OneLine dir) := by
  rw [join]
  split
  · next h =>
    have hdir : name.toList.head? ≠ some '/' → OneLine dir := by
      intro hrelative
      rw [h.resolve_left hrelative]
      decide
    rw [and_iff_left hdir]
  · next h =>
    have hrelative : name.toList.head? ≠ some '/' := fun habsolute => h (.inl habsolute)
    rw [forall_prop_of_true hrelative, and_comm]
    split
    · exact oneLine_append
    · rw [oneLine_append, oneLine_append_right (by decide)]

end ConfigLayers
