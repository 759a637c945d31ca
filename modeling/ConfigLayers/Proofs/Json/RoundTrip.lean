import ConfigLayers.Proofs.Keyed
import ConfigLayers.Proofs.Json.Integers
import ConfigLayers.Proofs.Json.Strings

/-!
# Written values are read back

A container is written as its items with commas and gaps between them. If the reader of one item
takes the text of each item and nothing more, then the reader of a sequence takes the text of the
container. By recursion on the value, a value with its keys in order and all its numbers integers is
read back wherever its text stands, if as many containers may be open at once as it nests.
-/

namespace ConfigLayers.Json

/-! ### Values that can be read back -/

mutual
/-- Each number in the value is an integer that is kept as one. -/
def Integral : Json → Prop
  | number (.int n) => Number.IsInteger n
  | number (.double _) => False
  | array items => ItemsIntegral items
  | object members => MembersIntegral members
  | _ => True
termination_by structural value => value
def ItemsIntegral : List Json → Prop
  | [] => True
  | item :: items => item.Integral ∧ ItemsIntegral items
termination_by structural items => items
def MembersIntegral : List (String × Json) → Prop
  | [] => True
  | (_, value) :: members => value.Integral ∧ MembersIntegral members
termination_by structural members => members
end

mutual
/-- How many containers are open at once at the deepest place of the value. -/
def nesting : Json → Nat
  | array items => itemsNesting items + 1
  | object members => membersNesting members + 1
  | _ => 0
termination_by structural value => value
def itemsNesting : List Json → Nat
  | [] => 0
  | item :: items => max item.nesting (itemsNesting items)
termination_by structural items => items
def membersNesting : List (String × Json) → Nat
  | [] => 0
  | (_, value) :: members => max value.nesting (membersNesting members)
termination_by structural members => members
end

/-! ### Gaps -/

/-- The text consists of what may stand between two parts of a value. -/
def Blank (text : List Char) : Prop := ∀ c ∈ text, isGap c

/-- Only blanks are written between the parts of a container. -/
structure Spacing.Blank (sp : Spacing) : Prop where
  gap : ∀ depth, Json.Blank (sp.gap depth)
  afterColon : Json.Blank sp.afterColon

theorem Spacing.blank_compact : compact.Blank where
  gap _ := List.forall_mem_nil _
  afterColon := List.forall_mem_nil _

theorem Spacing.blank_pretty : pretty.Blank where
  gap depth := by
    intro c hc
    rcases List.mem_cons.mp hc with rfl | hc
    · rfl
    · rw [List.eq_of_mem_replicate hc]
      rfl
  afterColon := by simp [Json.Blank, pretty, isGap]

theorem skipGap_append {gap : List Char} (h : Blank gap) (cs : List Char) :
    skipGap (gap ++ cs) = skipGap cs := List.dropWhile_append_of_pos h

theorem skipGap_cons {c : Char} (h : isGap c = false) (cs : List Char) :
    skipGap (c :: cs) = c :: cs := List.dropWhile_cons_of_neg (by simp [h])

theorem endsNumber_cons {c : Char} (h : ¬ c.isDigit ∧ c ≠ '.' ∧ c ≠ 'e' ∧ c ≠ 'E')
    (cs : List Char) : EndsNumber (c :: cs) := by
  intro d hd
  cases hd
  exact h

theorem endsNumber_of_isGap {c : Char} (h : isGap c) (cs : List Char) :
    EndsNumber (c :: cs) := by
  apply endsNumber_cons
  have hc : c = ' ' ∨ c = '\n' ∨ c = '\r' ∨ c = '\t' := by simpa [isGap, or_assoc] using h
  rcases hc with rfl | rfl | rfl | rfl <;> decide

theorem EndsNumber.append_of_blank {gap cs : List Char} (h : EndsNumber cs) (hgap : Blank gap) :
    EndsNumber (gap ++ cs) := by
  cases gap with
  | nil => exact h
  | cons c gap => exact endsNumber_of_isGap (hgap c List.mem_cons_self) _

/-! ### Items -/

/-- A character that can come first in the text of an item. -/
def StartsItem (c : Char) : Prop := isGap c = false ∧ c ≠ ']' ∧ c ≠ '}'

instance (c : Char) : Decidable (StartsItem c) := inferInstanceAs (Decidable (_ ∧ _))

/-- The text with which `item` reads `a`, whatever follows that does not continue a numeral. -/
structure ItemText {α : Type} (item : Reader α) (a : α) (text : List Char) : Prop where
  starts : ∃ c cs, text = c :: cs ∧ StartsItem c
  reads : ∀ rest, EndsNumber rest → item (text ++ rest) = some (a, rest)

/-- The bracket that closes a container. -/
def IsClosing (right : Char) : Prop := right = ']' ∨ right = '}'

section Items

variable {α : Type} {item : Reader α} {a : α} {as : List α} {text gap last : List Char}
  {texts : List (List Char)} {right : Char}

theorem ItemText.skipGap (h : ItemText item a text) (hgap : Blank gap) (rest : List Char) :
    skipGap (gap ++ (text ++ rest)) = text ++ rest := by
  obtain ⟨c, cs, rfl, hc⟩ := h.starts
  rw [skipGap_append hgap, List.cons_append, skipGap_cons hc.1]

theorem IsClosing.skipGap (h : IsClosing right) (hlast : Blank last) (rest : List Char) :
    skipGap (last ++ right :: rest) = right :: rest := by
  rw [skipGap_append hlast]
  rcases h with rfl | rfl <;> rfl

theorem IsClosing.endsNumber (h : IsClosing right) (hlast : Blank last) (rest : List Char) :
    EndsNumber (last ++ right :: rest) := by
  refine EndsNumber.append_of_blank (endsNumber_cons ?_ rest) hlast
  rcases h with rfl | rfl <;> decide

theorem items_last {fuel : Nat} {cs cs' rest : List Char}
    (hitem : item (Json.skipGap cs) = some (a, cs'))
    (hclose : Json.skipGap cs' = right :: rest) :
    items item right (fuel + 1) cs = some ([a], rest) := by
  simp [items, hitem, hclose]

theorem items_more {fuel : Nat} {cs cs' cs'' rest : List Char} (hright : IsClosing right)
    (hitem : item (Json.skipGap cs) = some (a, cs')) (hcomma : Json.skipGap cs' = ',' :: cs'')
    (hothers : items item right fuel cs'' = some (as, rest)) :
    items item right (fuel + 1) cs = some (a :: as, rest) := by
  have hne : ',' ≠ right := by rcases hright with rfl | rfl <;> decide
  simp [items, hitem, hcomma, hne, hothers]

/-- The items are read one after the other. Each one leaves a comma, the last one the closing
bracket. -/
theorem items_written {lead : List Char} {fuel : Nat} (hright : IsClosing right)
    (hgap : Blank gap) (hlast : Blank last) (hlead : Blank lead) (hfirst : ItemText item a text)
    (hothers : List.Forall₂ (ItemText item) as texts) (hfuel : as.length < fuel)
    (rest : List Char) :
    items item right fuel (lead ++ (text ++
        (texts.flatMap (fun next => ',' :: gap ++ next) ++ (last ++ right :: rest)))) =
      some (a :: as, rest) := by
  induction hothers generalizing a text lead fuel with
  | nil =>
    obtain ⟨fuel, rfl⟩ : ∃ n, fuel = n + 1 := ⟨fuel - 1, by omega⟩
    refine items_last ?_ (hright.skipGap hlast rest)
    rw [hfirst.skipGap hlead]
    exact hfirst.reads _ (hright.endsNumber hlast rest)
  | @cons b next as texts hnext _ ih =>
    obtain ⟨fuel, rfl⟩ : ∃ n, fuel = n + 1 := ⟨fuel - 1, by omega⟩
    refine items_more hright ?_ (skipGap_cons rfl _) (ih hgap hnext (by simpa using hfuel))
    rw [hfirst.skipGap hlead, hfirst.reads]
    · simp
    · exact endsNumber_cons (by decide) _

theorem length_le_length_flatMap (gap : List Char) (texts : List (List Char)) :
    texts.length ≤ (texts.flatMap fun next => ',' :: gap ++ next).length := by
  induction texts with
  | nil => simp
  | cons next texts ih =>
    simp at ih ⊢
    omega

/-- A sequence that does not end at once is one of items. -/
theorem ItemText.sequence (h : ItemText item a text) (hright : IsClosing right)
    (hgap : Blank gap) (rest : List Char) :
    sequence item right (gap ++ (text ++ rest)) =
      items item right (gap ++ (text ++ rest)).length (text ++ rest) := by
  have hskip := h.skipGap hgap rest
  obtain ⟨c, cs, rfl, -, hbracket, hbrace⟩ := h.starts
  have hne : c ≠ right := by rcases hright with rfl | rfl <;> assumption
  unfold Json.sequence
  rw [hskip]
  exact if_neg hne

/-- What stands after the opening bracket of a written container is read as its items. -/
theorem exists_bracket_eq_cons {sp : Spacing} (hsp : sp.Blank) (depth : Nat) (left : Char)
    (hright : IsClosing right) (htexts : List.Forall₂ (ItemText item) as texts) :
    ∃ body, bracket sp depth left right texts = left :: body ∧
      ∀ rest, sequence item right (body ++ rest) = some (as, rest) := by
  cases htexts with
  | nil =>
    refine ⟨[right], rfl, fun rest => ?_⟩
    have hskip : Json.skipGap (right :: rest) = right :: rest :=
      hright.skipGap (List.forall_mem_nil _) rest
    simp [Json.sequence, hskip]
  | @cons a text as texts hfirst hothers =>
    have hbody : bracket sp depth left right (text :: texts) =
        left :: (sp.gap (depth + 1) ++ (text ++
          (texts.flatMap (fun next => ',' :: sp.gap (depth + 1) ++ next) ++
            (sp.gap depth ++ [right])))) := by simp [bracket]
    refine ⟨_, hbody, fun rest => ?_⟩
    -- there is a comma before each further item, so that there are enough characters
    have hlength := hothers.length_eq
    have hcommas := length_le_length_flatMap (sp.gap (depth + 1)) texts
    simp only [List.append_assoc, List.singleton_append]
    rw [hfirst.sequence hright (hsp.gap _)]
    apply items_written hright (hsp.gap _) (hsp.gap _) (List.forall_mem_nil _) hfirst hothers
    simp only [List.length_append, List.length_cons]
    omega

end Items

/-! ### Values -/

section Values

variable {limit depth : Nat} {sp : Spacing}

/-- The text of a value that is no container. -/
theorem itemText_of_scalar {v : Json} {c : Char} {cs : List Char}
    (hc : StartsItem c ∧ c ≠ '[' ∧ c ≠ '{')
    (h : ∀ rest, EndsNumber rest → scalar (c :: cs ++ rest) = some (v, rest)) :
    ItemText (value limit) v (c :: cs) where
  starts := ⟨c, cs, rfl, hc.1⟩
  reads rest hrest := by
    have hvalue : value limit (c :: cs ++ rest) = scalar (c :: cs ++ rest) := by
      unfold value
      cases limit <;> simp [hc.2.1, hc.2.2]
    rw [hvalue, h rest hrest]

theorem itemText_null : ItemText (value limit) .null "null".toList :=
  itemText_of_scalar (by decide) fun rest _ => rfl

theorem itemText_bool (b : Bool) :
    ItemText (value limit) (.bool b) (if b then "true" else "false").toList := by
  cases b with
  | false => exact itemText_of_scalar (by decide) fun rest _ => rfl
  | true => exact itemText_of_scalar (by decide) fun rest _ => rfl

theorem itemText_string (s : String) : ItemText (value limit) (.string s) (writeString s) := by
  refine itemText_of_scalar (by decide) ?_
  intro rest _
  have hbody := stringBody_written s rest
  simp [scalar, hbody]

theorem scalar_of_number {c : Char} (h : c.isDigit ∨ c = '-') (cs : List Char) :
    scalar (c :: cs) = (readNumber (c :: cs)).map fun (n, rest) => (.number n, rest) := by
  unfold scalar
  split <;> simp_all

theorem itemText_number {n : Int} (h : Number.IsInteger n) :
    ItemText (value limit) (.number (.int n)) (Number.text (.int n)).toList := by
  obtain ⟨c, cs, htext, hc⟩ := exists_text_eq_cons n
  have hstart : StartsItem c ∧ c ≠ '[' ∧ c ≠ '{' := by
    simp only [StartsItem, isGap, Bool.or_eq_false_iff, beq_eq_false_iff_ne]
    refine ⟨⟨⟨⟨⟨?_, ?_⟩, ?_⟩, ?_⟩, ?_, ?_⟩, ?_, ?_⟩ <;>
    · rintro rfl
      revert hc
      decide
  rw [htext]
  apply itemText_of_scalar hstart
  intro rest hrest
  have hread := readNumber_text h hrest
  rw [htext, List.cons_append] at hread
  rw [List.cons_append, scalar_of_number hc, hread, Option.map_some]

/-! ### Containers -/

theorem itemText_array {items : List Json} {texts : List (List Char)} (hsp : sp.Blank)
    (depth : Nat) (htexts : List.Forall₂ (ItemText (value limit)) items texts) :
    ItemText (value (limit + 1)) (.array items) (bracket sp depth '[' ']' texts) := by
  obtain ⟨body, hbody, hread⟩ := exists_bracket_eq_cons hsp depth '[' (.inl rfl) htexts
  rw [hbody]
  refine ⟨⟨'[', body, rfl, by decide⟩, ?_⟩
  intro rest _
  simp [value, hread]

/-- The members of an object are collected by their keys, which keeps them if they are in order. -/
theorem itemText_object {members : List (String × Json)} {texts : List (List Char)}
    (hsp : sp.Blank) (depth : Nat) (hascending : Keyed.Ascending members)
    (htexts : List.Forall₂ (ItemText (keyAndValue (value limit))) members texts) :
    ItemText (value (limit + 1)) (.object members) (bracket sp depth '{' '}' texts) := by
  obtain ⟨body, hbody, hread⟩ := exists_bracket_eq_cons hsp depth '{' (.inr rfl) htexts
  rw [hbody]
  refine ⟨⟨'{', body, rfl, by decide⟩, ?_⟩
  intro rest _
  simp [value, hread, hascending.ofList_eq]

theorem ItemText.member {v : Json} {text : List Char} (h : ItemText (value limit) v text)
    (hsp : sp.Blank) (key : String) :
    ItemText (keyAndValue (value limit)) (key, v)
      (writeString key ++ ':' :: sp.afterColon ++ text) := by
  refine ⟨⟨'"', _, rfl, by decide⟩, ?_⟩
  intro rest hrest
  have hkey := stringBody_written key (':' :: (sp.afterColon ++ (text ++ rest)))
  have hcolon : Json.skipGap (':' :: (sp.afterColon ++ (text ++ rest))) =
      ':' :: (sp.afterColon ++ (text ++ rest)) := skipGap_cons rfl _
  simp [writeString, keyAndValue, hkey, hcolon, h.skipGap hsp.afterColon, h.reads rest hrest]

mutual
/-- A value that nests no deeper than the reader allows is read back from its text. Inside a
container the text stands one level deeper and the reader allows one container less. -/
theorem itemText_write (hsp : sp.Blank) : (v : Json) → (limit depth : Nat) → v.Ordered →
    v.Integral → v.nesting ≤ limit → ItemText (value limit) v (write sp depth v)
  | .null, _, _, _, _, _ => itemText_null
  | .bool b, _, _, _, _, _ => itemText_bool b
  | .number (.int _), _, _, _, hintegral, _ => itemText_number hintegral
  | .number (.double _), _, _, _, hintegral, _ => hintegral.elim
  | .string s, _, _, _, _, _ => itemText_string s
  | .array items, limit + 1, depth, hordered, hintegral, hnesting =>
    itemText_array hsp depth
      (itemTexts_writeItems hsp items limit (depth + 1) hordered hintegral
        (Nat.le_of_succ_le_succ hnesting))
  | .array _, 0, _, _, _, hnesting => absurd hnesting (Nat.not_succ_le_zero _)
  | .object _, 0, _, _, _, hnesting => absurd hnesting (Nat.not_succ_le_zero _)
  | .object members, limit + 1, depth, hordered, hintegral, hnesting =>
    itemText_object hsp depth hordered.1
      (itemTexts_writeMembers hsp members limit (depth + 1) hordered.2 hintegral
        (Nat.le_of_succ_le_succ hnesting))
theorem itemTexts_writeItems (hsp : sp.Blank) : (items : List Json) → (limit depth : Nat) →
    ItemsOrdered items → ItemsIntegral items → itemsNesting items ≤ limit →
      List.Forall₂ (ItemText (value limit)) items (writeItems sp depth items)
  | [], _, _, _, _, _ => .nil
  | item :: items, limit, depth, hordered, hintegral, hnesting => by
    obtain ⟨hitem, hitems⟩ := Nat.max_le.mp hnesting
    exact .cons (itemText_write hsp item limit depth hordered.1 hintegral.1 hitem)
      (itemTexts_writeItems hsp items limit depth hordered.2 hintegral.2 hitems)
theorem itemTexts_writeMembers (hsp : sp.Blank) : (members : List (String × Json)) →
    (limit depth : Nat) → MembersOrdered members → MembersIntegral members →
      membersNesting members ≤ limit →
        List.Forall₂ (ItemText (keyAndValue (value limit))) members (writeMembers sp depth members)
  | [], _, _, _, _, _ => .nil
  | (key, v) :: members, limit, depth, hordered, hintegral, hnesting => by
    obtain ⟨hvalue, hmembers⟩ := Nat.max_le.mp hnesting
    have hmember := itemText_write hsp v limit depth hordered.1 hintegral.1 hvalue
    exact .cons (hmember.member hsp key)
      (itemTexts_writeMembers hsp members limit depth hordered.2 hintegral.2 hmembers)
end

end Values

/-! ### Texts -/

theorem parse?_write {sp : Spacing} (hsp : sp.Blank) {v : Json} (hordered : v.Ordered)
    (hintegral : v.Integral) (hnesting : v.nesting ≤ nestingLimit) :
    parse? (String.ofList (write sp 0 v)) = some v := by
  have htext := itemText_write hsp v nestingLimit 0 hordered hintegral hnesting
  have hread := htext.reads [] (by simp [EndsNumber])
  have hskip : skipGap ([] ++ (write sp 0 v ++ [])) = write sp 0 v ++ [] :=
    htext.skipGap (List.forall_mem_nil _) []
  simp only [List.nil_append, List.append_nil] at hread hskip
  have hend : skipGap [] = [] := rfl
  simp [parse?, parseWithin?, hskip, hread, hend]

end ConfigLayers.Json
