import CaptureConfig.Proofs.Pattern.Escape

/-!
# Lists with a comma between them

A comma between two lists keeps the entries of both. If the first list ends in a backslash, the comma belongs to
an entry instead: the last piece of the first list goes on with the first piece of the second, and all other
pieces make the entries that they made before.
-/

namespace CaptureConfig.PatternList

/-- The entries that pieces make. -/
def entriesOf (pieces : List (List Char)) : List String :=
  ((pieces.map fun piece => Text.trimChars (unescape piece)).filter fun entry => !entry.isEmpty).map
    String.ofList

theorem entries_eq_entriesOf (value : String) : entries value = entriesOf (pieces false value.toList) := rfl

theorem entriesOf_append (xs ys : List (List Char)) :
    entriesOf (xs ++ ys) = entriesOf xs ++ entriesOf ys := by
  unfold entriesOf
  rw [List.map_append, List.filter_append, List.map_append]

/-- A piece with something besides white space makes an entry. -/
theorem entriesOf_singleton {piece : List Char} {c : Char} (hc : c ∈ unescape piece)
    (hblank : Text.isBlank c = false) :
    entriesOf [piece] = [String.ofList (Text.trimChars (unescape piece))] := by
  have hne : Text.trimChars (unescape piece) ≠ [] := by
    intro h
    rw [Text.trimChars_eq_nil.mp h c hc] at hblank
    cases hblank
  have hkept : (Text.trimChars (unescape piece)).isEmpty = false := by simpa using hne
  simp [entriesOf, hkept]

/-! ## The piece across the comma -/

theorem glue_append_singleton (xs : List (List Char)) (x y : List Char) (ys : List (List Char)) :
    glue (xs ++ [x]) (y :: ys) = xs ++ (x ++ y) :: ys := by
  induction xs with
  | nil => rfl
  | cons x' xs ih => rw [List.cons_append, glue_cons (by simp), ih, List.cons_append]

/-- The last piece of a text that ends in a backslash ends in it as well. -/
theorem pieces_of_getLast?_slash {cs : List Char} (h : cs.getLast? = some '\\') :
    ∃ before last, pieces false cs = before ++ [last ++ ['\\']] := by
  obtain ⟨front, rfl⟩ := List.getLast?_eq_some_iff.mp h
  obtain ⟨before, last, hfront⟩ := (List.eq_nil_or_concat' _).resolve_left (pieces_ne_nil false front)
  refine ⟨before, last, ?_⟩
  have hslash : pieces (endsInSlash false front) ['\\'] = [['\\']] := pieces_of_not_mem (by decide) _
  rw [pieces_append, hslash, hfront, glue_append_singleton]

/-- A comma behind a backslash joins the pieces on both sides of it. -/
theorem pieces_append_comma_of_slash {as bs last first : List Char} {before after : List (List Char)}
    (hslash : endsInSlash false as = true) (has : pieces false as = before ++ [last])
    (hbs : pieces false bs = first :: after) :
    pieces false (as ++ ',' :: bs) = before ++ (last ++ ',' :: first) :: after := by
  have hcomma : pieces true (',' :: bs) = (',' :: first) :: after := pieces_cons_of_kept (by simp) hbs
  rw [pieces_append, hslash, hcomma, has, glue_append_singleton]

/-- The backslash of an escaped comma is taken away, whatever stands before it. -/
theorem unescape_append_escaped_comma (cs ds : List Char) :
    unescape (cs ++ '\\' :: ',' :: ds) = unescape cs ++ ',' :: unescape ds := by
  induction cs using unescape.induct with
  | case1 => rfl
  | case2 cs ih => rw [List.cons_append, List.cons_append, unescape, unescape, ih, List.cons_append]
  | case3 c cs hother ih =>
      have hother' : ∀ cs', c = '\\' → cs ++ '\\' :: ',' :: ds = ',' :: cs' → False := by
        intro cs' hc hcs
        cases cs with
        | nil => cases hcs
        | cons d cs =>
            obtain ⟨rfl, -⟩ := List.cons.inj hcs
            exact hother cs hc rfl
      rw [List.cons_append, unescape, unescape, ih, List.cons_append]
      · exact hother
      · exact hother'

/-! ## The entries of both lists -/

theorem entries_append_comma_of_slash {a b : String} {last first : List Char} {before after : List (List Char)}
    (hslash : a.toList.getLast? = some '\\') (ha : pieces false a.toList = before ++ [last ++ ['\\']])
    (hb : pieces false b.toList = first :: after) :
    entries (a ++ "," ++ b) = entriesOf before ++
      String.ofList (Text.trimChars (unescape last ++ ',' :: unescape first)) :: entriesOf after := by
  have htext : (a ++ "," ++ b).toList = a.toList ++ ',' :: b.toList := by simp
  have hpiece : (last ++ ['\\']) ++ ',' :: first = last ++ '\\' :: ',' :: first := by simp
  have hunescape := unescape_append_escaped_comma last first
  have hcomma : ',' ∈ unescape (last ++ '\\' :: ',' :: first) := by
    rw [hunescape]
    simp
  rw [entries_eq_entriesOf, htext, pieces_append_comma_of_slash (endsInSlash_iff.mpr hslash) ha hb, hpiece,
    entriesOf_append, ← List.singleton_append, entriesOf_append, entriesOf_singleton hcomma (by decide),
    hunescape, List.singleton_append]

/-- **A comma between two lists.** The entries of both lists follow each other, unless the first list ends in a
backslash. Then its last piece, without that backslash, makes one entry with the comma and the first piece of
the second list, while the other pieces make the entries that they make in their own list. No entry is empty or
has white space around it. -/
theorem entries_of_concatenation :
    (∀ a b : String, a.toList.getLast? ≠ some '\\' → entries (a ++ "," ++ b) = entries a ++ entries b) ∧
    (∀ a b : String, a.toList.getLast? = some '\\' → ∃ before last first after,
      pieces false a.toList = before ++ [last ++ ['\\']] ∧ pieces false b.toList = first :: after ∧
      entries a = entriesOf before ++ entriesOf [last ++ ['\\']] ∧
      entries b = entriesOf [first] ++ entriesOf after ∧
      entries (a ++ "," ++ b) = entriesOf before ++
        String.ofList (Text.trimChars (unescape last ++ ',' :: unescape first)) :: entriesOf after) ∧
    ∀ value, ∀ entry ∈ entries value, IsEntry entry := by
  refine ⟨fun a b h => entries_append_comma h b, fun a b h => ?_, fun value entry => isEntry_of_mem_entries⟩
  obtain ⟨before, last, ha⟩ := pieces_of_getLast?_slash h
  obtain ⟨first, after, hb⟩ := List.exists_cons_of_ne_nil (pieces_ne_nil false b.toList)
  refine ⟨before, last, first, after, ha, hb, ?_, ?_, entries_append_comma_of_slash h ha hb⟩
  · rw [entries_eq_entriesOf, ha, entriesOf_append]
  · rw [entries_eq_entriesOf, hb, ← List.singleton_append, entriesOf_append]

/-- A blank behind two backslashes keeps the lists apart. Without it the last backslash takes in the comma, and the
blank behind the comma stays inside the entry. -/
theorem comma_is_taken_in :
    entries "a, b\\\\ ,c" = ["a", "b\\\\", "c"] ∧ entries "a, b\\\\, c,d" = ["a", "b\\, c", "d"] := by
  obtain ⟨happend, hslash, -⟩ := entries_of_concatenation
  have hleft : entries "a, b\\\\ " = ["a", "b\\\\"] := by decide +kernel
  have hright : entries "c" = ["c"] := by decide +kernel
  refine ⟨?_, ?_⟩
  · have h := happend "a, b\\\\ " "c" (by decide)
    rw [hleft, hright] at h
    exact h
  · obtain ⟨before, last, first, after, ha, hb, -, -, h⟩ := hslash "a, b\\\\" " c,d" (by decide)
    have ha' : pieces false "a, b\\\\".toList = [['a']] ++ [[' ', 'b', '\\'] ++ ['\\']] := by decide +kernel
    have hb' : pieces false " c,d".toList = [' ', 'c'] :: [['d']] := by decide +kernel
    obtain ⟨rfl, hlast⟩ := List.append_inj' (ha.symm.trans ha') rfl
    obtain rfl := List.append_cancel_right (List.singleton_inj.mp hlast)
    obtain ⟨rfl, rfl⟩ := List.cons.inj (hb.symm.trans hb')
    have hentry : entriesOf [['a']] ++ String.ofList (Text.trimChars
        (unescape [' ', 'b', '\\'] ++ ',' :: unescape [' ', 'c'])) :: entriesOf [['d']] =
        ["a", "b\\, c", "d"] := by
      decide +kernel
    exact h.trans hentry

end CaptureConfig.PatternList
