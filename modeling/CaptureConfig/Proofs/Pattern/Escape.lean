import CaptureConfig.Proofs.Pattern.Join

/-!
# Writing entries as a list

An entry is written with a backslash before each of its commas, and reading takes these backslashes away
again. Between two entries stands a comma, with a space before it in case the first of them ends in a
backslash. Without the space the list is read back exactly when no entry but the last ends in one.
-/

namespace CaptureConfig.PatternList

/-- Characters with a backslash before each comma. -/
def escapeChars : List Char → List Char
  | [] => []
  | c :: cs => if c = ',' then '\\' :: ',' :: escapeChars cs else c :: escapeChars cs

/-- An entry as it is written in a list. -/
def escape (entry : String) : String := String.ofList (escapeChars entry.toList)

/-- A text that can be an entry: it is not empty and has no white space around it. -/
structure IsEntry (entry : String) : Prop where
  nonempty : entry ≠ ""
  trimmed : Text.trim entry = entry

instance : DecidablePred IsEntry := fun entry =>
  decidable_of_iff (entry ≠ "" ∧ Text.trim entry = entry)
    ⟨fun h => ⟨h.1, h.2⟩, fun h => ⟨h.nonempty, h.trimmed⟩⟩

theorem isEntry_of_mem_entries {value entry : String} (h : entry ∈ entries value) : IsEntry entry := by
  obtain ⟨cs, hcs, rfl⟩ := List.mem_map.mp h
  obtain ⟨hmem, hne⟩ := List.mem_filter.mp hcs
  obtain ⟨piece, -, rfl⟩ := List.mem_map.mp hmem
  refine ⟨?_, ?_⟩
  · intro hempty
    rw [String.ofList_eq_empty_iff] at hempty
    rw [hempty] at hne
    cases hne
  · rw [Text.trim, String.toList_ofList, Text.trimChars_trimChars]

/-! ## Escaped commas -/

theorem escapeChars_comma (cs : List Char) :
    escapeChars (',' :: cs) = '\\' :: ',' :: escapeChars cs := by
  simp [escapeChars]

theorem escapeChars_of_ne {c : Char} (h : c ≠ ',') (cs : List Char) :
    escapeChars (c :: cs) = c :: escapeChars cs := by
  simp [escapeChars, h]

theorem toList_escape (entry : String) : (escape entry).toList = escapeChars entry.toList :=
  String.toList_ofList

theorem escape_of_not_mem {entry : String} (h : ',' ∉ entry.toList) : escape entry = entry := by
  have hchars : ∀ cs : List Char, ',' ∉ cs → escapeChars cs = cs := by
    intro cs hcs
    induction cs with
    | nil => rfl
    | cons c cs ih =>
        rw [List.mem_cons, not_or] at hcs
        rw [escapeChars_of_ne (Ne.symm hcs.1), ih hcs.2]
  rw [escape, hchars _ h, String.ofList_toList]

theorem head?_escapeChars (cs : List Char) : (escapeChars cs).head? ≠ some ',' := by
  cases cs with
  | nil => simp [escapeChars]
  | cons c cs =>
      by_cases h : c = ','
      · subst h
        simp [escapeChars_comma]
      · simp [escapeChars_of_ne h, h]

/-- Escaped commas separate nothing. -/
theorem pieces_escapeChars (escaped : Bool) (cs : List Char) :
    pieces escaped (escapeChars cs) = [escapeChars cs] := by
  induction cs generalizing escaped with
  | nil => rfl
  | cons c cs ih =>
      by_cases h : c = ','
      · subst h
        have hslash : ¬ ('\\' = ',' ∧ escaped = false) := by simp
        rw [escapeChars_comma, pieces_cons hslash, pieces_cons (by simp), ih]
        rfl
      · rw [escapeChars_of_ne h, pieces_cons (fun hsep => h hsep.1), ih]
        rfl

/-- Escaping changes nothing at the end of a text. -/
theorem endsInSlash_escapeChars (escaped : Bool) (cs : List Char) :
    endsInSlash escaped (escapeChars cs) = endsInSlash escaped cs := by
  induction cs generalizing escaped with
  | nil => rfl
  | cons c cs ih =>
      by_cases h : c = ','
      · subst h
        rw [escapeChars_comma, endsInSlash, endsInSlash, endsInSlash, ih]
      · rw [escapeChars_of_ne h, endsInSlash, endsInSlash, ih]

theorem getLast?_escape {entry : String} :
    (escape entry).toList.getLast? = some '\\' ↔ entry.toList.getLast? = some '\\' := by
  rw [← endsInSlash_iff, ← endsInSlash_iff, toList_escape, endsInSlash_escapeChars]

theorem unescape_cons {c : Char} {cs : List Char} (h : cs.head? ≠ some ',') :
    unescape (c :: cs) = c :: unescape cs := by
  rw [unescape]
  rintro cs' - rfl
  exact h rfl

theorem unescape_of_not_mem {cs : List Char} (h : ',' ∉ cs) : unescape cs = cs := by
  induction cs with
  | nil => rfl
  | cons c cs ih =>
      rw [List.mem_cons, not_or] at h
      have hhead : cs.head? ≠ some ',' := fun hhead => h.2 (List.mem_of_head? hhead)
      rw [unescape_cons hhead, ih h.2]

/-- Escaping is undone. What follows must not begin with a comma, which a backslash at the end of the text
would escape. -/
theorem unescape_escapeChars_append (cs : List Char) {rest : List Char} (h : rest.head? ≠ some ',') :
    unescape (escapeChars cs ++ rest) = cs ++ unescape rest := by
  induction cs with
  | nil => rfl
  | cons c cs ih =>
      by_cases hc : c = ','
      · subst hc
        rw [escapeChars_comma, List.cons_append, List.cons_append, unescape, ih, List.cons_append]
      · have hhead : (escapeChars cs ++ rest).head? ≠ some ',' := by
          cases hcs : escapeChars cs with
          | nil => exact h
          | cons d ds =>
              have hd := head?_escapeChars cs
              rw [hcs] at hd
              exact hd
        rw [escapeChars_of_ne hc, List.cons_append, unescape_cons hhead, ih, List.cons_append]

/-! ## Lists of escaped entries -/

section Written

variable {ps : List String}

/-- An escaped entry is the only entry of its text, with white space after it or without. -/
theorem entries_escape_append {entry : String} (h : IsEntry entry) (blanks : String)
    (hblanks : ∀ b ∈ blanks.toList, Text.isBlank b = true) :
    entries (escape entry ++ blanks) = [entry] := by
  have hcomma : ',' ∉ blanks.toList := fun hmem => by cases hblanks _ hmem
  have hpieces : pieces false (escape entry ++ blanks).toList =
      [escapeChars entry.toList ++ blanks.toList] := by
    rw [String.toList_append, toList_escape, pieces_append, pieces_escapeChars,
      pieces_of_not_mem hcomma]
    rfl
  have hhead : blanks.toList.head? ≠ some ',' := fun hhead => hcomma (List.mem_of_head? hhead)
  have htrimmed : Text.trimChars entry.toList = entry.toList := by
    have hread : (Text.trim entry).toList = Text.trimChars entry.toList := String.toList_ofList
    rw [← hread, h.trimmed]
  have hpiece : Text.trimChars (unescape (escapeChars entry.toList ++ blanks.toList)) =
      entry.toList := by
    rw [unescape_escapeChars_append _ hhead, unescape_of_not_mem hcomma,
      Text.trimChars_append_of_blank _ hblanks, htrimmed]
  have hne : entry.toList.isEmpty = false := by simpa using h.nonempty
  unfold entries
  rw [hpieces, List.map_singleton, hpiece, List.filter_singleton, hne]
  simp

/-- Entries are read back from a list in which no separator follows a backslash. -/
theorem entries_written (h : ∀ p ∈ ps, IsEntry p) (blanks : String)
    (hblanks : ∀ b ∈ blanks.toList, Text.isBlank b = true)
    (hslash : ∀ p ∈ ps.dropLast, (escape p ++ blanks).toList.getLast? ≠ some '\\') :
    entries (String.intercalate (blanks ++ ",") (ps.map escape)) = ps := by
  induction ps with
  | nil => exact entries_empty
  | cons p ps ih =>
      rw [List.forall_mem_cons] at h
      cases ps with
      | nil =>
          have hsingle := entries_escape_append h.1 "" (by simp)
          simpa using hsingle
      | cons q qs =>
          rw [List.dropLast_cons_of_ne_nil (by simp), List.forall_mem_cons] at hslash
          have htext : String.intercalate (blanks ++ ",") ((p :: q :: qs).map escape) =
              (escape p ++ blanks) ++ "," ++
                String.intercalate (blanks ++ ",") ((q :: qs).map escape) := by
            rw [List.map_cons, List.map_cons, String.intercalate_cons_cons]
            simp only [String.append_assoc]
          rw [htext, entries_append_comma hslash.1, entries_escape_append h.1 blanks hblanks,
            ih h.2 hslash.2, List.singleton_append]

/-- Entries without a comma need not be escaped. -/
theorem entries_joined (h : ∀ p ∈ ps, IsEntry p ∧ ',' ∉ p.toList ∧ p.toList.getLast? ≠ some '\\') :
    entries (String.intercalate "," ps) = ps := by
  have hescape : ps.map escape = ps :=
    (List.map_congr_left fun p hp => escape_of_not_mem (h p hp).2.1).trans (List.map_id ps)
  have hread := entries_written (fun p hp => (h p hp).1) "" (by simp) fun p hp => by
    obtain ⟨-, hcomma, hlast⟩ := h p (List.dropLast_subset ps hp)
    rw [escape_of_not_mem hcomma, String.append_empty]
    exact hlast
  rw [hescape] at hread
  exact hread

/-- A backslash at the end of an entry takes away the separator after it. -/
theorem length_pieces_cons (p q : String) (qs : List String) :
    (pieces false (String.intercalate "," ((p :: q :: qs).map escape)).toList).length =
      (pieces false (String.intercalate "," ((q :: qs).map escape)).toList).length +
        if p.toList.getLast? = some '\\' then 0 else 1 := by
  have htext : (String.intercalate "," ((p :: q :: qs).map escape)).toList =
      escapeChars p.toList ++ ',' :: (String.intercalate "," ((q :: qs).map escape)).toList := by
    rw [List.map_cons, List.map_cons, String.intercalate_cons_cons]
    simp [toList_escape]
  rw [htext, pieces_append, pieces_escapeChars, endsInSlash_escapeChars,
    length_glue_singleton (pieces_ne_nil _ _)]
  by_cases hslash : p.toList.getLast? = some '\\'
  · -- the comma is read as one more character of the piece before it
    rw [if_pos hslash, endsInSlash_iff.mpr hslash, pieces_cons (by simp), List.length_modifyHead]
    rfl
  · rw [if_neg hslash, endsInSlash_eq_false hslash, pieces_cons_comma, List.length_cons]

/-- There are never more pieces than entries were written, and as many only if no separator is taken
away. -/
theorem length_pieces_written (h : ps ≠ []) :
    (pieces false (String.intercalate "," (ps.map escape)).toList).length ≤ ps.length ∧
      ((pieces false (String.intercalate "," (ps.map escape)).toList).length = ps.length →
        ∀ p ∈ ps.dropLast, p.toList.getLast? ≠ some '\\') := by
  induction ps with
  | nil => exact absurd rfl h
  | cons p ps ih =>
      cases ps with
      | nil => simp [toList_escape, pieces_escapeChars]
      | cons q qs =>
          obtain ⟨hle, heq⟩ := ih (by simp)
          have hlength : (p :: q :: qs).length = (q :: qs).length + 1 := rfl
          rw [length_pieces_cons, hlength, List.dropLast_cons_of_ne_nil (by simp),
            List.forall_mem_cons]
          by_cases hslash : p.toList.getLast? = some '\\'
          · rw [if_pos hslash]
            exact ⟨by omega, fun h => by omega⟩
          · rw [if_neg hslash]
            exact ⟨by omega, fun h => ⟨hslash, heq (by omega)⟩⟩

theorem no_slash_of_entries_joined (h : entries (String.intercalate "," (ps.map escape)) = ps) :
    ∀ p ∈ ps.dropLast, p.toList.getLast? ≠ some '\\' := by
  by_cases hps : ps = []
  · subst hps
    simp
  · obtain ⟨hle, heq⟩ := length_pieces_written hps
    have hentries := length_entries_le (String.intercalate "," (ps.map escape))
    rw [h] at hentries
    exact heq (Nat.le_antisymm hle hentries)

end Written

/-- **Entries are read back.** Written with a space and a comma between them, any entries are read back.
With a comma alone they are read back exactly when none but the last ends in a backslash. So the entries of
any text can be written again without loss. -/
theorem escaped_entries_read_back :
    (∀ ps : List String, (∀ p ∈ ps, IsEntry p) →
      entries (String.intercalate " ," (ps.map escape)) = ps ∧
        (entries (String.intercalate "," (ps.map escape)) = ps ↔
          ∀ p ∈ ps.dropLast, p.toList.getLast? ≠ some '\\')) ∧
      ∀ value, entries (String.intercalate " ," ((entries value).map escape)) = entries value := by
  have hspaced : ∀ ps : List String, (∀ p ∈ ps, IsEntry p) →
      entries (String.intercalate " ," (ps.map escape)) = ps := by
    intro ps h
    have hblank : ∀ b ∈ " ".toList, Text.isBlank b = true := by
      intro b hb
      obtain rfl := List.mem_singleton.mp hb
      rfl
    refine entries_written h " " hblank fun p _ => ?_
    simp
  refine ⟨fun ps h => ⟨hspaced ps h, no_slash_of_entries_joined, fun hslash => ?_⟩, fun value => ?_⟩
  · refine entries_written h "" (by simp) fun p hp => ?_
    rw [String.append_empty]
    exact fun hlast => hslash p hp (getLast?_escape.mp hlast)
  · exact hspaced _ fun p hp => isEntry_of_mem_entries hp

/-- An entry that ends in a backslash takes in the one after it, unless there is a space between them. -/
theorem space_saves_separator :
    let ps := ["db\\.a\\", ",t,"]
    (∀ p ∈ ps, IsEntry p) ∧ entries "db\\.a\\ ,\\,t\\," = ps ∧ entries "db\\.a\\,\\,t\\," ≠ ps := by
  intro ps
  have hps : ∀ p ∈ ps, IsEntry p := by decide +kernel
  obtain ⟨hspaced, hjoined⟩ := escaped_entries_read_back.1 ps hps
  refine ⟨hps, ?_, fun h => ?_⟩
  · have htext : String.intercalate " ," (ps.map escape) = "db\\.a\\ ,\\,t\\," := by decide +kernel
    rw [← htext]
    exact hspaced
  · have htext : String.intercalate "," (ps.map escape) = "db\\.a\\,\\,t\\," := by decide +kernel
    rw [← htext] at h
    exact absurd rfl (hjoined.mp h "db\\.a\\" (by decide))

end CaptureConfig.PatternList
