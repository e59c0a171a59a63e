import CaptureConfig.Proofs.Pattern.Escape
import CaptureConfig.Proofs.Pattern.Literal
import CaptureConfig.Proofs.Table.Id
import CaptureConfig.Proofs.Table.Precedence

/-!
# Tables that are listed by their names

Qualified names of words become regular expressions when each dot gets a backslash. A list of such expressions
captures the tables with these names, in any case of the letters, and no other ones: a match takes the whole
name, and an escaped dot is nothing but a dot.
-/

namespace CaptureConfig.TableId

/-- All parts are words of ASCII letters, digits and underscores. -/
def Wordy (t : TableId) : Prop :=
  ∀ part ∈ t.parts, part ≠ "" ∧ ∀ c ∈ part.toList, Pattern.isWord c = true

instance : DecidablePred Wordy := fun t =>
  decidable_of_iff (t.parts.all (fun part => part != "" && part.toList.all Pattern.isWord) = true)
    (by simp [Wordy])

/-- The qualified name as a regular expression, with a backslash before each dot. -/
def expression (t : TableId) : String :=
  String.ofList (t.identifier.toList.flatMap fun c => if c = '.' then ['\\', '.'] else [c])

/-- The list of the qualified names of tables. -/
def listing (ts : List TableId) : String := String.intercalate "," (ts.map expression)

/-- The characters of the qualified name as they are when the case of letters does not count. -/
def letters (t : TableId) : List Char := t.identifier.toList.map Char.toLower

variable {t u : TableId} {ts : List TableId} {c : Char}

/-! ## Names of words -/

theorem identifier_eq_append (t : TableId) : ∃ before, t.identifier = before ++ t.table := by
  obtain ⟨catalog, schema, table⟩ := t
  cases catalog with
  | none =>
      cases schema with
      | none => exact ⟨"", by simp [identifier]⟩
      | some schema => exact ⟨schema ++ ".", by simp [identifier]⟩
  | some catalog =>
      cases schema with
      | none => exact ⟨catalog ++ ".", by simp [identifier]⟩
      | some schema => exact ⟨catalog ++ "." ++ schema ++ ".", by simp [identifier, String.append_assoc]⟩

theorem Wordy.mem_identifier (h : t.Wordy) (hc : c ∈ t.identifier.toList) :
    Pattern.isWord c = true ∨ c = '.' := by
  rw [identifier_eq] at hc
  rcases Text.mem_of_mem_intercalate hc with hdot | ⟨part, hpart, hc⟩
  · exact Or.inr (List.mem_singleton.mp hdot)
  · exact Or.inl ((h part hpart).2 c hc)

theorem Wordy.ascii (h : t.Wordy) : ∀ c ∈ t.identifier.toList, c.toNat < 128 := by
  intro c hc
  rcases h.mem_identifier hc with hword | rfl
  · rw [Pattern.isWord_iff] at hword
    omega
  · decide

/-- A qualified name of words ends in a word character. -/
theorem Wordy.exists_append (h : t.Wordy) :
    ∃ cs c, t.identifier.toList = cs ++ [c] ∧ Pattern.isWord c = true := by
  obtain ⟨before, hname⟩ := identifier_eq_append t
  obtain ⟨hne, hword⟩ := h t.table (by simp [parts])
  have hchars : t.table.toList ≠ [] := by simpa using hne
  refine ⟨before.toList ++ t.table.toList.dropLast, t.table.toList.getLast hchars, ?_,
    hword _ (List.getLast_mem hchars)⟩
  rw [hname, String.toList_append, List.append_assoc, List.dropLast_append_getLast]

theorem Wordy.expression_eq (h : t.Wordy) : t.expression = Pattern.quote t.identifier := by
  have hchar : ∀ c ∈ t.identifier.toList,
      (if c = '.' then ['\\', '.'] else [c]) = if Pattern.isWord c then [c] else ['\\', c] := by
    intro c hc
    rcases h.mem_identifier hc with hword | rfl
    · rw [if_neg (Pattern.ne_of_isWord hword (by decide)), if_pos hword]
    · rfl
  unfold expression Pattern.quote Pattern.quoteChars
  rw [List.flatMap_congr hchar]

/-! ## Lists of names -/

theorem Wordy.mem_expression (h : t.Wordy) (hc : c ∈ t.expression.toList) :
    Text.isBlank c = false ∧ c ≠ ',' := by
  rw [h.expression_eq, Pattern.quote, String.toList_ofList] at hc
  rcases Pattern.mem_quoteChars hc with hc | rfl
  · rcases h.mem_identifier hc with hword | rfl
    · exact ⟨Pattern.isBlank_of_isWord hword, Pattern.ne_of_isWord hword (by decide)⟩
    · decide
  · decide

/-- An expression of words is an entry that needs no escape in a list. -/
theorem Wordy.entry (h : t.Wordy) : PatternList.IsEntry t.expression ∧ ',' ∉ t.expression.toList ∧
    t.expression.toList.getLast? ≠ some '\\' := by
  obtain ⟨cs, c, hname, hword⟩ := h.exists_append
  have hchars : t.expression.toList = Pattern.quoteChars cs ++ [c] := by
    rw [h.expression_eq, Pattern.quote, String.toList_ofList, hname, Pattern.quoteChars_append_word hword]
  refine ⟨⟨?_, ?_⟩, fun hcomma => (h.mem_expression hcomma).2 rfl, ?_⟩
  · rintro hempty
    simp [hempty] at hchars
  · rw [Text.trim, Text.trimChars_eq_self, String.ofList_toList]
    · exact fun c hc => (h.mem_expression (List.mem_of_head? hc)).1
    · exact fun c hc => (h.mem_expression (List.mem_of_getLast? hc)).1
  · rw [hchars, List.getLast?_concat]
    exact fun hslash => Pattern.ne_of_isWord hword (by decide) (Option.some.inj hslash)

theorem entries_listing (h : ∀ t ∈ ts, t.Wordy) : PatternList.entries (listing ts) = ts.map expression :=
  PatternList.entries_joined (List.forall_mem_map.mpr fun t ht => (h t ht).entry)

end CaptureConfig.TableId

namespace CaptureConfig.TableFilters

variable {o : Options} {name : String} {t : TableId} {ts : List TableId}

/-! ## Filters of a list of names -/

theorem compileEntry_expression (h : t.Wordy) :
    PatternList.compileEntry t.expression = .ok (Pattern.literal t.identifier) := by
  rw [h.expression_eq, PatternList.compileEntry, Pattern.compile?_quote]
  rfl

theorem patternsOf_listing (ho : o.get? name = some (TableId.listing ts)) (h : ∀ u ∈ ts, u.Wordy) :
    patternsOf o name = .ok (ts.map fun u => Pattern.literal u.identifier) := by
  have hentries : entriesOf o name = ts.map TableId.expression := by
    rw [entriesOf, ho]
    exact TableId.entries_listing h
  rw [patternsOf_eq, hentries, Steps.mapM_eq_ok, List.forall₂_map_left_iff, List.forall₂_map_right_iff,
    List.forall₂_same]
  exact fun u hu => compileEntry_expression (h u hu)

theorem patternsOf_of_absent (ho : o.get? name = none) : patternsOf o name = .ok [] := by
  refine patternsOf_eq_ok_nil.mpr ?_
  rintro ⟨v, hv, -⟩
  rw [ho] at hv
  cases hv

/-- A list of names matches exactly these names, in any case of their letters. -/
theorem matchesAny_listing (h : ∀ u ∈ ts, u.Wordy) (ht : t.Wordy) :
    PatternList.matchesAny (ts.map fun u => Pattern.literal u.identifier) t.identifier = true ↔
      ∃ u ∈ ts, t.letters = u.letters := by
  unfold PatternList.matchesAny
  rw [List.any_map, List.any_eq_true]
  refine exists_congr fun u => and_congr_right fun hu => ?_
  exact (Pattern.matchesAll_literal_of_ascii (h u hu).ascii ht.ascii).trans eq_comm

/-- Without tables of the database system and without schemas only the names of the tables decide. -/
theorem captures_eq {f : TableFilters} (hbuiltin : f.isBuiltin = fun _ => false)
    (hincluded : f.includedSchemas = []) (hexcluded : f.excludedSchemas = []) (t : TableId) :
    f.captures t = admits f.includedTables f.excludedTables (f.nameOf t) := by
  have hschema : f.capturesSchema t.schema = true := by
    unfold capturesSchema
    rw [hincluded, hexcluded]
    cases t.schema <;> rfl
  rw [captures, eligible, hbuiltin, hschema, Bool.and_false]
  rfl

/-- **Listed names are captured alone.** When the only option lists the qualified names of tables, of which all
parts are words, filters can be built. They capture a table of words exactly if its name is a listed one, apart
from the case of letters. A listed name that is longer or shorter than that of the table, such as one that it
begins or ends or goes on from, has no part in this. -/
theorem listed_names_are_captured_alone (hne : ts ≠ []) (h : ∀ u ∈ ts, u.Wordy) :
    ∃ f, (build (.ofPairs [(OptionName.includedTables, TableId.listing ts)]) (fun _ => false)
        TableId.identifier).outcome = .ok f ∧
      ∀ t : TableId, t.Wordy →
        (f.captures t = true ↔ ∃ u ∈ ts, t.letters = u.letters) ∧
        ∀ u ∈ ts, t.letters <:+: u.letters ∨ u.letters <:+: t.letters → t.letters ≠ u.letters →
          (f.captures t = true ↔
            ∃ v ∈ ts, v.letters.length ≠ u.letters.length ∧ t.letters = v.letters) := by
  let o : Options := .ofPairs [(OptionName.includedTables, TableId.listing ts)]
  have habsent : ∀ name ≠ OptionName.includedTables, patternsOf o name = .ok [] :=
    fun name hname => patternsOf_of_absent ((Options.get?_withPairs_one _ _ _ name).trans (if_neg hname))
  have hlisted : o.get? OptionName.includedTables = some (TableId.listing ts) :=
    (Options.get?_withPairs_one _ _ _ _).trans (if_pos rfl)
  refine ⟨⟨(readIgnoreBuiltin o).1, fun _ => false, TableId.identifier,
    ts.map fun u => Pattern.literal u.identifier, [], [], [], []⟩, ?_, fun t ht => ?_⟩
  · exact build_eq_ok.mpr ⟨rfl, rfl, rfl, patternsOf_listing hlisted h, habsent _ (by decide),
      habsent _ (by decide), habsent _ (by decide), habsent _ (by decide)⟩
  · rw [captures_eq rfl rfl rfl, admits_of_ne_nil (by simpa using hne), matchesAny_listing h ht]
    refine ⟨Iff.rfl, fun u hu hpart hother => ?_⟩
    have hlength : t.letters.length ≠ u.letters.length := by
      rcases hpart with hpart | hpart
      · exact fun heq => hother (hpart.eq_of_length heq)
      · exact fun heq => hother (hpart.eq_of_length heq.symm).symm
    constructor
    · rintro ⟨v, hv, heq⟩
      exact ⟨v, hv, fun hsame => hlength (by rw [heq, hsame]), heq⟩
    · rintro ⟨v, hv, -, heq⟩
      exact ⟨v, hv, heq⟩

/-- Of four tables, only the listed one in other letters is captured: not one with a shorter or longer name, and
not one with another character in the place of the dot. -/
theorem orders_are_captured_alone :
    let ts : List TableId := [⟨some "db", none, "Orders"⟩, ⟨none, some "s", "a_1"⟩]
    TableId.listing ts = "db\\.Orders,s\\.a_1" ∧
    ∃ f, (build (.ofPairs [(OptionName.includedTables, TableId.listing ts)]) (fun _ => false)
        TableId.identifier).outcome = .ok f ∧
      f.captures ⟨some "DB", none, "orders"⟩ = true ∧
      f.captures ⟨some "db", none, "Order"⟩ = false ∧
      f.captures ⟨some "my", some "db", "Orders"⟩ = false ∧
      f.captures ⟨none, none, "dbxOrders"⟩ = false := by
  intro ts
  obtain ⟨f, hf, hcaptures⟩ := @listed_names_are_captured_alone ts (by decide) (by decide)
  have hnot (t : TableId) (ht : t.Wordy) (hout : ¬ ∃ u ∈ ts, t.letters = u.letters) :
      f.captures t = false :=
    Bool.eq_false_iff.mpr fun htrue => hout ((hcaptures t ht).1.mp htrue)
  exact ⟨by decide +kernel, f, hf, (hcaptures _ (by decide)).1.mpr (by decide),
    hnot _ (by decide) (by decide), hnot _ (by decide) (by decide), hnot _ (by decide) (by decide)⟩

end CaptureConfig.TableFilters
