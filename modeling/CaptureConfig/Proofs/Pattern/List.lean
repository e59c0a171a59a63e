import CaptureConfig.Pattern.List
import CaptureConfig.Proofs.Steps
import CaptureConfig.Proofs.Text.Blank
import CaptureConfig.Schema.Problem

/-!
# Lists of regular expressions

A list compiles when each of its entries does, and otherwise its first refused entry is the one that is
named. It has no entry at all exactly when it holds nothing but white space and commas.
-/

namespace CaptureConfig.PatternList

/-- An entry compiles. -/
def Compiles (entry : String) : Prop := ∃ p, Pattern.compile? entry = .ok p

instance : DecidablePred Compiles := fun entry => Steps.decidableExistsOk (Pattern.compile? entry)

/-- The regular expression of an entry, or the fault of a connector that needs it. -/
def compileEntry (entry : String) : Except Fault Pattern :=
  (Pattern.compile? entry).mapError (.pattern entry)

theorem entries_empty : entries "" = [] := by
  simp [entries, pieces, unescape, Text.trimChars]

theorem compileEntry_ok_iff {entry : String} :
    (∃ p, compileEntry entry = .ok p) ↔ Compiles entry := by
  simp only [compileEntry, Steps.mapError_eq_ok, Compiles]

theorem compileEntry_eq_error {entry : String} {fault : Fault} :
    compileEntry entry = .error fault ↔
      ∃ refusal, Pattern.compile? entry = .error refusal ∧ .pattern entry refusal = fault :=
  Steps.mapError_eq_error

/-- Compiling a list is compiling its entries one after another. -/
theorem compile?_mapError (value : String) :
    (compile? value).mapError (fun refused => Fault.pattern refused.1 refused.2) =
      (entries value).mapM compileEntry := by
  rw [compile?, Steps.mapM_mapError]
  refine congrArg (fun f => (entries value).mapM f) (funext fun entry => ?_)
  unfold compileEntry
  cases Pattern.compile? entry <;> rfl

/-- A regular expression keeps the text that it is compiled from. -/
theorem source_of_compileEntry {entry : String} {p : Pattern} (h : compileEntry entry = .ok p) :
    p.source = entry := by
  obtain ⟨⟨body, reading⟩, -, h⟩ := Steps.bind_eq_ok.mp (Steps.mapError_eq_ok.mp h)
  dsimp only at h
  split at h
  · cases h
  · obtain rfl := Except.ok.inj h
    rfl

theorem sources_of_mapM {entries : List String} {ps : List Pattern}
    (h : entries.mapM compileEntry = .ok ps) : ps.map Pattern.source = entries := by
  have hpairs := (Steps.mapM_eq_ok.mp h).imp fun entry p hp => (source_of_compileEntry hp).symm
  rw [← List.forall₂_map_right_iff, List.forall₂_eq_eq_eq] at hpairs
  exact hpairs.symm

/-! ## Compiling a list -/

variable {value : String}

theorem compile?_eq_ok {ps : List Pattern} : compile? value = .ok ps ↔
    List.Forall₂ (fun entry p => Pattern.compile? entry = .ok p) (entries value) ps := by
  simp only [compile?, Steps.mapM_eq_ok, Steps.mapError_eq_ok]

theorem compile?_ok_iff :
    (∃ ps, compile? value = .ok ps) ↔ ∀ entry ∈ entries value, Compiles entry := by
  simp only [compile?, Steps.mapM_ok_iff, Steps.mapError_eq_ok, Compiles]

/-- Compiling stops at an entry that is refused after others that compile. -/
theorem compile?_eq_error_of_append {before after : List String} {entry : String}
    {refusal : Pattern.Refusal} (hentries : entries value = before ++ entry :: after)
    (hbefore : ∀ e ∈ before, Compiles e) (hrefusal : Pattern.compile? entry = .error refusal) :
    compile? value = .error (entry, refusal) := by
  refine Steps.mapM_eq_error.mpr ⟨before, entry, after, hentries, fun e he => ?_, ?_⟩
  · obtain ⟨p, hp⟩ := hbefore e he
    exact ⟨p, Steps.mapError_eq_ok.mpr hp⟩
  · exact Steps.mapError_eq_error.mpr ⟨refusal, hrefusal, rfl⟩

theorem source_of_compile? {entry : String} {p : Pattern} (h : Pattern.compile? entry = .ok p) :
    p.source = entry :=
  source_of_compileEntry (Steps.mapError_eq_ok.mpr h)

/-! ## Lists without an entry -/

/-- Some entry of a list, as it is written, holds something besides white space. -/
def Lists (value : String) : Prop :=
  ∃ piece ∈ pieces false value.toList, ∃ c ∈ piece, Text.isBlank c = false

instance : DecidablePred Lists := fun value =>
  decidable_of_iff
    ((pieces false value.toList).any (fun piece => piece.any fun c => !Text.isBlank c) = true)
    (by simp [Lists])

theorem pieces_ne_nil (escaped : Bool) (cs : List Char) : pieces escaped cs ≠ [] := by
  cases cs with
  | nil => simp [pieces]
  | cons c cs =>
      simp only [pieces]
      split
      · simp
      · split <;> simp

/-- A comma that does not follow a backslash ends a piece. -/
theorem pieces_cons_comma (cs : List Char) : pieces false (',' :: cs) = [] :: pieces false cs := by
  simp [pieces]

/-- Any other character belongs to the first piece. -/
theorem pieces_cons_of_kept {escaped : Bool} {c : Char} (h : ¬ (c = ',' ∧ escaped = false))
    {cs piece : List Char} {rest : List (List Char)} (hp : pieces (c == '\\') cs = piece :: rest) :
    pieces escaped (c :: cs) = (c :: piece) :: rest := by
  rw [pieces, if_neg h, hp]

/-- Escaping changes nothing about white space: a comma and its backslash are both none. -/
theorem blank_unescape {cs : List Char} :
    (∀ c ∈ unescape cs, Text.isBlank c = true) ↔ ∀ c ∈ cs, Text.isBlank c = true := by
  induction cs using unescape.induct with
  | case1 => simp [unescape]
  | case2 cs ih =>
      have hcomma : Text.isBlank ',' = false := by decide
      simp [unescape, hcomma]
  | case3 c cs hc ih =>
      rw [unescape, List.forall_mem_cons, List.forall_mem_cons, ih]
      exact hc

theorem entries_eq_nil {value : String} : entries value = [] ↔ ¬ Lists value := by
  simp [entries, Lists, List.filter_eq_nil_iff, Text.trimChars_eq_nil, blank_unescape]

theorem blank_pieces (escaped : Bool) (cs : List Char) :
    (∀ piece ∈ pieces escaped cs, ∀ c ∈ piece, Text.isBlank c = true) ↔
      (∀ c ∈ cs, Text.isBlank c = true ∨ c = ',') ∧ (escaped = true → cs.head? ≠ some ',') := by
  -- whether a character is kept depends on the one before it, so that is left general
  induction cs generalizing escaped with
  | nil => simp [pieces]
  | cons c cs ih =>
      by_cases hsep : c = ',' ∧ escaped = false
      · obtain ⟨rfl, rfl⟩ := hsep
        have htail := ih false
        rw [pieces_cons_comma, List.forall_mem_cons, htail]
        simp
      · obtain ⟨piece, rest, hp⟩ := List.exists_cons_of_ne_nil (pieces_ne_nil (c == '\\') cs)
        have htail := ih (c == '\\')
        rw [hp, List.forall_mem_cons] at htail
        rw [pieces_cons_of_kept hsep hp, List.forall_mem_cons, List.forall_mem_cons, and_assoc, htail]
        by_cases hblank : Text.isBlank c = true
        · have hslash : (c == '\\') = false := beq_false_of_ne (by rintro rfl; cases hblank)
          have hcomma : c ≠ ',' := by rintro rfl; cases hblank
          simp [hblank, hslash, hcomma]
        · -- only an escaped comma is kept, and that holds up both sides
          have hescaped : c = ',' → escaped = true := by simpa using hsep
          constructor
          · rintro ⟨h, -⟩
            exact absurd h hblank
          · rintro ⟨h, hhead⟩
            have hc : c = ',' := (List.forall_mem_cons.mp h).1.resolve_left hblank
            exact absurd (congrArg some hc) (hhead (hescaped hc))

/-- White space and commas make no entry, and everything else does. -/
theorem lists_iff {value : String} :
    Lists value ↔ ∃ c ∈ value.toList, Text.isBlank c = false ∧ c ≠ ',' := by
  have h := blank_pieces false value.toList
  simp only [Bool.false_eq_true, false_implies, and_true] at h
  rw [← not_iff_not]
  simpa [Lists, or_iff_not_imp_left] using h

end CaptureConfig.PatternList
