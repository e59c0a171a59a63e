import CaptureConfig.Proofs.Schema.Check
import CaptureConfig.Schema.Relational

/-!
# Problems with the entries of a list

The check of a list of regular expressions is to find one problem for each entry that is refused. It does
so as long as the entries are refused for their syntax. An entry that is refused for another reason, such
as a number of rounds that is too large, ends the check, and what was found before it is lost.
-/

namespace CaptureConfig

/-- The refusal is about the syntax of the expression. -/
def Pattern.Refusal.isSyntactic : Pattern.Refusal → Bool
  | .syntactic _ _ => true
  | _ => false

namespace Check

/-- The entry is refused, and not for its syntax. -/
def Obstructs (entry : String) : Prop :=
  ∃ refusal, Pattern.compile? entry = .error refusal ∧ refusal.isSyntactic = false

/-- The problem is about a refused entry: it is on the field, has the whole value, and names the entry and
why it is refused. -/
def Reports (field value entry : String) (p : Problem) : Prop :=
  ∃ refusal, Pattern.compile? entry = .error refusal ∧
    p = ⟨field, some value,
      "A comma-separated list of valid regular expressions is expected, but '" ++ entry ++
        "' is invalid: " ++ refusal.message entry⟩

instance : DecidablePred Obstructs := fun entry =>
  match h : Pattern.compile? entry with
  | .ok _ => isFalse (by simp [Obstructs, h])
  | .error refusal => decidable_of_iff (refusal.isSyntactic = false) (by simp [Obstructs, h])

/-- The entries that are refused. -/
def refused (entries : List String) : List String :=
  entries.filter fun entry => !decide (PatternList.Compiles entry)

variable {o : Options} {s : Schema} {f : Field} {value entry : String}

/-! ## One entry -/

theorem not_obstructs_of_compiles (h : PatternList.Compiles entry) : ¬ Obstructs entry := by
  rintro ⟨refusal, hrefusal, -⟩
  obtain ⟨pattern, hpattern⟩ := h
  rw [hpattern] at hrefusal
  cases hrefusal

/-- An entry compiles, or is a problem, or ends the check. -/
theorem entryProblems_cases (f : Field) (value entry : String) :
    (PatternList.Compiles entry ∧ entryProblems f value entry = .ok []) ∨
      (¬ PatternList.Compiles entry ∧ ¬ Obstructs entry ∧
        ∃ p, Reports f.name value entry p ∧ entryProblems f value entry = .ok [p]) ∨
      ∃ refusal, Pattern.compile? entry = .error refusal ∧ refusal.isSyntactic = false ∧
        entryProblems f value entry = .error (.pattern entry refusal) := by
  unfold entryProblems PatternList.Compiles Obstructs Reports
  cases hc : Pattern.compile? entry with
  | ok pattern => exact Or.inl ⟨⟨pattern, rfl⟩, rfl⟩
  | error refusal =>
      cases refusal with
      | syntactic complaint place =>
          refine Or.inr (Or.inl ⟨?_, ?_, _, ⟨_, rfl, rfl⟩, rfl⟩)
          · rintro ⟨pattern, hpattern⟩
            cases hpattern
          · rintro ⟨refusal, hrefusal, hsyntactic⟩
            cases hrefusal
            cases hsyntactic
      | repeatTooLarge => exact Or.inr (Or.inr ⟨_, rfl, rfl, rfl⟩)
      | tooManyDigits count => exact Or.inr (Or.inr ⟨_, rfl, rfl, rfl⟩)
      | exclusiveFlags => exact Or.inr (Or.inr ⟨_, rfl, rfl, rfl⟩)

theorem entryProblems_ok_iff :
    (∃ problems, entryProblems f value entry = .ok problems) ↔ ¬ Obstructs entry := by
  rcases entryProblems_cases f value entry with ⟨hc, h⟩ | ⟨-, hobstructs, p, -, h⟩ |
    ⟨refusal, hrefusal, hsyntactic, h⟩
  · exact ⟨fun _ => not_obstructs_of_compiles hc, fun _ => ⟨_, h⟩⟩
  · exact ⟨fun _ => hobstructs, fun _ => ⟨_, h⟩⟩
  · rw [h]
    exact ⟨fun hok => by simp at hok, fun hnot => absurd ⟨refusal, hrefusal, hsyntactic⟩ hnot⟩

/-- Entry by entry, what is collected are the problems with those that are refused. -/
theorem forall₂_reports {entries : List String} {problems : List Problem}
    (h : collect (entryProblems f value) entries = .ok problems) :
    List.Forall₂ (Reports f.name value) (refused entries) problems := by
  induction entries generalizing problems with
  | nil =>
      obtain rfl := Except.ok.inj h
      exact List.Forall₂.nil
  | cons entry rest ih =>
      obtain ⟨ps, qs, hps, hqs, rfl⟩ := collect_cons_eq_ok.mp h
      have hrest := ih hqs
      rcases entryProblems_cases f value entry with ⟨hc, hentry⟩ | ⟨hc, -, p, hp, hentry⟩ |
        ⟨refusal, -, -, hentry⟩
      · obtain rfl := Except.ok.inj (hentry.symm.trans hps)
        have hskip : refused (entry :: rest) = refused rest := by simp [refused, hc]
        rw [hskip]
        exact hrest
      · obtain rfl := Except.ok.inj (hentry.symm.trans hps)
        have htake : refused (entry :: rest) = entry :: refused rest := by simp [refused, hc]
        rw [htake]
        exact List.Forall₂.cons hp hrest
      · rw [hentry] at hps
        cases hps

end Check

end CaptureConfig
