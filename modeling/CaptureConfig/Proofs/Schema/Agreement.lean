import CaptureConfig.Proofs.Option.Typed
import CaptureConfig.Proofs.Schema.PatternCheck

/-!
# Checks and readers

A check looks for problems in a text that something else reads later on: the getters of truth values and of
integers, and the compiler of lists. What a check accepts is what its reader can read, and where both refuse,
they refuse the same text.
-/

namespace CaptureConfig.Check

variable {o : Options} {f : Field} {s : Schema} {problems rest : List Problem}
  {value : String}

/-! ## The check of a list and the compiler -/

/-- An option without a text is checked as the empty list. -/
theorem run_patternList_eq_collect (o : Options) (f : Field) (s : Schema) :
    let value := (o.text? f.key).getD ""
    run o f s .patternList = collect (entryProblems f value) (PatternList.entries value) := by
  intro value
  unfold run value
  cases o.text? f.key with
  | none => simp [PatternList.entries_empty, collect_nil]
  | some v => exact patternProblems_eq f v _

theorem eq_nil_iff_of_collect {entries : List String}
    (h : collect (entryProblems f value) entries = .ok problems) :
    problems = [] ↔ ∀ entry ∈ entries, PatternList.Compiles entry := by
  have hnil : collect (entryProblems f value) entries = .ok [] ↔
      ∀ entry ∈ entries, PatternList.Compiles entry := by
    rw [collect_eq_ok_nil]
    exact forall₂_congr fun entry _ => entryProblems_eq_ok_nil
  rw [← hnil, h, Except.ok.injEq]

/-- The first problem is about the first entry that does not compile, and that one is refused for its syntax. -/
theorem first_of_collect {entries : List String} {p : Problem}
    (h : collect (entryProblems f value) entries = .ok (p :: rest)) :
    ∃ before entry after refusal, entries = before ++ entry :: after ∧
      (∀ e ∈ before, PatternList.Compiles e) ∧ Pattern.compile? entry = .error refusal ∧
      refusal.isSyntactic = true ∧ p = .ofFinding f.name (some value) (.badPattern entry refusal) := by
  obtain ⟨entry, others, ⟨refusal, hrefusal, hp⟩, -, hrefused⟩ :=
    List.forall₂_cons_right_iff.mp (forall₂_reports h)
  obtain ⟨before, after, hentries, hbefore, -, -⟩ := List.filter_eq_cons_iff.mp hrefused
  refine ⟨before, entry, after, refusal, hentries, fun e he => by simpa using hbefore e he, hrefusal, ?_, hp⟩
  -- an entry that is refused for another reason would have ended the check
  have hmem : entry ∈ entries := by
    rw [hentries]
    simp
  have hfree : ¬ Obstructs entry := entryProblems_ok_iff.mp (collect_ok_iff.mp ⟨_, h⟩ entry hmem)
  cases hsyntactic : refusal.isSyntactic with
  | true => rfl
  | false => exact absurd ⟨refusal, hrefusal, hsyntactic⟩ hfree

/-- **A list is checked as it is compiled.** When the check of a list comes to an end, it finds nothing exactly
when the list compiles, and then to the expressions of its entries in their order. When it finds problems,
compiling fails for the syntax of an entry, and the first problem quotes that entry and why it is refused. -/
theorem list_checked_as_compiled (o : Options) (f : Field) (s : Schema)
    (h : run o f s .patternList = .ok problems) :
    let value := (o.text? f.key).getD ""
    (problems = [] ↔ ∃ ps, PatternList.compile? value = .ok ps) ∧
      (∀ ps, PatternList.compile? value = .ok ps →
        List.Forall₂ (fun entry p => Pattern.compile? entry = .ok p ∧ p.source = entry)
          (PatternList.entries value) ps) ∧
      ∀ p rest, problems = p :: rest → ∃ entry refusal,
        PatternList.compile? value = .error (entry, refusal) ∧ refusal.isSyntactic = true ∧
          p.message = "A comma-separated list of valid regular expressions is expected, but '" ++ entry ++
            "' is invalid: " ++ refusal.message entry := by
  intro value
  have hcollect : collect (entryProblems f value) (PatternList.entries value) = .ok problems :=
    (run_patternList_eq_collect o f s).symm.trans h
  refine ⟨?_, fun ps hps => ?_, ?_⟩
  · rw [PatternList.compile?_ok_iff]
    exact eq_nil_iff_of_collect hcollect
  · exact (PatternList.compile?_eq_ok.mp hps).imp fun entry p hp => ⟨hp, PatternList.source_of_compile? hp⟩
  · rintro p rest rfl
    obtain ⟨before, entry, after, refusal, hentries, hbefore, hrefusal, hsyntactic, rfl⟩ :=
      first_of_collect hcollect
    exact ⟨entry, refusal, PatternList.compile?_eq_error_of_append hentries hbefore hrefusal, hsyntactic, rfl⟩

/-- Two of three entries are refused. Compiling stops at the first of them, which the first of two problems
quotes. -/
theorem first_of_two_problems_quotes_refusal :
    let value := "db\\.a, (b|c, *"
    let o := Options.ofPairs [("table.whitelist", value)]
    let ofRefused (entry reason : String) : Problem := ⟨"table.whitelist", some value,
      "A comma-separated list of valid regular expressions is expected, but '" ++ entry ++ "' is invalid: " ++
        reason⟩
    let p := ofRefused "(b|c" "missing ), unterminated subpattern at position 0"
    let q := ofRefused "*" "nothing to repeat at position 0"
    run o Relational.includedTables Schema.relational .patternList = .ok [p, q] ∧
      ∃ entry refusal, PatternList.compile? value = .error (entry, refusal) ∧
        p.message = "A comma-separated list of valid regular expressions is expected, but '" ++ entry ++
          "' is invalid: " ++ refusal.message entry := by
  intro value o ofRefused p q
  have hrun : run o Relational.includedTables Schema.relational .patternList = .ok [p, q] := by
    decide +kernel
  have hvalue : o.text? Relational.includedTables.key = some value := by decide +kernel
  obtain ⟨-, -, hfirst⟩ := list_checked_as_compiled o Relational.includedTables Schema.relational hrun
  obtain ⟨entry, refusal, hcompile, -, hmessage⟩ := hfirst p [q] rfl
  rw [hvalue] at hcompile
  exact ⟨hrun, entry, refusal, hcompile, hmessage⟩

/-! ## Checks and getters of one option -/

/-- What a getter gives for the text of an option and what the check of that option finds fit together. The
texts that can be read are described by what they mean. The fault of the getter and the problem of the check
are about the same text, and the last argument is how the fault ends. -/
structure Agree {α : Type} (f : Field) (text : Option String) (found : Except Fault (List Problem))
    (got : Except OptionFault (Option α)) (means : String → α → Prop) (ending : String) : Prop where
  found_nothing_iff : found = .ok [] ↔ ∃ a, got = .ok a
  got_iff : (∃ a, got = .ok a) ↔ ∀ v, text = some v → ∃ a, means v a
  got_value : ∀ v, text = some v → ∀ a, got = .ok (some a) ↔ means v a
  refusal : ∀ e, got = .error e → ∃ v message, text = some v ∧
    e.message = "Value '" ++ v ++ "' of '" ++ f.name ++ ending ∧
    found = .ok [⟨f.name, some v, message⟩]

/-- A check that reports the text it cannot read agrees with the getter that reads it likewise. -/
theorem agree_of_readAs {α : Type} {read : String → Option α} {fault : String → String → OptionFault}
    {means : String → α → Prop} {ending : String} {check : Check} {finding : Finding}
    (hmeans : ∀ v a, read v = some a ↔ means v a)
    (hfault : ∀ v name, (fault v name).message = "Value '" ++ v ++ "' of '" ++ name ++ ending)
    (hrun : run o f s check = .ok (if (o.text? f.key).all (fun v => (read v).isSome) then []
      else [.ofFinding f.name (o.text? f.key) finding])) (d : Option α) :
    Agree f (o.text? f.key) (run o f s check) (o.readAs read fault f.key d) means ending := by
  have hgot : (∃ a, o.readAs read fault f.key d = .ok a) ↔ ∀ v, o.text? f.key = some v → ∃ a, means v a := by
    rw [Options.readAs_ok_iff]
    simp only [hmeans]
  refine ⟨?_, hgot, fun v hv a => ?_, fun e he => ?_⟩
  · rw [hgot, hrun]
    simp only [← hmeans]
    cases o.text? f.key with
    | none => simp
    | some v => cases hv : read v <;> simp [hv]
  · rw [Options.readAs_of_text hv, ← hmeans]
    cases read v <;> simp
  · obtain ⟨v, hv, hnone, rfl⟩ := Options.readAs_eq_error.mp he
    refine ⟨v, finding.message, hv, hfault v f.name, ?_⟩
    rw [hrun, hv]
    simp [hnone, Problem.ofFinding]

theorem run_integer_eq : run o f s .integer =
    .ok (if (o.text? f.key).all (fun v => (Options.readInteger? v).isSome) then []
      else [.ofFinding f.name (o.text? f.key) .notInteger]) := by
  have hread : (fun v => (Text.readInteger v).isOk) = fun v => (Options.readInteger? v).isSome := by
    funext v
    unfold Options.readInteger?
    cases Text.readInteger v <;> rfl
  rw [← hread]
  rfl

/-- The check of positive integers goes on where the getter of integers answers. -/
theorem run_positiveInteger_iff : run o f s .positiveInteger = .ok [] ↔
    o.integer? f.key = .ok none ∨ ∃ i, o.integer? f.key = .ok (some i) ∧ 0 < i := by
  rw [run_positiveInteger, Options.integer?]
  cases o.text? f.key with
  | none => simp
  | some v => cases hv : Text.readInteger v <;> simp [hv]

theorem run_positiveInteger_of_error {d : Option Int} {e : OptionFault}
    (h : o.integer? f.key d = .error e) : run o f s .positiveInteger = run o f s .integer := by
  rw [Options.integer?_eq_readAs] at h
  obtain ⟨v, hv, hnone, -⟩ := Options.readAs_eq_error.mp h
  unfold Options.readInteger? at hnone
  unfold run
  rw [hv]
  cases hread : Text.readInteger v with
  | ok i => simp [hread, Except.toOption] at hnone
  | error _ => simp [hread, Except.isOk, Except.toBool]

/-- **What a getter reads, its check accepts.** The check of truth values agrees with the getter of truth
values, and that of integers with the getter of integers, whatever default either getter is given. The check
of positive integers finds nothing exactly when the getter of integers has none or a positive one, and where
that getter fails it finds what the check of integers does. -/
theorem getters_agree_with_checks (o : Options) (f : Field) (s : Schema) :
    (∀ d, Agree f (o.text? f.key) (run o f s .boolean) (o.flag? f.key d)
      (fun v b => Text.Respelled (if b then "true" else "false") v) "' is not a boolean") ∧
    (∀ d, Agree f (o.text? f.key) (run o f s .integer) (o.integer? f.key d) Text.Denotes
      "' is not an integer") ∧
    (run o f s .positiveInteger = .ok [] ↔
      o.integer? f.key = .ok none ∨ ∃ i, o.integer? f.key = .ok (some i) ∧ 0 < i) ∧
    ∀ d e, o.integer? f.key d = .error e → run o f s .positiveInteger = run o f s .integer := by
  refine ⟨fun d => ?_, fun d => ?_, run_positiveInteger_iff, fun d e => run_positiveInteger_of_error⟩
  · rw [Options.flag?_eq_readAs]
    exact agree_of_readAs (fun v b => Options.readFlag?_eq_some_iff_respelled) (fun v name => rfl) rfl d
  · rw [Options.integer?_eq_readAs]
    exact agree_of_readAs (fun v i => Options.readInteger?_eq_some.trans Text.readInteger_eq_ok)
      (fun v name => rfl) run_integer_eq d

/-- A default that is no integer is found by the check, and the getter fails on it whatever it is given. -/
example :
    let f : Field := { name := "n", displayName := "N", default := some " 1_ " }
    run .empty f .relational .integer = .ok [.ofFinding "n" (some " 1_ ") .notInteger] ∧
      Options.empty.integer? f.key (some 7) = .error (.notInteger " 1_ " "n") := by
  decide

end CaptureConfig.Check
