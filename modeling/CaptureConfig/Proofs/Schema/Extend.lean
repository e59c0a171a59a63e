import CaptureConfig.Proofs.Schema.Check
import CaptureConfig.Schema.Relational

/-!
# Schemas that grow

A schema is made field by field, and a field whose name is taken ends the making. So a schema is a list of
fields with distinct names, and to extend it is to make the longer list. The check of two lists at once looks
its fields up in the schema it runs under. A field that is found stays the one that is found when others
follow, so a longer schema comes to the same problems first.
-/

namespace CaptureConfig

namespace Schema

variable {s t : Schema} {f : Field} {fields a b : List Field} {e : OptionFault}

/-! ## Making a schema -/

theorem eq_of_fields (h : s.fields = t.fields) : s = t := by
  obtain ⟨fs, hs⟩ := s
  obtain ⟨gs, ht⟩ := t
  obtain rfl : fs = gs := h
  rfl

theorem add?_eq_ok : s.add? f = .ok t ↔ t.fields = s.fields ++ [f] := by
  unfold add?
  split
  · rename_i hmem
    constructor
    · intro h
      cases h
    · intro h
      -- the names of the longer schema would not be distinct
      have hdistinct := t.distinct
      rw [h, List.map_append, List.nodup_append] at hdistinct
      exact absurd rfl (hdistinct.2.2 f.name hmem f.name List.mem_cons_self)
  · constructor
    · intro h
      obtain rfl := Except.ok.inj h
      rfl
    · intro h
      exact congrArg Except.ok (eq_of_fields h.symm)

theorem add?_eq_error : s.add? f = .error e ↔ f.name ∈ s.names ∧ e = .duplicateField f.name := by
  unfold add?
  split
  · rename_i hmem
    simp [hmem, eq_comm]
  · rename_i hmem
    simp [hmem]

theorem extend?_cons : s.extend? (f :: fields) = s.add? f >>= fun t => t.extend? fields := rfl

/-- A schema is extended to the one that has its fields and the new ones. -/
theorem extend?_eq_ok : s.extend? fields = .ok t ↔ t.fields = s.fields ++ fields := by
  induction fields generalizing s with
  | nil =>
      rw [List.append_nil]
      constructor
      · intro h
        obtain rfl := Except.ok.inj h
        rfl
      · intro h
        exact congrArg Except.ok (eq_of_fields h.symm)
  | cons f rest ih =>
      rw [extend?_cons, Steps.bind_eq_ok]
      simp only [ih, add?_eq_ok]
      constructor
      · rintro ⟨u, hu, ht⟩
        rw [ht, hu, List.append_assoc]
        rfl
      · intro ht
        -- the schema in between is the one without the rest
        have hdistinct := t.distinct
        have hsplit : t.fields = (s.fields ++ [f]) ++ rest := by rw [ht, List.append_assoc]; rfl
        rw [hsplit, List.map_append, List.nodup_append] at hdistinct
        exact ⟨⟨s.fields ++ [f], hdistinct.1⟩, rfl, hsplit⟩

theorem exists_extend?_eq_ok :
    (∃ t, s.extend? fields = .ok t) ↔ ((s.fields ++ fields).map Field.name).Nodup := by
  simp only [extend?_eq_ok]
  constructor
  · rintro ⟨t, ht⟩
    exact ht ▸ t.distinct
  · intro h
    exact ⟨⟨s.fields ++ fields, h⟩, rfl⟩

/-- Extending stops at the first field whose name is taken, by the schema or by a field before it. -/
theorem extend?_eq_error : s.extend? fields = .error e ↔
    ∃ before f after, fields = before ++ f :: after ∧
      ((s.fields ++ before).map Field.name).Nodup ∧
      f.name ∈ (s.fields ++ before).map Field.name ∧ e = .duplicateField f.name := by
  induction fields generalizing s with
  | nil =>
      constructor
      · intro h
        cases h
      · rintro ⟨before, f, after, h, -⟩
        simp at h
  | cons g rest ih =>
      rw [extend?_cons, Steps.bind_eq_error]
      constructor
      · rintro (h | ⟨u, hu, h⟩)
        · obtain ⟨hmem, rfl⟩ := add?_eq_error.mp h
          refine ⟨[], g, rest, rfl, ?_⟩
          rw [List.append_nil]
          exact ⟨s.distinct, hmem, rfl⟩
        · obtain ⟨before, f, after, rfl, hdistinct, hmem, rfl⟩ := ih.mp h
          rw [add?_eq_ok.mp hu, List.append_assoc] at hdistinct hmem
          exact ⟨g :: before, f, after, rfl, hdistinct, hmem, rfl⟩
      · rintro ⟨before, f, after, hfields, hdistinct, hmem, rfl⟩
        cases before with
        | nil =>
            obtain ⟨rfl, rfl⟩ := List.cons.inj hfields
            rw [List.append_nil] at hmem
            exact Or.inl (add?_eq_error.mpr ⟨hmem, rfl⟩)
        | cons g' before =>
            obtain ⟨rfl, rfl⟩ := List.cons.inj hfields
            have hassoc : s.fields ++ g :: before = (s.fields ++ [g]) ++ before := by simp
            rw [hassoc] at hdistinct hmem
            have hfirst : ((s.fields ++ [g]).map Field.name).Nodup := by
              rw [List.map_append, List.nodup_append] at hdistinct
              exact hdistinct.1
            have hadd : s.add? g = .ok ⟨s.fields ++ [g], hfirst⟩ := add?_eq_ok.mpr rfl
            exact Or.inr ⟨_, hadd, ih.mpr ⟨before, f, after, rfl, hdistinct, hmem, rfl⟩⟩

theorem extend?_append : s.extend? (a ++ b) = s.extend? a >>= fun t => t.extend? b :=
  List.foldlM_append

theorem ofFields?_eq_ok : ofFields? fields = .ok s ↔ s.fields = fields := by
  rw [ofFields?, extend?_eq_ok]
  rfl

theorem ofFields?_append : ofFields? (s.fields ++ fields) = s.extend? fields := by
  have hs : empty.extend? s.fields = .ok s := ofFields?_eq_ok.mpr rfl
  rw [ofFields?, extend?_append, hs]
  rfl

/-! ## Checks under a longer schema -/

variable {o : Options}

theorem field?_of_extended (ht : t.fields = s.fields ++ fields) {name : String}
    (h : s.field? name = .ok f) : t.field? name = .ok f := by
  obtain ⟨hmem, hname⟩ := field?_eq_ok.mp h
  have hmem' : f ∈ t.fields := ht ▸ List.mem_append_left fields hmem
  exact field?_eq_ok.mpr ⟨hmem', hname⟩

end Schema

variable {s t : Schema} {f : Field} {fields : List Field} {o : Options} {problems : List Problem}

theorem Check.bothLists_of_extended (ht : t.fields = s.fields ++ fields)
    {included excluded : String} {finding : Finding}
    (h : bothLists o s included excluded finding = .ok problems) :
    bothLists o t included excluded finding = .ok problems := by
  obtain ⟨white, hwhite, h⟩ := Steps.bind_eq_ok.mp h
  obtain ⟨black, hblack, h⟩ := Steps.bind_eq_ok.mp h
  have hwhite' : t.field? included = .ok white :=
    Schema.field?_of_extended ht (Steps.mapError_eq_ok.mp hwhite)
  have hblack' : t.field? excluded = .ok black :=
    Schema.field?_of_extended ht (Steps.mapError_eq_ok.mp hblack)
  unfold bothLists
  rw [hwhite', hblack']
  exact h

/-- A check that comes to its problems under a schema comes to the same ones under a longer schema. -/
theorem Check.run_of_extended (ht : t.fields = s.fields ++ fields) {check : Check}
    (h : check.run o f s = .ok problems) : check.run o f t = .ok problems := by
  cases check with
  | tableLists => exact bothLists_of_extended ht h
  | schemaLists => exact bothLists_of_extended ht h
  | _ => exact h

theorem collect_of_imp {α β ε : Type} {g g' : α → Except ε (List β)} {xs : List α} {ys : List β}
    (hg : ∀ x ∈ xs, ∀ zs, g x = .ok zs → g' x = .ok zs) (h : collect g xs = .ok ys) :
    collect g' xs = .ok ys := by
  induction xs generalizing ys with
  | nil => exact h
  | cons x xs ih =>
      rw [List.forall_mem_cons] at hg
      obtain ⟨as, bs, has, hbs, rfl⟩ := collect_cons_eq_ok.mp h
      exact collect_cons_eq_ok.mpr ⟨as, bs, hg.1 as has, ih hg.2 hbs, rfl⟩

theorem Field.problems_of_extended (ht : t.fields = s.fields ++ fields)
    (h : f.problems o s = .ok problems) : f.problems o t = .ok problems :=
  collect_of_imp (fun _ _ _ hrun => Check.run_of_extended ht hrun) h

namespace Schema

/-- The problems of a schema stay, and those of the fields after it follow. -/
theorem validate_of_extended (ht : t.fields = s.fields ++ fields)
    (h : s.validate o = .ok problems) {all : List Problem} :
    t.validate o = .ok all ↔
      ∃ added, collect (fun f => f.problems o t) fields = .ok added ∧ problems ++ added = all := by
  have hold : collect (fun f => f.problems o t) s.fields = .ok problems :=
    collect_of_imp (fun _ _ _ hproblems => Field.problems_of_extended ht hproblems) h
  unfold validate
  rw [ht, collect_append_eq_ok, hold]
  constructor
  · rintro ⟨_, added, hfirst, hadded, rfl⟩
    obtain rfl := Except.ok.inj hfirst
    exact ⟨added, hadded, rfl⟩
  · rintro ⟨added, hadded, rfl⟩
    exact ⟨problems, added, rfl, hadded, rfl⟩

/-- **Schemas grow at the end.** A schema can be made of fields exactly when no two of them have the same
name; then it has these fields in their order, and otherwise the fault names the first field whose name is
taken. To extend a schema is to make one of its fields and the new ones, and it does not matter whether they
are added at once or in two parts. When a schema comes to its problems, the extended one comes to an end
exactly when the checks of the new fields do, and its problems are the old ones with theirs after them. -/
theorem extending_adds_fields_and_problems :
    (∀ fields,
      ((∃ e, ofFields? fields = .error e) ↔ ¬ (fields.map Field.name).Nodup) ∧
      (∀ e, ofFields? fields = .error e ↔
        ∃ before f after, fields = before ++ f :: after ∧ (before.map Field.name).Nodup ∧
          f.name ∈ before.map Field.name ∧ e = .duplicateField f.name) ∧
      ∀ s, ofFields? fields = .ok s →
        s.fields = fields ∧ s.names = fields.map Field.name ∧ s.names.Nodup) ∧
    (∀ (s : Schema) (a b : List Field),
      s.extend? a = ofFields? (s.fields ++ a) ∧
      (s.extend? a >>= fun t => t.extend? b) = s.extend? (a ++ b)) ∧
    ∀ (s t : Schema) (a : List Field) (o : Options) (problems : List Problem),
      s.extend? a = .ok t → s.validate o = .ok problems →
      ∀ all, t.validate o = .ok all ↔
        ∃ added, collect (fun f => f.problems o t) a = .ok added ∧ problems ++ added = all := by
  refine ⟨fun fields => ⟨?_, fun e => extend?_eq_error, fun s hs => ?_⟩,
    fun s a b => ⟨ofFields?_append.symm, extend?_append.symm⟩, ?_⟩
  · rw [← Steps.not_ok_iff, ofFields?, exists_extend?_eq_ok]
    rfl
  · obtain rfl := ofFields?_eq_ok.mp hs
    exact ⟨rfl, rfl, s.distinct⟩
  · intro s t a o problems ht h all
    exact validate_of_extended (extend?_eq_ok.mp ht) h

/-- A field of one's own comes after the conflict of the two lists, which it may report once more. -/
theorem added_field_reports_last :
    let s : Schema := ⟨[Relational.includedTables, Relational.excludedTables], by decide⟩
    let plugin : Field :=
      { name := "plugin.name", displayName := "Plugin", checks := [.required, .tableLists] }
    let o := Options.ofPairs [("table.blacklist", "db\\.b"), ("table.whitelist", "db\\.a")]
    let conflict : Problem := .ofFinding "table.blacklist" (some "db\\.b") .tablesIncludedToo
    ∃ t, s.extend? [plugin] = .ok t ∧ s.validate o = .ok [conflict] ∧
      t.validate o = .ok [conflict, .ofFinding "plugin.name" none .missing, conflict] := by
  intro s plugin o conflict
  obtain ⟨t, ht⟩ : ∃ t, s.extend? [plugin] = .ok t := exists_extend?_eq_ok.mpr (by decide)
  have hold : s.validate o = .ok [conflict] := by decide +kernel
  obtain ⟨-, -, hgrown⟩ := extending_adds_fields_and_problems
  refine ⟨t, ht, hold, (hgrown s t [plugin] o _ ht hold _).mpr ⟨_, ?_, rfl⟩⟩
  obtain rfl : t = ⟨s.fields ++ [plugin], by decide⟩ := eq_of_fields (extend?_eq_ok.mp ht)
  decide +kernel

end Schema

end CaptureConfig
