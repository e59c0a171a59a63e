import CaptureConfig.Proofs.Option.Store
import CaptureConfig.Proofs.Pattern.List
import CaptureConfig.Proofs.Schema.Field
import CaptureConfig.Schema.Check

/-!
# What checks find

The problems of a schema are those of its checks, field by field and check by check, and a check finds
only problems of its own kind. The statements about single checks say exactly when they find nothing.
-/

namespace CaptureConfig

section Collect

variable {α β ε : Type} {f : α → Except ε (List β)}

/-! ## Collecting -/

theorem collect_nil : collect f [] = .ok [] := rfl

theorem collect_cons (x : α) (xs : List α) :
    collect f (x :: xs) = f x >>= fun as => (collect f xs).map (as ++ ·) := by
  unfold collect
  rw [List.mapM_cons]
  cases f x with
  | error e => rfl
  | ok as => cases xs.mapM f <;> rfl

theorem collect_cons_eq_ok {x : α} {xs : List α} {ys : List β} :
    collect f (x :: xs) = .ok ys ↔
      ∃ as bs, f x = .ok as ∧ collect f xs = .ok bs ∧ as ++ bs = ys := by
  rw [collect_cons, Steps.bind_eq_ok]
  simp only [Steps.map_eq_ok, exists_and_left]

theorem collect_ok_iff {xs : List α} :
    (∃ ys, collect f xs = .ok ys) ↔ ∀ x ∈ xs, ∃ ys, f x = .ok ys := by
  rw [← Steps.mapM_ok_iff]
  simp only [collect, Steps.map_eq_ok]
  constructor
  · rintro ⟨_, yss, hyss, -⟩
    exact ⟨yss, hyss⟩
  · rintro ⟨yss, hyss⟩
    exact ⟨_, yss, hyss, rfl⟩

theorem collect_eq_ok_nil {xs : List α} : collect f xs = .ok [] ↔ ∀ x ∈ xs, f x = .ok [] := by
  induction xs with
  | nil => simp [collect_nil]
  | cons x xs ih =>
      rw [collect_cons_eq_ok, List.forall_mem_cons, ← ih]
      constructor
      · rintro ⟨as, bs, has, hbs, h⟩
        obtain ⟨rfl, rfl⟩ := List.append_eq_nil_iff.mp h
        exact ⟨has, hbs⟩
      · rintro ⟨has, hbs⟩
        exact ⟨[], [], has, hbs, rfl⟩

theorem collect_append_eq_ok {xs ys : List α} {zs : List β} :
    collect f (xs ++ ys) = .ok zs ↔
      ∃ as bs, collect f xs = .ok as ∧ collect f ys = .ok bs ∧ as ++ bs = zs := by
  induction xs generalizing zs with
  | nil => simp [collect_nil]
  | cons x xs ih =>
      simp only [List.cons_append, collect_cons_eq_ok, ih]
      constructor
      · rintro ⟨as, _, has, ⟨bs, cs, hbs, hcs, rfl⟩, rfl⟩
        exact ⟨as ++ bs, cs, ⟨as, bs, has, hbs, rfl⟩, hcs, by simp⟩
      · rintro ⟨_, cs, ⟨as, bs, has, hbs, rfl⟩, hcs, rfl⟩
        exact ⟨as, bs ++ cs, has, ⟨bs, cs, hbs, hcs, rfl⟩, by simp⟩

theorem mem_collect {xs : List α} {ys : List β} (h : collect f xs = .ok ys) {y : β} (hy : y ∈ ys) :
    ∃ x ∈ xs, ∃ zs, f x = .ok zs ∧ y ∈ zs := by
  induction xs generalizing ys with
  | nil =>
      obtain rfl := Except.ok.inj h
      cases hy
  | cons x xs ih =>
      obtain ⟨as, bs, has, hbs, rfl⟩ := collect_cons_eq_ok.mp h
      rcases List.mem_append.mp hy with hy | hy
      · exact ⟨x, List.mem_cons_self, as, has, hy⟩
      · obtain ⟨z, hz, hrest⟩ := ih hbs hy
        exact ⟨z, List.mem_cons_of_mem _ hz, hrest⟩

/-- What is collected from items in order is in order, where what one item gives has the item's rank. -/
theorem collect_pairwise_le {xs : List α} {ys : List β} {rank : β → Nat} {place : α → Nat}
    (h : collect f xs = .ok ys)
    (hrank : ∀ x ∈ xs, ∀ zs, f x = .ok zs → ∀ y ∈ zs, rank y = place x)
    (hplace : xs.Pairwise fun x x' => place x ≤ place x') :
    ys.Pairwise fun y y' => rank y ≤ rank y' := by
  induction xs generalizing ys with
  | nil =>
      obtain rfl := Except.ok.inj h
      exact List.Pairwise.nil
  | cons x xs ih =>
      obtain ⟨as, bs, has, hbs, rfl⟩ := collect_cons_eq_ok.mp h
      obtain ⟨hx, hxs⟩ := List.pairwise_cons.mp hplace
      have hfirst : ∀ y ∈ as, rank y = place x := hrank x List.mem_cons_self as has
      have htail := fun z hz => hrank z (List.mem_cons_of_mem _ hz)
      refine List.pairwise_append.mpr ⟨?_, ih hbs htail hxs, ?_⟩
      · exact List.pairwise_of_forall_mem_list fun y hy y' hy' => by
          exact Nat.le_of_eq ((hfirst y hy).trans (hfirst y' hy').symm)
      · intro y hy y' hy'
        obtain ⟨z, hz, zs, hzs, hmem⟩ := mem_collect hbs hy'
        rw [hfirst y hy, htail z hz zs hzs y' hmem]
        exact hx z hz

/-- When only one item gives results of a kind, those results are what that item gives. -/
theorem filter_collect {before after : List α} {x : α} {ys : List β} {kind : β → Bool}
    (h : collect f (before ++ x :: after) = .ok ys)
    (hx : ∀ zs, f x = .ok zs → ∀ y ∈ zs, kind y = true)
    (hrest : ∀ x' ∈ before ++ after, ∀ zs, f x' = .ok zs → ∀ y ∈ zs, kind y = false) :
    f x = .ok (ys.filter kind) := by
  obtain ⟨as, rest, has, h', rfl⟩ := collect_append_eq_ok.mp h
  obtain ⟨bs, cs, hbs, hcs, rfl⟩ := collect_cons_eq_ok.mp h'
  -- the items beside `x` give nothing of the kind, and `x` gives nothing else
  have hout {xs : List α} {zs : List β} (hxs : xs ⊆ before ++ after) (hzs : collect f xs = .ok zs) :
      zs.filter kind = [] := by
    refine List.filter_eq_nil_iff.mpr fun y hy => ?_
    obtain ⟨x', hx', ws, hws, hmem⟩ := mem_collect hzs hy
    exact Bool.not_eq_true _ ▸ hrest x' (hxs hx') ws hws y hmem
  have hin : bs.filter kind = bs := List.filter_eq_self.mpr (hx bs hbs)
  rw [List.filter_append, List.filter_append, hin, hout (List.subset_append_left _ _) has,
    hout (List.subset_append_right _ _) hcs, List.nil_append, List.append_nil, hbs]

end Collect

variable {o : Options} {s : Schema} {f : Field}

/-- The text of an option read through its field. -/
theorem Options.text?_key (o : Options) (f : Field) :
    o.text? f.key = (o.get? f.name).or f.default := by
  simp [Options.text?, Field.key]

/-- What holds of the default of a field need only be asked of the text that is given. -/
theorem Options.forall_text?_key {motive : String → Prop}
    (hdefault : ∀ d, f.default = some d → motive d) :
    (∀ v, o.text? f.key = some v → motive v) ↔ ∀ v, o.get? f.name = some v → motive v := by
  rw [Options.text?_key]
  cases o.get? f.name with
  | none => simpa using hdefault
  | some v => simp

/-! ## The checks of a schema -/

/-- The checks of a schema, each with its field, in the order in which they run. -/
def Schema.checks (s : Schema) : List (Field × Check) :=
  s.fields.flatMap fun f => f.checks.map fun check => (f, check)

theorem Schema.checks_pairwise (s : Schema) :
    s.checks.Pairwise fun d d' => s.names.idxOf d.1.name ≤ s.names.idxOf d'.1.name := by
  refine List.pairwise_flatMap.mpr ⟨fun f _ => ?_, s.fields_pairwise.imp fun hle d hd d' hd' => ?_⟩
  · exact List.pairwise_map.mpr (List.pairwise_of_forall fun _ _ => Nat.le_refl _)
  · obtain ⟨_, -, rfl⟩ := List.mem_map.mp hd
    obtain ⟨_, -, rfl⟩ := List.mem_map.mp hd'
    exact hle

theorem collect_checks (o : Options) (s : Schema) (f : Field) (checks : List Check) :
    collect (fun d : Field × Check => d.2.run o d.1 s) (checks.map fun check => (f, check)) =
      collect (Check.run o f s) checks := by
  rw [collect, List.mapM_map]
  rfl

theorem validate_eq_ok {problems : List Problem} :
    s.validate o = .ok problems ↔
      collect (fun d : Field × Check => d.2.run o d.1 s) s.checks = .ok problems := by
  unfold Schema.validate Schema.checks
  generalize s.fields = fields
  induction fields generalizing problems with
  | nil => rfl
  | cons f rest ih =>
      -- the checks of the first field run before those of the others
      rw [List.flatMap_cons, collect_cons_eq_ok, collect_append_eq_ok, collect_checks]
      simp only [ih]
      rfl

/-- A configuration has no problem exactly when no check finds one. -/
theorem validate_eq_ok_nil :
    s.validate o = .ok [] ↔ ∀ d ∈ s.checks, d.2.run o d.1 s = .ok [] := by
  rw [validate_eq_ok, collect_eq_ok_nil]

/-! ## Two configurations -/

/-- Two stores give each field of the schema the same text, whether from an option or by default. -/
def Schema.SameTexts (s : Schema) (o p : Options) : Prop := ∀ f ∈ s.fields, o.text? f.key = p.text? f.key

variable {p : Options}

theorem Check.bothLists_congr (h : s.SameTexts o p) (included excluded : String) (finding : Finding) :
    bothLists o s included excluded finding = bothLists p s included excluded finding := by
  unfold bothLists
  cases hwhite : s.field? included with
  | error fault => rfl
  | ok white =>
      cases hblack : s.field? excluded with
      | error fault => rfl
      | ok black =>
          -- a field that is looked up is one of the schema
          simp only [Except.mapError, bind, Except.bind]
          rw [h white (Schema.mem_of_field? hwhite), h black (Schema.mem_of_field? hblack)]

theorem Check.run_congr (h : s.SameTexts o p) (hf : f ∈ s.fields) (check : Check) :
    check.run o f s = check.run p f s := by
  unfold run
  rw [h f hf, bothLists_congr h, bothLists_congr h]

theorem Schema.validate_congr_texts (h : s.SameTexts o p) : s.validate o = s.validate p := by
  have hfield : ∀ f ∈ s.fields, f.problems o s = f.problems p s := by
    intro f hf
    have hrun : Check.run o f s = Check.run p f s := funext (Check.run_congr h hf)
    rw [Field.problems, Field.problems, hrun]
  unfold validate collect
  rw [Steps.mapM_congr hfield]

/-- The problems of a configuration depend on the options of the fields alone. -/
theorem Schema.validate_congr (h : ∀ name ∈ s.names, o.get? name = p.get? name) :
    s.validate o = s.validate p :=
  Schema.validate_congr_texts fun f hf => Options.text?_congr (h f.name (List.mem_map_of_mem hf)) none

namespace Check

/-! ## Lists of regular expressions -/

/-- The problems with one entry of a list. -/
def entryProblems (f : Field) (value entry : String) : Except Fault (List Problem) :=
  match Pattern.compile? entry with
  | .ok _ => .ok []
  | .error (.syntactic complaint place) =>
    .ok [.ofFinding f.name (some value) (.badPattern entry (.syntactic complaint place))]
  | .error refusal => .error (.pattern entry refusal)

/-- The check of a list collects what it finds with its entries. -/
theorem patternProblems_eq (f : Field) (value : String) (entries : List String) :
    patternProblems f value entries = collect (entryProblems f value) entries := by
  induction entries with
  | nil => rfl
  | cons entry rest ih =>
      rw [patternProblems, ih, collect_cons, entryProblems]
      cases hc : Pattern.compile? entry with
      | ok p => cases collect (entryProblems f value) rest <;> rfl
      | error refusal => cases refusal <;> cases collect (entryProblems f value) rest <;> rfl

theorem entryProblems_eq_ok_nil {value entry : String} :
    entryProblems f value entry = .ok [] ↔ PatternList.Compiles entry := by
  unfold entryProblems PatternList.Compiles
  split <;> rename_i h <;> simp [h]

theorem mem_entryProblems {value entry : String} {problems : List Problem} {p : Problem}
    (h : entryProblems f value entry = .ok problems) (hp : p ∈ problems) :
    ∃ refusal, p = .ofFinding f.name (some value) (.badPattern entry refusal) := by
  unfold entryProblems at h
  split at h
  · obtain rfl := Except.ok.inj h
    cases hp
  · obtain rfl := Except.ok.inj h
    exact ⟨_, List.mem_singleton.mp hp⟩
  · cases h

/-! ## What each check finds -/

theorem run_required : run o f s .required = .ok [] ↔
    ∃ v, o.text? f.key = some v ∧ Text.blank v = false := by
  cases h : o.text? f.key <;> simp [run, h]

theorem run_boolean : run o f s .boolean = .ok [] ↔
    ∀ v, o.text? f.key = some v → (Options.readFlag? v).isSome := by
  cases h : o.text? f.key <;> simp [run, h, Option.isSome_iff_ne_none]

theorem run_positiveInteger : run o f s .positiveInteger = .ok [] ↔
    ∀ v, o.text? f.key = some v → ∃ i, Text.readInteger v = .ok i ∧ 0 < i := by
  cases h : o.text? f.key with
  | none => simp [run, h]
  | some v => cases hv : Text.readInteger v <;> simp [run, h, hv]

theorem run_decimalMode : run o f s .decimalMode = .ok [] ↔
    ∀ v, o.text? f.key = some v → (DecimalMode.named? v).isSome := by
  cases h : o.text? f.key <;> simp [run, h, Option.isSome_iff_ne_none]

theorem run_patternList : run o f s .patternList = .ok [] ↔
    ∀ v, o.text? f.key = some v →
      ∀ entry ∈ PatternList.entries v, PatternList.Compiles entry := by
  cases h : o.text? f.key with
  | none => simp [run, h]
  | some v => simp [run, h, patternProblems_eq, collect_eq_ok_nil, entryProblems_eq_ok_nil]

/-- The problem of two lists at once: there is one when both have a text, with the text of the second. -/
theorem bothLists_eq_ok {included excluded : String} {finding : Finding} {white black : Field}
    (hwhite : s.field? included = .ok white) (hblack : s.field? excluded = .ok black) :
    bothLists o s included excluded finding =
      .ok (match o.text? white.key, o.text? black.key with
        | some _, some value => [.ofFinding excluded (some value) finding]
        | _, _ => []) := by
  cases hw : o.text? white.key <;> cases hb : o.text? black.key <;>
    simp [bothLists, hwhite, hblack, hw, hb, bind, Except.bind, Except.mapError, pure, Except.pure]

/-! ## What a check can report -/

/-- The option on which a check of a field reports. -/
def reportsOn (f : Field) : Check → String
  | .tableLists => OptionName.excludedTables
  | .schemaLists => OptionName.excludedSchemas
  | _ => f.name

/-- The findings that a check can come to. -/
inductive Finds : Check → Finding → Prop
  | missing : Finds .required .missing
  | notBoolean : Finds .boolean .notBoolean
  | notInteger : Finds .integer .notInteger
  | notPositiveInteger : Finds .positiveInteger .notInteger
  | notPositive : Finds .positiveInteger .notPositive
  | badPattern (entry : String) (refusal : Pattern.Refusal) :
      Finds .patternList (.badPattern entry refusal)
  | unknownMode : Finds .decimalMode .unknownMode
  | tablesIncludedToo : Finds .tableLists .tablesIncludedToo
  | schemasIncludedToo : Finds .schemaLists .schemasIncludedToo

theorem mem_bothLists {included excluded : String} {finding : Finding} {problems : List Problem}
    {p : Problem} (h : bothLists o s included excluded finding = .ok problems) (hp : p ∈ problems) :
    ∃ value, p = .ofFinding excluded value finding := by
  obtain ⟨white, -, h⟩ := Steps.bind_eq_ok.mp h
  obtain ⟨black, -, h⟩ := Steps.bind_eq_ok.mp h
  split at h
  · obtain rfl := Except.ok.inj h
    exact ⟨_, List.mem_singleton.mp hp⟩
  · obtain rfl := Except.ok.inj h
    cases hp

/-- A check reports only findings of its own, and on its own option. -/
theorem mem_run {check : Check} {problems : List Problem} {p : Problem}
    (h : run o f s check = .ok problems) (hp : p ∈ problems) :
    ∃ value finding, check.Finds finding ∧ p = .ofFinding (check.reportsOn f) value finding := by
  -- each outcome of a check is empty or its one problem; only lists of expressions can have more
  cases check with
  | required =>
      obtain rfl := Except.ok.inj h
      split at hp
      · exact ⟨_, _, .missing, List.mem_singleton.mp hp⟩
      · cases hp
  | boolean =>
      obtain rfl := Except.ok.inj h
      split at hp
      · cases hp
      · exact ⟨_, _, .notBoolean, List.mem_singleton.mp hp⟩
  | integer =>
      obtain rfl := Except.ok.inj h
      split at hp
      · cases hp
      · exact ⟨_, _, .notInteger, List.mem_singleton.mp hp⟩
  | positiveInteger =>
      simp only [run] at h
      split at h
      · obtain rfl := Except.ok.inj h
        cases hp
      · obtain rfl := Except.ok.inj h
        exact ⟨_, _, .notPositiveInteger, List.mem_singleton.mp hp⟩
      · obtain rfl := Except.ok.inj h
        split at hp
        · exact ⟨_, _, .notPositive, List.mem_singleton.mp hp⟩
        · cases hp
  | patternList =>
      simp only [run] at h
      split at h
      · obtain rfl := Except.ok.inj h
        cases hp
      · obtain ⟨entry, -, zs, hzs, hmem⟩ := mem_collect (patternProblems_eq f _ _ ▸ h) hp
        obtain ⟨refusal, rfl⟩ := mem_entryProblems hzs hmem
        exact ⟨_, _, .badPattern entry refusal, rfl⟩
  | decimalMode =>
      obtain rfl := Except.ok.inj h
      split at hp
      · cases hp
      · exact ⟨_, _, .unknownMode, List.mem_singleton.mp hp⟩
  | tableLists =>
      obtain ⟨value, rfl⟩ := mem_bothLists h hp
      exact ⟨value, _, .tablesIncludedToo, rfl⟩
  | schemaLists =>
      obtain ⟨value, rfl⟩ := mem_bothLists h hp
      exact ⟨value, _, .schemasIncludedToo, rfl⟩

end Check

/-- The wording of a finding about a regular expression starts with an article. -/
theorem Finding.head?_message_badPattern (entry : String) (refusal : Pattern.Refusal) :
    (Finding.badPattern entry refusal).message.toList.head? = some 'A' := by
  have hmessage : (Finding.badPattern entry refusal).message =
      "A comma-separated list of valid regular expressions is expected, but '" ++ entry ++
        "' is invalid: " ++ refusal.message entry := rfl
  rw [hmessage]
  simp only [String.toList_append]
  rw [List.append_assoc, List.append_assoc, List.head?_append]
  simp

/-- The findings of two lists at once are worded like no other finding. -/
theorem Finding.message_inj_of_lists {finding : Finding} :
    (finding.message = Finding.tablesIncludedToo.message ↔ finding = .tablesIncludedToo) ∧
      (finding.message = Finding.schemasIncludedToo.message ↔ finding = .schemasIncludedToo) := by
  cases finding with
  | badPattern entry refusal =>
      -- the wording about an expression depends on it, and is told apart by its first letter
      have hhead := Finding.head?_message_badPattern entry refusal
      refine ⟨⟨fun h => ?_, fun h => by cases h⟩, fun h => ?_, fun h => by cases h⟩
      · rw [h] at hhead
        exact absurd hhead (by decide)
      · rw [h] at hhead
        exact absurd hhead (by decide)
  | _ => decide

/-- The problems of a configuration come in the order of the fields they are reported on, when every
check of the schema reports on its own field. -/
theorem Schema.validate_pairwise {problems : List Problem} (h : s.validate o = .ok problems)
    (hself : ∀ d ∈ s.checks, d.2.reportsOn d.1 = d.1.name) :
    problems.Pairwise fun p q => s.names.idxOf p.field ≤ s.names.idxOf q.field := by
  refine collect_pairwise_le (validate_eq_ok.mp h) (fun d hd zs hzs p hp => ?_)
    s.checks_pairwise
  obtain ⟨value, finding, -, rfl⟩ := Check.mem_run hzs hp
  exact congrArg s.names.idxOf (hself d hd)

/-- Every problem is one that some check of the schema reports. -/
theorem Schema.mem_validate {problems : List Problem} {p : Problem}
    (h : s.validate o = .ok problems) (hp : p ∈ problems) :
    ∃ d ∈ s.checks, ∃ value finding,
      d.2.Finds finding ∧ p = .ofFinding (d.2.reportsOn d.1) value finding := by
  obtain ⟨d, hd, zs, hzs, hmem⟩ := mem_collect (validate_eq_ok.mp h) hp
  exact ⟨d, hd, Check.mem_run hzs hmem⟩

/-! ## The problems of one check -/

section OneCheck

variable {problems : List Problem} (before after : List (Field × Check)) (d : Field × Check)

/-- When one check alone gives the problems of a kind, and gives no others, they are what it finds. -/
theorem Schema.filter_validate {kind : Problem → Bool} (h : s.validate o = .ok problems)
    (hchecks : s.checks = before ++ d :: after)
    (hself : ∀ value finding, d.2.Finds finding →
      kind (.ofFinding (d.2.reportsOn d.1) value finding) = true)
    (hrest : ∀ d' ∈ before ++ after, ∀ value finding, d'.2.Finds finding →
      kind (.ofFinding (d'.2.reportsOn d'.1) value finding) = false) :
    d.2.run o d.1 s = .ok (problems.filter kind) := by
  have hcollect := validate_eq_ok.mp h
  rw [hchecks] at hcollect
  refine filter_collect (f := fun d : Field × Check => d.2.run o d.1 s) hcollect
    (fun zs hzs p hp => ?_) (fun d' hd' zs hzs p hp => ?_)
  · obtain ⟨value, found, hfound, rfl⟩ := Check.mem_run hzs hp
    exact hself value found hfound
  · obtain ⟨value, found, hfound, rfl⟩ := Check.mem_run hzs hp
    exact hrest d' hd' value found hfound

theorem Schema.filter_field (h : s.validate o = .ok problems)
    (hchecks : s.checks = before ++ d :: after)
    (hrest : ∀ d' ∈ before ++ after, d'.2.reportsOn d'.1 ≠ d.2.reportsOn d.1) :
    d.2.run o d.1 s = .ok (problems.filter fun p => decide (p.field = d.2.reportsOn d.1)) :=
  Schema.filter_validate before after d h hchecks (fun _ _ _ => decide_eq_true rfl)
    fun d' hd' _ _ _ => decide_eq_false (hrest d' hd')

end OneCheck

/-- A check that reports the text it reads whenever that fails a test, while the default of the field
passes it, reports exactly the text that is given and fails. -/
theorem exists_reported_iff {test : String → Bool} {finding : Finding} {problems : List Problem}
    (hfound : (if (o.text? f.key).all test then []
      else [Problem.ofFinding f.name (o.text? f.key) finding]) =
        problems.filter fun p => decide (p.field = f.name))
    (hdefault : ∀ d, f.default = some d → test d = true) (v : String) :
    (∃ p ∈ problems, p.field = f.name ∧ p.value = some v) ↔
      o.get? f.name = some v ∧ test v = false := by
  have hreported : (∃ p ∈ problems, p.field = f.name ∧ p.value = some v) ↔
      ∃ p ∈ problems.filter (fun p => decide (p.field = f.name)), p.value = some v := by
    simp [and_assoc]
  rw [hreported, ← hfound, Options.text?_key]
  cases hget : o.get? f.name with
  | some w =>
      cases hw : test w with
      | true =>
          simp only [Option.some_or, Option.all_some, hw, if_true]
          constructor
          · rintro ⟨p, hp, -⟩
            cases hp
          · rintro ⟨hv, hfalse⟩
            rw [← Option.some.inj hv, hw] at hfalse
            cases hfalse
      | false =>
          simp only [Option.some_or, Option.all_some, hw, Bool.false_eq_true, if_false]
          constructor
          · rintro ⟨p, hp, hv⟩
            obtain rfl := List.mem_singleton.mp hp
            obtain rfl := Option.some.inj hv
            exact ⟨rfl, hw⟩
          · rintro ⟨hv, -⟩
            exact ⟨_, List.mem_singleton.mpr rfl, hv⟩
  | none =>
      -- the default speaks for the option, and it passes
      have hall : f.default.all test = true := by
        cases hd : f.default with
        | none => rfl
        | some d => exact hdefault d hd
      simp [hall]

end CaptureConfig
