import CaptureConfig.Command.Override
import CaptureConfig.Proofs.Assoc
import CaptureConfig.Proofs.Steps
import CaptureConfig.Proofs.Text.Blank
import CaptureConfig.Proofs.Text.Split

/-!
# What items on the command line give

An item that names an option gives it the text behind its first equals sign, whatever that holds. Items that
name the same option count as one, at the place of the first and with the value of the last. The first item
that names nothing is the one that is reported, wherever it stands.
-/

namespace CaptureConfig.Command

/-- The name that an item gives: white space around it does not count. -/
def nameOf (item : String) : String := Text.trim (Text.before '=' item)

/-- The value that an item gives, as it stands. -/
def valueOf (item : String) : String := Text.behind '=' item

/-- An item names no option: it has no equals sign, or nothing but white space before the first one. -/
def NamesNothing (item : String) : Prop :=
  '=' ∉ item.toList ∨ Text.blank (Text.before '=' item) = true

instance : DecidablePred NamesNothing := fun _ => inferInstanceAs (Decidable (_ ∨ _))

/-- An option as an item. -/
def asItem (option : String × String) : String := option.1 ++ "=" ++ option.2

variable {item name value : String} {items : List String} {ps : List (String × String)}
  {fault : OverrideFault}

/-! ## One item -/

theorem readOverride_eq (item : String) : readOverride item =
    if NamesNothing item then .error (.malformed item) else .ok (nameOf item, valueOf item) := by
  unfold readOverride NamesNothing
  rw [Text.cut?_eq]
  by_cases hmem : '=' ∈ item.toList
  · by_cases hblank : Text.blank (Text.before '=' item) = true <;> simp [hmem, hblank, nameOf, valueOf]
  · simp [hmem]

theorem readOverride_ok_iff : (∃ option, readOverride item = .ok option) ↔ ¬ NamesNothing item := by
  rw [readOverride_eq]
  split <;> simp_all

theorem readOverride_eq_error :
    readOverride item = .error fault ↔ NamesNothing item ∧ fault = .malformed item := by
  rw [readOverride_eq]
  split <;> simp_all [eq_comm]

/-- An option whose name is trimmed and has no equals sign is read back from its item. -/
theorem readOverride_asItem (hne : name ≠ "") (htrim : Text.trim name = name) (hsep : '=' ∉ name.toList) :
    readOverride (asItem (name, value)) = .ok (name, value) := by
  have hname : Text.before '=' (asItem (name, value)) = name := Text.before_joined hsep value
  have hvalue : Text.behind '=' (asItem (name, value)) = value := Text.behind_joined hsep value
  have hnamed : ¬ NamesNothing (asItem (name, value)) := by
    rintro (hmem | hblank)
    · simp [asItem] at hmem
    · rw [hname, ← Text.trim_eq_empty, htrim] at hblank
      exact hne hblank
  rw [readOverride_eq, if_neg hnamed, nameOf, valueOf, hname, hvalue, htrim]

/-! ## All items -/

theorem readOverrides_eq_ok : readOverrides items = .ok ps ↔
    (∀ item ∈ items, ¬ NamesNothing item) ∧
      Assoc.ofPairs (items.map fun item => (nameOf item, valueOf item)) = ps := by
  have hread (h : ∀ item ∈ items, ¬ NamesNothing item) :
      items.mapM readOverride = .ok (items.map fun item => (nameOf item, valueOf item)) :=
    Steps.mapM_of_forall_ok fun item hitem => (readOverride_eq item).trans (if_neg (h item hitem))
  rw [readOverrides, Steps.map_eq_ok]
  constructor
  · rintro ⟨options, hoptions, hps⟩
    have hnamed : ∀ item ∈ items, ¬ NamesNothing item := fun item hitem =>
      readOverride_ok_iff.mp (Steps.mapM_ok_iff.mp ⟨options, hoptions⟩ item hitem)
    obtain rfl := Except.ok.inj ((hread hnamed).symm.trans hoptions)
    exact ⟨hnamed, hps⟩
  · rintro ⟨hnamed, hps⟩
    exact ⟨_, hread hnamed, hps⟩

theorem readOverrides_eq_error : readOverrides items = .error fault ↔
    ∃ before item after, items = before ++ item :: after ∧ (∀ b ∈ before, ¬ NamesNothing b) ∧
      NamesNothing item ∧ fault = .malformed item := by
  rw [readOverrides, Steps.map_eq_error, Steps.mapM_eq_error]
  simp only [Steps.FirstFault, readOverride_ok_iff, readOverride_eq_error]

theorem exists_readOverrides_eq_error :
    (∃ fault, readOverrides items = .error fault) ↔ ∃ item ∈ items, NamesNothing item := by
  simp only [readOverrides, Steps.map_eq_error, Steps.mapM_eq_error, Steps.exists_firstFault_iff,
    readOverride_eq_error, exists_and_left, exists_eq, and_true]

theorem mem_of_readOverrides (h : readOverrides items = .ok ps) : (name, value) ∈ ps ↔
    ∃ before item after, items = before ++ item :: after ∧ nameOf item = name ∧ valueOf item = value ∧
      ∀ later ∈ after, nameOf later ≠ name := by
  obtain ⟨-, rfl⟩ := readOverrides_eq_ok.mp h
  rw [Assoc.mem_ofPairs]
  constructor
  · rintro ⟨_, _, hsplit, hlater⟩
    obtain ⟨before, _, rfl, rfl, hrest⟩ := List.map_eq_append_iff.mp hsplit
    obtain ⟨item, after, rfl, hitem, rfl⟩ := List.map_eq_cons_iff.mp hrest
    obtain ⟨hname, hvalue⟩ := Prod.mk.inj hitem
    exact ⟨before, item, after, rfl, hname, hvalue,
      fun later hmem => hlater (nameOf later, valueOf later) (List.mem_map.mpr ⟨later, hmem, rfl⟩)⟩
  · rintro ⟨before, item, after, rfl, rfl, rfl, hlater⟩
    refine ⟨_, _, List.map_append, fun p hp => ?_⟩
    obtain ⟨later, hmem, rfl⟩ := List.mem_map.mp hp
    exact hlater later hmem

/-- **What items give.** Items are refused exactly when one of them names no option, and the fault quotes the
first such item. Otherwise the names come in the order in which they are given first, and each has the value
of the last item that gives it. So options are read back from their items, whatever their values hold, if
their names are neither padded nor empty and have no equals sign. -/
theorem items_give_first_place_and_last_value (items : List String) :
    ((∃ fault, readOverrides items = .error fault) ↔ ∃ item ∈ items, NamesNothing item) ∧
    (∀ fault, readOverrides items = .error fault ↔
      ∃ before item after, items = before ++ item :: after ∧ (∀ b ∈ before, ¬ NamesNothing b) ∧
        NamesNothing item ∧ fault = .malformed item ∧
        fault.message = "Invalid property override '" ++ item ++ "', expected KEY=VALUE") ∧
    (∀ ps, readOverrides items = .ok ps →
      ps.map Prod.fst = (items.map nameOf).eraseDups ∧
      ∀ name value, (name, value) ∈ ps ↔
        ∃ before item after, items = before ++ item :: after ∧ nameOf item = name ∧
          valueOf item = value ∧ ∀ later ∈ after, nameOf later ≠ name) ∧
    ∀ ps : List (String × String), (ps.map Prod.fst).Nodup →
      (∀ p ∈ ps, p.1 ≠ "" ∧ Text.trim p.1 = p.1 ∧ '=' ∉ p.1.toList) →
        readOverrides (ps.map asItem) = .ok ps := by
  refine ⟨exists_readOverrides_eq_error, fun fault => ?_, fun ps h => ⟨?_, fun name value => ?_⟩,
    fun ps hdistinct hnames => ?_⟩
  · rw [readOverrides_eq_error]
    constructor
    · rintro ⟨before, item, after, hitems, hbefore, hitem, rfl⟩
      exact ⟨before, item, after, hitems, hbefore, hitem, rfl, rfl⟩
    · rintro ⟨before, item, after, hitems, hbefore, hitem, hfault, -⟩
      exact ⟨before, item, after, hitems, hbefore, hitem, hfault⟩
  · obtain ⟨-, rfl⟩ := readOverrides_eq_ok.mp h
    rw [Assoc.keys_ofPairs, List.map_map]
    rfl
  · exact mem_of_readOverrides h
  · have hread : (ps.map asItem).mapM readOverride = .ok ps := by
      rw [Steps.mapM_eq_ok, List.forall₂_map_left_iff, List.forall₂_same]
      rintro ⟨name, value⟩ hp
      obtain ⟨hne, htrim, hsep⟩ := hnames _ hp
      exact readOverride_asItem hne htrim hsep
    rw [readOverrides, hread]
    exact congrArg Except.ok (Assoc.ofPairs_of_nodup hdistinct)

/-- Two spellings of one name count as one option, an equals sign is part of a value, and options with such
values are read back. -/
theorem padded_items_give_two_options :
    let items := ["a = 1", "b==x= ", "\u2003a=\t2"]
    let ps := [("a", "\t2"), ("b", "=x= ")]
    readOverrides items = .ok ps ∧ ("a", "\t2") ∈ ps ∧ readOverrides (ps.map asItem) = .ok ps ∧
      ∃ fault, readOverrides (items ++ [" =y", "z"]) = .error fault ∧
        fault.message = "Invalid property override ' =y', expected KEY=VALUE" := by
  intro items ps
  have hread : readOverrides items = .ok ps := by decide +kernel
  obtain ⟨-, -, hgiven, hback⟩ := items_give_first_place_and_last_value items
  obtain ⟨-, hmem⟩ := hgiven ps hread
  obtain ⟨-, hfault, -⟩ := items_give_first_place_and_last_value (items ++ [" =y", "z"])
  refine ⟨hread, (hmem "a" "\t2").mpr ⟨["a = 1", "b==x= "], _, [], rfl, ?_⟩, hback ps ?_ ?_, _,
    (hfault _).mpr ⟨items, " =y", ["z"], rfl, ?_, ?_, rfl, rfl⟩, rfl⟩
  all_goals decide +kernel

end CaptureConfig.Command
