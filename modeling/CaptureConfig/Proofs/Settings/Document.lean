import CaptureConfig.Command.Run
import CaptureConfig.Proofs.Datum.Entry
import CaptureConfig.Proofs.Steps

/-!
# Which documents are reported

A document without settings is to be reported as a fault of the configuration. Reading one breaks off
instead when a key of the document is no text, or when an override is to be put into a section that cannot
be copied as a mapping. Overrides also change what a properties section may be: without them it has to be
a mapping, and with them it counts as the mapping that it is copied as, or as an empty one if it fails a
test of truth.
-/

namespace CaptureConfig

/-- The fault is reported as one of the configuration. -/
def SettingsFault.IsReported (fault : SettingsFault) : Prop :=
  Command.isConfigurationFault (.settings fault) = true

theorem SettingsFault.isReported_iff {fault : SettingsFault} :
    fault.IsReported ↔ fault = .notMapping ∨ ∃ invalid, fault = .record (.invalid invalid) := by
  unfold IsReported
  cases fault with
  | notMapping => simp [Command.isConfigurationFault]
  | record keyword => cases keyword <;> simp [Command.isConfigurationFault]
  | copy copyFault => simp [Command.isConfigurationFault]

/-! ## Copying a value as a mapping -/

namespace Datum

/-- The value runs through a key and what stands there. -/
def IsPair (x : Datum) : Prop := ∃ k v, x.elements? = some [k, v] ∧ k.isKey = true

/-- The values that can be copied as a mapping: mappings, and whatever runs through pairs. -/
inductive Copyable : Datum → Prop
  | map (es : Entries) : Copyable (.map es)
  | pairs {d : Datum} {xs : List Datum} (elements : d.elements? = some xs)
      (isPair : ∀ x ∈ xs, x.IsPair) : Copyable d

/-- The section can have overrides put into it: it is missing, fails a test of truth, or can be copied. -/
def TakesOverrides (es : Entries) (name : String) : Prop :=
  ∀ d, entry? name es = some d → d.isTrue = true → d.Copyable

theorem copyPairs_ok_iff {i : Nat} {xs : List Datum} {found : Entries} :
    (∃ es, copyPairs i xs found = .ok es) ↔ ∀ x ∈ xs, x.IsPair := by
  induction xs generalizing i found with
  | nil => simp [copyPairs]
  | cons x xs ih =>
      rw [List.forall_mem_cons, copyPairs]
      split
      · rename_i h
        simp [IsPair, h]
      · rename_i k v h
        have hpair : x.IsPair ↔ k.isKey = true := by simp [IsPair, h]
        cases hk : k.isKey with
        | true => simp [ih, hpair, hk]
        | false => simp [hpair, hk]
      · rename_i parts hparts h
        have hpair : ¬ x.IsPair := by
          rintro ⟨k, v, hx, -⟩
          rw [hx] at h
          exact hparts k v (Option.some.inj h).symm
        simp [hpair]

theorem copyAsMap_ok_iff {d : Datum} : (∃ es, d.copyAsMap = .ok es) ↔ d.Copyable := by
  unfold copyAsMap
  split
  · rename_i es
    exact ⟨fun _ => .map es, fun _ => ⟨es, rfl⟩⟩
  · rename_i hmap
    have hcopy : d.Copyable ↔ ∃ xs, d.elements? = some xs ∧ ∀ x ∈ xs, x.IsPair := by
      constructor
      · intro h
        cases h with
        | map es => exact absurd rfl (hmap es)
        | pairs elements isPair => exact ⟨_, elements, isPair⟩
      · rintro ⟨xs, elements, isPair⟩
        exact .pairs elements isPair
    rw [hcopy]
    cases h : d.elements? with
    | none => simp
    | some xs => simp [copyPairs_ok_iff]

theorem sectionOf_ok_iff {es : Entries} {name : String} :
    (∃ section', sectionOf es name = .ok section') ↔ TakesOverrides es name := by
  unfold sectionOf TakesOverrides
  cases entry? name es with
  | none => simp
  | some d => cases h : d.isTrue <;> simp [h, copyAsMap_ok_iff]

end Datum

/-! ## Putting overrides into a section -/

namespace Settings

open Datum

/-- The document with changes made to one section, which is copied first. -/
def editSection (name : String) (change : Entries → Entries) (es : Entries) :
    Except CopyFault Entries :=
  (sectionOf es name).map fun found => insertEntry (.text name) (.map (change found)) es

/-- Two documents hold the same besides one section. -/
structure SameBeside (name : String) (es es' : Entries) : Prop where
  named : Entries.areNamed es' = Entries.areNamed es
  entries : ∀ other ≠ name, entry? other es' = entry? other es

variable {name : String} {change : Entries → Entries} {es es' : Entries}
  {overrides : List (String × String)} {level : Option String}

theorem sameBeside_insertEntry (name : String) (value : Datum) (es : Entries) :
    SameBeside name es (insertEntry (.text name) value es) where
  named := areNamed_insertEntry name value es
  entries other h := by rw [entry?_insertEntry, if_neg h]

theorem takesOverrides_congr {other : String} (h : SameBeside name es es') (hother : other ≠ name) :
    TakesOverrides es' other ↔ TakesOverrides es other := by
  unfold TakesOverrides
  rw [h.entries other hother]

theorem editSection_ok_iff :
    (∃ es', editSection name change es = .ok es') ↔ TakesOverrides es name := by
  rw [← sectionOf_ok_iff]
  simp only [editSection, Steps.map_eq_ok]
  constructor
  · rintro ⟨_, found, hfound, -⟩
    exact ⟨found, hfound⟩
  · rintro ⟨found, hfound⟩
    exact ⟨_, found, hfound, rfl⟩

theorem sameBeside_of_editSection (h : editSection name change es = .ok es') :
    SameBeside name es es' := by
  obtain ⟨found, -, rfl⟩ := Steps.map_eq_ok.mp h
  exact sameBeside_insertEntry name _ es

theorem overrideProperties_eq (h : overrides ≠ []) : overrideProperties overrides es =
    editSection "properties"
      (overrides.foldl fun found (k, v) => insertEntry (.text k) (.text v) found) es := by
  have hempty : overrides.isEmpty = false := by simpa using h
  unfold overrideProperties editSection
  rw [hempty]
  cases sectionOf es "properties" <;> rfl

theorem overrideLevel_eq (h : level.getD "" ≠ "") : overrideLevel level es =
    editSection "logging" (insertEntry (.text "level") (.text (level.getD ""))) es := by
  unfold overrideLevel editSection
  split
  · exact absurd rfl h
  · exact absurd rfl h
  · cases sectionOf es "logging" <;> rfl

theorem overrideLevel_of_blank (h : level.getD "" = "") : overrideLevel level es = .ok es := by
  unfold overrideLevel
  split
  · rfl
  · rfl
  · rename_i s hs
    exact absurd h hs

theorem overrideProperties_ok_iff : (∃ es', overrideProperties overrides es = .ok es') ↔
    (overrides ≠ [] → TakesOverrides es "properties") := by
  by_cases h : overrides = []
  · simp [h, overrideProperties]
  · rw [overrideProperties_eq h, editSection_ok_iff]
    simp [h]

theorem overrideLevel_ok_iff : (∃ es', overrideLevel level es = .ok es') ↔
    (level.getD "" ≠ "" → TakesOverrides es "logging") := by
  by_cases h : level.getD "" = ""
  · simp [h, overrideLevel_of_blank h]
  · rw [overrideLevel_eq h, editSection_ok_iff]
    simp [h]

theorem sameBeside_of_overrideProperties (h : overrideProperties overrides es = .ok es') :
    SameBeside "properties" es es' := by
  by_cases hnone : overrides = []
  · subst hnone
    obtain rfl := Except.ok.inj h
    exact ⟨rfl, fun _ _ => rfl⟩
  · rw [overrideProperties_eq hnone] at h
    exact sameBeside_of_editSection h

theorem sameBeside_of_overrideLevel (h : overrideLevel level es = .ok es') :
    SameBeside "logging" es es' := by
  by_cases hnone : level.getD "" = ""
  · obtain rfl := Except.ok.inj ((overrideLevel_of_blank hnone).symm.trans h)
    exact ⟨rfl, fun _ _ => rfl⟩
  · rw [overrideLevel_eq hnone] at h
    exact sameBeside_of_editSection h

/-- The document with both overrides put in. -/
def overridden (overrides : List (String × String)) (level : Option String) (es : Entries) :
    Except CopyFault Entries :=
  overrideProperties overrides es >>= overrideLevel level

/-- Both overrides can be put in exactly when both sections take theirs: the first one leaves the section
of the second alone. -/
theorem overridden_ok_iff : (∃ es', overridden overrides level es = .ok es') ↔
    (overrides ≠ [] → TakesOverrides es "properties") ∧
      (level.getD "" ≠ "" → TakesOverrides es "logging") := by
  simp only [overridden, Steps.bind_eq_ok]
  rw [← overrideProperties_ok_iff]
  constructor
  · rintro ⟨es', es₁, hproperties, hlevel⟩
    have hbeside := sameBeside_of_overrideProperties hproperties
    rw [← takesOverrides_congr hbeside (by decide)]
    exact ⟨⟨es₁, hproperties⟩, overrideLevel_ok_iff.mp ⟨es', hlevel⟩⟩
  · rintro ⟨⟨es₁, hproperties⟩, hlogging⟩
    have hbeside := sameBeside_of_overrideProperties hproperties
    rw [← takesOverrides_congr hbeside (by decide)] at hlogging
    obtain ⟨es', hlevel⟩ := overrideLevel_ok_iff.mpr hlogging
    exact ⟨es', es₁, hproperties, hlevel⟩

theorem areNamed_overridden (h : overridden overrides level es = .ok es') :
    Entries.areNamed es' = Entries.areNamed es := by
  obtain ⟨es₁, hproperties, hlevel⟩ := Steps.bind_eq_ok.mp h
  calc Entries.areNamed es'
      = Entries.areNamed es₁ := (sameBeside_of_overrideLevel hlevel).named
    _ = Entries.areNamed es := (sameBeside_of_overrideProperties hproperties).named

/-- Without properties to put in, the properties section stays. -/
theorem properties_overridden_nil (h : overridden [] level es = .ok es') :
    entry? "properties" es' = entry? "properties" es := by
  obtain ⟨es₁, hproperties, hlevel⟩ := Steps.bind_eq_ok.mp h
  obtain rfl := Except.ok.inj hproperties
  exact (sameBeside_of_overrideLevel hlevel).entries _ (by decide)

/-! ## Reading a document -/

/-- Reading ends with settings, or with a fault that is reported. -/
def Answered (outcome : Except SettingsFault Settings) : Prop :=
  (∃ settings, outcome = .ok settings) ∨ ∃ fault, outcome = .error fault ∧ fault.IsReported

/-- Reading the document does not break off: its keys are texts, and the sections that overrides are put
into take them. -/
structure Reportable (es : Entries) (overrides : List (String × String)) (level : Option String) :
    Prop where
  named : Entries.areNamed es = true
  properties : overrides ≠ [] → TakesOverrides es "properties"
  logging : level.getD "" ≠ "" → TakesOverrides es "logging"

theorem answered_error_iff {fault : SettingsFault} : Answered (.error fault) ↔ fault.IsReported := by
  simp [Answered]

theorem answered_build_iff :
    Answered ((es.build "ConnectorSettings" ofEntries).mapError .record) ↔
      Entries.areNamed es = true := by
  unfold Entries.build
  cases hnamed : Entries.areNamed es with
  | false => simp [Except.mapError, answered_error_iff, SettingsFault.isReported_iff]
  | true =>
      cases ofEntries es with
      | ok settings => simp [Checked.titled, Except.mapError, Answered]
      | error violations =>
          simp [Checked.titled, Except.mapError, answered_error_iff, SettingsFault.isReported_iff]

theorem ofDocument_map (overrides : List (String × String)) (level : Option String) (es : Entries) :
    ofDocument (.map es) overrides level = (do
      let es' ← (overridden overrides level es).mapError .copy
      (es'.build "ConnectorSettings" ofEntries).mapError .record) := by
  rw [ofDocument, overridden]
  cases overrideProperties overrides es <;> rfl

theorem answered_map_iff :
    Answered (ofDocument (.map es) overrides level) ↔ Reportable es overrides level := by
  rw [ofDocument_map]
  cases h : overridden overrides level es with
  | ok es' =>
      have hsections := overridden_ok_iff.mp ⟨es', h⟩
      change Answered ((es'.build "ConnectorSettings" ofEntries).mapError .record) ↔ _
      rw [answered_build_iff, areNamed_overridden h]
      exact ⟨fun hnamed => ⟨hnamed, hsections.1, hsections.2⟩, fun hreportable => hreportable.named⟩
  | error fault =>
      change Answered (.error (.copy fault)) ↔ _
      rw [answered_error_iff, SettingsFault.isReported_iff]
      constructor
      · rintro (hfault | ⟨invalid, hfault⟩) <;> cases hfault
      · intro hreportable
        obtain ⟨es', hok⟩ := overridden_ok_iff.mpr ⟨hreportable.properties, hreportable.logging⟩
        rw [h] at hok
        cases hok

/-! ## A properties section that is no mapping -/

theorem readProperties_fails {d : Datum} (hnull : d ≠ .null) (hmap : ∀ found, d ≠ .map found) :
    ∃ violations, readProperties d = .error violations := by
  unfold readProperties
  split
  · exact absurd rfl hnull
  · exact absurd rfl (hmap _)
  · exact ⟨_, rfl⟩

theorem ap_error {α β : Type} (violations : List Violation) (x : Checked α) :
    ∃ violations', Checked.ap (.error violations : Checked (α → β)) x = .error violations' := by
  cases x <;> exact ⟨_, rfl⟩

theorem build_fails {d : Datum} (hd : entry? "properties" es = some d) (hnull : d ≠ .null)
    (hmap : ∀ found, d ≠ .map found) :
    ∃ fault, es.build "ConnectorSettings" ofEntries = .error fault := by
  obtain ⟨violations, hread⟩ := readProperties_fails hnull hmap
  obtain ⟨violations', hentries⟩ : ∃ violations', ofEntries es = .error violations' := by
    unfold ofEntries Entries.optional
    rw [hd]
    simp only [hread, Checked.within, Except.mapError, Except.map]
    exact ap_error _ _
  unfold Entries.build
  rw [hentries]
  split <;> exact ⟨_, rfl⟩

/-- Without overrides there are no settings. -/
theorem ofDocument_fails {d : Datum} (hd : entry? "properties" es = some d) (hnull : d ≠ .null)
    (hmap : ∀ found, d ≠ .map found) (level : Option String) :
    ∃ fault, ofDocument (.map es) [] level = .error fault := by
  rw [ofDocument_map]
  cases h : overridden [] level es with
  | error fault => exact ⟨_, rfl⟩
  | ok es' =>
      obtain ⟨fault, hbuild⟩ := build_fails ((properties_overridden_nil h).trans hd) hnull hmap
      exact ⟨_, congrArg (Except.mapError SettingsFault.record) hbuild⟩

theorem sectionOf_map {found : Entries} (h : entry? name es = some (.map found)) :
    sectionOf es name = .ok found := by
  unfold sectionOf
  rw [h]
  cases found <;> rfl

/-- With overrides the section counts as the mapping that it is copied as. -/
theorem ofDocument_of_copied {found : Entries} (hoverrides : overrides ≠ [])
    (hfound : sectionOf es "properties" = .ok found) :
    ofDocument (.map es) overrides level =
      ofDocument (.map (insertEntry (.text "properties") (.map found) es)) overrides level := by
  have hcopied : sectionOf (insertEntry (.text "properties") (.map found) es) "properties" =
      .ok found :=
    sectionOf_map (by rw [entry?_insertEntry, if_pos rfl])
  have hedited : overrideProperties overrides es =
      overrideProperties overrides (insertEntry (.text "properties") (.map found) es) := by
    rw [overrideProperties_eq hoverrides, overrideProperties_eq hoverrides, editSection, editSection,
      hfound, hcopied]
    simp only [Except.map, insertEntry_insertEntry]
  rw [ofDocument_map, ofDocument_map, overridden, overridden, hedited]

/-- **Which documents are reported.** Reading a mapping ends with settings or with a fault that is
reported exactly when its keys are texts and the sections that overrides are put into can be copied; any
other value is always reported. A properties section that is neither null nor a mapping is then refused,
unless overrides are put into it: in that case the document is refused exactly when it would be with a
mapping there, namely the one that the section is copied as. -/
theorem answered_iff_reportable (overrides : List (String × String)) (level : Option String) :
    (∀ document, Answered (ofDocument document overrides level) ↔
      ∀ es, document = .map es → Reportable es overrides level) ∧
    ∀ es d, entry? "properties" es = some d → d ≠ .null → (∀ found, d ≠ .map found) →
      ((∃ fault, ofDocument (.map es) overrides level = .error fault ∧ fault.IsReported) ↔
        Reportable es overrides level ∧
          ∀ found, overrides ≠ [] → sectionOf es "properties" = .ok found →
            ∃ fault, ofDocument (.map (insertEntry (.text "properties") (.map found) es)) overrides
              level = .error fault) := by
  refine ⟨fun document => ?_, fun es d hd hnull hmap => Iff.intro ?_ ?_⟩
  · cases document with
    | map es =>
        rw [answered_map_iff]
        constructor
        · rintro h es' heq
          obtain rfl := Datum.map.inj heq
          exact h
        · intro h
          exact h es rfl
    | _ =>
        constructor
        · rintro - es heq
          cases heq
        · intro _
          exact Or.inr ⟨.notMapping, rfl, SettingsFault.isReported_iff.mpr (Or.inl rfl)⟩
  · rintro ⟨fault, hfault, hreported⟩
    refine ⟨answered_map_iff.mp (Or.inr ⟨fault, hfault, hreported⟩), fun found hoverrides hfound => ?_⟩
    exact ⟨fault, (ofDocument_of_copied hoverrides hfound).symm.trans hfault⟩
  · rintro ⟨hreportable, hcopied⟩
    rcases answered_map_iff.mpr hreportable with ⟨settings, hsettings⟩ | hfault
    -- there are no settings: neither beside the section as it is, nor beside its copy
    · exfalso
      by_cases hoverrides : overrides = []
      · subst hoverrides
        obtain ⟨fault, hfault⟩ := ofDocument_fails hd hnull hmap level
        rw [hfault] at hsettings
        cases hsettings
      · obtain ⟨found, hfound⟩ := sectionOf_ok_iff.mpr (hreportable.properties hoverrides)
        obtain ⟨fault, hfault⟩ := hcopied found hoverrides hfound
        rw [ofDocument_of_copied hoverrides hfound, hfault] at hsettings
        cases hsettings
    · exact hfault

/-- A section of text is reported when it stands alone. With an override it is copied as a mapping, and
that breaks off. -/
theorem text_section_is_reported_alone :
    let es : Entries := [(.text "properties", .text "table.whitelist=x")]
    (∃ fault, ofDocument (.map es) [] (some "debug") = .error fault ∧ fault.IsReported) ∧
      ¬ Answered (ofDocument (.map es) [("decimal.handling.mode", "double")] none) := by
  intro es
  have hsection : entry? "properties" es = some (.text "table.whitelist=x") := by rfl
  have hlogging : TakesOverrides es "logging" := by
    intro d hd
    cases hd
  obtain ⟨-, hreported⟩ := answered_iff_reportable [] (some "debug")
  obtain ⟨hanswered, -⟩ := answered_iff_reportable [("decimal.handling.mode", "double")] none
  constructor
  · refine (hreported es _ hsection (by simp) (by simp)).mpr ⟨⟨rfl, ?_, fun _ => hlogging⟩, ?_⟩
    · intro h
      exact absurd rfl h
    · intro _ h
      exact absurd rfl h
  · intro h
    have htakes := ((hanswered _).mp h es rfl).properties (by simp)
    obtain ⟨found, hfound⟩ := sectionOf_ok_iff.mpr htakes
    cases hfound

/-- An override hides what the section is: a text breaks off, and a truth value is passed over. -/
theorem override_hides_the_section :
    (¬ ∀ document overrides level, Answered (ofDocument document overrides level)) ∧
      ¬ ∀ es d overrides level, entry? "properties" es = some d → d ≠ .null →
        (∀ found, d ≠ .map found) →
          ∃ fault, ofDocument (.map es) overrides level = .error fault ∧ fault.IsReported := by
  constructor
  · intro h
    have houtcome : ofDocument (.map [(.text "properties", .text "table.whitelist=x")])
        [("decimal.handling.mode", "double")] none = .error (.copy (.wrongLength 0 1)) := by rfl
    have hanswered := h (.map [(.text "properties", .text "table.whitelist=x")])
      [("decimal.handling.mode", "double")] none
    rw [houtcome, answered_error_iff, SettingsFault.isReported_iff] at hanswered
    rcases hanswered with hfault | ⟨invalid, hfault⟩ <;> cases hfault
  · intro h
    have houtcome : ofDocument (.map [(.text "properties", .bool false)])
        [("decimal.handling.mode", "double")] none =
          .ok ⟨[("decimal.handling.mode", "double")], {}⟩ := by rfl
    obtain ⟨fault, hfault, -⟩ := h [(.text "properties", .bool false)] (.bool false)
      [("decimal.handling.mode", "double")] none rfl (by simp) (by simp)
    rw [houtcome] at hfault
    cases hfault

end Settings

end CaptureConfig
