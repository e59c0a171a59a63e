import CaptureConfig.Proofs.Settings.Layer

/-!
# Which overrides come through

An override replaces the entry at its textual key, where that stands, before the keys of the section are
turned into texts. So an entry behind it whose key is written alike, such as a number, has the last word. An
override comes through exactly when no such entry says anything else.
-/

namespace CaptureConfig.Settings

open Datum

variable {es es' found : Entries} {overrides : List (String × String)} {level : Option String}
  {settings : Settings}

theorem exists_section_of_overridden (hoverrides : overrides ≠ [])
    (h : overridden overrides level es = .ok es') : ∃ found, sectionOf es "properties" = .ok found :=
  sectionOf_ok_iff.mpr ((overridden_ok_iff.mp ⟨es', h⟩).1 hoverrides)

/-- The properties of an overridden document are read from its section with the overrides put over it. -/
theorem flatten_of_overridden (hoverrides : overrides ≠ [])
    (hfound : sectionOf es "properties" = .ok found) (h : overridden overrides level es = .ok es')
    (hread : es'.optional "properties" [] readProperties = .ok settings.properties) :
    flatten (layered overrides found) [] = .ok settings.properties := by
  rwa [Entries.optional_of_some (entry?_properties_overridden hoverrides hfound h)] at hread

/-- **Which overrides come through.** Where a document has settings, its properties section can be taken as a
mapping. An option that is overridden, if repeatedly then by the last override, has the text that the entries
behind its textual key give it, and that of the override if they give it none. So the override comes through
exactly when these entries give no other text, and always if no key behind a textual one is written alike. -/
theorem override_comes_through_unless_written_again {document : Datum} (name text : String)
    (h : ofDocument document overrides level = .ok settings)
    (hoverride : overrides.reverse.lookup name = some text) :
    (settings.properties.map Prod.fst).Nodup ∧
    ∃ es found, document = .map es ∧ sectionOf es "properties" = .ok found ∧
      settings.properties.lookup name = some ((textOf? (behindKey name found) name).getD text) ∧
      (settings.properties.lookup name = some text ↔
        ∀ other, textOf? (behindKey name found) name = some other → other = text) ∧
      (TextKeysLast found → settings.properties.lookup name = some text) := by
  obtain ⟨es, es', rfl, hoverridden, -, hread, -⟩ := ofDocument_eq_ok.mp h
  have hoverrides : overrides ≠ [] := by
    rintro rfl
    cases hoverride
  obtain ⟨found, hfound⟩ := exists_section_of_overridden hoverrides hoverridden
  have hflatten := flatten_of_overridden hoverrides hfound hoverridden hread
  have hlookup : settings.properties.lookup name =
      some ((textOf? (behindKey name found) name).getD text) := by
    rw [lookup_of_flatten hflatten, textOf?_layered, hoverride]
    rfl
  refine ⟨nodup_of_flatten hflatten, es, found, rfl, hfound, hlookup, ?_, fun hlast => ?_⟩
  · rw [hlookup]
    cases textOf? (behindKey name found) name <;> simp
  · rw [hlookup, hlast.textOf?_behindKey]
    rfl

/-- A number behind the text of its digits has the last word over an override of that text, while one before
it has not. -/
theorem number_has_last_word_over_override :
    let section' : Entries := [(.int 2, .text "w"), (.text "1", .text "x"), (.int 1, .bool true),
      (.text "2", .text "z")]
    ∃ settings, ofDocument (.map [(.text "properties", .map section')]) [("1", "b"), ("2", "c")] none =
        .ok settings ∧
      settings.properties.lookup "1" = some "true" ∧ settings.properties.lookup "2" = some "c" := by
  intro section'
  let overrides := [("1", "b"), ("2", "c")]
  have hload : ofDocument (.map [(.text "properties", .map section')]) overrides none =
      .ok ⟨[("2", "c"), ("1", "true")], {}⟩ := by
    decide +kernel
  have hfound : sectionOf [(.text "properties", .map section')] "properties" = .ok section' := rfl
  obtain ⟨-, es, found, hes, hsection, hfirst, -⟩ :=
    override_comes_through_unless_written_again "1" "b" hload rfl
  obtain ⟨-, es', found', hes', hsection', -, hsecond, -⟩ :=
    override_comes_through_unless_written_again "2" "c" hload rfl
  obtain rfl := Datum.map.inj hes
  obtain rfl := Datum.map.inj hes'
  obtain rfl := Except.ok.inj (hfound.symm.trans hsection)
  obtain rfl := Except.ok.inj (hfound.symm.trans hsection')
  have hbehind : textOf? (behindKey "1" section') "1" = some "true" := by decide +kernel
  have hnone : textOf? (behindKey "2" section') "2" = none := by decide +kernel
  rw [hbehind] at hfirst
  refine ⟨_, hload, hfirst, hsecond.mpr fun other hother => ?_⟩
  rw [hnone] at hother
  cases hother

/-- A number that is written like an overridden option takes the override away. -/
theorem override_is_written_over :
    ¬ ∀ document overrides level settings, ofDocument document overrides level = .ok settings →
      ∀ name text, overrides.reverse.lookup name = some text →
        settings.properties.lookup name = some text := by
  intro h
  have hload : ofDocument
      (.map [(.text "properties", .map [(.text "1", .text "x"), (.int 1, .text "y")])]) [("1", "b")] none =
        .ok ⟨[("1", "y")], {}⟩ := by
    decide +kernel
  have hwins := h _ _ _ _ hload "1" "b" rfl
  revert hwins
  decide +kernel

end CaptureConfig.Settings
