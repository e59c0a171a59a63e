import CaptureConfig.Proofs.Steps
import CaptureConfig.Proofs.Text.Blank
import CaptureConfig.Proofs.Text.Split
import CaptureConfig.Table.Id

/-!
# Reading and writing qualified names

A text is a qualified name when the dots cut it into one to three parts, each with something besides white
space. Writing the table down again keeps the parts and drops the white space around them, so reading that
gives the same table. The tables that can be read are the plain ones, and among them the written name
decides; a table with a schema but no catalog is written like one with a catalog but no schema.
-/

namespace CaptureConfig.TableId

/-- The parts of a text between the dots, without the white space around them. -/
def namedParts (text : String) : List String := (Text.split '.' text).map Text.trim

/-- The parts that a table has, in the order in which they are written. -/
def parts (t : TableId) : List String := t.catalog.toList ++ t.schema.toList ++ [t.table]

/-- The table with the given parts: a table, a catalog and a table, or a catalog, a schema and a table. -/
def ofParts? : List String → Option TableId
  | [table] => some { table }
  | [catalog, table] => some { catalog := some catalog, table }
  | [catalog, schema, table] => some { catalog := some catalog, schema := some schema, table }
  | _ => none

/-- A table that a qualified name can denote. -/
structure Plain (t : TableId) : Prop where
  /-- There is no schema without a catalog. -/
  catalog_of_schema : t.schema.isSome → t.catalog.isSome
  /-- No part is empty, has white space around it, or holds a dot. -/
  parts : ∀ part ∈ t.parts, part ≠ "" ∧ Text.trim part = part ∧ '.' ∉ part.toList

variable {text : String} {t : TableId}

/-! ## Parts -/

theorem identifier_eq (t : TableId) : t.identifier = String.intercalate "." t.parts := rfl

theorem parts_ne_nil (t : TableId) : t.parts ≠ [] := by
  simp [parts]

theorem ofParts?_eq_some {ps : List String} :
    ofParts? ps = some t ↔ t.parts = ps ∧ (t.schema.isSome → t.catalog.isSome) := by
  constructor
  · intro h
    unfold ofParts? at h
    split at h
    · obtain rfl := Option.some.inj h
      simp [parts]
    · obtain rfl := Option.some.inj h
      simp [parts]
    · obtain rfl := Option.some.inj h
      simp [parts]
    · cases h
  · rintro ⟨rfl, hschema⟩
    obtain ⟨catalog, schema, table⟩ := t
    cases catalog with
    | none =>
        cases schema with
        | none => rfl
        | some schema => simp at hschema
    | some catalog => cases schema <;> rfl

theorem ofParts?_isSome {ps : List String} : (∃ t, ofParts? ps = some t) ↔ ps.length ∈ [1, 2, 3] := by
  rcases ps with _ | ⟨_, _ | ⟨_, _ | ⟨_, _ | ⟨_, _⟩⟩⟩⟩ <;> simp [ofParts?]

/-! ## Reading -/

theorem namedParts_of_blank (h : Text.blank text = true) : namedParts text = [""] := by
  have hall : ∀ c ∈ text.toList, Text.isBlank c = true := List.all_eq_true.mp h
  have hdot : '.' ∉ text.toList := by
    intro hmem
    exact absurd (hall _ hmem) (by decide)
  rw [namedParts, Text.split_eq_singleton hdot, List.map_singleton, Text.trim_eq_empty.mpr h]

theorem parse?_eq (text : String) : parse? text =
    if Text.blank text then .error .blank
    else if "" ∈ namedParts text then .error (.blankPart text)
    else match ofParts? (namedParts text) with
      | some t => .ok t
      | none => .error (.tooManyParts (namedParts text).length text) := by
  have hparts : (Text.split '.' text).map Text.trim = namedParts text := rfl
  unfold parse?
  simp only [hparts, List.any_beq']
  generalize namedParts text = ps
  split
  · rfl
  · simp only [List.contains_iff_mem]
    split
    · rfl
    · rcases ps with _ | ⟨_, _ | ⟨_, _ | ⟨_, _ | ⟨_, _⟩⟩⟩⟩ <;> rfl

/-- A text is read by its parts alone; that it is not blank as a whole need not be asked. -/
theorem parse?_eq_ok : parse? text = .ok t ↔
    "" ∉ namedParts text ∧ ofParts? (namedParts text) = some t := by
  rw [parse?_eq]
  by_cases hblank : Text.blank text = true
  · simp [hblank, namedParts_of_blank hblank]
  · by_cases hempty : "" ∈ namedParts text
    · simp [hblank, hempty]
    · cases ofParts? (namedParts text) <;> simp [hblank, hempty]

theorem exists_parse?_eq_ok : (∃ t, parse? text = .ok t) ↔
    (Text.split '.' text).length ∈ [1, 2, 3] ∧ ∀ part ∈ Text.split '.' text, Text.trim part ≠ "" := by
  have hlen : (namedParts text).length = (Text.split '.' text).length := List.length_map _
  have hempty : "" ∉ namedParts text ↔ ∀ part ∈ Text.split '.' text, Text.trim part ≠ "" := by
    simp [namedParts]
  simp only [parse?_eq_ok, exists_and_left, ofParts?_isSome, hlen, hempty]
  exact And.comm

/-! ## Writing -/

theorem plain_of_parse? (h : parse? text = .ok t) : t.Plain := by
  obtain ⟨hempty, hread⟩ := parse?_eq_ok.mp h
  obtain ⟨hparts, hschema⟩ := ofParts?_eq_some.mp hread
  refine ⟨hschema, fun part hpart => ?_⟩
  rw [hparts] at hpart
  obtain ⟨piece, hpiece, rfl⟩ := List.mem_map.mp hpart
  refine ⟨fun h => hempty (h ▸ hpart), Text.trim_trim piece, fun hdot => ?_⟩
  exact Text.not_mem_of_mem_split hpiece (Text.mem_of_mem_trim hdot)

theorem namedParts_identifier (h : t.Plain) : namedParts t.identifier = t.parts := by
  have hdot : ∀ part ∈ t.parts, '.' ∉ part.toList := fun part hpart => (h.parts part hpart).2.2
  have hcut : Text.split '.' t.identifier = t.parts := Text.split_intercalate t.parts_ne_nil hdot
  have htrim : t.parts.map Text.trim = t.parts.map id :=
    List.map_congr_left fun part hpart => (h.parts part hpart).2.1
  rw [namedParts, hcut, htrim, List.map_id]

theorem parse?_identifier (h : t.Plain) : parse? t.identifier = .ok t := by
  rw [parse?_eq_ok, namedParts_identifier h, ofParts?_eq_some]
  exact ⟨fun hmem => (h.parts "" hmem).1 rfl, rfl, h.catalog_of_schema⟩

theorem plain_iff_exists_parse? : t.Plain ↔ ∃ text, parse? text = .ok t := by
  constructor
  · intro h
    exact ⟨t.identifier, parse?_identifier h⟩
  · rintro ⟨text, h⟩
    exact plain_of_parse? h

theorem identifier_of_parse? (h : parse? text = .ok t) :
    t.identifier = String.intercalate "." (namedParts text) := by
  obtain ⟨hparts, -⟩ := ofParts?_eq_some.mp (parse?_eq_ok.mp h).2
  rw [identifier_eq, hparts]

theorem Plain.identifier_inj {t' : TableId} (h : t.Plain) (h' : t'.Plain)
    (heq : t.identifier = t'.identifier) : t = t' := by
  have hread := parse?_identifier h
  rw [heq, parse?_identifier h'] at hread
  exact (Except.ok.inj hread).symm

/-- **Qualified names are read back as they are written.** A text can be read exactly when it has one to
three parts and none of them is blank; the table then has just those parts, and its written form is read as
the same table. Texts that differ only in white space around their parts are read alike, and two tables
that can be read are written alike only when they are the same. What can be read is exactly what is plain,
and every plain table is read back from its written form. -/
theorem qualified_names_round_trip :
    (∀ text, (∃ t, parse? text = .ok t) ↔
      (Text.split '.' text).length ∈ [1, 2, 3] ∧
        ∀ part ∈ Text.split '.' text, Text.trim part ≠ "") ∧
    (∀ text t, parse? text = .ok t →
      ofParts? ((Text.split '.' text).map Text.trim) = some t ∧
      t.identifier = String.intercalate "." ((Text.split '.' text).map Text.trim) ∧
      parse? t.identifier = parse? text) ∧
    (∀ text text', (Text.split '.' text).map Text.trim = (Text.split '.' text').map Text.trim →
      ∀ t, parse? text = .ok t ↔ parse? text' = .ok t) ∧
    (∀ text text' t t', parse? text = .ok t → parse? text' = .ok t' →
      t.identifier = t'.identifier → t = t') ∧
    ∀ t : TableId, (t.Plain ↔ ∃ text, parse? text = .ok t) ∧
      (t.Plain → parse? t.identifier = .ok t) := by
  refine ⟨fun text => exists_parse?_eq_ok, fun text t h => ?_, fun text text' hparts t => ?_, ?_,
    fun t => ⟨plain_iff_exists_parse?, parse?_identifier⟩⟩
  · refine ⟨(parse?_eq_ok.mp h).2, identifier_of_parse? h, ?_⟩
    rw [parse?_identifier (plain_of_parse? h), h]
  · have hnamed : namedParts text = namedParts text' := hparts
    rw [parse?_eq_ok, parse?_eq_ok, hnamed]
  · intro text text' t t' h h' heq
    exact (plain_of_parse? h).identifier_inj (plain_of_parse? h') heq

/-- The white space around the parts, of whatever kind, is not part of the name. -/
theorem identifier_of_padded_name :
    ∃ t, parse? "\u00a0db .\tpublic\u2003. t 1" = .ok t ∧ t.identifier = "db.public.t 1" ∧
      parse? "db.public.t 1" = .ok t := by
  obtain ⟨hok, hread, -⟩ := qualified_names_round_trip
  obtain ⟨t, ht⟩ := (hok "\u00a0db .\tpublic\u2003. t 1").mpr (by decide +kernel)
  obtain ⟨-, hname, hback⟩ := hread _ t ht
  have hjoin : String.intercalate "."
      ((Text.split '.' "\u00a0db .\tpublic\u2003. t 1").map Text.trim) = "db.public.t 1" := by
    decide +kernel
  rw [hjoin] at hname
  rw [hname] at hback
  exact ⟨t, ht, hname, hback.trans ht⟩

end CaptureConfig.TableId
