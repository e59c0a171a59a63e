import CaptureConfig.Proofs.Connector.Reload

/-!
# The snapshot statements in a description

A description shows each snapshot statement under the written name of its table. Two tables can be written
alike, and one of them would then be lost. Tables that were read from a list are not of that kind, so the
description holds an entry for each of them, and the entry tells which table it belongs to.
-/

namespace CaptureConfig

/-- The member of an object with the given name. -/
def Json.member? (name : String) : Json → Option Json
  | .object members => members.lookup name
  | _ => none

namespace Override

variable {found : Statements}

/-- Tables that can be read from a name stay apart when their names are written. -/
theorem nodup_identifiers (hnodup : (found.map Prod.fst).Nodup)
    (hplain : ∀ t ∈ found.map Prod.fst, t.Plain) :
    ((found.map fun e => (e.1.identifier, e.2)).map Prod.fst).Nodup := by
  have hnames : (found.map fun e => (e.1.identifier, e.2)).map Prod.fst =
      (found.map Prod.fst).map TableId.identifier := by
    rw [List.map_map, List.map_map]
    rfl
  rw [hnames]
  apply List.Nodup.map_on ?_ hnodup
  intro t ht t' ht' heq
  exact (hplain t ht).identifier_inj (hplain t' ht') heq

end Override

namespace Connector

variable {c : Connector} {found : Override.Statements}

theorem tables_of_overrides (h : c.overrides.outcome = .ok found) :
    (found.map Prod.fst).Nodup ∧ ∀ t ∈ found.map Prod.fst, t.Plain := by
  rw [overrides_outcome] at h
  obtain ⟨f, -, hresolve⟩ := Steps.bind_eq_ok.mp h
  exact ⟨Override.nodup_of_resolve hresolve, fun t ht => Override.plain_of_resolve hresolve ht⟩

/-- Writing the names of the tables leaves the statements as they are. -/
theorem overrides_of_resolve {r : Resolved} (h : c.overrides.outcome = .ok found)
    (hr : c.resolve.outcome = .ok r) : r.overrides = found.map fun e => (e.1.identifier, e.2) := by
  obtain ⟨found', mode, size, hfound', -, -, rfl⟩ := resolve_eq_ok.mp hr
  obtain rfl := Except.ok.inj (hfound'.symm.trans h)
  obtain ⟨hnodup, hplain⟩ := tables_of_overrides h
  exact Assoc.ofPairs_of_nodup (Override.nodup_identifiers hnodup hplain)

theorem member?_toJson (r : Resolved) : r.toJson.member? "snapshot_select_overrides" =
    some (.object (r.overrides.map fun (k, s) => (k, .ofText? s))) := by
  rfl

/-- **A description loses no statement.** When the snapshot statements of a connector are found, it can be
described exactly if its decimal mode and its fetch size can be told. Each table then has one entry in the
description, in the order in which the tables were found: it has the written name of the table, from which
the table can be read again, and the statement of the table. No two entries have the same name. -/
theorem description_loses_no_statement (h : c.overrides.outcome = .ok found) :
    ((∃ shown, c.description.outcome = .ok shown) ↔
      (∃ mode, c.decimalMode? = .ok mode) ∧ ∃ size, c.fetchSize? = .ok size) ∧
    ∀ shown, c.description.outcome = .ok shown →
      ∃ members, shown.member? "snapshot_select_overrides" = some (.object members) ∧
        List.Forall₂ (fun m e => m.1 = e.1.identifier ∧ TableId.parse? m.1 = .ok e.1 ∧
          m.2 = .ofText? e.2) members found ∧
        (members.map Prod.fst).Nodup := by
  obtain ⟨hnodup, hplain⟩ := tables_of_overrides h
  constructor
  · constructor
    · rintro ⟨shown, hshown⟩
      obtain ⟨r, hr, -⟩ := Steps.map_eq_ok.mp hshown
      obtain ⟨-, mode, size, -, hmode, hsize, -⟩ := resolve_eq_ok.mp hr
      exact ⟨⟨mode, hmode⟩, size, hsize⟩
    · rintro ⟨⟨mode, hmode⟩, size, hsize⟩
      have hr := resolve_eq_ok.mpr ⟨found, mode, size, h, hmode, hsize, rfl⟩
      exact ⟨_, Steps.map_eq_ok.mpr ⟨_, hr, rfl⟩⟩
  · intro shown hshown
    obtain ⟨r, hr, rfl⟩ := Steps.map_eq_ok.mp hshown
    have hmembers := member?_toJson r
    rw [overrides_of_resolve h hr, List.map_map] at hmembers
    refine ⟨_, hmembers, ?_, ?_⟩
    · rw [List.forall₂_map_left_iff, List.forall₂_same]
      intro e he
      have hread := TableId.parse?_identifier (hplain e.1 (List.mem_map_of_mem he))
      exact ⟨rfl, hread, rfl⟩
    · have hnames := Override.nodup_identifiers hnodup hplain
      rw [List.map_map] at hnames ⊢
      exact hnames

/-- The second table is listed under two spellings, and the description names it by neither of them. -/
theorem description_of_respelled_table :
    let c : Connector :=
      { name := "inv", fetchSize := 2000, schema := .relational, filters := none,
        options := .ofPairs [("snapshot.select.statement.overrides", "db.s.t, x\t,x "),
          ("snapshot.select.statement.overrides.db.s.t", "SELECT 1"),
          ("snapshot.select.statement.overrides.x ", "")] }
    ∃ shown, c.description.outcome = .ok shown ∧
      ∃ members, shown.member? "snapshot_select_overrides" = some (.object members) ∧
        members.map Prod.fst = ["db.s.t", "x"] := by
  intro c
  have hfound : c.overrides.outcome =
      .ok [(⟨some "db", some "s", "t"⟩, some "SELECT 1"), (⟨none, none, "x"⟩, some "")] := by
    decide +kernel
  obtain ⟨hdescribed, hentries⟩ := description_loses_no_statement hfound
  obtain ⟨shown, hshown⟩ := hdescribed.mpr
    ⟨⟨.precise, by decide +kernel⟩, some 2000, by decide +kernel⟩
  obtain ⟨members, hmember, hsame, -⟩ := hentries shown hshown
  refine ⟨shown, hshown, members, hmember, ?_⟩
  cases hsame with
  | cons hfirst hrest =>
      cases hrest with
      | cons hsecond hnil =>
          cases hnil
          rw [List.map_cons, List.map_cons, hfirst.1, hsecond.1]
          decide +kernel

end Connector

end CaptureConfig
