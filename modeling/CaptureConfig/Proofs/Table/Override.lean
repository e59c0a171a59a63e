import CaptureConfig.Table.Override
import CaptureConfig.Proofs.Option.Store
import CaptureConfig.Proofs.Steps
import CaptureConfig.Proofs.Table.Id
import CaptureConfig.Proofs.Text.Written

/-!
# What a list of snapshot statements resolves to

The entries of the list are read from left to right into an ordered map. The first entry that is not a
table name ends the reading, and only the entries before it have been warned about. Otherwise each table
stands at the place of its first entry with the statement of its last one, because every entry is looked
up as it is written, while entries that differ in white space name the same table.
-/

namespace CaptureConfig.Override

/-- The entries of a list, without the empty ones at its end; a list that is not there has none. -/
def listed (value : Option String) : List String :=
  (Text.split ',' (value.getD "")).rdropWhile (· == "")

/-- The table that an entry names, if it is a table name. -/
def tableOf? (token : String) : Option TableId := (TableId.parse? token).toOption

/-- The warnings about those of the entries that have no statement, in order: each names the entry, the option that
would hold its statement, and the connector. -/
def missing (o : Options) (base : String) (connector : Option String) (tokens : List String) :
    List Notice :=
  (tokens.filter fun token => (o.get? (base ++ "." ++ token)).isNone).map fun token =>
    { level := .warning
      message := "Table " ++ token ++ " is listed for a snapshot select override but '" ++
        (base ++ "." ++ token) ++ "' is not set"
      details := [("connector", connector.elim .null .text), ("table_name", .text token)]
      origin := "log_missing_override" }

/-- The record about the number of tables. -/
def resolved (connector : Option String) (count : Nat) : Notice where
  level := .debug
  message := "Resolved snapshot select overrides for " ++ toString count ++ " table(s)"
  details := [("connector", connector.elim .null .text)]
  origin := "debug"

/-- The tables that entries name, each with the statement of that entry. -/
def pairs (o : Options) (base : String) (tokens : List String) : Statements :=
  tokens.filterMap fun token =>
    (tableOf? token).map fun table => (table, o.get? (statementKey base token))

variable {o : Options} {base : String} {connector : Option String}

/-! ## Reading the entries -/

theorem ofText?_eq_elim (s : Option String) : Datum.ofText? s = s.elim .null .text := by
  cases s <;> rfl

theorem warnings_eq_missing (token : String) :
    warnings o base connector token = missing o base connector [token] := by
  cases h : o.get? (base ++ "." ++ token) <;>
    simp [warnings, missing, Options.contains, statementKey, Notice.missingOverride, ofText?_eq_elim, h]

theorem resolved_eq (connector : Option String) (count : Nat) :
    { Notice.plain .debug ("Resolved snapshot select overrides for " ++ Text.showNat count ++ " table(s)") with
      details := [("connector", .ofText? connector)] } = resolved connector count := by
  have horigin : Text.lowered Level.debug.name = "debug" := by decide
  rw [Text.showNat_eq_toString, ofText?_eq_elim]
  simp only [Notice.plain, horigin, resolved]

theorem missing_append (xs ys : List String) :
    missing o base connector (xs ++ ys) =
      missing o base connector xs ++ missing o base connector ys := by
  simp [missing]

theorem missing_cons (token : String) (rest : List String) :
    missing o base connector (token :: rest) =
      warnings o base connector token ++ missing o base connector rest := by
  rw [warnings_eq_missing, ← missing_append, List.singleton_append]

theorem readTokens_cons_ok {token : String} {table : TableId} (h : TableId.parse? token = .ok table)
    (rest : List String) (found : Statements) :
    readTokens o base connector (token :: rest) found =
      ⟨warnings o base connector token ++ (readTokens o base connector rest
          (Assoc.insert table (o.get? (statementKey base token)) found)).notices,
        (readTokens o base connector rest
          (Assoc.insert table (o.get? (statementKey base token)) found)).outcome⟩ := by
  simp [readTokens, h]

theorem pairs_cons_ok {token : String} {table : TableId} (h : TableId.parse? token = .ok table)
    (rest : List String) :
    pairs o base (token :: rest) =
      (table, o.get? (statementKey base token)) :: pairs o base rest := by
  simp [pairs, tableOf?, h, Except.toOption]

theorem readTokens_of_parses {tokens : List String}
    (h : ∀ token ∈ tokens, ∃ table, TableId.parse? token = .ok table) (found : Statements) :
    readTokens o base connector tokens found =
      ⟨missing o base connector tokens, .ok (Assoc.insertAll found (pairs o base tokens))⟩ := by
  -- each entry adds to the tables found before it, so these are left general
  induction tokens generalizing found with
  | nil => rfl
  | cons token rest ih =>
      obtain ⟨table, htable⟩ := h token List.mem_cons_self
      have hrest := ih fun t ht => h t (List.mem_cons_of_mem _ ht)
      rw [readTokens_cons_ok htable, hrest, missing_cons, pairs_cons_ok htable]
      rfl

theorem readTokens_of_fault {before : List String} {token : String} {fault : TableIdFault}
    (h : ∀ t ∈ before, ∃ table, TableId.parse? t = .ok table)
    (hfault : TableId.parse? token = .error fault) (after : List String) (found : Statements) :
    readTokens o base connector (before ++ token :: after) found =
      ⟨missing o base connector before, .error (.table fault)⟩ := by
  induction before generalizing found with
  | nil => simp [readTokens, hfault, missing, Reported.silent]
  | cons t rest ih =>
      obtain ⟨table, htable⟩ := h t List.mem_cons_self
      have hrest := ih fun u hu => h u (List.mem_cons_of_mem _ hu)
      rw [List.cons_append, readTokens_cons_ok htable, hrest, missing_cons]

/-! ## Resolving the list -/

theorem listed_empty : listed (some "") = [] := by decide

/-- A list that is absent or empty resolves like a list without entries, but without the record. -/
theorem resolve_eq (o : Options) (base : String) (connector : Option String) :
    resolve o base connector =
      (match (readTokens o base connector (listed (o.get? base)) []).outcome with
      | .error fault =>
          ⟨(readTokens o base connector (listed (o.get? base)) []).notices, .error fault⟩
      | .ok found =>
          ⟨(readTokens o base connector (listed (o.get? base)) []).notices ++
            (if (o.get? base).getD "" = "" then [] else [resolved connector found.length]),
            .ok found⟩) := by
  unfold resolve
  split
  · rename_i h
    rw [h]
    rfl
  · rename_i h
    rw [h, listed_empty]
    rfl
  · rename_i value hne h
    rw [h]
    simp only [Option.getD_some, if_neg (show value ≠ "" from hne), ← resolved_eq]
    rfl

theorem resolve_of_parses
    (h : ∀ token ∈ listed (o.get? base), ∃ table, TableId.parse? token = .ok table) :
    resolve o base connector =
      ⟨missing o base connector (listed (o.get? base)) ++
        (if (o.get? base).getD "" = "" then []
          else [resolved connector (Assoc.ofPairs (pairs o base (listed (o.get? base)))).length]),
        .ok (Assoc.ofPairs (pairs o base (listed (o.get? base))))⟩ := by
  rw [resolve_eq, readTokens_of_parses h]
  rfl

theorem resolve_of_fault {before : List String} {token : String} {after : List String}
    {fault : TableIdFault} (hlist : listed (o.get? base) = before ++ token :: after)
    (h : ∀ t ∈ before, ∃ table, TableId.parse? t = .ok table)
    (hfault : TableId.parse? token = .error fault) :
    resolve o base connector = ⟨missing o base connector before, .error (.table fault)⟩ := by
  rw [resolve_eq, hlist, readTokens_of_fault h hfault]

/-- Resolving fails exactly with the fault of the first entry that is not a table name. -/
theorem resolve_eq_error {fault : Fault} :
    (resolve o base connector).outcome = .error fault ↔
      ∃ e, Steps.FirstFault TableId.parse? (listed (o.get? base)) e ∧ fault = .table e := by
  rcases Steps.all_ok_or_firstFault TableId.parse? (listed (o.get? base)) with h | ⟨e, hfirst⟩
  · rw [resolve_of_parses h]
    constructor
    -- every entry names a table: neither side holds
    · rintro hf
      cases hf
    · rintro ⟨e, ⟨before, token, after, hlist, -, hfault⟩, -⟩
      obtain ⟨table, htable⟩ := h token (by simp [hlist])
      rw [hfault] at htable
      cases htable
  · obtain ⟨before, token, after, hlist, hbefore, hfault⟩ := id hfirst
    rw [resolve_of_fault hlist hbefore hfault]
    constructor
    · intro hf
      exact ⟨e, hfirst, (Except.error.inj hf).symm⟩
    · rintro ⟨e', hfirst', rfl⟩
      rw [Steps.firstFault_unique hfirst hfirst']

theorem resolve_fails_iff : (∃ fault, (resolve o base connector).outcome = .error fault) ↔
    ∃ token ∈ listed (o.get? base), ∃ fault, TableId.parse? token = .error fault := by
  rw [← Steps.exists_firstFault_iff]
  simp only [resolve_eq_error]
  constructor
  · rintro ⟨_, e, he, -⟩
    exact ⟨e, he⟩
  · rintro ⟨e, he⟩
    exact ⟨_, e, he, rfl⟩

/-! ## The tables and their statements -/

theorem keys_pairs (tokens : List String) :
    (pairs o base tokens).map Prod.fst = tokens.filterMap tableOf? := by
  rw [pairs, List.map_filterMap]
  apply List.filterMap_congr
  intro token _
  cases tableOf? token <;> rfl

theorem pairs_append (xs ys : List String) :
    pairs o base (xs ++ ys) = pairs o base xs ++ pairs o base ys := by
  simp [pairs]

theorem mem_filterMap_tableOf? {tokens : List String} {table : TableId} :
    table ∈ tokens.filterMap tableOf? ↔ ∃ token ∈ tokens, TableId.parse? token = .ok table := by
  simp only [List.mem_filterMap, tableOf?]
  constructor
  · rintro ⟨token, hmem, h⟩
    cases hparse : TableId.parse? token with
    | ok t =>
        rw [hparse] at h
        exact ⟨token, hmem, by rw [hparse, Option.some.inj h]⟩
    | error e =>
        rw [hparse] at h
        cases h
  · rintro ⟨token, hmem, h⟩
    exact ⟨token, hmem, by rw [h]; rfl⟩

/-- A table takes the statement of the last entry that names it. -/
theorem lookup_ofPairs_pairs {before after : List String} {token : String} {table : TableId}
    (htoken : TableId.parse? token = .ok table)
    (hlast : ∀ t ∈ after, TableId.parse? t ≠ .ok table) :
    (Assoc.ofPairs (pairs o base (before ++ token :: after))).lookup table =
      some (o.get? (statementKey base token)) := by
  have hafter : (pairs o base after).reverse.lookup table = none := by
    rw [List.lookup_eq_none_iff]
    intro p hp
    -- a later pair of this table would come from a later entry that names it
    have hkeys : (pairs o base after).map Prod.fst = after.filterMap tableOf? := keys_pairs after
    have hkey : p.1 ∈ after.filterMap tableOf? :=
      hkeys ▸ List.mem_map_of_mem (List.mem_reverse.mp hp)
    obtain ⟨t, ht, hparse⟩ := mem_filterMap_tableOf?.mp hkey
    have hne : table ≠ p.1 := by
      rintro rfl
      exact hlast t ht hparse
    simpa using hne
  rw [Assoc.lookup_ofPairs, pairs_append, pairs_cons_ok htoken, List.reverse_append,
    List.reverse_cons, List.append_assoc, List.lookup_append, hafter]
  simp

/-- A list resolves when each of its entries names a table. -/
theorem resolve_eq_ok {found : Statements} : (resolve o base connector).outcome = .ok found ↔
    (∀ token ∈ listed (o.get? base), ∃ table, TableId.parse? token = .ok table) ∧
      Assoc.ofPairs (pairs o base (listed (o.get? base))) = found := by
  constructor
  · intro h
    rcases Steps.all_ok_or_firstFault TableId.parse? (listed (o.get? base)) with hall | ⟨e, he⟩
    · rw [resolve_of_parses hall] at h
      exact ⟨hall, Except.ok.inj h⟩
    · rw [resolve_eq_error.mpr ⟨e, he, rfl⟩] at h
      cases h
  · rintro ⟨hall, rfl⟩
    rw [resolve_of_parses hall]

theorem nodup_of_resolve {found : Statements} (h : (resolve o base connector).outcome = .ok found) :
    (found.map Prod.fst).Nodup := by
  obtain ⟨-, rfl⟩ := resolve_eq_ok.mp h
  exact Assoc.nodup_keys_insertAll (by simp)

/-- Only tables that can be read from a name are found. -/
theorem plain_of_resolve {found : Statements} (h : (resolve o base connector).outcome = .ok found)
    {table : TableId} (htable : table ∈ found.map Prod.fst) : table.Plain := by
  obtain ⟨-, rfl⟩ := resolve_eq_ok.mp h
  rw [Assoc.keys_ofPairs, keys_pairs, List.mem_eraseDups] at htable
  obtain ⟨token, -, hparse⟩ := mem_filterMap_tableOf?.mp htable
  exact TableId.plain_of_parse? hparse

/-! ## Commas only, and commas at the end -/

theorem listed_eq_nil {value : Option String} :
    listed value = [] ↔ ∀ c ∈ (value.getD "").toList, c = ',' := by
  rw [listed, List.rdropWhile_eq_nil_iff, ← Text.split_all_empty]
  simp

theorem listed_append_commas (value : String) (n : Nat) :
    listed (some (value ++ String.ofList (List.replicate n ','))) = listed (some value) := by
  simp only [listed, Option.getD_some, Text.split_append_replicate]
  exact Text.rdropWhile_append_replicate rfl _ n

/-- A statement stands under a longer name than its list. -/
theorem statementKey_ne (base token : String) : statementKey base token ≠ base := by
  intro h
  have hlen := congrArg String.length h
  simp only [statementKey, String.length_append] at hlen
  have hdot : ".".length = 1 := rfl
  omega

/-- Reading the entries asks for nothing but their statements. -/
theorem readTokens_congr {o o' : Options}
    (h : ∀ token, o.get? (statementKey base token) = o'.get? (statementKey base token))
    (tokens : List String) (found : Statements) :
    readTokens o base connector tokens found = readTokens o' base connector tokens found := by
  induction tokens generalizing found with
  | nil => rfl
  | cons token rest ih =>
      cases hparse : TableId.parse? token with
      | error fault => simp [readTokens, hparse]
      | ok table =>
          have hwarnings : warnings o base connector token = warnings o' base connector token := by
            unfold warnings Options.contains
            rw [h]
          rw [readTokens_cons_ok hparse, readTokens_cons_ok hparse, ih, h, hwarnings]

/-- Resolving a list asks for the list and the statements of its entries, and for no other option. -/
theorem resolve_congr {o o' : Options} (hlist : o.get? base = o'.get? base)
    (h : ∀ token, o.get? (statementKey base token) = o'.get? (statementKey base token)) :
    resolve o base connector = resolve o' base connector := by
  rw [resolve_eq, resolve_eq, hlist, readTokens_congr h]

theorem resolve_outcome (o : Options) (base : String) (connector : Option String) :
    (resolve o base connector).outcome =
      (readTokens o base connector (listed (o.get? base)) []).outcome := by
  rw [resolve_eq]
  split <;> rename_i h <;> rw [h]

theorem outcome_eq_ok_nil :
    (resolve o base connector).outcome = .ok [] ↔
      ∀ c ∈ ((o.get? base).getD "").toList, c = ',' := by
  rw [← listed_eq_nil]
  constructor
  · intro h
    obtain ⟨hall, hnil⟩ := resolve_eq_ok.mp h
    have hkeys := congrArg (List.map Prod.fst) hnil
    rw [Assoc.keys_ofPairs, keys_pairs] at hkeys
    rw [List.eq_nil_iff_forall_not_mem]
    -- the table of an entry would be a key of the result
    intro token hmem
    obtain ⟨table, htable⟩ := hall token hmem
    have hin := List.mem_eraseDups.mpr (mem_filterMap_tableOf?.mpr ⟨token, hmem, htable⟩)
    rw [hkeys] at hin
    cases hin
  · intro h
    rw [resolve_outcome, h]
    rfl

/-- Commas at the end of a list that has a character do not count. -/
theorem resolve_append_commas {value : String} (hvalue : o.get? base = some value) (n : Nat) :
    let longer := o.withPairs [(base, value ++ String.ofList (List.replicate n ','))]
    (resolve longer base connector).outcome = (resolve o base connector).outcome ∧
      (value ≠ "" → resolve longer base connector = resolve o base connector) := by
  intro longer
  have hlist : longer.get? base = some (value ++ String.ofList (List.replicate n ',')) := by
    rw [Options.get?_withPairs_one, if_pos rfl]
  have hread : ∀ tokens found, readTokens longer base connector tokens found =
      readTokens o base connector tokens found := by
    apply readTokens_congr
    intro token
    rw [Options.get?_withPairs_one, if_neg (statementKey_ne base token)]
  constructor
  · rw [resolve_outcome, resolve_outcome, hread, hlist, hvalue, listed_append_commas]
  · intro hne
    have hlonger : value ++ String.ofList (List.replicate n ',') ≠ "" := by
      simp [hne]
    rw [resolve_eq longer, resolve_eq o, hread, hlist, hvalue, listed_append_commas]
    simp only [Option.getD_some, if_neg hne, if_neg hlonger]

/-- **The snapshot statements of a list.** With a bad entry the resolution fails at the first one, and
the entries before it have been warned about. Without one the tables stand in the order of their first
entries, each with the statement of its last entry as that is written, and every entry without a
statement has been warned about. Nothing is found exactly when the list holds commas only, and commas at
its end do not count. -/
theorem resolve_meets_reference (o : Options) (base : String) (connector : Option String) :
    ((∃ fault, (resolve o base connector).outcome = .error fault) ↔
      ∃ token ∈ listed (o.get? base), ∃ fault, TableId.parse? token = .error fault) ∧
    (∀ before token after fault, listed (o.get? base) = before ++ token :: after →
      (∀ t ∈ before, ∃ table, TableId.parse? t = .ok table) →
      TableId.parse? token = .error fault →
      resolve o base connector = ⟨missing o base connector before, .error (.table fault)⟩) ∧
    (∀ found, (resolve o base connector).outcome = .ok found →
      found.map Prod.fst = ((listed (o.get? base)).filterMap tableOf?).eraseDups ∧
      (found.map Prod.fst).Nodup ∧
      (∀ before token after table, listed (o.get? base) = before ++ token :: after →
        TableId.parse? token = .ok table → (∀ t ∈ after, TableId.parse? t ≠ .ok table) →
        found.lookup table = some (o.get? (base ++ "." ++ token))) ∧
      (resolve o base connector).notices =
        missing o base connector (listed (o.get? base)) ++
          if (o.get? base).getD "" = "" then [] else [resolved connector found.length]) ∧
    ((resolve o base connector).outcome = .ok [] ↔
      ∀ c ∈ ((o.get? base).getD "").toList, c = ',') ∧
    (∀ value n, o.get? base = some value →
      let longer := o.withPairs [(base, value ++ String.ofList (List.replicate n ','))]
      (resolve longer base connector).outcome = (resolve o base connector).outcome ∧
        (value ≠ "" → resolve longer base connector = resolve o base connector)) := by
  refine ⟨resolve_fails_iff, ?_, ?_, outcome_eq_ok_nil, fun value n h => resolve_append_commas h n⟩
  · intro before token after fault hlist hbefore hfault
    exact resolve_of_fault hlist hbefore hfault
  · intro found hfound
    rcases Steps.all_ok_or_firstFault TableId.parse? (listed (o.get? base)) with h | ⟨e, he⟩
    · rw [resolve_of_parses h] at hfound ⊢
      obtain rfl := Except.ok.inj hfound
      refine ⟨by rw [Assoc.keys_ofPairs, keys_pairs], Assoc.nodup_keys_insertAll (by simp), ?_, rfl⟩
      intro before token after table hlist htoken hlast
      rw [hlist]
      exact lookup_ofPairs_pairs htoken hlast
    · rw [resolve_eq_error.mpr ⟨e, he, rfl⟩] at hfound
      cases hfound

/-- A later entry without a statement takes the statement of its table away. -/
theorem resolve_later_entry_erases :
    let o := Options.ofPairs [("tables", "db.t, x,db.t "), ("tables.db.t", "SELECT 1")]
    ∃ found, (resolve o "tables" none).outcome = .ok found ∧
      found.map Prod.fst = [⟨some "db", none, "t"⟩, ⟨none, none, "x"⟩] ∧
      found.lookup ⟨some "db", none, "t"⟩ = some none := by
  intro o
  have hfound : (resolve o "tables" none).outcome =
      .ok [(⟨some "db", none, "t"⟩, none), (⟨none, none, "x"⟩, none)] := by decide +kernel
  obtain ⟨hkeys, -, hlast, -⟩ := (resolve_meets_reference o "tables" none).2.2.1 _ hfound
  have hlist : listed (o.get? "tables") = ["db.t", " x"] ++ "db.t " :: [] := by decide +kernel
  have hvalue := hlast _ _ _ ⟨some "db", none, "t"⟩ hlist (by decide +kernel) (by simp)
  have hnone : o.get? ("tables" ++ "." ++ "db.t ") = none := by decide +kernel
  refine ⟨_, hfound, ?_, ?_⟩
  · rw [hkeys]
    decide +kernel
  · rw [hvalue, hnone]

end CaptureConfig.Override
