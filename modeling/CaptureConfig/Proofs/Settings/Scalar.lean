import CaptureConfig.Proofs.Settings.Layer
import Mathlib.Data.List.Forall2

/-!
# Named values as options

A mapping from names to values becomes options in two ways: as the properties section of a document, or as a
store at once. Both leave out what is null and take the texts of the rest in their order, and both fail when
a value has no text. What they give is made of texts, which either of them gives back as they are.
-/

namespace CaptureConfig

namespace Options

/-- The pairs are the values that are not null, in their order and each with its text. -/
inductive Spelled : List (String × Datum) → List (String × String) → Prop
  | nil : Spelled [] []
  | null {name : String} {m : List (String × Datum)} {ps : List (String × String)}
      (rest : Spelled m ps) : Spelled ((name, .null) :: m) ps
  | value {name value : String} {v : Datum} {m : List (String × Datum)} {ps : List (String × String)}
      (notNull : v ≠ .null) (text : scalarText? v = some value) (rest : Spelled m ps) :
      Spelled ((name, v) :: m) ((name, value) :: ps)

/-- Texts as values. -/
def asTexts (ps : List (String × String)) : List (String × Datum) := ps.map fun p => (p.1, .text p.2)

variable {m : List (String × Datum)} {ps : List (String × String)} {name : String} {v : Datum}
  {o : Options}

/-! ## The texts of named values -/

theorem spelled_null_cons : Spelled ((name, .null) :: m) ps ↔ Spelled m ps := by
  constructor
  · intro h
    cases h with
    | null rest => exact rest
    | value notNull _ _ => exact absurd rfl notNull
  · exact .null

theorem spelled_cons (hv : v ≠ .null) : Spelled ((name, v) :: m) ps ↔
    ∃ value rest, scalarText? v = some value ∧ Spelled m rest ∧ (name, value) :: rest = ps := by
  constructor
  · intro h
    cases h with
    | null _ => exact absurd rfl hv
    | value _ text rest => exact ⟨_, _, text, rest, rfl⟩
  · rintro ⟨value, rest, htext, hrest, rfl⟩
    exact .value hv htext hrest

/-- Every value that is not null has to have a text. -/
theorem exists_spelled :
    (∃ ps, Spelled m ps) ↔ ∀ e ∈ m, e.2 = .null ∨ ∃ value, scalarText? e.2 = some value := by
  induction m with
  | nil => exact ⟨fun _ => by simp, fun _ => ⟨[], .nil⟩⟩
  | cons e m ih =>
      obtain ⟨name, v⟩ := e
      rw [List.forall_mem_cons, ← ih]
      by_cases hv : v = .null
      · subst hv
        simp only [spelled_null_cons, true_or, true_and]
      · simp only [spelled_cons hv, hv, false_or]
        constructor
        · rintro ⟨_, value, rest, htext, hrest, -⟩
          exact ⟨⟨value, htext⟩, rest, hrest⟩
        · rintro ⟨⟨value, htext⟩, rest, hrest⟩
          exact ⟨_, value, rest, htext, hrest, rfl⟩

theorem Spelled.names_sublist (h : Spelled m ps) : (ps.map Prod.fst).Sublist (m.map Prod.fst) := by
  induction h with
  | nil => exact .slnil
  | null _ ih => exact .cons _ ih
  | value _ _ _ ih => exact .cons_cons _ ih

theorem Spelled.mem (h : Spelled m ps) (hmem : (name, v) ∈ m) (hv : v ≠ .null) :
    ∃ value, scalarText? v = some value ∧ (name, value) ∈ ps := by
  induction h with
  | nil => cases hmem
  | null _ ih =>
      rcases List.mem_cons.mp hmem with heq | hmem
      · exact absurd (Prod.mk.inj heq).2 hv
      · exact ih hmem
  | value _ text _ ih =>
      rcases List.mem_cons.mp hmem with heq | hmem
      · obtain ⟨rfl, rfl⟩ := Prod.mk.inj heq
        exact ⟨_, text, List.mem_cons_self⟩
      · obtain ⟨value, htext, hin⟩ := ih hmem
        exact ⟨value, htext, List.mem_cons_of_mem _ hin⟩

theorem spelled_asTexts (ps : List (String × String)) : Spelled (asTexts ps) ps := by
  induction ps with
  | nil => exact .nil
  | cons p ps ih => exact .value nofun rfl ih

/-! ## A store -/

/-- What keeps the values that are not null and takes their texts gives the pairs that spell them. -/
theorem mapM_filter_eq_some {keep : String × Datum → Bool}
    {pair? : String × Datum → Option (String × String)} (hnull : ∀ name, keep (name, .null) = false)
    (hvalue : ∀ name v, v ≠ .null → keep (name, v) = true)
    (hpair : ∀ name v, pair? (name, v) = (scalarText? v).map fun value => (name, value)) :
    (m.filter keep).mapM pair? = some ps ↔ Spelled m ps := by
  induction m generalizing ps with
  | nil =>
      refine ⟨fun h => ?_, fun h => by cases h; rfl⟩
      obtain rfl := Option.some.inj h
      exact .nil
  | cons e m ih =>
      obtain ⟨name, v⟩ := e
      by_cases hv : v = .null
      · subst hv
        rw [List.filter_cons_of_neg (by simp [hnull]), ih, spelled_null_cons]
      · rw [List.filter_cons_of_pos (hvalue name v hv), List.mapM_cons, spelled_cons hv, hpair]
        simp only [Option.bind_eq_bind, Option.bind_eq_some_iff, Option.map_eq_some_iff, ih]
        constructor
        · rintro ⟨_, ⟨value, htext, rfl⟩, rest, hrest, heq⟩
          exact ⟨value, rest, htext, hrest, Option.some.inj heq⟩
        · rintro ⟨value, rest, htext, hrest, rfl⟩
          exact ⟨_, ⟨value, htext, rfl⟩, rest, hrest, rfl⟩

theorem ofScalars?_eq_some : ofScalars? m = some o ↔ ∃ ps, Spelled m ps ∧ ofPairs ps = o := by
  unfold ofScalars?
  simp only [Option.bind_eq_bind, Option.bind_eq_some_iff]
  refine exists_congr fun ps => and_congr (mapM_filter_eq_some (fun _ => rfl) ?_ fun _ _ => rfl) ?_
  · intro name v hv
    cases v <;> first | rfl | exact absurd rfl hv
  · exact ⟨Option.some.inj, congrArg some⟩

theorem exists_ofScalars? : (∃ o, ofScalars? m = some o) ↔ ∃ ps, Spelled m ps := by
  simp only [ofScalars?_eq_some]
  exact ⟨fun ⟨_, ps, hps, _⟩ => ⟨ps, hps⟩, fun ⟨ps, hps⟩ => ⟨_, ps, hps, rfl⟩⟩

end Options

namespace Settings

open Datum
open Options (Spelled asTexts)

/-- Named values as the entries of a section. -/
def textual (m : List (String × Datum)) : Entries := m.map fun e => (.text e.1, e.2)

/-- The settings of a document that has nothing but a properties section. -/
def ofProperties (m : List (String × Datum)) : Except SettingsFault Settings :=
  ofDocument (.map [(.text "properties", .map (textual m))])

variable {m : List (String × Datum)} {ps : List (String × String)} {settings : Settings}

/-! ## A properties section -/

theorem pairOf?_text {v : Datum} (h : isScalar v = true) (name : String) :
    pairOf? (.text name, v) = (Options.scalarText? v).map fun value => (name, value) := by
  rw [pairOf?, if_pos h]
  rfl

theorem readable_text {v : Datum} (h : v = .null ∨ isScalar v = true) (name : String) :
    Readable (.text name, v) ↔ v = .null ∨ ∃ value, Options.scalarText? v = some value := by
  rcases h with rfl | hscalar
  · simp [Readable]
  · have hpair := pairOf?_text hscalar name
    rw [Readable, hpair, Option.isSome_map, Option.isSome_iff_exists]

theorem readable_textual (h : ∀ e ∈ m, e.2 = .null ∨ isScalar e.2 = true) :
    (∀ e ∈ textual m, Readable e) ↔ ∃ ps, Spelled m ps := by
  rw [Options.exists_spelled, textual, List.forall_mem_map]
  exact forall₂_congr fun e he => readable_text (h e he) e.1

theorem pairs_of_spelled (h : ∀ e ∈ m, e.2 = .null ∨ isScalar e.2 = true) (hspelled : Spelled m ps) :
    (textual m).filterMap pairOf? = ps := by
  induction hspelled with
  | nil => rfl
  | null _ ih => exact ih (List.forall_mem_cons.mp h).2
  | @value name value v m ps notNull text _ ih =>
      rw [List.forall_mem_cons] at h
      have hpair : pairOf? (.text name, v) = some (name, value) := by
        rw [pairOf?_text (h.1.resolve_left notNull), text]
        rfl
      have hcons : textual ((name, v) :: m) = (.text name, v) :: textual m := rfl
      rw [hcons, List.filterMap_cons_some hpair, ih h.2]

/-- A section of scalars holds the pairs that spell it. -/
theorem flatten_textual (h : ∀ e ∈ m, e.2 = .null ∨ isScalar e.2 = true) :
    flatten (textual m) [] = .ok ps ↔ ∃ qs, Spelled m qs ∧ Assoc.ofPairs qs = ps := by
  rw [flatten_eq_ok, readable_textual h]
  constructor
  · rintro ⟨⟨qs, hspelled⟩, hpairs⟩
    rw [pairs_of_spelled h hspelled] at hpairs
    exact ⟨qs, hspelled, hpairs⟩
  · rintro ⟨qs, hspelled, hpairs⟩
    rw [pairs_of_spelled h hspelled]
    exact ⟨⟨qs, hspelled⟩, hpairs⟩

theorem ofProperties_eq_ok (h : ∀ e ∈ m, e.2 = .null ∨ isScalar e.2 = true) :
    ofProperties m = .ok settings ↔
      ∃ ps, Spelled m ps ∧ Assoc.ofPairs ps = settings.properties ∧ settings.logging = {} := by
  let es : Entries := [(.text "properties", .map (textual m))]
  have hproperties : entry? "properties" es = some (.map (textual m)) := rfl
  have hlogging : entry? "logging" es = none := rfl
  have hread : readProperties (.map (textual m)) = flatten (textual m) [] := rfl
  rw [ofProperties, ofDocument_eq_ok]
  constructor
  · rintro ⟨_, es', hes, hplain, -, hps, hlog⟩
    obtain rfl := Datum.map.inj hes
    obtain rfl := Except.ok.inj hplain
    rw [Entries.optional_of_some hproperties, hread, flatten_textual h] at hps
    rw [Entries.optional_of_none hlogging] at hlog
    obtain ⟨ps, hspelled, hps⟩ := hps
    exact ⟨ps, hspelled, hps, (Except.ok.inj hlog).symm⟩
  · rintro ⟨ps, hspelled, hps, hlog⟩
    refine ⟨es, es, rfl, rfl, rfl, ?_, ?_⟩
    · rw [Entries.optional_of_some hproperties, hread, flatten_textual h]
      exact ⟨ps, hspelled, hps⟩
    · rw [Entries.optional_of_none hlogging, hlog]

theorem exists_ofProperties (h : ∀ e ∈ m, e.2 = .null ∨ isScalar e.2 = true) :
    (∃ settings, ofProperties m = .ok settings) ↔ ∃ ps, Spelled m ps := by
  simp only [ofProperties_eq_ok h]
  exact ⟨fun ⟨_, ps, hps, _⟩ => ⟨ps, hps⟩, fun ⟨ps, hps⟩ => ⟨⟨_, {}⟩, ps, hps, rfl, rfl⟩⟩

theorem ofProperties_of_spelled (hscalar : ∀ e ∈ m, e.2 = .null ∨ isScalar e.2 = true)
    (hspelled : Spelled m ps) (hdistinct : (ps.map Prod.fst).Nodup) :
    ofProperties m = .ok ⟨ps, {}⟩ :=
  (ofProperties_eq_ok hscalar).mpr ⟨ps, hspelled, Assoc.ofPairs_of_nodup hdistinct, rfl⟩

theorem ofProperties_asTexts (h : (ps.map Prod.fst).Nodup) :
    ofProperties (asTexts ps) = .ok ⟨ps, {}⟩ := by
  have hscalar : ∀ e ∈ asTexts ps, e.2 = .null ∨ isScalar e.2 = true := by
    intro e he
    obtain ⟨p, -, rfl⟩ := List.mem_map.mp he
    exact Or.inr rfl
  exact ofProperties_of_spelled hscalar (Options.spelled_asTexts ps) h

/-- **A properties section and a store are made of the same texts.** Named values without lists and
mappings can be loaded as the properties of a document exactly when a store can be made of them, which is
when each of them is null or has a text. Then the properties are the options of the store in the same order,
and they are the texts of the values without those that are null. Loading the properties again, or making a
store of them, changes nothing. -/
theorem properties_agree_with_store (hnames : (m.map Prod.fst).Nodup)
    (hscalar : ∀ e ∈ m, e.2 = .null ∨ isScalar e.2 = true) :
    ((∃ settings, ofProperties m = .ok settings) ↔ ∃ o, Options.ofScalars? m = some o) ∧
      ((∃ o, Options.ofScalars? m = some o) ↔
        ∀ e ∈ m, e.2 = .null ∨ ∃ value, Options.scalarText? e.2 = some value) ∧
      ∀ settings o, ofProperties m = .ok settings → Options.ofScalars? m = some o →
        settings.properties = o.entries ∧ Spelled m o.entries ∧
          ofProperties (asTexts settings.properties) = .ok settings ∧
          Options.ofScalars? (asTexts settings.properties) = some o := by
  refine ⟨?_, ?_, fun settings o hload hstore => ?_⟩
  · rw [exists_ofProperties hscalar, Options.exists_ofScalars?]
  · rw [Options.exists_ofScalars?, Options.exists_spelled]
  · obtain ⟨ps, hspelled, rfl⟩ := Options.ofScalars?_eq_some.mp hstore
    have hdistinct : (ps.map Prod.fst).Nodup := hspelled.names_sublist.nodup hnames
    have hsettings := ofProperties_of_spelled hscalar hspelled hdistinct
    obtain rfl := Except.ok.inj (hsettings.symm.trans hload)
    have hentries : (Options.ofPairs ps).entries = ps := Assoc.ofPairs_of_nodup hdistinct
    rw [hentries]
    exact ⟨rfl, hspelled, ofProperties_asTexts hdistinct,
      Options.ofScalars?_eq_some.mpr ⟨ps, Options.spelled_asTexts ps, rfl⟩⟩

/-- A negative integer, a truth value, a number with a point and a text between blanks, beside two values
that are null. -/
theorem properties_and_store_of_mixed_values :
    let m : List (String × Datum) :=
      [("time", .null), ("poll", .int (-7)), ("ssl", .bool true),
        ("rate", .float (.ofRatio false 3 2)), ("db", .text " a "), ("mode", .null)]
    let ps := [("poll", "-7"), ("ssl", "true"), ("rate", "1.5"), ("db", " a ")]
    (m.map Prod.fst).Nodup ∧ (∀ e ∈ m, e.2 = .null ∨ isScalar e.2 = true) ∧
      ∃ o, ofProperties m = .ok ⟨ps, {}⟩ ∧ Options.ofScalars? m = some o ∧ o.entries = ps ∧
        ofProperties (asTexts ps) = .ok ⟨ps, {}⟩ ∧ Options.ofScalars? (asTexts ps) = some o := by
  intro m ps
  have hnames : (m.map Prod.fst).Nodup := by decide
  have hscalar : ∀ e ∈ m, e.2 = .null ∨ isScalar e.2 = true := by simp [m, isScalar]
  have hload : ofProperties m = .ok ⟨ps, {}⟩ := by decide +kernel
  obtain ⟨hsame, -, hagree⟩ := properties_agree_with_store hnames hscalar
  obtain ⟨o, hstore⟩ := hsame.mp ⟨_, hload⟩
  obtain ⟨hentries, -, hreload, hrestore⟩ := hagree _ o hload hstore
  exact ⟨hnames, hscalar, o, hload, hstore, hentries.symm, hreload, hrestore⟩

end Settings

end CaptureConfig
