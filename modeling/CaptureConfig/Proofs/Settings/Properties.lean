import CaptureConfig.Proofs.Assoc
import CaptureConfig.Proofs.Datum.Entry
import CaptureConfig.Proofs.Option.Store
import CaptureConfig.Proofs.Steps
import CaptureConfig.Settings.Basic

/-!
# What a properties section says

The entries of a section that are not null are put one after another as texts. So an option has the text of
the last of them whose key is written like its name. Keys that differ can be written alike, such as a number
and the text of its digits; an entry that is put at a textual key decides over those before it.
-/

namespace CaptureConfig.Settings

open Datum

/-- A value that is neither null nor a collection of the kinds that are refused. -/
def isScalar : Datum → Bool
  | .null => false
  | .list _ => false
  | .map _ => false
  | _ => true

/-- The key and the value of an entry as texts, where the value is a scalar and both have a text. -/
def pairOf? (e : Datum × Datum) : Option (String × String) :=
  if isScalar e.2 then
    e.1.text?.bind fun key => (Options.scalarText? e.2).map fun value => (key, value)
  else none

/-- An entry that does not keep its section from being read. -/
def Readable (e : Datum × Datum) : Prop := e.2 = .null ∨ (pairOf? e).isSome = true

/-- The text that the entries of a section give an option. -/
def textOf? (es : Entries) (name : String) : Option String :=
  (es.filterMap pairOf?).reverse.lookup name

variable {e : Datum × Datum} {es : Entries} {name key value : String} {found ps : List (String × String)}

/-! ## Reading entry by entry -/

theorem text?_of_pairOf? (h : pairOf? e = some (key, value)) : e.1.text? = some key := by
  unfold pairOf? at h
  split at h
  · obtain ⟨key', hkey, h⟩ := Option.bind_eq_some_iff.mp h
    obtain ⟨value', -, h⟩ := Option.map_eq_some_iff.mp h
    rw [hkey, (Prod.mk.inj h).1]
  · cases h

theorem flatten_cons_of_scalar {k v : Datum} (h : isScalar v = true) (es : Entries)
    (found : List (String × String)) :
    flatten ((k, v) :: es) found = (do
      let value ← textOf (Options.scalarText? v)
      let key ← textOf k.text?
      flatten es (Assoc.insert key value found)) := by
  cases v <;> first | rfl | cases h

theorem textOf_eq_ok {text : Option String} {s : String} : textOf text = .ok s ↔ text = some s := by
  cases text <;> simp [textOf, Checked.mismatch]

/-- A collection is refused, whether or not its key has a text. -/
theorem refuse_ne_ok (text : Option String) (kind : String) :
    (textOf text >>= fun key => flatten.refuse key kind) ≠ .ok ps := by
  intro h
  obtain ⟨_, -, hrefuse⟩ := Steps.bind_eq_ok.mp h
  cases hrefuse

/-- One step: an entry that is readable adds the pair that it is, if it is one. -/
theorem flatten_cons_eq_ok : flatten (e :: es) found = .ok ps ↔
    Readable e ∧ flatten es (Assoc.insertAll found (pairOf? e).toList) = .ok ps := by
  obtain ⟨k, v⟩ := e
  by_cases hscalar : isScalar v = true
  · have hnull : v ≠ .null := by
      rintro rfl
      cases hscalar
    rw [flatten_cons_of_scalar hscalar]
    simp only [Steps.bind_eq_ok, textOf_eq_ok, Readable, pairOf?, hscalar, hnull, if_true, false_or]
    cases Options.scalarText? v <;> cases k.text? <;> simp [Assoc.insertAll]
  · have hpair : pairOf? (k, v) = none := if_neg hscalar
    rw [Readable, hpair]
    cases v with
    | null => simp [flatten, Assoc.insertAll]
    | list xs => exact ⟨fun h => absurd h (refuse_ne_ok _ _), fun h => by simp at h⟩
    | map es => exact ⟨fun h => absurd h (refuse_ne_ok _ _), fun h => by simp at h⟩
    | _ => exact absurd rfl hscalar

/-- A section is read when each of its entries is readable, and holds what their pairs make. -/
theorem flatten_eq_ok : flatten es found = .ok ps ↔
    (∀ e ∈ es, Readable e) ∧ Assoc.insertAll found (es.filterMap pairOf?) = ps := by
  induction es generalizing found with
  | nil => simp [flatten, Assoc.insertAll]
  | cons e es ih =>
      have hpairs : Assoc.insertAll found ((e :: es).filterMap pairOf?) =
          Assoc.insertAll (Assoc.insertAll found (pairOf? e).toList) (es.filterMap pairOf?) := by
        cases h : pairOf? e <;> simp [h, Assoc.insertAll]
      rw [flatten_cons_eq_ok, ih, List.forall_mem_cons, and_assoc, hpairs]

theorem nodup_of_flatten (h : flatten es [] = .ok ps) : (ps.map Prod.fst).Nodup := by
  obtain ⟨-, rfl⟩ := flatten_eq_ok.mp h
  exact Assoc.nodup_keys_insertAll (by simp)

theorem lookup_of_flatten (h : flatten es [] = .ok ps) (name : String) :
    ps.lookup name = textOf? es name := by
  obtain ⟨-, rfl⟩ := flatten_eq_ok.mp h
  rw [Assoc.lookup_insertAll]
  simp [textOf?]

/-! ## The text of one option -/

theorem textOf?_cons (e : Datum × Datum) (es : Entries) (name : String) :
    textOf? (e :: es) name = (textOf? es name).or (textOf? [e] name) := by
  unfold textOf?
  cases h : pairOf? e with
  | none => simp [h]
  | some pair => simp [h, List.lookup_append]

theorem textOf?_text (k v name : String) :
    textOf? [(.text k, .text v)] name = if name = k then some v else none := by
  have hpairs : [(Datum.text k, Datum.text v)].filterMap pairOf? = [(k, v)] := rfl
  rw [textOf?, hpairs, List.reverse_singleton, Assoc.lookup_cons]
  rfl

theorem textOf?_singleton_of_ne (h : e.1.text? ≠ some name) : textOf? [e] name = none := by
  unfold textOf?
  cases hpair : pairOf? e with
  | none => simp [hpair]
  | some pair =>
      obtain ⟨key, value⟩ := pair
      have hkey : name ≠ key := by
        rintro rfl
        exact h (text?_of_pairOf? hpair)
      simp [hpair, Assoc.lookup_cons, hkey]

theorem textOf?_eq_none (h : ∀ e ∈ es, e.1.text? ≠ some name) : textOf? es name = none := by
  induction es with
  | nil => rfl
  | cons e es ih =>
      rw [List.forall_mem_cons] at h
      rw [textOf?_cons, ih h.2, textOf?_singleton_of_ne h.1]
      rfl

/-! ## Entries put at textual keys -/

/-- The entries behind the first one at a textual key; none if there is no such key. -/
def behindKey (name : String) (es : Entries) : Entries :=
  (es.dropWhile fun e => !sameKey e.1 (.text name)).tail

/-- No two keys of a section are written alike. -/
def DistinctTexts (es : Entries) : Prop :=
  es.Pairwise fun e e' => ∀ text, e.1.text? = some text → e'.1.text? ≠ some text

/-- After a textual key comes no other key that is written like it. -/
def TextKeysLast (es : Entries) : Prop :=
  es.Pairwise fun e e' => ∀ text, e.1 = .text text → e'.1.text? ≠ some text

theorem DistinctTexts.textKeysLast (h : DistinctTexts es) : TextKeysLast es := by
  refine h.imp fun {e e'} hne text htext => hne text ?_
  rw [htext]
  rfl

theorem behindKey_cons_of_same (h : sameKey e.1 (.text name) = true) :
    behindKey name (e :: es) = es := by
  simp [behindKey, h]

theorem behindKey_cons_of_other (h : sameKey e.1 (.text name) = false) :
    behindKey name (e :: es) = behindKey name es := by
  simp [behindKey, h]

theorem TextKeysLast.textOf?_behindKey (h : TextKeysLast es) (name : String) :
    textOf? (behindKey name es) name = none := by
  induction es with
  | nil => rfl
  | cons e es ih =>
      obtain ⟨hfirst, hrest⟩ := List.pairwise_cons.mp h
      cases hsame : sameKey e.1 (.text name) with
      | true =>
          rw [behindKey_cons_of_same hsame]
          exact textOf?_eq_none fun e' he' => hfirst e' he' name (sameKey_text.mp hsame)
      | false => rw [behindKey_cons_of_other hsame, ih hrest]

/-- What is put at a textual key decides over the option of that name, unless an entry behind it does, and
over no other. -/
theorem textOf?_insertEntry (k v name : String) (es : Entries) :
    textOf? (insertEntry (.text k) (.text v) es) name =
      if name = k then some ((textOf? (behindKey k es) k).getD v) else textOf? es name := by
  induction es with
  | nil => exact textOf?_text k v name
  | cons first es ih =>
      obtain ⟨k₀, v₀⟩ := first
      cases hsame : sameKey k₀ (.text k) with
      | true =>
          obtain rfl := sameKey_text.mp hsame
          rw [insertEntry_cons_of_same hsame, behindKey_cons_of_same hsame, textOf?_cons, textOf?_text]
          by_cases hname : name = k
          · subst hname
            cases textOf? es name <;> simp
          · have hold : (Datum.text k).text? ≠ some name := fun htext =>
              hname (Option.some.inj htext).symm
            rw [if_neg hname, if_neg hname, textOf?_cons, textOf?_singleton_of_ne hold]
      | false =>
          rw [insertEntry_cons_of_other hsame, behindKey_cons_of_other hsame, textOf?_cons, ih,
            textOf?_cons (k₀, v₀) es]
          by_cases hname : name = k <;> simp [hname]

/-- Behind a textual key, nothing that is put at textual keys changes what its option is given. -/
theorem textOf?_behindKey_insertEntry (k v name : String) (es : Entries) :
    textOf? (behindKey name (insertEntry (.text k) (.text v) es)) name =
      textOf? (behindKey name es) name := by
  induction es with
  | nil =>
      cases hkey : sameKey (.text k) (.text name) with
      | true => exact congrArg (textOf? · name) (behindKey_cons_of_same hkey)
      | false => exact congrArg (textOf? · name) (behindKey_cons_of_other hkey)
  | cons first es ih =>
      obtain ⟨k₀, v₀⟩ := first
      cases hsame : sameKey k₀ (.text k) with
      | true =>
          -- the key stays as it is, so the entries behind `name` are found at the same place
          rw [insertEntry_cons_of_same hsame]
          cases hkey : sameKey k₀ (.text name) with
          | true => rw [behindKey_cons_of_same hkey, behindKey_cons_of_same hkey]
          | false => rw [behindKey_cons_of_other hkey, behindKey_cons_of_other hkey]
      | false =>
          rw [insertEntry_cons_of_other hsame]
          cases hkey : sameKey k₀ (.text name) with
          | true =>
              obtain rfl := sameKey_text.mp hkey
              have hname : name ≠ k := by
                rintro rfl
                rw [hkey] at hsame
                cases hsame
              rw [behindKey_cons_of_same hkey, behindKey_cons_of_same hkey, textOf?_insertEntry,
                if_neg hname]
          | false => rw [behindKey_cons_of_other hkey, behindKey_cons_of_other hkey, ih]

/-- A section with overrides put over its entries, one after another. -/
def layered (overrides : List (String × String)) (es : Entries) : Entries :=
  overrides.foldl (fun es (k, v) => insertEntry (.text k) (.text v) es) es

theorem readable_layered (overrides : List (String × String)) (h : ∀ e ∈ es, Readable e) :
    ∀ e ∈ layered overrides es, Readable e := by
  induction overrides generalizing es with
  | nil => exact h
  | cons override rest ih =>
      obtain ⟨k, v⟩ := override
      refine ih fun e he => ?_
      rcases mem_insertEntry he with rfl | he
      · exact Or.inr rfl
      · exact h e he

/-- The last override of an option decides, unless an entry behind its textual key does; without an override
the section does. -/
theorem textOf?_layered (overrides : List (String × String)) (es : Entries) (name : String) :
    textOf? (layered overrides es) name =
      ((overrides.reverse.lookup name).map ((textOf? (behindKey name es) name).getD ·)).or
        (textOf? es name) := by
  induction overrides generalizing es with
  | nil => rfl
  | cons override rest ih =>
      -- the first override has become a part of the section, so the later ones are looked up before it
      obtain ⟨k, v⟩ := override
      have hstep : textOf? (layered ((k, v) :: rest) es) name =
          ((rest.reverse.lookup name).map
            ((textOf? (behindKey name (insertEntry (.text k) (.text v) es)) name).getD ·)).or
              (textOf? (insertEntry (.text k) (.text v) es) name) := ih _
      rw [hstep, textOf?_behindKey_insertEntry, textOf?_insertEntry, List.reverse_cons, List.lookup_append]
      by_cases hname : name = k
      · subst hname
        cases rest.reverse.lookup name <;> simp
      · cases rest.reverse.lookup name <;> simp [hname, Assoc.lookup_cons]

theorem TextKeysLast.textOf?_layered (h : TextKeysLast es) (overrides : List (String × String))
    (name : String) :
    textOf? (layered overrides es) name = (overrides.reverse.lookup name).or (textOf? es name) := by
  rw [Settings.textOf?_layered, h.textOf?_behindKey]
  simp

/-- Overriding before a section is read is layering over what it holds when it is read. -/
theorem flatten_layered (h : TextKeysLast es) (hread : flatten es [] = .ok ps)
    (overrides : List (String × String)) :
    ∃ qs, flatten (layered overrides es) [] = .ok qs ∧ (qs.map Prod.fst).Nodup ∧
      ∀ name, qs.lookup name = ((Options.ofPairs ps).withPairs overrides).get? name := by
  have hreadable := readable_layered overrides (flatten_eq_ok.mp hread).1
  have hlayered : flatten (layered overrides es) [] = .ok _ := flatten_eq_ok.mpr ⟨hreadable, rfl⟩
  have hstored : (Options.ofPairs ps).entries = ps := Assoc.ofPairs_of_nodup (nodup_of_flatten hread)
  refine ⟨_, hlayered, nodup_of_flatten hlayered, fun name => ?_⟩
  rw [lookup_of_flatten hlayered, h.textOf?_layered, Options.get?_withPairs, Options.get?, hstored,
    lookup_of_flatten hread]

end CaptureConfig.Settings
