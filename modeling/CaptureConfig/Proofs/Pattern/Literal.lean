import CaptureConfig.Pattern.Match
import CaptureConfig.Proofs.Steps
import CaptureConfig.Proofs.Text.Spelling

/-!
# Regular expressions that stand for a text

A text with a backslash before each character that is neither a letter nor a digit nor an underscore is read as
a sequence of single characters. It matches the texts that have the same characters one by one, and among ASCII
texts these are the ones that differ in the case of letters only.
-/

namespace CaptureConfig.Pattern

/-- A letter, a digit or an underscore. Such a character stands for itself. -/
def isWord (c : Char) : Bool := isAsciiLetter c || isAsciiDigit c || c == '_'

/-- Characters with a backslash before each one that might not stand for itself. -/
def quoteChars (cs : List Char) : List Char := cs.flatMap fun c => if isWord c then [c] else ['\\', c]

/-- A text as a regular expression that stands for it. -/
def quote (s : String) : String := String.ofList (quoteChars s.toList)

/-- The items of an expression that stands for characters. -/
def codes (cs : List Char) : List Node := cs.map fun c => .code c.toNat

/-- The regular expression that stands for a text. -/
def literal (s : String) : Pattern := ⟨quote s, {}, .ofItems (codes s.toList)⟩

variable {c : Char} {cs : List Char} {r : Reading} {n : Nat} {first : Bool} {found : List Node}

/-! ## Reading -/

theorem quoteChars_word (h : isWord c = true) (cs : List Char) :
    quoteChars (c :: cs) = c :: quoteChars cs := by
  simp [quoteChars, h]

theorem quoteChars_other (h : isWord c = false) (cs : List Char) :
    quoteChars (c :: cs) = '\\' :: c :: quoteChars cs := by
  simp [quoteChars, h]

theorem mem_quoteChars {d : Char} (h : d ∈ quoteChars cs) : d ∈ cs ∨ d = '\\' := by
  obtain ⟨c, hc, hd⟩ := List.mem_flatMap.mp h
  split at hd
  · obtain rfl := List.mem_singleton.mp hd
    exact Or.inl hc
  · rcases List.mem_cons.mp hd with rfl | hd
    · exact Or.inr rfl
    · obtain rfl := List.mem_singleton.mp hd
      exact Or.inl hc

theorem quoteChars_append_word (h : isWord c = true) (cs : List Char) :
    quoteChars (cs ++ [c]) = quoteChars cs ++ [c] := by
  simp [quoteChars, h]

theorem quoteChars_ne_slash (cs : List Char) : quoteChars cs ≠ ['\\'] := by
  cases cs with
  | nil => simp [quoteChars]
  | cons c cs =>
      cases h : isWord c with
      | true =>
          rw [quoteChars_word h]
          intro hslash
          obtain ⟨rfl, -⟩ := List.cons.inj hslash
          cases h
      | false => simp [quoteChars_other h]

theorem isWord_iff : isWord c = true ↔
    (48 ≤ c.toNat ∧ c.toNat ≤ 57) ∨ (65 ≤ c.toNat ∧ c.toNat ≤ 90) ∨ c.toNat = 95 ∨
      (97 ≤ c.toNat ∧ c.toNat ≤ 122) := by
  have hle {d : Char} : d ≤ c ↔ d.toNat ≤ c.toNat := Iff.rfl
  have hge {d : Char} : c ≤ d ↔ c.toNat ≤ d.toNat := Iff.rfl
  have hunderscore : c = '_' ↔ c.toNat = 95 := Char.toNat_inj.symm
  simp only [isWord, isAsciiLetter, isAsciiDigit, Bool.or_eq_true, Bool.and_eq_true, decide_eq_true_eq,
    beq_iff_eq, hle, hge, hunderscore, Char.reduceToNat]
  tauto

theorem isBlank_of_isWord (h : isWord c = true) : Text.isBlank c = false := by
  rw [isWord_iff] at h
  rw [Bool.eq_false_iff]
  intro hblank
  simp only [Text.isBlank, Bool.or_eq_true, Bool.and_eq_true, decide_eq_true_eq, beq_iff_eq] at hblank
  omega

theorem ne_of_isWord (h : isWord c = true) {d : Char} (hd : isWord d = false) : c ≠ d := by
  rintro rfl
  rw [h] at hd
  cases hd

namespace Reader

variable {α β : Type} {t : Token}

theorem run_bind_of_ok {x : Reader α} {f : α → Reader β} {a : α} {r' : Reading}
    (h : x.run r = .ok (a, r')) : (x >>= f).run r = (f a).run r' := by
  rw [StateT.run_bind, h]
  rfl

theorem skip_run (hrest : r.rest = t.chars ++ quoteChars cs) : (skip t).run r =
    .ok ((), { r with rest := quoteChars cs, place := r.place + t.length }) := by
  have hdrop : r.rest.drop t.length = quoteChars cs := by
    rw [hrest, Token.length, List.drop_left]
  unfold skip
  refine (run_bind_of_ok (StateT.run_get r)).trans ?_
  simp only [hdrop, quoteChars_ne_slash cs, if_false]
  rfl

/-! ### Escapes -/

theorem anchorEscape?_eq_none (h : isWord c = false) : anchorEscape? c = none := by
  unfold anchorEscape?
  split
  case h_5 => rfl
  all_goals exact absurd h (by decide)

theorem classEscape?_eq_none (h : isWord c = false) : classEscape? c = none := by
  unfold classEscape?
  split
  case h_7 => rfl
  all_goals exact absurd h (by decide)

/-- Of the characters that are no word characters only the backslash is a control escape, and it stands for
itself. -/
theorem controlEscape?_of_not_isWord (h : isWord c = false) :
    controlEscape? c = if c = '\\' then some c.toNat else none := by
  unfold controlEscape?
  split
  case h_8 => rfl
  case h_9 hslash => rw [if_neg hslash]
  all_goals exact absurd h (by decide)

theorem numericEscape?_eq_none (h : isWord c = false) : numericEscape? c = return none := by
  unfold numericEscape?
  split
  case h_5 => rfl
  all_goals exact absurd h (by decide)

/-- An escaped character that is no word character stands for itself. -/
theorem plainEscape_eq (h : isWord c = false) : plainEscape c = return .code c.toNat := by
  have hletter : isAsciiLetter c = false := by simp_all [isWord]
  have hdigit : isAsciiDigit c = false := by simp_all [isWord]
  have hzero : c ≠ '0' := by
    rintro rfl
    cases h
  unfold plainEscape literalEscape
  rw [anchorEscape?_eq_none h, classEscape?_eq_none h, controlEscape?_of_not_isWord h,
    numericEscape?_eq_none h]
  by_cases hslash : c = '\\'
  · simp [hslash]
  · simp [hslash, hzero, hletter, hdigit]

/-! ### Items -/

/-- The characters that end a sequence of items or are read in another way than as themselves. -/
def special : List Char := ['|', ')', '[', '?', '*', '+', '\x7b', '.', '^', '$', '(']

theorem not_special (h : isWord c = true) : ∀ d ∈ special, c ≠ d := by
  have hall : (special.all fun d => !isWord d) = true := by decide
  intro d hd
  exact ne_of_isWord h (by simpa using List.all_eq_true.mp hall d hd)

theorem token?_word (h : isWord c = true) (hrest : r.rest = c :: cs) : r.token? = some (.plain c) := by
  unfold Reading.token?
  rw [hrest]
  split
  case h_2 hslash => exact absurd (List.cons.inj hslash).1 (ne_of_isWord h (by decide))
  all_goals simp_all

theorem token?_other (hrest : r.rest = '\\' :: c :: cs) : r.token? = some (.escaped c) := by
  unfold Reading.token?
  rw [hrest]
  rfl

theorem items_word (h : isWord c = true) (hrest : r.rest = c :: quoteChars cs) :
    (items (n + 1) false first found).run r =
      (items n false first (.code c.toNat :: found)).run
        { r with rest := quoteChars cs, place := r.place + 1 } := by
  have hspecial := not_special h
  simp only [special, List.forall_mem_cons] at hspecial
  rw [items]
  simp only [peek, StateT.run_bind, StateT.run_get, StateT.run_pure, pure_bind, token?_word h hrest]
  split
  case h_4 t _ _ htoken =>
    obtain rfl := Option.some.inj htoken
    refine (run_bind_of_ok (skip_run hrest)).trans ?_
    simp [hspecial, Token.length, Token.chars]
  all_goals simp_all

theorem items_other (h : isWord c = false) (hrest : r.rest = '\\' :: c :: quoteChars cs) :
    (items (n + 1) false first found).run r =
      (items n false first (.code c.toNat :: found)).run
        { r with rest := quoteChars cs, place := r.place + 2 } := by
  rw [items]
  simp only [peek, StateT.run_bind, StateT.run_get, StateT.run_pure, pure_bind, token?_other hrest,
    skip_run (t := .escaped c) hrest, plainEscape_eq h]
  rfl

theorem items_end (hrest : r.rest = []) :
    (items (n + 1) false first found).run r = .ok (found.reverse, r) := by
  have htoken : r.token? = none := by
    unfold Reading.token?
    rw [hrest]
  rw [items]
  simp only [peek, StateT.run_bind, StateT.run_get, StateT.run_pure, pure_bind, htoken]
  rfl

/-- All characters are read, one item for each of them. -/
theorem items_quoteChars (cs : List Char) (hn : cs.length < n) (hrest : r.rest = quoteChars cs) :
    (items n false first found).run r =
      .ok (found.reverse ++ codes cs, { r with rest := [], place := r.place + (quoteChars cs).length }) := by
  induction cs generalizing n r found with
  | nil =>
      obtain ⟨n, rfl⟩ := Nat.exists_eq_add_one_of_ne_zero (Nat.ne_of_gt hn)
      obtain ⟨rest, place⟩ := r
      obtain rfl : rest = [] := hrest
      rw [items_end rfl]
      simp [codes, quoteChars]
  | cons c cs ih =>
      obtain ⟨n, rfl⟩ := Nat.exists_eq_add_one_of_ne_zero (Nat.ne_of_gt (Nat.zero_lt_of_lt hn))
      have hlength : cs.length < n := Nat.lt_of_succ_lt_succ hn
      cases h : isWord c with
      | true =>
          rw [quoteChars_word h] at hrest ⊢
          rw [items_word h hrest, ih hlength rfl]
          simp [codes]
          omega
      | false =>
          rw [quoteChars_other h] at hrest ⊢
          rw [items_other h hrest, ih hlength rfl]
          simp [codes]
          omega

theorem unwrapped_codes (cs : List Char) : unwrapped (codes cs) = codes cs := by
  simp [unwrapped, codes, List.flatMap_map, ← List.map_eq_flatMap]

theorem length_le_quoteChars (cs : List Char) : cs.length ≤ (quoteChars cs).length := by
  induction cs with
  | nil => exact Nat.le_refl _
  | cons c cs ih =>
      cases h : isWord c with
      | true => simpa [quoteChars_word h] using ih
      | false =>
          simp [quoteChars_other h]
          omega

theorem alternatives_quoteChars (cs : List Char) (hn : cs.length < n) (hrest : r.rest = quoteChars cs) :
    (alternatives (n + 1) false true []).run r =
      .ok (.ofItems (codes cs), { r with rest := [], place := r.place + (quoteChars cs).length }) := by
  rw [alternatives]
  refine (run_bind_of_ok (items_quoteChars cs hn hrest)).trans ?_
  simp [takeIf, peek, Reading.token?, unwrapped_codes, choice]
  rfl

/-- The whole of a quoted text is read. -/
theorem whole_quoteChars (cs : List Char) : (whole.run { rest := quoteChars cs }) =
    .ok (.ofItems (codes cs), { rest := [], place := (quoteChars cs).length }) := by
  have hlength := length_le_quoteChars cs
  have hread := alternatives_quoteChars (n := 4 * (quoteChars cs).length + 3) (r := { rest := quoteChars cs })
    cs (by omega) rfl
  unfold whole
  simp [quoteChars_ne_slash cs, hread, Reading.token?]
  rfl

end Reader

/-! ## Compiling -/

theorem obstacle?_codes (template : Bool) (cs : List Char) :
    (Node.ofItems (codes cs)).obstacle? template = none := by
  induction cs with
  | nil => rfl
  | cons c cs ih =>
      cases cs with
      | nil => rfl
      | cons d cs => exact ih

/-- A quoted text compiles to the expression that stands for the text. -/
theorem compile?_quote (s : String) : Pattern.compile? (quote s) = .ok (literal s) := by
  unfold Pattern.compile? quote
  rw [String.toList_ofList, Reader.whole_quoteChars]
  simp [bind, Except.bind, obstacle?_codes]
  rfl

/-! ## Matching -/

variable {f : Flags} {spot : Spot} {k : Continuation}

/-- The spot behind some of the characters that come next. -/
def Spot.over (spot : Spot) (matched rest : List Char) : Spot :=
  { spot with before := matched.reverse ++ spot.before, after := rest, place := spot.place + matched.length }

theorem Spot.over_cons (spot : Spot) (c : Char) (after matched rest : List Char) :
    Spot.over { spot with before := c :: spot.before, after, place := spot.place + 1 } matched rest =
      spot.over (c :: matched) rest := by
  simp [Spot.over]
  omega

theorem run_ofItems_cons (node : Node) (nodes : List Node) :
    (Node.ofItems (node :: nodes)).run f spot k =
      node.run f spot fun s => (Node.ofItems nodes).run f s k := by
  cases nodes <;> rfl

/-- Single characters match exactly as many characters, one by one. -/
theorem run_codes (cs : List Char) : ((Node.ofItems (codes cs)).run f spot k).isSome = true ↔
    ∃ matched rest, spot.after = matched ++ rest ∧
      List.Forall₂ (fun c d => f.same c.toNat d = true) cs matched ∧
      (k (spot.over matched rest)).isSome = true := by
  induction cs generalizing spot with
  | nil =>
      constructor
      · intro h
        exact ⟨[], spot.after, rfl, .nil, h⟩
      · rintro ⟨_, rest, hafter, ⟨⟩, h⟩
        obtain rfl : spot.after = rest := hafter
        exact h
  | cons c cs ih =>
      rw [codes, List.map_cons, run_ofItems_cons, ← codes]
      simp only [Node.run, Spot.step]
      constructor
      · intro h
        split at h
        · cases h
        · rename_i d after hafter
          split at h
          · rename_i hsame
            obtain ⟨matched, rest, rfl, hmatched, hk⟩ := ih.mp h
            rw [Spot.over_cons] at hk
            exact ⟨d :: matched, rest, hafter, .cons hsame hmatched, hk⟩
          · cases h
      · rintro ⟨_, rest, hafter, hmatched, hk⟩
        cases hmatched with
        | @cons _ d _ matched hsame hmatched =>
            rw [hafter]
            simp only [List.cons_append, hsame, if_true]
            rw [← Spot.over_cons spot d (matched ++ rest)] at hk
            exact ih.mpr ⟨matched, rest, rfl, hmatched, hk⟩

/-- The expression that stands for a text matches the texts that have the same characters one by one, as far as
they are told apart when case is ignored. -/
theorem matchesAll_literal {s text : String} : (literal s).matchesAll text = true ↔
    List.Forall₂ (fun c d => Flags.same { ignoreCase := true } c.toNat d = true) s.toList text.toList := by
  unfold matchesAll literal
  rw [run_codes]
  constructor
  · rintro ⟨matched, rest, htext, hmatched, hend⟩
    have hrest : rest = [] := by
      by_contra hne
      simp [Spot.over, hne] at hend
    obtain rfl : text.toList = matched := by
      rw [hrest, List.append_nil] at htext
      exact htext
    exact hmatched
  · intro h
    exact ⟨text.toList, [], (List.append_nil _).symm, h, rfl⟩

/-! ## ASCII characters -/

/-- An ASCII character has its small letter in the first row of letters or stands beside all rows. -/
theorem small_of_ascii {m : Nat} (h : m < 128) : Text.small m = asciiSmall m := by
  revert m
  decide +kernel

/-- Among ASCII characters a small letter shares its capital with no other one. -/
theorem siblings_of_ascii {m : Nat} (h : m < 128) : (Text.siblings m).filter (· < 128) = [m] := by
  revert m
  decide +kernel

theorem asciiSmall_lt {m : Nat} (h : m < 128) : asciiSmall m < 128 := by
  unfold asciiSmall
  split
  · rename_i hcapital
    simp only [Bool.and_eq_true, decide_eq_true_eq] at hcapital
    omega
  · exact h

theorem asciiSmall_toNat (c : Char) : asciiSmall c.toNat = c.toLower.toNat := by
  unfold asciiSmall
  simp only [Bool.and_eq_true, decide_eq_true_eq]
  rcases Text.toLower_cases c with ⟨hlo, hhi, h⟩ | ⟨hout, h⟩
  · rw [if_pos ⟨hlo, hhi⟩, h]
  · rw [if_neg (by omega), h]

/-- ASCII characters are told apart by their small letters. -/
theorem same_of_ascii {d : Char} (hc : c.toNat < 128) (hd : d.toNat < 128) :
    Flags.same { ignoreCase := true } c.toNat d = true ↔ c.toLower = d.toLower := by
  have hsiblings : (Text.siblings (asciiSmall c.toNat)).contains (asciiSmall d.toNat) = true ↔
      asciiSmall c.toNat = asciiSmall d.toNat := by
    have hfilter := siblings_of_ascii (asciiSmall_lt hc)
    have hmem : asciiSmall d.toNat ∈ (Text.siblings (asciiSmall c.toNat)).filter (· < 128) ↔
        asciiSmall d.toNat ∈ Text.siblings (asciiSmall c.toNat) := by
      simp [asciiSmall_lt hd]
    rw [List.contains_iff_mem, ← hmem, hfilter, List.mem_singleton, eq_comm]
  unfold Flags.same Flags.fold
  simp only [if_true, Bool.false_eq_true, if_false, small_of_ascii hc, small_of_ascii hd, Bool.not_false,
    Bool.and_true, Bool.true_and, Bool.or_eq_true, beq_iff_eq, hsiblings, or_self]
  rw [asciiSmall_toNat, asciiSmall_toNat, Char.toNat_inj]

theorem forall₂_same_of_ascii {ds : List Char} (hcs : ∀ c ∈ cs, c.toNat < 128)
    (hds : ∀ d ∈ ds, d.toNat < 128) :
    List.Forall₂ (fun c d => Flags.same { ignoreCase := true } c.toNat d = true) cs ds ↔
      cs.map Char.toLower = ds.map Char.toLower := by
  induction cs generalizing ds with
  | nil => cases ds <;> simp
  | cons c cs ih =>
      cases ds with
      | nil => simp
      | cons d ds =>
          rw [List.forall_mem_cons] at hcs hds
          rw [List.forall₂_cons, same_of_ascii hcs.1 hds.1, ih hcs.2 hds.2, List.map_cons, List.map_cons,
            List.cons.injEq]

/-- The expression that stands for an ASCII text matches, among ASCII texts, those that are equal to it when the
case of letters does not count. -/
theorem matchesAll_literal_of_ascii {s text : String} (hs : ∀ c ∈ s.toList, c.toNat < 128)
    (htext : ∀ c ∈ text.toList, c.toNat < 128) :
    (literal s).matchesAll text = true ↔ s.toList.map Char.toLower = text.toList.map Char.toLower := by
  rw [matchesAll_literal, forall₂_same_of_ascii hs htext]

end CaptureConfig.Pattern
