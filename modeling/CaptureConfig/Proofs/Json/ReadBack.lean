import CaptureConfig.Proofs.Assoc
import CaptureConfig.Proofs.Json.Number
import CaptureConfig.Proofs.Json.Quote
import CaptureConfig.Proofs.Text.Split
import Mathlib.Data.Bool.AllAny

/-!
# Values that are read back

A value without floating-point numbers, whose integers do not have too many digits and whose objects do not have
two members of one name, is written in printable ASCII on one line and read back as it is. Writing spells the
tokens of the value, and reading puts the value together from them.
-/

namespace CaptureConfig.Json

/-! ## The values that are read back -/

mutual

/-- Nothing is lost when the value is written. -/
def Exact : Json → Prop
  | .null => True
  | .bool _ => True
  | .int i => Text.Writable i
  | .float _ => False
  | .text _ => True
  | .array xs => ExactAll xs
  | .object members => (members.map Prod.fst).Nodup ∧ ExactMembers members

/-- Nothing is lost when one of the values is written. -/
def ExactAll : List Json → Prop
  | [] => True
  | x :: xs => x.Exact ∧ ExactAll xs

/-- Nothing is lost when one of the members is written. -/
def ExactMembers : List (String × Json) → Prop
  | [] => True
  | (_, x) :: rest => x.Exact ∧ ExactMembers rest

end

mutual

/-- The tokens of a value as it is written. -/
def tokens : Json → List Token
  | .text s => [.text s]
  | .array xs => .leftBracket :: ([Token.comma].intercalate (tokensAll xs) ++ [.rightBracket])
  | .object members => .leftBrace :: ([Token.comma].intercalate (tokensMembers members) ++ [.rightBrace])
  | x => [.word x.compact.toList]

/-- The tokens of each value. -/
def tokensAll : List Json → List (List Token)
  | [] => []
  | x :: xs => x.tokens :: tokensAll xs

/-- The tokens of each member. -/
def tokensMembers : List (String × Json) → List (List Token)
  | [] => []
  | (name, x) :: rest => (.text name :: .colon :: x.tokens) :: tokensMembers rest

end

theorem exactMembers_iff {members : List (String × Json)} :
    ExactMembers members ↔ ∀ e ∈ members, e.2.Exact := by
  induction members with
  | nil => simp [ExactMembers]
  | cons e rest ih => simp [ExactMembers, ih]

/-! ## Spelling tokens -/

/-- What follows does not go on with a word. -/
def EndsWord (cs : List Char) : Prop := ∀ c ∈ cs.head?, isWordChar c = false

/-- The text is cut into the tokens, whatever follows that ends a word. -/
def Spells (s : String) (ts : List Token) : Prop :=
  ∀ rest us, EndsWord rest → tokens? .between rest = some us →
    tokens? .between (s.toList ++ rest) = some (ts ++ us)

theorem endsWord_cons {c : Char} (h : isWordChar c = false) (cs : List Char) : EndsWord (c :: cs) := by
  intro d hd
  obtain rfl := Option.some.inj hd
  exact h

section Tokens

variable {cs rest done w : List Char} {us : List Token}

theorem tokens?_mark {c : Char} {t : Token} (h : begin c = ([t], .between))
    (hcs : tokens? .between cs = some us) : tokens? .between (c :: cs) = some (t :: us) := by
  simp [tokens?, step, h, hcs]

theorem tokens?_space (cs : List Char) : tokens? .between (' ' :: cs) = tokens? .between cs := by
  have hspace : begin ' ' = ([], .between) := by decide
  simp [tokens?, step, hspace]

/-- A character that is not of a word ends the word and is read as if none had begun. -/
theorem tokens?_word_end {c : Char} (h : isWordChar c = false) (hcs : tokens? .between (c :: cs) = some us) :
    tokens? (.word done) (c :: cs) = some (.word done :: us) := by
  simp only [tokens?, step, h, Option.bind_eq_bind, Option.bind_some] at hcs ⊢
  obtain ⟨vs, hvs, hus⟩ := Option.bind_eq_some_iff.mp hcs
  obtain rfl := Option.some.inj hus
  simp [hvs]

/-- A word goes on to the first character that is not of a word. -/
theorem tokens?_word (hw : ∀ c ∈ w, isWordChar c = true) (hrest : EndsWord rest)
    (hus : tokens? .between rest = some us) :
    tokens? (.word done) (w ++ rest) = some (.word (done ++ w) :: us) := by
  induction w generalizing done with
  | nil =>
      rw [List.nil_append, List.append_nil]
      cases rest with
      | nil =>
          obtain rfl := Option.some.inj hus
          rfl
      | cons c rest => exact tokens?_word_end (hrest c rfl) hus
  | cons c w ih =>
      rw [List.forall_mem_cons] at hw
      simp [tokens?, step, hw.1, ih hw.2]

theorem begin_of_isWordChar {c : Char} (h : isWordChar c = true) : begin c = ([], .word [c]) := by
  simp only [isWordChar, Bool.and_eq_true, Bool.not_eq_true', bne_iff_ne, Option.isNone_iff_eq_none] at h
  obtain ⟨⟨hspace, hquote⟩, hmark⟩ := h
  simp [begin, hspace, hquote, hmark]

end Tokens

theorem spells_word {s : String} (hne : s ≠ "") (hs : s.toList.all isWordChar = true) :
    Spells s [.word s.toList] := by
  intro rest us hrest hus
  obtain ⟨c, w, hw⟩ := List.exists_cons_of_ne_nil (mt String.toList_eq_nil_iff.mp hne)
  rw [hw, List.all_eq_true, List.forall_mem_cons] at hs
  have hword : tokens? (.word [c]) (w ++ rest) = some (.word (c :: w) :: us) := tokens?_word hs.2 hrest hus
  rw [hw]
  simpa [tokens?, step, begin_of_isWordChar hs.1] using hword

/-- Quotes are closed by the quote behind the escaped text and by nothing in it. -/
theorem spells_quote (s : String) : Spells (quote s) [.text s] := by
  intro rest us _ hus
  have hopen : begin '"' = ([], .quotes []) := by decide
  have hinner := inner_flatMap_escapeChar s.toList [] ('"' :: rest)
  rw [quote, String.toList_ofList]
  simp [tokens?, step, hopen, hinner, quoted?_flatMap_escapeChar, hus]

/-- Texts with a comma and a space between them spell their tokens with commas between them. -/
theorem spells_intercalate {words : List String} {tss : List (List Token)}
    (h : List.Forall₂ Spells words tss) :
    Spells (String.intercalate ", " words) ([Token.comma].intercalate tss) := by
  induction h with
  | nil =>
      intro rest us _ hus
      simpa using hus
  | @cons w ts words tss hw hwords ih =>
      intro rest us hrest hus
      cases hwords with
      | nil =>
          rw [String.intercalate_singleton, List.intercalate_singleton]
          exact hw rest us hrest hus
      | cons hw' hwords' =>
          have hcomma : begin ',' = ([.comma], .between) := by decide
          have hrest' := tokens?_mark hcomma ((tokens?_space _).trans (ih rest us hrest hus))
          have hfirst := hw _ _ (endsWord_cons (by decide) _) hrest'
          rw [String.intercalate_cons_cons, List.intercalate_cons_cons]
          simpa using hfirst

/-- Texts between brackets spell the tokens of the brackets around theirs. -/
theorem spells_bracketed {left right : String} {c d : Char} {l r : Token} {words : List String}
    {tss : List (List Token)} (hleft : left.toList = [c]) (hl : begin c = ([l], .between))
    (hright : right.toList = [d]) (hr : begin d = ([r], .between)) (hend : isWordChar d = false)
    (h : List.Forall₂ Spells words tss) :
    Spells (Datum.bracketed left right words) (l :: ([Token.comma].intercalate tss ++ [r])) := by
  intro rest us _ hus
  have hinner := spells_intercalate h _ _ (endsWord_cons hend rest) (tokens?_mark hr hus)
  have hall := tokens?_mark hl hinner
  simpa [Datum.bracketed, hleft, hright] using hall

/-! ## Writing a value -/

theorem isWordChar_of_isDigit {c : Char} (h : c.isDigit = true) : isWordChar c = true := by
  have hmark : mark? c = none := by
    unfold mark?
    split
    case h_7 => rfl
    all_goals cases h
  have hspace : isSpace c = false := by
    simp [isSpace, isDigit_ne h (x := ' ') (by decide), isDigit_ne h (x := '\t') (by decide),
      isDigit_ne h (x := '\n') (by decide), isDigit_ne h (x := '\r') (by decide)]
  simp [isWordChar, hmark, hspace, isDigit_ne h (x := '"') (by decide)]

theorem showInteger_ne_empty (i : Int) : Text.showInteger i ≠ "" := by
  cases i with
  | ofNat n =>
      rw [Text.showInteger, ne_eq, String.ofList_eq_empty_iff]
      exact Text.decimalChars_ne_nil n
  | negSucc n => simp [Text.showInteger]

theorem spells_showInteger (i : Int) : Spells (Text.showInteger i) [.word (Text.showInteger i).toList] := by
  refine spells_word (showInteger_ne_empty i) (List.all_eq_true.mpr fun c hc => ?_)
  rcases mem_showInteger hc with rfl | hdigit
  · decide
  · exact isWordChar_of_isDigit hdigit

theorem spells_array {words : List String} {tss : List (List Token)} (h : List.Forall₂ Spells words tss) :
    Spells (Datum.bracketed "[" "]" words)
      (.leftBracket :: ([Token.comma].intercalate tss ++ [.rightBracket])) := by
  have hopen : begin '[' = ([.leftBracket], .between) := by decide
  have hclose : begin ']' = ([.rightBracket], .between) := by decide
  exact spells_bracketed (by decide) hopen (by decide) hclose (by decide) h

theorem spells_object {words : List String} {tss : List (List Token)} (h : List.Forall₂ Spells words tss) :
    Spells (Datum.bracketed "\x7b" "\x7d" words)
      (.leftBrace :: ([Token.comma].intercalate tss ++ [.rightBrace])) := by
  have hopen : begin '\x7b' = ([.leftBrace], .between) := by decide
  have hclose : begin '\x7d' = ([.rightBrace], .between) := by decide
  exact spells_bracketed (by decide) hopen (by decide) hclose (by decide) h

theorem spells_member {name value : String} {ts : List Token} (h : Spells value ts) :
    Spells (quote name ++ ": " ++ value) (.text name :: .colon :: ts) := by
  intro rest us hrest hus
  have hcolon : begin ':' = ([.colon], .between) := by decide
  have hvalue := tokens?_mark hcolon ((tokens?_space _).trans (h rest us hrest hus))
  have hname := spells_quote name _ _ (endsWord_cons (by decide) _) hvalue
  simpa using hname

mutual

/-- A value is written as its tokens. -/
theorem spells_compact : ∀ x : Json, x.Exact → Spells x.compact x.tokens
  | .null, _ => spells_word (by decide) (by decide)
  | .bool true, _ => spells_word (by decide) (by decide)
  | .bool false, _ => spells_word (by decide) (by decide)
  | .int i, _ => spells_showInteger i
  | .text s, _ => spells_quote s
  | .array xs, h => spells_array (spells_compactAll xs h)
  | .object members, h => spells_object (spells_compactMembers members h.2)

theorem spells_compactAll : ∀ xs : List Json, ExactAll xs →
    List.Forall₂ Spells (compactAll xs) (tokensAll xs)
  | [], _ => .nil
  | x :: xs, h => .cons (spells_compact x h.1) (spells_compactAll xs h.2)

theorem spells_compactMembers : ∀ members : List (String × Json), ExactMembers members →
    List.Forall₂ Spells (compactMembers members) (tokensMembers members)
  | [], _ => .nil
  | (_, x) :: rest, h => .cons (spells_member (spells_compact x h.1)) (spells_compactMembers rest h.2)

end

/-! ## Printable values -/

theorem printable_of_all {s : String} (h : s.toList.all fun c => Printable c) :
    ∀ c ∈ s.toList, Printable c :=
  List.all_iff_forall_prop.mp h

theorem printable_showInteger (i : Int) : ∀ c ∈ (Text.showInteger i).toList, Printable c := by
  intro c hc
  rcases mem_showInteger hc with rfl | hdigit
  · decide
  · have hzero : '0'.val.toNat = 48 := by decide
    have hnine : '9'.val.toNat = 57 := by decide
    have hvalue : c.val.toNat = c.toNat := rfl
    simp only [Char.isDigit, Bool.and_eq_true, decide_eq_true_eq, ge_iff_le, UInt32.le_iff_toNat_le] at hdigit
    exact ⟨by omega, by omega⟩

theorem printable_bracketed {left right : String} {words : List String}
    (hleft : left.toList.all fun c => Printable c) (hright : right.toList.all fun c => Printable c)
    (h : ∀ word ∈ words, ∀ c ∈ word.toList, Printable c) :
    ∀ c ∈ (Datum.bracketed left right words).toList, Printable c := by
  have hbetween : ∀ c ∈ ", ".toList, Printable c := printable_of_all (by decide)
  intro c hc
  simp only [Datum.bracketed, String.toList_append, List.mem_append] at hc
  rcases hc with (hc | hc) | hc
  · exact printable_of_all hleft c hc
  · rcases Text.mem_of_mem_intercalate hc with hc | ⟨word, hword, hc⟩
    · exact hbetween c hc
    · exact h word hword c hc
  · exact printable_of_all hright c hc

mutual

/-- A value is written in printable ASCII. -/
theorem printable_compact : ∀ x : Json, x.Exact → ∀ c ∈ x.compact.toList, Printable c
  | .null, _ => printable_of_all (by decide)
  | .bool true, _ => printable_of_all (by decide)
  | .bool false, _ => printable_of_all (by decide)
  | .int i, _ => printable_showInteger i
  | .text s, _ => printable_quote s
  | .array xs, h => printable_bracketed (by decide) (by decide) (printable_compactAll xs h)
  | .object members, h => printable_bracketed (by decide) (by decide) (printable_compactMembers members h.2)

theorem printable_compactAll : ∀ xs : List Json, ExactAll xs →
    ∀ word ∈ compactAll xs, ∀ c ∈ word.toList, Printable c
  | [], _ => nofun
  | x :: xs, h => by
      rw [compactAll, List.forall_mem_cons]
      exact ⟨printable_compact x h.1, printable_compactAll xs h.2⟩

theorem printable_compactMembers : ∀ members : List (String × Json), ExactMembers members →
    ∀ word ∈ compactMembers members, ∀ c ∈ word.toList, Printable c
  | [], _ => nofun
  | (name, x) :: rest, h => by
      have hbetween : ∀ c ∈ ": ".toList, Printable c := printable_of_all (by decide)
      rw [compactMembers, List.forall_mem_cons]
      refine ⟨fun c hc => ?_, printable_compactMembers rest h.2⟩
      simp only [String.toList_append, List.mem_append] at hc
      rcases hc with (hc | hc) | hc
      · exact printable_quote name c hc
      · exact hbetween c hc
      · exact printable_compact x h.1 c hc

end

/-! ## Reading a value -/

/-- The tokens of a value do not begin with the end of an array. -/
theorem tokens_eq_cons (x : Json) : ∃ t ts, x.tokens = t :: ts ∧ t ≠ .rightBracket := by
  cases x <;> exact ⟨_, _, rfl, by simp⟩

/-- An array with a value in it is read from that value on. -/
theorem value?_array (frames : List Frame) (x : Json) (us : List Token) :
    value? frames (.leftBracket :: (x.tokens ++ us)) = value? (.array [] :: frames) (x.tokens ++ us) := by
  obtain ⟨t, ts, hts, hbracket⟩ := tokens_eq_cons x
  rw [hts, List.cons_append, value?]
  rintro us' heq
  exact hbracket (List.cons.inj heq).1

/-- An object with a member in it is read from that member on. -/
theorem value?_object (frames : List Frame) (name : String) (us : List Token) :
    value? frames (.leftBrace :: .text name :: us) = nextMember? frames [] (.text name :: us) := by
  rw [value?]
  nofun

theorem value?_word {cs : List Char} {x : Json} (h : wordValue? cs = some x) (frames : List Frame)
    (ts : List Token) : value? frames (.word cs :: ts) = after? frames x ts := by
  rw [value?, h]
  rfl

theorem wordValue?_constant {name : String} {x : Json} (h : constants.lookup name = some x) :
    wordValue? name.toList = some x := by
  rw [wordValue?, String.ofList_toList, h]

theorem intercalate_eq_append (sep ts : List Token) (tss : List (List Token)) :
    ∃ us, sep.intercalate (ts :: tss) = ts ++ us := by
  cases tss with
  | nil => exact ⟨[], by rw [List.intercalate_singleton, List.append_nil]⟩
  | cons ts' tss => exact ⟨_, by rw [List.intercalate_cons_cons, List.append_assoc]⟩

mutual

/-- The tokens of a value are read as the value, whatever frames it stands in. -/
theorem value?_tokens : ∀ x : Json, x.Exact → ∀ frames ts,
    value? frames (x.tokens ++ ts) = after? frames x ts
  | .null, _, frames, ts => value?_word (wordValue?_constant rfl) frames ts
  | .bool true, _, frames, ts => value?_word (wordValue?_constant rfl) frames ts
  | .bool false, _, frames, ts => value?_word (wordValue?_constant rfl) frames ts
  | .int _, h, frames, ts => value?_word (wordValue?_showInteger h) frames ts
  | .text _, _, _, _ => by rw [tokens, List.singleton_append, value?]
  | .array [], _, _, _ => by simp [tokens, tokensAll, value?]
  | .array (x :: xs), h, frames, ts => by
      have hall := value?_tokensAll (x :: xs) (by simp) h [] frames ts
      obtain ⟨us, hus⟩ := intercalate_eq_append [.comma] x.tokens (tokensAll xs)
      rw [tokensAll, hus, List.append_assoc] at hall
      rw [tokens, tokensAll, hus, List.cons_append, List.append_assoc, List.append_assoc,
        List.singleton_append, value?_array, hall, List.nil_append]
  | .object [], _, _, _ => by simp [tokens, tokensMembers, value?]
  | .object ((name, x) :: rest), h, frames, ts => by
      have hall := nextMember?_tokensMembers ((name, x) :: rest) (by simp) h.2 [] frames ts
      obtain ⟨us, hus⟩ := intercalate_eq_append [.comma] (.text name :: .colon :: x.tokens)
        (tokensMembers rest)
      have hmembers : Assoc.insertAll [] ((name, x) :: rest) = (name, x) :: rest :=
        Assoc.ofPairs_of_nodup h.1
      rw [tokensMembers, hus, List.append_assoc, List.cons_append, hmembers] at hall
      rw [tokens, tokensMembers, hus, List.cons_append, List.append_assoc, List.append_assoc,
        List.singleton_append, List.cons_append, value?_object, hall]

/-- In an array the values that are left follow those that are read already. -/
theorem value?_tokensAll : ∀ xs : List Json, xs ≠ [] → ExactAll xs → ∀ done frames ts,
    value? (.array done :: frames) ([Token.comma].intercalate (tokensAll xs) ++ .rightBracket :: ts) =
      after? frames (.array (done ++ xs)) ts
  | [], hne, _, _, _, _ => absurd rfl hne
  | [x], _, h, done, frames, ts => by
      rw [tokensAll, tokensAll, List.intercalate_singleton, value?_tokens x h.1, after?]
  | x :: y :: xs, _, h, done, frames, ts => by
      have hrest := value?_tokensAll (y :: xs) (by simp) h.2 (done ++ [x]) frames ts
      rw [tokensAll] at hrest
      rw [tokensAll, tokensAll, List.intercalate_cons_cons, List.append_assoc, List.append_assoc,
        value?_tokens x h.1, List.singleton_append, after?, hrest, List.append_assoc, List.singleton_append]

/-- In an object the members that are left are put over those that are read already. -/
theorem nextMember?_tokensMembers : ∀ members : List (String × Json), members ≠ [] → ExactMembers members →
    ∀ done frames ts,
      nextMember? frames done ([Token.comma].intercalate (tokensMembers members) ++ .rightBrace :: ts) =
        after? frames (.object (Assoc.insertAll done members)) ts
  | [], hne, _, _, _, _ => absurd rfl hne
  | [(name, x)], _, h, done, frames, ts => by
      rw [tokensMembers, tokensMembers, List.intercalate_singleton, List.cons_append, List.cons_append, nextMember?,
        value?_tokens x h.1, after?]
      rfl
  | (name, x) :: (name', y) :: rest, _, h, done, frames, ts => by
      have hrest := nextMember?_tokensMembers ((name', y) :: rest) (by simp) h.2 (Assoc.insert name x done) frames ts
      rw [tokensMembers] at hrest
      rw [tokensMembers, tokensMembers, List.intercalate_cons_cons, List.append_assoc, List.append_assoc,
        List.cons_append, List.cons_append, nextMember?, value?_tokens x h.1, List.singleton_append, after?, hrest]
      rfl

end

/-- **What is written on one line is read back.** -/
theorem read?_compact {x : Json} (h : x.Exact) : read? x.compact = some x := by
  have htokens : tokens? .between x.compact.toList = some x.tokens := by
    simpa using spells_compact x h [] [] nofun rfl
  have hvalue : value? [] x.tokens = some x := by
    simpa [after?] using value?_tokens x h [] []
  rw [read?, htokens]
  exact hvalue

end CaptureConfig.Json
