import CaptureConfig.Command.Switch
import CaptureConfig.Text.Character
import CaptureConfig.Text.Quoted
import CaptureConfig.Text.Split

/-!
# The arguments of the command

Arguments are words. A word that begins with a dash is a switch, which may be shortened as long as it is
clear which one is meant; a value may be joined to it. Two dashes alone make all words after them plain.
First every word is told apart, then the words are used up from left to right.
-/

namespace CaptureConfig.Command

/-- The arguments of the command. -/
structure Arguments where
  file : String
  /-- The options given for the connector, as they are written. -/
  items : List String := []
  level : Option String := none
  showsResolved : Bool := false
deriving Repr, DecidableEq

/-- Why words are not arguments of the command. -/
inductive UsageFault where
  | ambiguous (word : String) (spellings : List String)
  | noValue (s : Switch)
  | needlessValue (s : Switch) (value : String)
  | unknownLevel (value : String)
  | noFile
  | unknownWords (words : List String)
deriving Repr, DecidableEq

/-- The wording of a fault. -/
def UsageFault.message : UsageFault → String
  | .ambiguous word spellings =>
    "ambiguous option: " ++ word ++ " could match " ++ String.intercalate ", " spellings
  | .noValue s => "argument " ++ s.title ++ ": expected one argument"
  | .needlessValue s value =>
    "argument " ++ s.title ++ ": ignored explicit argument " ++ Text.quoted value
  | .unknownLevel value =>
    "argument " ++ Switch.level.title ++ ": invalid choice: " ++ Text.quoted value ++
      " (choose from " ++ String.intercalate ", " (Level.all.map fun l => Text.quoted l.name) ++ ")"
  | .noFile => "the following arguments are required: config_file"
  | .unknownWords words => "unrecognized arguments: " ++ String.intercalate " " words

/-- Why there is nothing to be done: help is asked for, or the words are no arguments. -/
inductive Stop where
  | help
  | usage (fault : UsageFault)
deriving Repr, DecidableEq

/-- A value that is joined to a switch. -/
structure Joined where
  /-- Whether an equals sign stands before the value. -/
  marked : Bool
  value : String
deriving Repr, DecidableEq

/-- A word, told apart. -/
inductive Word where
  | plain (text : String)
  /-- Two dashes, after which all words are plain. -/
  | dashes
  | switch (s : Switch) (spelling : String) (joined : Option Joined)
  | unknown (text : String)
deriving Repr, DecidableEq

namespace Word

/-- Whether a word is taken for a switch. -/
def isSwitch : Word → Bool
  | .switch _ _ _ => true
  | .unknown _ => true
  | _ => false

/-- A negative number. -/
def isNegativeNumber (text : String) : Bool :=
  let isDigit (c : Char) : Bool := Text.isDigitCode c.toNat
  match text.toList with
  | '-' :: cs =>
    let body := if cs.getLast? == some '\n' then cs.dropLast else cs
    match body.dropWhile isDigit with
    | [] => !body.isEmpty
    | '.' :: fraction => !fraction.isEmpty && fraction.all isDigit
    | _ => false
  | _ => false

/-- The switches that a word with two dashes may be short for, cut at an equals sign. -/
def longMatches (text : String) : List Word :=
  let (lead, joined) : String × Option Joined := match Text.cut? '=' text with
    | some (lead, value) => (lead, some ⟨true, value⟩)
    | none => (text, none)
  (Switch.spellings.filter fun (name, _) => lead.toList.isPrefixOf name.toList).map
    fun (name, s) => .switch s name joined

/-- The switches that a word with one dash may be short for: one of a single letter that a value is
joined to, or a longer one. -/
def shortMatches (text : String) : List Word :=
  let letter := String.ofList (text.toList.take 2)
  let value := String.ofList (text.toList.drop 2)
  Switch.spellings.filterMap fun (name, s) =>
    if name = letter then some (.switch s name (some ⟨false, value⟩))
    else if text.toList.isPrefixOf name.toList then some (.switch s name none)
    else none

/-- The spelling of a switch. -/
def spelling : Word → String
  | .switch _ name _ => name
  | .plain text => text
  | .unknown text => text
  | .dashes => "--"

/-- A word with a dash that is not the spelling of a switch. -/
def ofShortened (text : String) : Except Stop Word :=
  let found := if "--".toList.isPrefixOf text.toList then longMatches text else shortMatches text
  match found with
  | [word] => .ok word
  | _ :: _ :: _ => .error (.usage (.ambiguous text (found.map spelling)))
  | [] =>
    .ok (if isNegativeNumber text || text.toList.contains ' ' then .plain text else .unknown text)

/-- Tells a word apart. -/
def ofText (text : String) : Except Stop Word :=
  match text.toList with
  | '-' :: _ :: _ =>
    match Switch.spelled? text with
    | some s => .ok (.switch s text none)
    | none =>
      match Text.cut? '=' text with
      | some (name, value) =>
        match Switch.spelled? name with
        | some s => .ok (.switch s name (some ⟨true, value⟩))
        | none => ofShortened text
      | none => ofShortened text
  | _ => .ok (.plain text)

/-- Tells words apart. -/
def ofTexts : List String → Except Stop (List Word)
  | [] => .ok []
  | text :: rest =>
    if text = "--" then .ok (.dashes :: rest.map .plain)
    else do
      let word ← ofText text
      return word :: (← ofTexts rest)

end Word

/-- What is known while words are used up. -/
structure Parsing where
  rest : List Word
  file : Option String := none
  items : List String := []
  level : Option String := none
  showsResolved : Bool := false
  /-- The words that nothing could be done with. -/
  left : List String := []

/-- A step of using words up. -/
abbrev Parser := StateT Parsing (Except Stop)

namespace Parser

/-- Leaves words over. -/
def leave (words : List String) : Parser Unit := modify fun p => { p with left := p.left ++ words }

/-- The value after a switch. -/
def valueAfter (s : Switch) : Parser String := do
  match (← get).rest with
  | .plain text :: rest =>
    modify fun p => { p with rest }
    return text
  | _ => throw (.usage (.noValue s))

/-- Whether a switch is spelled with one dash. -/
def isShort (spelling : String) : Bool := !("--".toList.isPrefixOf spelling.toList)

/-- The value at the end of joined letters, if there is one. -/
def joinedTail : List Char → Option Joined
  | [] => none
  | '=' :: cs => some ⟨true, String.ofList cs⟩
  | cs => some ⟨false, String.ofList cs⟩

/-- The switches that a word stands for, with their values: several switches of one letter can share a
dash. The first argument bounds their number. -/
def uses : Nat → Switch → String → Option Joined → Parser (List (Switch × String))
  | 0, _, _, _ => return []
  | n + 1, s, spelling, joined => do
    match joined with
    | none =>
      let value ← if s.takesValue then valueAfter s else pure ""
      return [(s, value)]
    | some ⟨marked, value⟩ =>
      if s.takesValue then return [(s, value)]
      else match isShort spelling, value.toList with
        | true, c :: cs =>
          if marked || c == '-' then throw (.usage (.needlessValue s value))
          let letter := String.ofList ['-', c]
          match Switch.spelled? letter with
          | some next => return (s, "") :: (← uses n next letter (joinedTail cs))
          | none =>
            leave ["-" ++ value]
            return [(s, "")]
        | _, _ => throw (.usage (.needlessValue s value))

/-- Does what a switch asks for. -/
def act (s : Switch) (value : String) : Parser Unit := do
  match s with
  | .help => throw .help
  | .set => modify fun p => { p with items := p.items ++ [value] }
  | .level =>
    if Level.all.any fun l => l.name == value then modify fun p => { p with level := some value }
    else throw (.usage (.unknownLevel value))
  | .resolved => modify fun p => { p with showsResolved := true }

/-- Takes the file from the words here, if it is still to be named; two dashes next to it do not count.
Says whether it did. -/
def takeFile : Parser Bool := do
  let p ← get
  if p.file.isSome then return false
  match p.rest with
  | .plain text :: .dashes :: rest =>
    set { p with file := some text, rest }
    return true
  | .plain text :: rest =>
    set { p with file := some text, rest }
    return true
  | .dashes :: .plain text :: rest =>
    set { p with file := some text, rest }
    return true
  | _ => return false

/-- Uses words up. The first argument bounds their number. -/
def useAll : Nat → Parser Unit
  | 0 => return
  | n + 1 => do
    let p ← get
    match p.rest with
    | .switch s spelling joined :: rest =>
      set { p with rest }
      let found ← uses (spelling.length + (joined.map fun j => j.value.length).getD 0 + 1) s spelling
        joined
      found.forM fun (s, value) => act s value
      useAll n
    | .unknown text :: rest =>
      set { p with rest }
      leave [text]
      useAll n
    | [] => return
    | words =>
      if ← takeFile then useAll n
      else
        leave ((words.takeWhile fun w => !w.isSwitch).map Word.spelling)
        modify fun p => { p with rest := words.dropWhile fun w => !w.isSwitch }
        useAll n

end Parser

/-- The arguments that words give. -/
def Arguments.ofTexts (texts : List String) : Except Stop Arguments := do
  let words ← Word.ofTexts texts
  let (_, p) ← (Parser.useAll (words.length + 1)).run { rest := words }
  match p.file with
  | none => throw (.usage .noFile)
  | some file =>
    if p.left.isEmpty then return ⟨file, p.items, p.level, p.showsResolved⟩
    else throw (.usage (.unknownWords p.left))

end CaptureConfig.Command
