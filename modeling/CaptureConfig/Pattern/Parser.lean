import CaptureConfig.Pattern.Reader

/-!
# From the text of a regular expression to its tree

`parse` reads the whole text; `Pattern.compile?` also makes sure that what is read can be matched. The
readers of this module take a bound on the number of tokens as their first argument and give it on,
one smaller, to every reader they call.
-/

namespace CaptureConfig.Pattern

namespace Reader

/-- The refusal at a place of the expression. -/
def complainAt {α : Type} (complaint : Complaint) (place : Nat) : Reader α :=
  throw (.syntactic complaint (some place))

/-- White space that a verbose expression ignores. -/
def isIgnored (c : Char) : Bool :=
  c == ' ' || c == '\t' || c == '\n' || c == '\r' || c == '\x0b' || c == '\x0c'

/-- Goes over a comment of a verbose expression, up to the end of its line. -/
def skipLine : Nat → Reader Unit
  | 0 => return
  | n + 1 => do
    match ← take with
    | none => return
    | some (.plain '\n') => return
    | some _ => skipLine n

/-- Goes over a comment in parentheses that begins at `place`. -/
def skipRemark (place : Nat) : Nat → Reader Unit
  | 0 => return
  | n + 1 => do
    match ← take with
    | none => complainAt .unterminatedComment place
    | some (.plain ')') => return
    | some _ => skipRemark place n

/-- The member that an escape adds to a set. -/
def memberOf : Escape → Member
  | .code n => .code n
  | .named cls negated => .named cls negated
  | .anchor _ => .code 0
  | .backref _ => .code 0

/-- The member that a token begins. -/
def setMember : Token → Reader Member
  | .plain c => return .code c.toNat
  | .escaped c => return memberOf (← setEscape c)

/-- The range between two members, which both have to be single characters in ascending order. -/
def rangeOf (this that : Token) (lo hi : Member) : Reader Member := do
  match lo, hi with
  | .code l, .code h =>
    if l ≤ h then return .range l h
    else complain (.badRange this.text that.text) (this.length + 1 + that.length)
  | _, _ => complain (.badRange this.text that.text) (this.length + 1 + that.length)

/-- The members of the set that begins at `place`, after those already found. -/
def setMembers (place : Nat) : Nat → List Member → Reader (List Member)
  | 0, found => return found
  | n + 1, found => do
    let some this ← take | complainAt .unterminatedSet place
    if this = .plain ']' && !found.isEmpty then return found
    let first ← setMember this
    if ← takeIf '-' then
      let some that ← take | complainAt .unterminatedSet place
      if that = .plain ']' then return found ++ [first, .code 45]
      let last ← setMember that
      setMembers place n (found ++ [← rangeOf this that first last])
    else setMembers place n (found ++ [first])

/-- The members without repetitions. -/
def distinct (ms : List Member) : List Member :=
  ms.foldl (fun seen m => if seen.contains m then seen else seen ++ [m]) []

/-- The set that begins at `place`, of which the bracket is read. -/
def set (place : Nat) : Reader Node := do
  let negated ← takeIf '^'
  let members := distinct (← setMembers place ((← get).rest.length + 1) [])
  match members with
  | [.code n] => return if negated then .notCode n else .code n
  | _ => return .set negated members

/-- The greatest number of rounds, which itself is refused. -/
def maxRounds : Nat := 4294967295

/-- A number of rounds. -/
def rounds (digits : List Char) : Reader Nat := do
  if Text.maxDigits < digits.length then throw (.tooManyDigits digits.length)
  let n := digitsToNat 10 digits
  if maxRounds ≤ n then throw .repeatTooLarge
  return n

/-- The bounds of a repetition in braces; none when the brace only stands for itself. -/
def bracedBounds : Reader (Option (Nat × Option Nat)) := do
  if (← peek) = some (.plain '\x7d') then return none
  let saved ← get
  let bound := saved.rest.length
  let lo ← takeWhile isAsciiDigit bound
  let hi ← if ← takeIf ',' then takeWhile isAsciiDigit bound else pure lo
  if ← takeIf '\x7d' then
    let least ← if lo.isEmpty then pure 0 else rounds lo
    if hi.isEmpty then return some (least, none)
    let most ← rounds hi
    if most < least then complainAt .leastAboveMost saved.place
    return some (least, some most)
  else
    StateT.set saved
    return none

/-- The bounds of a repetition that begins with the given character. -/
def bounds : Char → Reader (Option (Nat × Option Nat))
  | '?' => return some (0, some 1)
  | '*' => return some (0, none)
  | '+' => return some (1, none)
  | _ => bracedBounds

/-- The way a repetition chooses its number of rounds. -/
def greed : Reader Greed := do
  if ← takeIf '?' then return .lazy
  if ← takeIf '+' then return .possessive
  return .greedy

/-- The repetition of an item, whose quantifier begins at `place`. -/
def repeated (place least : Nat) (most : Option Nat) : List Node → Reader Node
  | [] => complainAt .nothingToRepeat place
  | .anchor _ :: _ => complainAt .nothingToRepeat place
  | .rep _ _ _ _ :: _ => complainAt .multipleRepeat place
  | item :: _ => return .rep least most (← greed) item

/-- The item that an escape stands for. -/
def itemOf : Escape → Node
  | .code n => .code n
  | .named cls negated => .set false [.named cls negated]
  | .anchor a => .anchor a
  | .backref index => .backref index

/-- The items of a sequence, where groups that only bracket give way to what they hold. -/
def unwrapped (items : List Node) : List Node :=
  items.flatMap fun item =>
    match item with
    | .group none on off body => if on = {} && off = {} then body.items else [item]
    | _ => [item]

/-- The members that an alternative adds when all alternatives are single characters or sets. -/
def asMembers? : Node → Option (List Member)
  | .code n => some [.code n]
  | .set false members => some members
  | _ => none

/-- The choice between alternatives; a choice between characters is a set. -/
def choice : List Node → Node
  | [] => .empty
  | [n] => n
  | ns =>
    match ns.mapM asMembers? with
    | some members =>
      match distinct members.flatten with
      | [.code n] => .code n
      | ms => .set false ms
    | none => alternatives ns
where
  /-- The first alternative that matches, in order. -/
  alternatives : List Node → Node
    | [] => .empty
    | [n] => n
    | n :: ns => .alt n (alternatives ns)

/-- Opens a group and gives its number. -/
def openGroup (name : Option String) : Reader Nat := do
  let r ← get
  let index := r.groupCount
  StateT.set { r with widths := r.widths.push none }
  if let some name := name then
    match r.names.lookup name with
    | some previous => complain (.redefinedGroup name index previous) (name.length + 1)
    | none => modify fun r => { r with names := (name, index) :: r.names }
  return index

/-- Closes a group. -/
def closeGroup (index : Nat) (body : Node) : Reader Unit :=
  modify fun r =>
    { r with widths := r.widths.setIfInBounds (index - 1) (some (body.width r.width)) }

/-- The number of the group that a condition tests, of which the name is read. -/
def conditionGroup (name : String) : Reader Nat := do
  let back := name.length + 1
  if Text.isIdentifier name then
    match (← get).names.lookup name with
    | some index => return index
    | none => complain (.unknownGroupName name) back
  match Text.readInteger name with
  | .ok (.ofNat index) =>
    if index = 0 then complain .badGroupNumber back
    if 2147483647 ≤ index then complain (.invalidReference index) back
    modify fun r =>
      if r.conditions.any (·.1 == index) then r
      else { r with conditions := r.conditions ++ [(index, r.place - back)] }
    return index
  | _ => complain (.badGroupName name) back

/-- A reference by name, up to its closing parenthesis. -/
def namedReference : Reader Node := do
  let name ← takeName ')' "group name"
  let back := name.length + 1
  unless Text.isIdentifier name do complain (.badGroupName name) back
  match (← get).names.lookup name with
  | none => complain (.unknownGroupName name) back
  | some index =>
    if ((← get).width? index).isNone then complain .openGroup back
    checkLookbehind index
    return .backref index

/-- What stands after an opening parenthesis. -/
inductive Opening where
  | capture (name : Option String)
  | plain (on off : Flags)
  | atomic
  | ahead (negated : Bool)
  | behind (negated : Bool)
  | condition
  | reference (node : Node)
  | remark
  | globalFlags

/-- The name of a group, up to `>`. -/
def groupName : Reader String := do
  let name ← takeName '>' "group name"
  unless Text.isIdentifier name do complain (.badGroupName name) (name.length + 1)
  return name

/-- Reads what stands after the parenthesis at `place`, up to the contents of the group. -/
def opening (place : Nat) : Reader Opening := do
  unless ← takeIf '?' do return .capture none
  let some t ← take | complain .unexpectedEnd
  match t with
  | .plain 'P' =>
    if ← takeIf '<' then return .capture (some (← groupName))
    if ← takeIf '=' then return .reference (← namedReference)
    let some u ← take | complain .unexpectedEnd
    complain (.unknownExtension ("P" ++ u.text)) (u.length + 2)
  | .plain ':' => return .plain {} {}
  | .plain '#' =>
    skipRemark place ((← get).rest.length + 1)
    return .remark
  | .plain '=' => return .ahead false
  | .plain '!' => return .ahead true
  | .plain '<' =>
    let some u ← take | complain .unexpectedEnd
    match u with
    | .plain '=' => return .behind false
    | .plain '!' => return .behind true
    | _ => complain (.unknownExtension ("<" ++ u.text)) (u.length + 2)
  | .plain '(' => return .condition
  | .plain '>' => return .atomic
  | _ =>
    if isFlagToken t || t = .plain '-' then
      match ← groupFlags (t.chars.headD '-') with
      | some (on, off) => return .plain on off
      | none => return .globalFlags
    complain (.unknownExtension t.text) (t.length + 1)

/-- Takes the parenthesis that closes the group opened at `place`. -/
def close (place : Nat) : Reader Unit := do
  unless ← takeIf ')' do complainAt .unterminatedGroup place

mutual

/-- The items up to the end of an alternative, after those already found, the newest first. -/
def items : Nat → Bool → Bool → List Node → Reader (List Node)
  | 0, _, _, found => return found.reverse
  | n + 1, verbose, first, found => do
    let place := (← get).place
    match ← peek with
    | none => return found.reverse
    | some (.plain '|') => return found.reverse
    | some (.plain ')') => return found.reverse
    | some t =>
      skip t
      match t with
      | .escaped c => items n verbose first (itemOf (← plainEscape c) :: found)
      | .plain c =>
        if verbose && isIgnored c then items n verbose first found
        else if verbose && c = '#' then
          skipLine n
          items n verbose first found
        else if c = '[' then items n verbose first ((← set place) :: found)
        else if c = '?' || c = '*' || c = '+' || c = '\x7b' then
          match ← bounds c with
          | none => items n verbose first (.code c.toNat :: found)
          | some (least, most) =>
            items n verbose first ((← repeated place least most found) :: found.drop 1)
        else if c = '.' then items n verbose first (.any :: found)
        else if c = '^' then items n verbose first (.anchor .lineStart :: found)
        else if c = '$' then items n verbose first (.anchor .lineEnd :: found)
        else if c = '(' then
          match ← group n verbose (first && found.isEmpty) place with
          | some item => items n verbose first (item :: found)
          | none =>
            let flags := (← get).flags
            items n (verbose || (first && flags.verbose)) first found
        else items n verbose first (.code c.toNat :: found)

/-- The group opened at `place`; none when it is a comment or holds switches for the whole expression,
which is allowed only at its start. -/
def group : Nat → Bool → Bool → Nat → Reader (Option Node)
  | 0, _, _, _ => return none
  | n + 1, verbose, start, place => do
    match ← opening place with
    | .remark => return none
    | .globalFlags =>
      unless start do complainAt .lateFlags place
      return none
    | .reference node => return some node
    | .capture name =>
      let index ← openGroup name
      let body ← alternatives n verbose false []
      close place
      closeGroup index body
      return some (.group (some index) {} {} body)
    | .plain on off =>
      let body ← alternatives n ((verbose || on.verbose) && !off.verbose) false []
      close place
      return some (.group none on off body)
    | .atomic =>
      let body ← alternatives n verbose false []
      close place
      return some (.atomic body)
    | .ahead negated =>
      let body ← alternatives n verbose false []
      close place
      return some (.ahead negated body)
    | .behind negated =>
      let outer := (← get).lookbehindFrom
      modify fun r => { r with lookbehindFrom := some (outer.getD r.groupCount) }
      let body ← alternatives n verbose false []
      modify fun r => { r with lookbehindFrom := outer }
      close place
      let (shortest, longest) := body.width (← get).width
      return some (.behind negated shortest longest body)
    | .condition =>
      let name ← takeName ')' "group name"
      let index ← conditionGroup name
      checkLookbehind index
      let yes := Node.ofItems (unwrapped (← items n verbose false []))
      let no ←
        if ← takeIf '|' then
          let no ← items n verbose false []
          if (← peek) = some (.plain '|') then complain .manyBranches
          pure (Node.ofItems (unwrapped no))
        else pure .empty
      close place
      return some (.cond index yes no)

/-- A choice of alternatives, after those already found, the newest first. At the top the switches of
the whole expression hold from the second alternative on. -/
def alternatives : Nat → Bool → Bool → List Node → Reader Node
  | 0, _, _, found => return choice found.reverse
  | n + 1, verbose, top, found => do
    let item := Node.ofItems (unwrapped (← items n verbose (top && found.isEmpty) []))
    if ← takeIf '|' then
      let flags := (← get).flags
      alternatives n (if top then flags.verbose else verbose) top (item :: found)
    else return choice (item :: found).reverse

end

/-- The whole expression. -/
def whole : Reader Node := do
  let length := (← get).rest.length
  if (← get).rest = ['\\'] then complain .escapeAtEnd
  let body ← alternatives (4 * length + 4) false true []
  let r ← get
  if r.flags.ascii && r.flags.unicode then throw .exclusiveFlags
  if r.token?.isSome then complain .unbalanced
  for (index, place) in r.conditions do
    if r.groupCount ≤ index then complainAt (.invalidReference index) place
  return body

end Reader

/-- The first reason, in reading order, why an expression cannot be matched: a look-behind of varying
width, or a repetition under the template switch. -/
def Node.obstacle? (template : Bool) : Node → Option Complaint
  | .cat a b => (a.obstacle? template).or (b.obstacle? template)
  | .alt a b => (a.obstacle? template).or (b.obstacle? template)
  | .group _ _ _ body => body.obstacle? template
  | .rep _ _ greed body => if template then some (.templateRepeat greed) else body.obstacle? template
  | .atomic body => body.obstacle? template
  | .ahead _ body => body.obstacle? template
  | .behind _ shortest longest body =>
    if Reader.maxRounds < shortest then some .farLookbehind
    else if shortest ≠ longest then some .unevenLookbehind
    else body.obstacle? template
  | .cond _ yes no => (yes.obstacle? template).or (no.obstacle? template)
  | _ => none

end CaptureConfig.Pattern

namespace CaptureConfig

/-- A regular expression that can be matched. -/
structure Pattern where
  /-- Its text. -/
  source : String
  /-- The switches that hold for the whole of it. -/
  flags : Pattern.Flags
  /-- Its tree. -/
  body : Pattern.Node
deriving Repr, Inhabited

/-- The regular expression with the given text, or the reason why it is refused. -/
def Pattern.compile? (source : String) : Except Pattern.Refusal Pattern := do
  let (body, reading) ← Pattern.Reader.whole.run { rest := source.toList }
  match body.obstacle? reading.flags.template with
  | some complaint => throw (.syntactic complaint none)
  | none => return { source, flags := reading.flags, body }

end CaptureConfig
