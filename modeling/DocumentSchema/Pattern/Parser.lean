import DocumentSchema.Pattern.Expr

/-!
# Reading patterns

The grammar of patterns has no look-around and no back-references. In verbose
mode blanks do not count and `#` starts a comment; the mode belongs to the group
in which it is switched, from there on.
-/
namespace DocumentSchema

namespace Pattern

/-- What is left to read, whether blanks are skipped, and the group names in use. -/
structure Cursor where
  rest : List Char
  verbose : Bool
  names : List String

/-- A reader that may fail; why it fails makes no difference. -/
abbrev Reader := StateT Cursor Option

namespace Reader

def isBlank (c : Char) : Bool := Property.whiteSpace.contains c

def skipVerbose (inComment : Bool) : List Char → List Char
  | [] => []
  | c :: cs =>
    if inComment then skipVerbose (c ≠ '\n') cs
    else if c = '#' then skipVerbose true cs
    else if isBlank c then skipVerbose false cs
    else c :: cs

def peek? : Reader (Option Char) := return (← get).rest.head?

def peek : Reader Char := do
  match ← peek? with
  | some c => return c
  | none => failure

def peekSecond? : Reader (Option Char) := return (← get).rest[1]?

def advance : Reader Unit := modify fun s => { s with rest := s.rest.drop 1 }

def skipBlanks : Reader Unit :=
  modify fun s => if s.verbose then { s with rest := skipVerbose false s.rest } else s

/-- Moves past a character and the blanks after it. -/
def step : Reader Unit := do
  advance
  skipBlanks

/-- The first character after the next one that is not skipped. -/
def peekBeyond? : Reader (Option Char) := do
  let s ← get
  let rest := s.rest.drop 1
  return (if s.verbose then skipVerbose false rest else rest).head?

def next? (c : Char) : Reader Bool := return (← peek?) = some c

def expect (c : Char) : Reader Unit := do guard (← next? c)

def take? (text : String) : Reader Bool := do
  let s ← get
  let cs := text.toList
  if cs.isPrefixOf s.rest then
    set { s with rest := s.rest.drop cs.length }
    return true
  else return false

/-- The characters up to the first that is not accepted, each with the blanks after it. -/
def takeWhileAux (accept : Char → Bool) : Nat → Reader (List Char)
  | 0 => pure []
  | fuel + 1 => do
    match ← peek? with
    | none => pure []
    | some c =>
      if accept c then
        step
        let cs ← takeWhileAux accept fuel
        return c :: cs
      else pure []

def takeWhile (accept : Char → Bool) : Reader (List Char) := do
  takeWhileAux accept (← get).rest.length

end Reader

open Reader

/-- A decimal number of at most 32 bits with blanks around it; `none` where no digit stands. -/
def decimal : Reader (Option Nat) := do
  modify fun s => { s with rest := s.rest.dropWhile isBlank }
  let digits ← takeWhile Char.isDigit
  let _ ← takeWhile isBlank
  if digits.isEmpty then return none
  let n := digits.foldl (fun n c => n * 10 + (c.toNat - '0'.toNat)) 0
  guard (n ≤ 0xFFFFFFFF)
  return some n

def isHexDigit (c : Char) : Bool := c.isDigit || ('a' ≤ c && c ≤ 'f') || ('A' ≤ c && c ≤ 'F')

def hexValue (digits : List Char) : Nat :=
  digits.foldl (fun n c =>
    n * 16 + (if c.isDigit then c.toNat - '0'.toNat else (c.toLower.toNat - 'a'.toNat) + 10)) 0

def charOfCode (n : Nat) : Reader Char := do
  guard n.isValidChar
  return Char.ofNat n

def hexDigits : Nat → Reader (List Char)
  | 0 => pure []
  | count + 1 => do
    let c ← peek
    guard (isHexDigit c)
    step
    let cs ← hexDigits count
    return c :: cs

/-- A character by its number: `count` digits, or any number of them in braces. -/
def hexLiteral (count : Nat) : Reader Literal := do
  step
  if ← next? '\x7b' then
    step
    let digits ← takeWhile isHexDigit
    expect '\x7d'
    step
    guard (!digits.isEmpty)
    let c ← charOfCode (hexValue digits)
    return ⟨c, false⟩
  else
    let digits ← hexDigits count
    let c ← charOfCode (hexValue digits)
    return ⟨c, count = 2⟩

/-- Splits a text at the first place where one of the separators stands. -/
def splitAt? (separator : List Char) : List Char → Option (List Char × List Char)
  | [] => none
  | c :: cs =>
    if separator.isPrefixOf (c :: cs) then some ([], (c :: cs).drop separator.length)
    else (splitAt? separator cs).map fun (a, b) => (c :: a, b)

/-- A property name in braces: alone, or with a value after `!=`, `:` or `=`, which all mean the
same. -/
def propertyOf (cs : List Char) : PropertyQuery :=
  match ((splitAt? ['!', '='] cs).or (splitAt? [':'] cs)).or (splitAt? ['='] cs) with
  | some (name, value) => .value (String.ofList name) (String.ofList value)
  | none => .name (String.ofList cs)

def property : Reader PropertyQuery := do
  step
  let c ← peek
  if c = '\x7b' then
    step
    let name ← takeWhile (· ≠ '\x7d')
    expect '\x7d'
    advance
    return propertyOf name
  else
    guard (c ≠ '\\')
    step
    return .name (String.singleton c)

/-- What an escape or a single character stands for. -/
inductive Atom
  | literal (c : Literal)
  | anchor (kind : Anchor)
  | shorthand (negated : Bool) (kind : Shorthand)
  | property (negated : Bool) (query : PropertyQuery)

/-- The kind of word boundary that a name in braces asks for. Braces that hold no name are left
for a repetition. -/
def boundaryKind : Reader Anchor := do
  let before ← get
  if ← next? '\x7b' then
    step
    let isNamePart (c : Char) : Bool := c.isAlpha || c = '-'
    if isNamePart (← peek) then
      let name ← takeWhile isNamePart
      expect '\x7d'
      advance
      match String.ofList name with
      | "start" => return .wordStart
      | "end" => return .wordEnd
      | "start-half" => return .wordStartHalf
      | "end-half" => return .wordEndHalf
      | _ => failure
    else
      set before
      return .wordBoundary
  else return .wordBoundary

def escape : Reader Atom := do
  advance
  let c ← peek
  let plain (a : Atom) : Reader Atom := do
    advance
    return a
  let char (c : Char) : Reader Atom := plain (.literal ⟨c, false⟩)
  match c with
  | 'x' => return .literal (← hexLiteral 2)
  | 'u' => return .literal (← hexLiteral 4)
  | 'U' => return .literal (← hexLiteral 8)
  | 'p' => return .property false (← property)
  | 'P' => return .property true (← property)
  | 'd' => plain (.shorthand false .digit)
  | 'D' => plain (.shorthand true .digit)
  | 's' => plain (.shorthand false .space)
  | 'S' => plain (.shorthand true .space)
  | 'w' => plain (.shorthand false .word)
  | 'W' => plain (.shorthand true .word)
  | 'a' => char '\x07'
  | 'f' => char '\x0c'
  | 't' => char '\t'
  | 'n' => char '\n'
  | 'r' => char '\r'
  | 'v' => char '\x0b'
  | 'A' => plain (.anchor .startText)
  | 'z' => plain (.anchor .endText)
  | 'b' => do
    advance
    return .anchor (← boundaryKind)
  | 'B' => plain (.anchor .notWordBoundary)
  | '<' => plain (.anchor .wordStart)
  | '>' => plain (.anchor .wordEnd)
  | c => do
    guard (c.toNat < 128 && !c.isAlphanum)
    char c

def asciiClass? (name : String) : Option AsciiClass :=
  match name with
  | "alnum" => some .alnum
  | "alpha" => some .alpha
  | "ascii" => some .ascii
  | "blank" => some .blank
  | "cntrl" => some .cntrl
  | "digit" => some .digit
  | "graph" => some .graph
  | "lower" => some .lower
  | "print" => some .print
  | "punct" => some .punct
  | "space" => some .space
  | "upper" => some .upper
  | "word" => some .word
  | "xdigit" => some .xdigit
  | _ => none

/-- A class of the form `[:name:]` or `[:^name:]` at the front of a text, and what follows it. -/
def takeAsciiClass? (cs : List Char) : Option (SetExpr × List Char) :=
  match cs with
  | '[' :: ':' :: cs =>
    let (negated, cs) := match cs with
      | '^' :: cs => (true, cs)
      | cs => (false, cs)
    match cs.dropWhile (· ≠ ':') with
    | ':' :: ']' :: rest =>
      (asciiClass? (String.ofList (cs.takeWhile (· ≠ ':')))).map fun kind =>
        (.ascii negated kind, rest)
    | _ => none
  | _ => none

/-- One item of a set that may be the end of a range. -/
def setAtom : Reader Atom := do
  let c ← peek
  if c = '\\' then escape
  else
    advance
    return .literal ⟨c, false⟩

def setItem (a : Atom) : Reader SetExpr :=
  match a with
  | .literal c => pure (.literal c)
  | .shorthand negated kind => pure (.shorthand negated kind)
  | .property negated query => pure (.property negated query)
  | .anchor _ => failure

/-- An item or a range. A hyphen before `]` or before another hyphen is not the one of a range. -/
def setRange : Reader SetExpr := do
  let first ← setAtom
  skipBlanks
  let c ← peek
  let beyond ← peekBeyond?
  if c ≠ '-' || beyond = some ']' || beyond = some '-' then setItem first
  else
    step
    let second ← setAtom
    match first, second with
    | .literal lo, .literal hi => do
      guard (lo.char ≤ hi.char)
      return .range lo hi
    | _, _ => failure

/-- Hyphens at the start of a set stand for themselves. -/
def leadingHyphens : Reader (List SetExpr) := do
  let hyphens ← takeWhile (· = '-')
  let _ ← peek
  return hyphens.map fun c => .literal ⟨c, false⟩

/-- Applies the operator that is under way to what came after it. -/
def finishOperand (pending : Option (SetOp × SetExpr)) (items : List SetExpr) : SetExpr :=
  let right := SetExpr.ofItems items.reverse
  match pending with
  | none => right
  | some (kind, left) => .op kind left right

mutual

/-- A set from its opening bracket to its closing one. -/
def bracketed : Nat → Reader (Bool × SetExpr)
  | 0 => failure
  | fuel + 1 => do
    step
    let negated ← next? '^'
    if negated then step
    let items ← leadingHyphens
    if items.isEmpty && (← next? ']') then
      step
      let _ ← peek
      let set ← setBody fuel none [.literal ⟨']', false⟩]
      return (negated, set)
    else
      let set ← setBody fuel none items.reverse
      return (negated, set)

/-- The items after the ones that were read, last one first, up to the closing bracket. -/
def setBody (fuel : Nat) (pending : Option (SetOp × SetExpr)) (items : List SetExpr) :
    Reader SetExpr :=
  match fuel with
  | 0 => failure
  | fuel + 1 => do
    skipBlanks
    let c ← peek
    let second ← peekSecond?
    let operator (kind : SetOp) : Reader SetExpr := do
      advance
      advance
      setBody fuel (some (kind, finishOperand pending items)) []
    match c with
    | '[' => do
      let s ← get
      match takeAsciiClass? s.rest with
      | some (item, rest) => do
        set { s with rest := rest }
        setBody fuel pending (item :: items)
      | none => do
        let (negated, inner) ← bracketed fuel
        setBody fuel pending (.nested negated inner :: items)
    | ']' => do
      advance
      return finishOperand pending items
    | '&' => if second = some '&' then operator .intersection else setRest fuel pending items
    | '-' => if second = some '-' then operator .difference else setRest fuel pending items
    | '~' =>
      if second = some '~' then operator .symmetricDifference else setRest fuel pending items
    | _ => setRest fuel pending items

def setRest (fuel : Nat) (pending : Option (SetOp × SetExpr)) (items : List SetExpr) :
    Reader SetExpr :=
  match fuel with
  | 0 => failure
  | fuel + 1 => do
    let item ← setRange
    setBody fuel pending (item :: items)

end

def flag? (c : Char) : Option Flag :=
  match c with
  | 'i' => some .ignoreCase
  | 'm' => some .multiLine
  | 's' => some .dotAll
  | 'U' => some .swapGreed
  | 'u' => some .unicode
  | 'R' => some .crlf
  | 'x' => some .verbose
  | _ => none

/-- Flags up to the `:` or `)` after them. A hyphen switches those after it off; there is at most
one, it is not the last character, and no flag comes twice. -/
def flagChange (seen : FlagChange) (negated dangling : Bool) : Nat → Reader FlagChange
  | 0 => failure
  | fuel + 1 => do
    let c ← peek
    if c = ':' || c = ')' then
      guard (!dangling)
      return seen.reverse
    else if c = '-' then
      guard (!negated)
      advance
      flagChange seen true true fuel
    else
      match flag? c with
      | none => failure
      | some f => do
        guard (!seen.any fun g => g.1 = f)
        advance
        flagChange ((f, !negated) :: seen) negated false fuel

def isNameStart (c : Char) : Bool := c = '_' || Property.alphabetic.contains c

def isNamePart (c : Char) : Bool :=
  isNameStart c || c = '.' || c = '[' || c = ']' || Property.number.contains c

/-- The name of a group up to its `>`; no two groups share a name. -/
def groupName : Reader Unit := do
  let s ← get
  let name := s.rest.takeWhile (· ≠ '>')
  match name, s.rest.dropWhile (· ≠ '>') with
  | c :: cs, '>' :: rest => do
    guard (isNameStart c && cs.all isNamePart)
    let text := String.ofList name
    guard (!s.names.contains text)
    set { s with rest := rest, names := text :: s.names }
  | _, _ => failure

/-- What follows an opening parenthesis: flags on their own, or the kind of a group. -/
def groupStart : Reader (FlagChange ⊕ (Bool × FlagChange)) := do
  let s ← get
  let starts (text : String) : Bool := text.toList.isPrefixOf s.rest
  guard !(starts "?=" || starts "?!" || starts "?<=" || starts "?<!")
  if ← take? "?P<" then
    groupName
    return .inr (true, [])
  else if ← take? "?<" then
    groupName
    return .inr (true, [])
  else if ← take? "?" then
    let change ← flagChange [] false false (s.rest.length + 1)
    if ← next? ')' then
      advance
      guard (!change.isEmpty)
      return .inl change
    else
      advance
      return .inr (false, change)
  else return .inr (true, [])

def setVerbose (change : FlagChange) : Reader Unit :=
  match change.lookup .verbose with
  | some on => modify fun s => { s with verbose := on }
  | none => pure ()

/-- The bounds of a counted repetition; the cursor is at the opening brace. -/
def counted : Reader (Nat × Option Nat) := do
  step
  let _ ← peek
  let least ← decimal
  let bounds ← (do
    if ← next? ',' then
      step
      let _ ← peek
      if ← next? '\x7d' then return (least, none)
      else
        match ← decimal with
        | some most => return (least, some most)
        | none => failure
    else return (least, least) : Reader (Option Nat × Option Nat))
  expect '\x7d'
  step
  if ← next? '?' then advance
  match bounds with
  | (some least, none) => return (least, none)
  | (some least, some most) => do
    guard (least ≤ most)
    return (least, some most)
  | (none, _) => failure

def repetition (operator : Char) : Reader (Nat × Option Nat) := do
  if operator = '\x7b' then counted
  else
    advance
    if ← next? '?' then advance
    return match operator with
      | '?' => (0, some 1)
      | '*' => (0, none)
      | _ => (1, none)

def atomExpr : Atom → Expr
  | .literal c => .literal c
  | .anchor kind => .anchor kind
  | .shorthand negated kind => .shorthand negated kind
  | .property negated query => .property negated query

def single : Reader Expr := do
  let c ← peek
  match c with
  | '\\' => return atomExpr (← escape)
  | '.' => do
    advance
    return .dot
  | '^' => do
    advance
    return .anchor .startLine
  | '$' => do
    advance
    return .anchor .endLine
  | c => do
    advance
    return .literal ⟨c, false⟩

mutual

/-- Branches up to a closing parenthesis or the end; `branches` come last one first. -/
def alternation (branches : List Expr) : Nat → Reader Expr
  | 0 => failure
  | fuel + 1 => do
    let branch ← sequence [] fuel
    if ← next? '|' then
      advance
      alternation (branch :: branches) fuel
    else return Expr.ofAlternation (branch :: branches).reverse

/-- Expressions up to the end of a branch; `items` come last one first. -/
def sequence (items : List Expr) : Nat → Reader Expr
  | 0 => failure
  | fuel + 1 => do
    skipBlanks
    match ← peek? with
    | none | some ')' | some '|' => return Expr.ofConcat items.reverse
    | some '(' => do
      advance
      skipBlanks
      let outer := (← get).verbose
      match ← groupStart with
      | .inl change => do
        setVerbose change
        sequence (.flags change :: items) fuel
      | .inr (captures, change) => do
        setVerbose change
        let inner ← alternation [] fuel
        expect ')'
        advance
        modify fun s => { s with verbose := outer }
        sequence (.group captures change inner :: items) fuel
    | some '[' => do
      let (negated, set) ← bracketed (2 * (← get).rest.length + 2)
      sequence (.bracketed negated set :: items) fuel
    | some c =>
      if c = '?' || c = '*' || c = '+' || c = '\x7b' then
        match items with
        | [] => failure
        | item :: items => do
          guard item.isRepeatable
          let (least, most) ← repetition c
          sequence (.repetition item least most :: items) fuel
      else do
        let item ← single
        sequence (item :: items) fuel

end

def Expr.parse? (text : String) : Option Expr := do
  let cs := text.toList
  let (e, s) ← (Pattern.alternation [] (2 * cs.length + 4)).run ⟨cs, false, []⟩
  if s.rest.isEmpty ∧ e.depth ≤ Expr.depthLimit then some e else none

end Pattern

end DocumentSchema
