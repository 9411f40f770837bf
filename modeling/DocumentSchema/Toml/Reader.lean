import DocumentSchema.Toml.Scalar

/-!
# Reading TOML text

A document is a list of statements: entries and the headers of tables and of
arrays of tables. Keys may have several parts. Tables may not be opened twice,
entries may not be repeated, and what is written inline is closed.
-/
namespace DocumentSchema

namespace Toml

def isBlank (c : Char) : Bool := c = ' ' || c = '\t'

def skipBlanks (cs : List Char) : List Char := cs.dropWhile isBlank

def isPrintable (c : Char) : Bool := c = '\t' || (0x20 ≤ c.toNat && c.toNat ≠ 0x7F)

def hex? (cs : List Char) : Option Char :=
  if cs.all isHex then
    let n := valueOf 16 cs
    if n.isValidChar then some (Char.ofNat n) else none
  else none

def escape? (c : Char) : Option Char :=
  match c with
  | '"' => some '"'
  | '\\' => some '\\'
  | 'b' => some '\x08'
  | 't' => some '\t'
  | 'n' => some '\n'
  | 'f' => some '\x0c'
  | 'r' => some '\r'
  | 'e' => some '\x1b'
  | _ => none

/-- Where a text on several lines stands: in its content, after a backslash that ends a line, or
among the blanks and line ends after it. -/
inductive TextPlace
  | content
  | lineEnd
  | margin
  deriving DecidableEq

/-- A text in double quotes, after the opening one. Those on several lines end with three quotes,
before which up to two others may stand. -/
def takeQuoted (multiline : Bool) (place : TextPlace) :
    List Char → Option (List Char × List Char)
  | [] => none
  | '"' :: rest =>
    if place = .lineEnd then none
    else if multiline then
      match rest with
      | '"' :: '"' :: '"' :: '"' :: rest => some (['"', '"'], rest)
      | '"' :: '"' :: '"' :: rest => some (['"'], rest)
      | '"' :: '"' :: rest => some ([], rest)
      | rest => (takeQuoted multiline .content rest).map fun (s, r) => ('"' :: s, r)
    else some ([], rest)
  | '\\' :: 'u' :: a :: b :: c :: d :: rest =>
    if place = .lineEnd then none
    else
      match hex? [a, b, c, d] with
      | some x => (takeQuoted multiline .content rest).map fun (s, r) => (x :: s, r)
      | none => none
  | '\\' :: 'x' :: a :: b :: rest =>
    if place = .lineEnd then none
    else
      match hex? [a, b] with
      | some x => (takeQuoted multiline .content rest).map fun (s, r) => (x :: s, r)
      | none => none
  | '\\' :: 'U' :: a :: b :: c :: d :: e :: f :: g :: h :: rest =>
    if place = .lineEnd then none
    else
      match hex? [a, b, c, d, e, f, g, h] with
      | some x => (takeQuoted multiline .content rest).map fun (s, r) => (x :: s, r)
      | none => none
  | '\\' :: c :: rest =>
    if place = .lineEnd then none
    else
      match escape? c with
      | some x => (takeQuoted multiline .content rest).map fun (s, r) => (x :: s, r)
      | none =>
        if multiline && (isBlank c || c = '\r' || c = '\n') then
          takeQuoted multiline .lineEnd (c :: rest)
        else none
  | '\r' :: '\n' :: rest =>
    if !multiline then none
    else if place = .content then
      (takeQuoted multiline .content rest).map fun (s, r) => ('\r' :: '\n' :: s, r)
    else takeQuoted multiline .margin rest
  | c :: rest =>
    if c = '\n' then
      if !multiline then none
      else if place = .content then
        (takeQuoted multiline .content rest).map fun (s, r) => (c :: s, r)
      else takeQuoted multiline .margin rest
    else if !isPrintable c then none
    else if place = .content then
      (takeQuoted multiline .content rest).map fun (s, r) => (c :: s, r)
    else if isBlank c then takeQuoted multiline place rest
    else if place = .lineEnd then none
    else (takeQuoted multiline .content rest).map fun (s, r) => (c :: s, r)

def takeLiteral (multiline : Bool) : List Char → Option (List Char × List Char)
  | [] => none
  | '\'' :: rest =>
    if multiline then
      match rest with
      | '\'' :: '\'' :: '\'' :: '\'' :: rest => some (['\'', '\''], rest)
      | '\'' :: '\'' :: '\'' :: rest => some (['\''], rest)
      | '\'' :: '\'' :: rest => some ([], rest)
      | rest => (takeLiteral multiline rest).map fun (s, r) => ('\'' :: s, r)
    else some ([], rest)
  | '\r' :: '\n' :: rest =>
    if multiline then (takeLiteral multiline rest).map fun (s, r) => ('\r' :: '\n' :: s, r)
    else none
  | c :: rest =>
    if isPrintable c || (multiline && c = '\n') then
      (takeLiteral multiline rest).map fun (s, r) => (c :: s, r)
    else none

/-- A line end right after the opening quotes does not belong to the text. -/
def dropFirstLineEnd : List Char → List Char
  | '\n' :: rest => rest
  | '\r' :: '\n' :: rest => rest
  | cs => cs

def takeText : List Char → Option (List Char × List Char)
  | '"' :: '"' :: '"' :: rest => takeQuoted true .content (dropFirstLineEnd rest)
  | '"' :: rest => takeQuoted false .content rest
  | '\'' :: '\'' :: '\'' :: rest => takeLiteral true (dropFirstLineEnd rest)
  | '\'' :: rest => takeLiteral false rest
  | _ => none

def skipComment : List Char → Option (List Char)
  | [] => some []
  | '\n' :: rest => some ('\n' :: rest)
  | '\r' :: '\n' :: rest => some ('\r' :: '\n' :: rest)
  | c :: rest => if isPrintable c then skipComment rest else none

/-- The rest of a line that should have ended: blanks, a comment and the line end. -/
def endLine (cs : List Char) : Option (List Char) := do
  let cs ← match skipBlanks cs with
    | '#' :: rest => skipComment rest
    | cs => some cs
  match cs with
  | [] => some []
  | '\n' :: rest => some rest
  | '\r' :: '\n' :: rest => some rest
  | _ => none

def skipLines : Nat → List Char → Option (List Char)
  | 0, cs => some cs
  | fuel + 1, cs =>
    match skipBlanks cs with
    | '\n' :: rest => skipLines fuel rest
    | '\r' :: '\n' :: rest => skipLines fuel rest
    | '#' :: rest =>
      match skipComment rest with
      | some rest => skipLines fuel rest
      | none => none
    | cs => some cs

def isBare (c : Char) : Bool := c.isAlphanum || c = '_' || c = '-'

/-- One part of a key: a bare word or a quoted text on one line. -/
def takeKeyPart (cs : List Char) : Option (String × List Char) :=
  match cs with
  | '"' :: rest => (takeQuoted false .content rest).map fun (s, r) => (String.ofList s, r)
  | '\'' :: rest => (takeLiteral false rest).map fun (s, r) => (String.ofList s, r)
  | cs =>
    match cs.takeWhile isBare with
    | [] => none
    | word => some (String.ofList word, cs.dropWhile isBare)

def takeKeyParts (most : Nat) (cs : List Char) : Option (List String × List Char) :=
  match most with
  | 0 => none
  | most + 1 => do
    let (part, cs) ← takeKeyPart (skipBlanks cs)
    match skipBlanks cs with
    | '.' :: rest =>
      let (parts, rest) ← takeKeyParts most rest
      return (part :: parts, rest)
    | rest => return ([part], rest)

def maxNesting : Nat := 80

/-- A key. It may lead two tables deeper than values nest. -/
def takeKey (cs : List Char) : Option (List String × List Char) := takeKeyParts (maxNesting + 2) cs

/-- How a table came to be: by a header of its own, on the way to another table, or by the parts
of a key. -/
inductive Origin
  | header
  | implied
  | dotted
  deriving DecidableEq

/-- A value, a table that may still grow, or an array of such tables. -/
inductive Node
  | value (v : Toml)
  | table (origin : Origin) (entries : List (String × Node))
  | tables (elements : List (List (String × Node)))

abbrev Entries := List (String × Node)

/-- Replaces the node under a key or adds it. -/
def putNode (key : String) (n : Node) : Entries → Entries
  | [] => [(key, n)]
  | (k, m) :: rest => if k = key then (key, n) :: rest else (k, m) :: putNode key n rest

/-- Adds an entry below the table that holds it. Tables that a key goes through must not have a
header, and the innermost one must come from keys. -/
def insertEntry (direct : Bool) (value : Toml) : List String → Entries → Option Entries
  | [], _ => none
  | [key], entries =>
    if !direct || (entries.lookup key).isSome then none
    else some (entries ++ [(key, .value value)])
  | key :: rest, entries =>
    match entries.lookup key with
    | none => (insertEntry true value rest []).map fun es => putNode key (.table .dotted es) entries
    | some (.table origin es) =>
      if origin = .header then none
      else
        (insertEntry (origin = .dotted) value rest es).map fun es =>
          putNode key (.table origin es) entries
    | some (.tables elements) =>
      match elements.getLast? with
      | none => none
      | some es =>
        (insertEntry false value rest es).map fun es =>
          putNode key (.tables (elements.dropLast ++ [es])) entries
    | some (.value _) => none

mutual

def Node.freeze : Node → Toml
  | .value v => v
  | .table _ entries => .table (freezeEntries entries)
  | .tables elements => .array (freezeTables elements)

def freezeEntries : List (String × Node) → List (String × Toml)
  | [] => []
  | (k, n) :: rest => (k, n.freeze) :: freezeEntries rest

def freezeTables : List (List (String × Node)) → List Toml
  | [] => []
  | es :: rest => .table (freezeEntries es) :: freezeTables rest

end

/-- The characters of a word, which any mark of the grammar ends. -/
def isWordChar (c : Char) : Bool := !isBlank c && !"\n\r,[]\x7b\x7d#=\"'".toList.contains c

/-- A word; a date may be followed by a space and a time. -/
def takeWord (cs : List Char) : Option (Toml × List Char) :=
  let word := cs.takeWhile isWordChar
  let rest := cs.dropWhile isWordChar
  match takeDate word, rest with
  | some [], ' ' :: d :: more =>
    if d.isDigit then
      let time := (d :: more).takeWhile isWordChar
      (scalar? (word ++ ' ' :: time)).map fun v => (v, (d :: more).dropWhile isWordChar)
    else (scalar? word).map fun v => (v, rest)
  | _, _ => (scalar? word).map fun v => (v, rest)

mutual

def takeValue (room : Nat) (fuel : Nat) (cs : List Char) : Option (Toml × List Char) :=
  match fuel with
  | 0 => none
  | fuel + 1 =>
    match cs with
    | '"' :: _ | '\'' :: _ => (takeText cs).map fun (s, r) => (.string (String.ofList s), r)
    | '[' :: rest =>
      match room with
      | 0 => none
      | room + 1 => (takeItems room fuel rest).map fun (items, r) => (.array items, r)
    | '\x7b' :: rest =>
      match room with
      | 0 => none
      | room + 1 => (takeEntries room fuel [] rest).map fun (es, r) => (.table es, r)
    | cs => takeWord cs

def takeItems (room : Nat) (fuel : Nat) (cs : List Char) : Option (List Toml × List Char) :=
  match fuel with
  | 0 => none
  | fuel + 1 => do
    match ← skipLines cs.length cs with
    | ']' :: rest => return ([], rest)
    | cs =>
      let (item, cs) ← takeValue room fuel cs
      match ← skipLines cs.length cs with
      | ',' :: rest =>
        let (items, rest) ← takeItems room fuel rest
        return (item :: items, rest)
      | ']' :: rest => return ([item], rest)
      | _ => none

def takeEntries (room : Nat) (fuel : Nat) (entries : Entries) (cs : List Char) :
    Option (List (String × Toml) × List Char) :=
  match fuel with
  | 0 => none
  | fuel + 1 => do
    match ← skipLines cs.length cs with
    | '\x7d' :: rest => return (freezeEntries entries, rest)
    | cs =>
      let (key, cs) ← takeKey cs
      match cs with
      | '=' :: rest =>
        let (value, cs) ← takeValue room fuel (skipBlanks rest)
        let entries ← insertEntry true value key entries
        match ← skipLines cs.length cs with
        | ',' :: rest => takeEntries room fuel entries rest
        | '\x7d' :: rest => return (freezeEntries entries, rest)
        | _ => none
      | _ => none

end

inductive Header
  | table (path : List String)
  | arrayElement (path : List String)

inductive Statement
  | header (h : Header)
  | entry (key : List String) (value : Toml)

def takeStatement (cs : List Char) : Option (Statement × List Char) :=
  match cs with
  | '[' :: '[' :: rest => do
    let (path, rest) ← takeKey rest
    match rest with
    | ']' :: ']' :: rest => return (.header (.arrayElement path), rest)
    | _ => none
  | '[' :: rest => do
    let (path, rest) ← takeKey rest
    match rest with
    | ']' :: rest => return (.header (.table path), rest)
    | _ => none
  | cs => do
    let (key, rest) ← takeKey cs
    match rest with
    | '=' :: rest =>
      let (value, rest) ← takeValue maxNesting (rest.length + 1) (skipBlanks rest)
      return (.entry key value, rest)
    | _ => none

def statements : Nat → List Char → Option (List Statement)
  | 0, _ => none
  | fuel + 1, cs => do
    match ← skipLines cs.length cs with
    | [] => return []
    | cs =>
      let (s, rest) ← takeStatement cs
      let rest ← endLine rest
      let more ← statements fuel rest
      return s :: more

/-- Changes the node at the end of a path; tables on the way are opened as they are needed, and in
an array of tables the way leads to the last one. -/
def changeAt (change : Option Node → Option Node) : List String → Entries → Option Entries
  | [], _ => none
  | [key], entries => (change (entries.lookup key)).map fun n => putNode key n entries
  | key :: rest, entries =>
    match entries.lookup key with
    | none => (changeAt change rest []).map fun es => putNode key (.table .implied es) entries
    | some (.table origin es) =>
      (changeAt change rest es).map fun es => putNode key (.table origin es) entries
    | some (.tables elements) =>
      match elements.getLast? with
      | none => none
      | some es =>
        (changeAt change rest es).map fun es =>
          putNode key (.tables (elements.dropLast ++ [es])) entries
    | some (.value _) => none

/-- Opens the table of a header: a new one, or one that other headers only passed through. -/
def openHeader (h : Header) (root : Entries) : Option Entries :=
  match h with
  | .table path =>
    changeAt (fun
      | none => some (.table .header [])
      | some (.table .implied es) => some (.table .header es)
      | some _ => none) path root
  | .arrayElement path =>
    changeAt (fun
      | none => some (.tables [[]])
      | some (.tables elements) => some (.tables (elements ++ [[]]))
      | some _ => none) path root

/-- Adds an entry to the table that the last header opened. -/
def addEntry (h : Option Header) (key : List String) (value : Toml) (root : Entries) :
    Option Entries :=
  match h with
  | none => insertEntry true value key root
  | some (.table path) =>
    changeAt (fun
      | some (.table origin es) =>
        (insertEntry true value key es).map fun es => .table origin es
      | _ => none) path root
  | some (.arrayElement path) =>
    changeAt (fun
      | some (.tables elements) =>
        match elements.getLast? with
        | none => none
        | some es =>
          (insertEntry true value key es).map fun es => .tables (elements.dropLast ++ [es])
      | _ => none) path root

def build : Option Header → Entries → List Statement → Option Entries
  | _, root, [] => some root
  | _, root, .header h :: rest =>
    match openHeader h root with
    | some root => build (some h) root rest
    | none => none
  | h, root, .entry key value :: rest =>
    match addEntry h key value root with
    | some root => build h root rest
    | none => none

/-- The entries of a document. A byte order mark may stand in front. -/
def read (text : String) : Option (List (String × Toml)) := do
  let cs := match text.toList with
    | '\ufeff' :: cs => cs
    | cs => cs
  let list ← statements (cs.length + 1) cs
  let root ← build none [] list
  return freezeEntries root

end Toml

end DocumentSchema
