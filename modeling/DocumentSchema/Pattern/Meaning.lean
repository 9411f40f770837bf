import DocumentSchema.Pattern.Basic
import DocumentSchema.Pattern.Expr

/-!
# The meaning of pattern expressions

Flags hold from where they are switched to the end of their group. Without
Unicode only ASCII can be matched: whatever would match other bytes has no
meaning, and neither has a property that is not known.
-/
namespace DocumentSchema

namespace Pattern

structure Modes where
  ignoreCase : Bool
  multiLine : Bool
  dotAll : Bool
  unicode : Bool
  crlf : Bool

namespace Modes

def initial : Modes := ⟨false, false, false, true, false⟩

def set (m : Modes) (f : Flag) (on : Bool) : Modes :=
  match f with
  | .ignoreCase => { m with ignoreCase := on }
  | .multiLine => { m with multiLine := on }
  | .dotAll => { m with dotAll := on }
  | .unicode => { m with unicode := on }
  | .crlf => { m with crlf := on }
  | .swapGreed | .verbose => m

def apply (m : Modes) (change : FlagChange) : Modes :=
  change.foldl (fun m (f, on) => m.set f on) m

def foldCase (m : Modes) (s : CharSet) : CharSet :=
  if m.ignoreCase then if m.unicode then s.foldCase else s.foldAsciiCase else s

/-- Negates a set; without Unicode the result would have bytes above ASCII. -/
def negate (m : Modes) (negated : Bool) (s : CharSet) : Option CharSet :=
  if negated then if m.unicode then some s.complement else none else some s

end Modes

def AsciiClass.set : AsciiClass → CharSet
  | .alnum => ⟨[(0x30, 0x39), (0x41, 0x5A), (0x61, 0x7A)]⟩
  | .alpha => ⟨[(0x41, 0x5A), (0x61, 0x7A)]⟩
  | .ascii => ⟨[(0, 0x7F)]⟩
  | .blank => ⟨[(0x09, 0x09), (0x20, 0x20)]⟩
  | .cntrl => ⟨[(0, 0x1F), (0x7F, 0x7F)]⟩
  | .digit => ⟨[(0x30, 0x39)]⟩
  | .graph => ⟨[(0x21, 0x7E)]⟩
  | .lower => ⟨[(0x61, 0x7A)]⟩
  | .print => ⟨[(0x20, 0x7E)]⟩
  | .punct => ⟨[(0x21, 0x2F), (0x3A, 0x40), (0x5B, 0x60), (0x7B, 0x7E)]⟩
  | .space => ⟨[(0x09, 0x0D), (0x20, 0x20)]⟩
  | .upper => ⟨[(0x41, 0x5A)]⟩
  | .word => ⟨[(0x30, 0x39), (0x41, 0x5A), (0x5F, 0x5F), (0x61, 0x7A)]⟩
  | .xdigit => ⟨[(0x30, 0x39), (0x41, 0x46), (0x61, 0x66)]⟩

def Shorthand.set (unicode : Bool) : Shorthand → CharSet
  | .digit => if unicode then Property.decimalDigit else AsciiClass.digit.set
  | .space => if unicode then Property.whiteSpace else AsciiClass.space.set
  | .word => if unicode then Property.word else AsciiClass.word.set

def Shorthand.meaning? (m : Modes) (negated : Bool) (kind : Shorthand) : Option CharSet :=
  m.negate negated (kind.set m.unicode)

def PropertyQuery.meaning? (m : Modes) (negated : Bool) (query : PropertyQuery) :
    Option CharSet :=
  if m.unicode then (Property.find? query).bind fun s => m.negate negated (m.foldCase s) else none

/-- A byte above ASCII has no meaning without Unicode. -/
def Literal.char? (m : Modes) (c : Literal) : Option Char :=
  if !m.unicode && c.isByte && 128 ≤ c.char.toNat then none else some c.char

/-- Inside brackets every character has to be ASCII without Unicode. -/
def Literal.setChar? (m : Modes) (c : Literal) : Option Nat :=
  if !m.unicode && 128 ≤ c.char.toNat then none else some c.char.toNat

def SetOp.apply : SetOp → CharSet → CharSet → CharSet
  | .intersection => CharSet.inter
  | .difference => CharSet.difference
  | .symmetricDifference => CharSet.symmetricDifference

namespace SetExpr

mutual

def meaning? (m : Modes) : SetExpr → Option CharSet
  | .literal c => (c.setChar? m).map fun n => ⟨[(n, n)]⟩
  | .range lo hi =>
    match lo.setChar? m, hi.setChar? m with
    | some a, some b => some ⟨[(a, b)]⟩
    | _, _ => none
  | .ascii negated kind => m.negate negated (m.foldCase kind.set)
  | .shorthand negated kind => kind.meaning? m negated
  | .property negated query => PropertyQuery.meaning? m negated query
  | .nested negated s => (s.meaning? m).bind fun c => m.negate negated (m.foldCase c)
  | .union sets => unionMeaning? m sets
  | .op kind left right =>
    match left.meaning? m, right.meaning? m with
    | some l, some r => some (kind.apply (m.foldCase l) (m.foldCase r))
    | _, _ => none

def unionMeaning? (m : Modes) : List SetExpr → Option CharSet
  | [] => some .empty
  | s :: rest =>
    match s.meaning? m, unionMeaning? m rest with
    | some c, some d => some (c.union d)
    | _, _ => none

end

end SetExpr

def Anchor.look (m : Modes) : Anchor → Look
  | .startLine => if m.multiLine then if m.crlf then .crlfStart else .lineStart else .textStart
  | .endLine => if m.multiLine then if m.crlf then .crlfEnd else .lineEnd else .textEnd
  | .startText => .textStart
  | .endText => .textEnd
  | .wordBoundary => .word .boundary m.unicode
  | .notWordBoundary => .word .notBoundary m.unicode
  | .wordStart => .word .start m.unicode
  | .wordEnd => .word .stop m.unicode
  | .wordStartHalf => .word .startHalf m.unicode
  | .wordEndHalf => .word .stopHalf m.unicode

/-- A dot leaves out the ends of lines unless it is told to match everything. -/
def dotSet? (m : Modes) : Option CharSet :=
  if !m.unicode then none
  else if m.dotAll then some .all
  else if m.crlf then some (CharSet.complement ⟨[(0x0A, 0x0A), (0x0D, 0x0D)]⟩)
  else some (CharSet.complement ⟨[(0x0A, 0x0A)]⟩)

namespace Expr

mutual

/-- The pattern of an expression, and the modes after it. -/
def meaning? (m : Modes) : Expr → Option (Pattern × Modes)
  | .empty => some (.empty, m)
  | .flags change => some (.empty, m.apply change)
  | .literal c => (c.char? m).map fun c => (.oneOf (m.foldCase (.singleton c)), m)
  | .dot => (dotSet? m).map fun s => (.oneOf s, m)
  | .anchor kind => some (.look (kind.look m), m)
  | .shorthand negated kind => (kind.meaning? m negated).map fun s => (.oneOf s, m)
  | .property negated query => (PropertyQuery.meaning? m negated query).map fun s => (.oneOf s, m)
  | .bracketed negated s =>
    ((s.meaning? m).bind fun c => m.negate negated (m.foldCase c)).map fun c => (.oneOf c, m)
  | .repetition e least most =>
    (e.meaning? m).map fun (p, m) => (p.repeated least most, m)
  | .group captures change e =>
    (e.meaning? (m.apply change)).map fun (p, _) => (if captures then .capture p else p, m)
  | .alternation es => (listMeaning? m es).map fun (ps, m) => (alternatives ps, m)
  | .concat es => (listMeaning? m es).map fun (ps, m) => (.concat ps, m)

/-- The patterns of expressions that follow one another in the text of the pattern. -/
def listMeaning? (m : Modes) : List Expr → Option (List Pattern × Modes)
  | [] => some ([], m)
  | e :: rest =>
    match e.meaning? m with
    | none => none
    | some (p, m) =>
      match listMeaning? m rest with
      | none => none
      | some (ps, m) => some (p :: ps, m)

end

end Expr

end Pattern

end DocumentSchema
