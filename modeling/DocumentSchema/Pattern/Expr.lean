import DocumentSchema.Pattern.Property

/-!
# Pattern expressions

A pattern as it is written, before flags and properties are given a meaning.
Nesting is limited, counting everything that holds other expressions.
-/
namespace DocumentSchema

namespace Pattern

/-- A character of a pattern. The two-digit form `\xNN` stands for a byte where Unicode is off. -/
structure Literal where
  char : Char
  isByte : Bool
  deriving DecidableEq, Repr

inductive Shorthand
  | digit
  | space
  | word
  deriving DecidableEq, Repr

inductive AsciiClass
  | alnum
  | alpha
  | ascii
  | blank
  | cntrl
  | digit
  | graph
  | lower
  | print
  | punct
  | space
  | upper
  | word
  | xdigit
  deriving DecidableEq, Repr

inductive SetOp
  | intersection
  | difference
  | symmetricDifference
  deriving DecidableEq, Repr

inductive SetExpr
  | literal (c : Literal)
  | range (lo hi : Literal)
  | ascii (negated : Bool) (kind : AsciiClass)
  | shorthand (negated : Bool) (kind : Shorthand)
  | property (negated : Bool) (query : PropertyQuery)
  | nested (negated : Bool) (set : SetExpr)
  | union (sets : List SetExpr)
  | op (kind : SetOp) (left right : SetExpr)

inductive Anchor
  | startLine
  | endLine
  | startText
  | endText
  | wordBoundary
  | notWordBoundary
  | wordStart
  | wordEnd
  | wordStartHalf
  | wordEndHalf
  deriving DecidableEq, Repr

inductive Flag
  | ignoreCase
  | multiLine
  | dotAll
  | swapGreed
  | unicode
  | crlf
  | verbose
  deriving DecidableEq, Repr

abbrev FlagChange := List (Flag × Bool)

inductive Expr
  | empty
  | flags (change : FlagChange)
  | literal (c : Literal)
  | dot
  | anchor (kind : Anchor)
  | shorthand (negated : Bool) (kind : Shorthand)
  | property (negated : Bool) (query : PropertyQuery)
  | bracketed (negated : Bool) (set : SetExpr)
  | repetition (e : Expr) (least : Nat) (most : Option Nat)
  | group (captures : Bool) (change : FlagChange) (e : Expr)
  | alternation (es : List Expr)
  | concat (es : List Expr)

namespace SetExpr

def ofItems : List SetExpr → SetExpr
  | [s] => s
  | sets => .union sets

mutual

def depth : SetExpr → Nat
  | .nested _ s => s.depth + 1
  | .union sets => if sets.isEmpty then 0 else maxDepth sets + 1
  | .op _ l r => max l.depth r.depth + 1
  | _ => 0

def maxDepth : List SetExpr → Nat
  | [] => 0
  | s :: rest => max s.depth (maxDepth rest)

end

end SetExpr

namespace Expr

def ofConcat : List Expr → Expr
  | [] => .empty
  | [e] => e
  | es => .concat es

def ofAlternation : List Expr → Expr
  | [] => .empty
  | [e] => e
  | es => .alternation es

def isRepeatable : Expr → Bool
  | .empty | .flags _ => false
  | _ => true

mutual

def depth : Expr → Nat
  | .bracketed _ s => s.depth + 1
  | .repetition e _ _ => e.depth + 1
  | .group _ _ e => e.depth + 1
  | .alternation es => maxDepth es + 1
  | .concat es => maxDepth es + 1
  | _ => 0

def maxDepth : List Expr → Nat
  | [] => 0
  | e :: rest => max e.depth (maxDepth rest)

end

def depthLimit : Nat := 250

end Expr

end Pattern

end DocumentSchema
