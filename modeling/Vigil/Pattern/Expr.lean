import Vigil.Pattern.CharClass

/-! # Expressions

The tree of a regular expression. An expression without look-around, references to groups and the other
constructs that look at more than the next character is *plain*; the rest are *hard* (`isHard`), and so is
a group that a reference points to. `leastSize` and `hasFixedSize` say how many characters an expression
takes. Groups are numbered in the order of their opening brackets, `first` being the number of the first
group inside an expression. -/

namespace Vigil.Pattern

/-- Conditions on a place between characters. -/
inductive Assertion
  | textStart
  | textEnd
  | lineStart
  | lineEnd
  | wordStart
  | wordEnd
  | wordBoundary
  | noWordBoundary
deriving DecidableEq

/-- Conditions about words have to look at the characters on both sides. -/
def Assertion.isHard : Assertion → Bool
  | .textStart | .textEnd | .lineStart | .lineEnd => false
  | .wordStart | .wordEnd | .wordBoundary | .noWordBoundary => true

/-- A regular expression. -/
inductive Expr
  | empty
  | any (newline : Bool)
  | literal (c : Char) (folded : Bool)
  | set (s : CharClass)
  | assertion (a : Assertion)
  | sequence (items : List Expr)
  | choice (items : List Expr)
  | group (e : Expr)
  | look (behind negative : Bool) (e : Expr)
  | repetition (e : Expr) (least : Nat) (most : Option Nat) (greedy : Bool)
  | atomic (e : Expr)
  | reference (group : Nat)
  | resetStart
  | searchStart
  | groupMatched (group : Nat)
  | conditional (condition yes no : Expr)

namespace Expr

mutual

/-- The number of groups. -/
def groups : Expr → Nat
  | .sequence items => groupsAll items
  | .choice items => groupsAll items
  | .group e => e.groups + 1
  | .look _ _ e => e.groups
  | .repetition e _ _ _ => e.groups
  | .atomic e => e.groups
  | .conditional c y n => c.groups + y.groups + n.groups
  | _ => 0

/-- The number of groups in several expressions. -/
def groupsAll : List Expr → Nat
  | [] => 0
  | e :: es => e.groups + groupsAll es

end

mutual

/-- The least number of characters taken. -/
def leastSize : Expr → Nat
  | .any _ => 1
  | .literal _ _ => 1
  | .set _ => 1
  | .sequence items => leastSizeSum items
  | .choice items => leastSizeMin items
  | .group e => e.leastSize
  | .repetition e least _ _ => e.leastSize * least
  | .atomic e => e.leastSize
  | .conditional c y n => c.leastSize + min y.leastSize n.leastSize
  | _ => 0

/-- The least size of expressions in a row. -/
def leastSizeSum : List Expr → Nat
  | [] => 0
  | e :: es => e.leastSize + leastSizeSum es

/-- The least size of one of several expressions. -/
def leastSizeMin : List Expr → Nat
  | [] => 0
  | [e] => e.leastSize
  | e :: es => min e.leastSize (leastSizeMin es)

end

mutual

/-- Whether the number of characters taken is always the same. -/
def hasFixedSize : Expr → Bool
  | .sequence items => allFixedSize items
  | .choice [] => true
  | .choice (e :: es) => e.hasFixedSize && allOfSize e.leastSize es
  | .group e => e.hasFixedSize
  | .repetition e least most _ => e.hasFixedSize && some least == most
  | .atomic e => e.hasFixedSize
  | .reference _ => false
  | .conditional c y n =>
    c.hasFixedSize && y.hasFixedSize && n.hasFixedSize &&
      c.leastSize + y.leastSize == n.leastSize
  | _ => true

/-- Whether each of several expressions takes a fixed number of characters. -/
def allFixedSize : List Expr → Bool
  | [] => true
  | e :: es => e.hasFixedSize && allFixedSize es

/-- Whether each of several expressions takes a fixed number of characters, and no more than `size` when
all before it take at least that many. -/
def allOfSize (size : Nat) : List Expr → Bool
  | [] => true
  | e :: es => e.hasFixedSize && size == e.leastSize && allOfSize (min size e.leastSize) es

end

mutual

/-- Whether an expression needs more than the next character; `referenced` are the numbers of the groups
that are referred to. -/
def isHard (referenced : List Nat) (first : Nat) : Expr → Bool
  | .assertion a => a.isHard
  | .sequence items => anyHard referenced first items
  | .choice items => anyHard referenced first items
  | .group e => e.isHard referenced (first + 1) || referenced.contains first
  | .repetition e _ _ _ => e.isHard referenced first
  | .look _ _ _ | .atomic _ | .reference _ | .resetStart | .searchStart | .groupMatched _
  | .conditional _ _ _ => true
  | .empty | .any _ | .literal _ _ | .set _ => false

/-- Whether one of several expressions is hard. -/
def anyHard (referenced : List Nat) (first : Nat) : List Expr → Bool
  | [] => false
  | e :: es => e.isHard referenced first || anyHard referenced (first + e.groups) es

end

mutual

/-- Whether every reference points to a group that has been opened before it. -/
def referencesOpened (first : Nat) : Expr → Bool
  | .sequence items => allReferencesOpened first items
  | .choice items => allReferencesOpened first items
  | .group e => e.referencesOpened (first + 1)
  | .look _ _ e => e.referencesOpened first
  | .repetition e _ _ _ => e.referencesOpened first
  | .atomic e => e.referencesOpened first
  | .reference g => g < first
  | .groupMatched g => g < first
  | .conditional c y n =>
    c.referencesOpened first && y.referencesOpened (first + c.groups) &&
      n.referencesOpened (first + c.groups + y.groups)
  | _ => true

/-- Whether every reference in several expressions points to a group opened before it. -/
def allReferencesOpened (first : Nat) : List Expr → Bool
  | [] => true
  | e :: es => e.referencesOpened first && allReferencesOpened (first + e.groups) es

end

end Expr

end Vigil.Pattern
