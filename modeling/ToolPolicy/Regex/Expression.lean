import ToolPolicy.Regex.CharSet

/-! What patterns mean: expressions without switches and spellings. -/

namespace ToolPolicy.Regex

/-- A condition on the characters around a position. -/
inductive Look where
  | start
  | finish
  | startLine
  | endLine
  | startCrlfLine
  | endCrlfLine
  | wordBoundary
  | notWordBoundary
  | wordStart
  | wordEnd
  | wordStartHalf
  | wordEndHalf
deriving DecidableEq, Repr

/-- A set of texts, each of which may ask for what is around it. -/
inductive Expression where
  | empty
  | char (c : Char)
  | set (s : CharSet)
  | look (l : Look)
  | repetition (least : Nat) (most : Option Nat) (sub : Expression)
  | group (sub : Expression)
  | concat (items : List Expression)
  | alternation (branches : List Expression)

namespace Expression

mutual

/-- Whether nothing but the empty text can be matched. -/
def isEmpty : Expression → Bool
  | empty | look _ => true
  | char _ | set _ => false
  | repetition _ most sub => most == some 0 || sub.isEmpty
  | group sub => sub.isEmpty
  | concat items => areEmpty items
  | alternation branches => areEmpty branches

def areEmpty : List Expression → Bool
  | [] => true
  | item :: rest => item.isEmpty && areEmpty rest

end

mutual

/-- Whether the empty text can be matched. -/
def canBeEmpty : Expression → Bool
  | empty | look _ => true
  | char _ | set _ => false
  | repetition least _ sub => least == 0 || sub.canBeEmpty
  | group sub => sub.canBeEmpty
  | concat items => allCanBeEmpty items
  | alternation branches => anyCanBeEmpty branches

def allCanBeEmpty : List Expression → Bool
  | [] => true
  | item :: rest => item.canBeEmpty && allCanBeEmpty rest

def anyCanBeEmpty : List Expression → Bool
  | [] => false
  | item :: rest => item.canBeEmpty || anyCanBeEmpty rest

end

/-- An expression a number of times. What matches only the empty text is taken at most once. -/
def repeated (least : Nat) (most : Option Nat) (sub : Expression) : Expression :=
  let (least, most) :=
    if sub.isEmpty then (min least 1, some (min (most.getD 1) 1)) else (least, most)
  if most = some 0 then empty
  else if least = 1 ∧ most = some 1 then sub
  else repetition least most sub

/-- What a state of a compiled expression weighs. -/
def stateWeight : Nat := 32

/-- What a choice between two states weighs. -/
def choiceWeight : Nat := 40

/-- What a part that is repeated weighs by the weight of one copy. -/
def repeatedWeight (least : Nat) (most : Option Nat) (canBeEmpty : Bool) (copy : Nat) : Nat :=
  match least, most with
  | 0, some 1 => choiceWeight + copy + stateWeight
  | 0, none => if canBeEmpty then 2 * choiceWeight + copy + stateWeight else choiceWeight + copy
  | n, none => n * copy + choiceWeight
  | n, some m =>
    if n = m then n * copy
    else (if n = 0 then stateWeight else n * copy) + stateWeight + (m - n) * (choiceWeight + copy)

mutual

/-- What an expression weighs when it is compiled. -/
def weight : Expression → Nat
  | empty | look _ => stateWeight
  | char c => stateWeight * c.utf8Size
  | set s => CharSet.baseWeight + s.weight
  | repetition least most sub => repeatedWeight least most sub.canBeEmpty sub.weight
  | group sub => 2 * stateWeight + sub.weight
  | concat items => weightOfAll items
  | alternation branches => 2 * stateWeight + 4 * branches.length + weightOfAll branches

def weightOfAll : List Expression → Nat
  | [] => 0
  | item :: rest => item.weight + weightOfAll rest

end

/-- What the search for an expression anywhere in a text weighs beside it. -/
def searchWeight : Nat := 168

end Expression

end ToolPolicy.Regex
