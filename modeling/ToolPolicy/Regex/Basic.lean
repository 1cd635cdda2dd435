import ToolPolicy.Regex.Matcher
import ToolPolicy.Regex.Meaning
import ToolPolicy.Regex.Nesting
import ToolPolicy.Regex.Parser

/-! Regular expressions without regard to case. -/

namespace ToolPolicy

/-- A pattern that was compiled. -/
structure Regex where
  expression : Regex.Expression

namespace Regex

/-- The most that a compiled pattern may weigh. -/
def maxWeight : Nat := 0x100000

/-- Why a pattern was not compiled. -/
inductive Refusal where
  | malformed (pattern : List Char) (e : Error)
  | oversize
deriving DecidableEq, Repr

def Refusal.message : Refusal → String
  | malformed pattern e => e.message pattern
  | oversize => "Compiled regex exceeds size limit of " ++ Digits.nat maxWeight ++ " bytes."

/-- What a pattern means. -/
def expressionOf (pattern : List Char) : Except Error Expression := do
  let p ← Pattern.parse pattern
  p.checkNesting
  let (e, _) ← p.meaning .ignoringCase
  return e

/-- Compiles a pattern. -/
def compile (pattern : String) : Except Refusal Regex :=
  match expressionOf pattern.toList with
  | .error e => .error (.malformed pattern.toList e)
  | .ok e => if maxWeight < e.weight + Expression.searchWeight then .error .oversize else .ok ⟨e⟩

/-- Whether a pattern matches somewhere in a text. -/
def isMatch (r : Regex) (text : String) : Bool := r.expression.occursIn text.toList

end Regex

end ToolPolicy
