import ToolPolicy.Double.Rounding
import ToolPolicy.Node.Basic

/-! Numbers as YAML and JSON texts have them: integers of sixty-four bits, signed or not, and
doubles. -/

namespace ToolPolicy

/-- A number that was read. -/
inductive Number where
  | integer (n : Int)
  | float (x : Double)
deriving DecidableEq, Repr

namespace Number

/-- The least integer of a node. -/
def minInt : Int := -0x8000000000000000

/-- The greatest integer of a node. -/
def maxInt : Int := 0x7fffffffffffffff

/-- The greatest integer that can be read. -/
def maxUnsigned : Int := 0xffffffffffffffff

/-- An integer outside the range of nodes becomes the nearest double. -/
def toNode : Number → Node
  | integer n => if minInt ≤ n ∧ n ≤ maxInt then .int (Int64.ofInt n) else .float (Double.ofInt n)
  | float x => .float x

/-- The number as a double. -/
def toDouble : Number → Double
  | integer n => Double.ofInt n
  | float x => x

end Number

end ToolPolicy
