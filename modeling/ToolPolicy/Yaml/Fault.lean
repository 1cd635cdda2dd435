import ToolPolicy.Yaml.Malformed
import ToolPolicy.Yaml.Value

/-! Why a YAML text has no value. -/

namespace ToolPolicy.Yaml

/-- The way from the root of a document to a value. -/
inductive Path where
  | root
  | item (parent : Path) (index : Nat)
  | field (parent : Path) (name : String)
  /-- Under a key that is not a scalar. -/
  | unknown (parent : Path)
deriving DecidableEq, Repr

namespace Path

/-- The path with a point after it; the root has none. -/
def withPoint (text : String) : Path → String
  | root => ""
  | _ => text ++ "."

def text : Path → String
  | root => "."
  | item parent index => text parent ++ "[" ++ Digits.nat index ++ "]"
  | field parent name => withPoint (text parent) parent ++ name
  | unknown parent => withPoint (text parent) parent ++ "?"

end Path

/-- The types that tags ask for. -/
inductive CoreType where
  | null
  | bool
  | int
  | float
deriving DecidableEq, Repr

/-- How a message names a type that was expected. -/
def CoreType.description : CoreType → String
  | null => "null"
  | bool => "a boolean"
  | int => "an integer"
  | float => "a float"

/-- What is wrong with a value. -/
inductive Unfit where
  | duplicateKey (key : Value)
  /-- An integer of more than sixty-four bits. -/
  | wideInteger (n : Int)
  /-- A text that is not of the type that its tag asks for. -/
  | wrongType (text : String) (expected : CoreType)

def Unfit.text : Unfit → String
  | duplicateKey key => "duplicate entry " ++ key.keyDescription
  | wideInteger n =>
    "invalid type: integer \x60" ++ Digits.int n ++ "\x60 as " ++
      (if n < 0 then "i128" else "u128") ++ ", expected any YAML value"
  | wrongType s expected =>
    "invalid value: string " ++ Quoted.text s ++ ", expected " ++ expected.description

/-- Why a text has no value. -/
inductive Fault where
  | malformed (e : Malformed)
  | unfit (path : Path) (mark : Mark) (cause : Unfit)
  | unknownAnchor (mark : Mark)
  | tooDeep (mark : Mark)
  | tooManyRepeats
  | severalDocuments
  | noValue
  | mergedScalar
  | mergedItemScalar
  | mergedItemSequence
  | mergedTag

namespace Fault

/-- The place of a fault, where it has one. -/
def mark? : Fault → Option Mark
  | malformed e => some e.mark
  | unfit _ mark _ | unknownAnchor mark | tooDeep mark => some mark
  | _ => none

/-- The line of a fault, counted from one. -/
def line? (f : Fault) : Option Nat := f.mark?.map (·.line + 1)

/-- What is wrong, without the place. -/
def text : Fault → String
  | malformed e => e.message
  | unfit path _ cause => (if path = .root then "" else path.text ++ ": ") ++ cause.text
  | unknownAnchor _ => "unknown anchor"
  | tooDeep _ => "recursion limit exceeded"
  | tooManyRepeats => "repetition limit exceeded"
  | severalDocuments =>
    "deserializing from YAML containing more than one document is not supported"
  | noValue => "EOF while parsing a value"
  | mergedScalar => "expected a mapping or list of mappings for merging, but found scalar"
  | mergedItemScalar => "expected a mapping for merging, but found scalar"
  | mergedItemSequence => "expected a mapping for merging, but found sequence"
  | mergedTag => "unexpected tagged value in merge"

/-- The message; a place at the very start is not written. -/
def message (f : Fault) : String :=
  match f with
  | malformed e => e.message
  | _ =>
    match f.mark? with
    | some mark => f.text ++ (if mark.isFirst then "" else " at " ++ mark.text)
    | none => f.text

end Fault

end ToolPolicy.Yaml
