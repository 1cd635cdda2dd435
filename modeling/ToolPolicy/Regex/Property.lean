import ToolPolicy.Regex.CharSet
import ToolPolicy.Regex.Fault

/-! Finding properties by their names. -/

namespace ToolPolicy.Regex

/-- Whether a name begins with a form of the verb that may precede it. -/
def beginsWithIs : List Char → Bool
  | a :: b :: _ => (a == 'i' || a == 'I') && (b == 's' || b == 'S')
  | _ => false

/-- A name in lower case, without blanks, underscores, hyphens and what is not ASCII, and without
the verb before it. One property has a name that begins like the verb. -/
def normalise (name : String) : String :=
  let cs := name.toList
  let hasVerb := beginsWithIs cs
  let kept := ((if hasVerb then cs.drop 2 else cs).filter fun c =>
    c.toNat < 0x80 && c != ' ' && c != '_' && c != '-').map Char.toLower
  if hasVerb && kept == ['c'] then "isc" else String.ofList kept

/-- The property with a normalised name. -/
def Property.find? (properties : List Property) (name : String) : Option Property :=
  properties.find? (·.names.contains name)

/-- The property that a name alone asks for: one that characters have or have not, a category or a
script. -/
def Property.named? (name : String) : Option Property :=
  ((find? binary name).or (find? categories name)).or (find? scripts name)

/-- The values of a property that has them. -/
def Property.values? (name : String) : Option (List Property) :=
  if ["gc", "generalcategory", "category"].contains name then some categories
  else if ["sc", "script", "scx", "scriptextensions"].contains name then some scripts
  else if name = "age" then some ages
  else if ["gcb", "graphemeclusterbreak"].contains name then some graphemeBreaks
  else if ["wb", "wordbreak"].contains name then some wordBreaks
  else if ["sb", "sentencebreak"].contains name then some sentenceBreaks
  else none

/-- Whether there is a property with a normalised name. -/
def Property.isKnown (name : String) : Bool :=
  (find? binary name).isSome || withoutValues.contains name

/-- The characters that have a property. -/
def Property.set (p : Property) : CharSet := .ofRanges p.members (p.weight - CharSet.baseWeight)

/-- The characters that a query asks for. -/
def Query.set? : Query → Except Fault CharSet
  | named name =>
    match Property.named? (normalise name) with
    | some p => .ok p.set
    | none =>
      .error
        (if Property.withoutCharacters.contains (normalise name) then .propertyValueNotFound
          else .propertyNotFound)
  | valued name value =>
    match Property.values? (normalise name) with
    | some values =>
      match Property.find? values (normalise value) with
      | some p => .ok p.set
      | none => .error .propertyValueNotFound
    | none =>
      .error <|
        if Property.isKnown (normalise name) then .propertyValueNotFound else .propertyNotFound

end ToolPolicy.Regex
