import ToolPolicy.CommandLine.Grammar
import ToolPolicy.CommandLine.Halt

/-! Reading the words of a command line against a grammar.

The values of a parameter are judged once the next parameter is given or the words end, so that of
two faults the one that is judged first is reported. -/

namespace ToolPolicy.CommandLine

/-- The variables that are set, with their values. -/
abbrev Environment := List (String × String)

/-- The value of a variable that is set. -/
def Environment.value? (env : Environment) (name : String) : Option String := List.lookup name env

/-- Where the value of a setting is from. -/
inductive Source where
  | environment
  | commandLine
deriving DecidableEq, Repr

/-- What is given for a setting. -/
structure Given where
  source : Source
  /-- How often the setting is given. -/
  count : Nat
  values : List String
deriving DecidableEq, Repr

/-- The settings of a command line as far as it is read. -/
structure Reading where
  given : List (Setting × Given)
  /-- The parameter whose values are still being read. -/
  pending : Option (Parameter × List String)
deriving DecidableEq, Repr

namespace Reading

def empty : Reading := ⟨[], none⟩

def given? (r : Reading) (setting : Setting) : Option Given := r.given.lookup setting

def isGiven (r : Reading) (setting : Setting) : Bool := (r.given? setting).isSome

/-- Takes in a parameter, unless it asks for something else or is not as it can be. -/
def give (r : Reading) (p : Parameter) (source : Source) (values : List String) :
    Except Halt Reading :=
  if p.kind = .help then .error .help
  else if p.kind = .version then .error .version
  else if p.kind.takesValue && values.isEmpty then .error .invalidValue
  else
    match r.given? p.setting with
    -- That a parameter comes twice is judged before what its values are.
    | some earlier =>
      if !p.kind.isRepeatable then .error .conflict
      else if !values.all p.kind.accepts then .error .invalidValue
      else
        let now : Given := ⟨source, earlier.count + 1, earlier.values ++ values⟩
        -- The newer entry stands first and hides the earlier one.
        .ok { r with given := (p.setting, now) :: r.given }
    | none =>
      if !values.all p.kind.accepts then .error .invalidValue
      else .ok { r with given := (p.setting, ⟨source, 1, values⟩) :: r.given }

/-- Takes in the parameter that is still being read. -/
def settle (r : Reading) : Except Halt Reading :=
  match r.pending with
  | none => .ok r
  | some (p, values) => { r with pending := none }.give p .commandLine values

/-- Takes in a parameter of the command line after the one before it. -/
def take (r : Reading) (p : Parameter) (values : List String) : Except Halt Reading := do
  (← r.settle).give p .commandLine values

/-- Leaves the values of a parameter to the words that follow. -/
def await (r : Reading) (p : Parameter) (values : List String) : Except Halt Reading := do
  return { ← r.settle with pending := some (p, values) }

/-- The parameter whose value has to be the next word, unless that is an argument itself. -/
def awaited? (r : Reading) : Option Parameter :=
  match r.pending with
  | some (p, []) => some p
  | _ => none

end Reading

/-- What a word is by its looks. -/
inductive Word where
  | long (name : String) (value : Option String)
  | short (cluster : List Char)
  | plain
deriving DecidableEq, Repr

/-- A long option ends where an equals sign stands before its value. -/
def Word.ofLong (cs : List Char) : Word :=
  let name := String.ofList (cs.takeWhile (· != '='))
  match cs.dropWhile (· != '=') with
  | [] => .long name none
  | _ :: value => .long name (some (String.ofList value))

def Word.ofChars : List Char → Word
  | '-' :: '-' :: cs => .ofLong cs
  -- A dash alone is an operand.
  | '-' :: c :: cs => .short (c :: cs)
  | _ => .plain

/-- Reads a long option. -/
def readLong (g : Grammar) (name : String) (value : Option String) (r : Reading) :
    Except Halt Reading :=
  match g.named? name with
  | none => .error .unknownArgument
  | some p =>
    match p.kind.takesValue, value with
    | true, some value => r.take p.toParameter [value]
    | true, none => r.await p.toParameter []
    | false, some _ => .error .unexpectedValue
    | false, none => r.take p.toParameter []

/-- Reads a cluster of short options. The first one that takes a value has what is left as its
value, after an equals sign or without one. -/
def readShort (g : Grammar) : List Char → Reading → Except Halt Reading
  | [], r => .ok r
  | c :: rest, r =>
    match g.abbreviated? c with
    | none => .error .unknownArgument
    | some p =>
      if p.kind.takesValue then
        match rest with
        | [] => r.await p.toParameter []
        -- Only one equals sign is dropped; what follows may be empty.
        | '=' :: value | value => r.take p.toParameter [String.ofList value]
      else do readShort g rest (← r.take p.toParameter [])

/-- The fault of a word for which there is no operand. -/
def strayWord (g : Grammar) (isSeparated : Bool) (word : String) : Halt :=
  if g.commands.isEmpty || (isSeparated && g.commands.contains word) then .unknownArgument
  else .unknownCommand

/-- Reads an operand. Operands that follow one another are judged together. -/
def readOperand (g : Grammar) (isSeparated : Bool) (word : String) (r : Reading) :
    Except Halt Reading :=
  match g.operand with
  | none => .error (strayWord g isSeparated word)
  | some p =>
    match r.pending with
    | some (q, values) =>
      if q = p then
        if p.kind.isRepeatable then .ok { r with pending := some (p, values ++ [word]) }
        else .error (strayWord g isSeparated word)
      -- Another parameter is still being read; the operand ends it.
      else if r.isGiven p.setting && !p.kind.isRepeatable then
        .error (strayWord g isSeparated word)
      else r.await p [word]
    | none =>
      if r.isGiven p.setting && !p.kind.isRepeatable then .error (strayWord g isSeparated word)
      else r.await p [word]

/-- Reads the words after a separator. -/
def readOperands (g : Grammar) : List String → Reading → Except Halt Reading
  | [], r => .ok r
  | word :: rest, r => do readOperands g rest (← readOperand g true word r)

/-- Reads a word before any separator. -/
def readWord (g : Grammar) (word : String) (r : Reading) : Except Halt Reading :=
  match Word.ofChars word.toList with
  | .long name value => readLong g name value r
  | .short cluster => readShort g cluster r
  | .plain =>
    match r.awaited? with
    -- The word is taken for the value, also where it is the name of a command.
    | some p => .ok { r with pending := some (p, [word]) }
    | none => readOperand g false word r

/-- The word after which only operands stand. -/
def separator : String := "--"

/-- Reads words up to their end or up to a command, with which the words after it are returned. -/
def readWords (g : Grammar) :
    List String → Reading → Except Halt (Reading × Option (String × List String))
  | [], r => .ok (r, none)
  | word :: rest, r =>
    -- After the separator a command is an operand like any other word.
    if r.awaited?.isNone && g.commands.contains word then .ok (r, some (word, rest))
    else if word = separator then do return (← readOperands g rest r, none)
    else do readWords g rest (← readWord g word r)

/-- Takes in the variables of parameters that are not given otherwise. -/
def Reading.addVariables (env : Environment) : List NamedParameter → Reading → Except Halt Reading
  | [], r => .ok r
  | p :: rest, r =>
    match p.standIn.bind env.value? with
    | some value =>
      -- A variable whose parameter is given is not even judged.
      if r.isGiven p.setting then addVariables env rest r
      else do addVariables env rest (← r.give p.toParameter .environment [value])
    | none => addVariables env rest r

/-- Takes in what is left to take in once the words are read. -/
def Reading.finish (g : Grammar) (env : Environment) (r : Reading) : Except Halt Reading := do
  -- The last parameter is judged before any variable is.
  (← r.settle).addVariables env g.options

end ToolPolicy.CommandLine
