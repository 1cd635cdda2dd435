import ToolPolicy.Content
import ToolPolicy.Double.Layout
import ToolPolicy.Json.Fault
import ToolPolicy.Yaml.Style

/-! YAML text in block style. Every value ends its line, so the text of a collection is the texts of
its elements one after the other. -/

namespace ToolPolicy.Yaml

/-- A run of blanks. -/
def blanks (n : Nat) : List Char := List.replicate n ' '

/-- The upper-case hexadecimal digits of a number, to a fixed width. -/
def hexDigits : Nat → Nat → List Char
  | 0, _ => []
  | width + 1, n => hexDigits width (n / 16) ++ [(Nat.digitChar (n % 16)).toUpper]

/-- A character that double quotes cannot hold as it is. -/
def escapeSequence (c : Char) : List Char :=
  let n := c.toNat
  '\\' :: match n with
    | 0x0 => ['0']
    | 0x7 => ['a']
    | 0x8 => ['b']
    | 0x9 => ['t']
    | 0xa => ['n']
    | 0xb => ['v']
    | 0xc => ['f']
    | 0xd => ['r']
    | 0x1b => ['e']
    | 0x22 => ['"']
    | 0x5c => ['\\']
    | 0x85 => ['N']
    | 0xa0 => ['_']
    | 0x2028 => ['L']
    | 0x2029 => ['P']
    | _ =>
      if n ≤ 0xff then 'x' :: hexDigits 2 n
      else if n ≤ 0xffff then 'u' :: hexDigits 4 n
      else 'U' :: hexDigits 8 n

/-- A character between double quotes. -/
def escapeDouble (c : Char) : List Char :=
  if !isPrintable c || isBreak c || c == '"' || c == '\\' then escapeSequence c else [c]

/-- A text between double quotes. -/
def doubleQuoted (cs : List Char) : List Char := '"' :: cs.flatMap escapeDouble ++ ['"']

/-- The body of single quotes: quotes are doubled, and after line breaks the text is indented.

`broken` says that the text so far ends in a line break. A text that holds a line feed is never
written this way. -/
def singleBody (indent : Nat) (broken : Bool) : List Char → List Char
  | [] => if broken then blanks indent else []
  | c :: rest =>
    if isBreak c then c :: singleBody indent true rest
    else
      (if broken then blanks indent else []) ++ (if c == '\'' then ['\'', '\''] else [c]) ++
        singleBody indent false rest

/-- A text of one line keeps to its line between single quotes. -/
theorem isBreak_of_mem_singleBody {indent : Nat} {cs : List Char} {d : Char}
    (unbroken : ∀ c ∈ cs, isBreak c = false) (member : d ∈ singleBody indent false cs) :
    isBreak d = false := by
  induction cs with
  | nil => simp [singleBody] at member
  | cons c cs ih =>
    obtain ⟨first, others⟩ := List.forall_mem_cons.mp unbroken
    -- Without breaks no indentation is put in, and a quote is doubled on its line.
    rw [singleBody, if_neg (by simp [first]), if_neg (by decide), List.nil_append] at member
    rcases List.mem_append.mp member with here | later
    · split at here
      · have quote : d = '\'' := by simpa using here
        rw [quote]
        rfl
      · rw [List.mem_singleton.mp here]
        exact first
    · exact ih others later

/-- A text between single quotes. -/
def singleQuoted (indent : Nat) (cs : List Char) : List Char :=
  '\'' :: singleBody indent false cs ++ ['\'']

/-- The body of a literal block, every line that is not empty being indented. -/
def literalBody (indent : Nat) (broken : Bool) : List Char → List Char
  | [] => []
  | c :: rest =>
    if isBreak c then c :: literalBody indent true rest
    else (if broken then blanks indent else []) ++ c :: literalBody indent false rest

/-- No character is lost in a block. -/
theorem length_le_literalBody (indent : Nat) (broken : Bool) (cs : List Char) :
    cs.length ≤ (literalBody indent broken cs).length := by
  induction cs generalizing broken with
  | nil => simp
  | cons c cs ih =>
    rw [literalBody]
    split
    · simpa using ih true
    · have later := ih false
      simp only [List.length_append, List.length_cons]
      omega

/-- The number that a literal block needs when its first line starts with a blank or is empty. -/
def indentHint (cs : List Char) : List Char :=
  if cs.head?.any isSpaceOrBreak then ['2'] else []

/-- The sign for the line breaks at the end of a literal block: none of them, one, or all. -/
def chompHint (cs : List Char) : List Char :=
  match cs.reverse with
  | [] => ['-']
  | [c] => if isBreak c then ['+'] else ['-']
  | c :: d :: _ => if !isBreak c then ['-'] else if isBreak d then ['+'] else []

/-- A literal block. -/
def literal (indent : Nat) (cs : List Char) : List Char :=
  '|' :: indentHint cs ++ chompHint cs ++ '\n' :: literalBody indent true cs

/-- A string in a style, lines after the first being indented. -/
def styled (indent : Nat) (cs : List Char) : Style → List Char
  | .plain => cs
  | .singleQuoted => singleQuoted indent cs
  | .doubleQuoted => doubleQuoted cs
  | .literal => literal indent cs

/-- A string that is not a key on one line. -/
def string (indent : Nat) (s : String) : List Char := styled indent s.toList (style false s.toList)

/-- The text of a scalar or of an empty collection. -/
def scalar (indent : Nat) : Content → List Char
  | .null => "null".toList
  | .bool b => if b then "true".toList else "false".toList
  | .int n => Digits.ofInt n
  | .float x => Double.yamlLayout.chars x
  | .string s => string indent s
  | .sequence _ => ['[', ']']
  | .mapping _ => ['{', '}']

/-- A value that ends its line; a literal block may have ended it already. -/
def endLine (cs : List Char) : List Char :=
  if cs.getLast?.any isBreak then cs else cs ++ ['\n']

/-- The longest key in bytes that is written on the line of its value. -/
def maxInlineKey : Nat := 128

/-- Whether a key is written on the line of its value. -/
def isInlineKey (cs : List Char) : Bool := !cs.any isBreak && Json.byteLength cs ≤ maxInlineKey

mutual

/-- The lines of a value after an indicator at the column `indent`. -/
def afterIndicator (indent : Nat) : Content → List Char
  | .sequence (item :: rest) => ' ' :: sequenceLines (indent + 2) (item :: rest)
  | .mapping (entry :: rest) => ' ' :: mappingLines (indent + 2) (entry :: rest)
  | value => ' ' :: endLine (scalar (indent + 2) value)

/-- The lines of a value after a key at the column `indent`; sequences are not indented. -/
def afterKey (indent : Nat) : Content → List Char
  | .sequence (item :: rest) => '\n' :: blanks indent ++ sequenceLines indent (item :: rest)
  | .mapping (entry :: rest) =>
    '\n' :: blanks (indent + 2) ++ mappingLines (indent + 2) (entry :: rest)
  | value => ' ' :: endLine (scalar (indent + 2) value)

/-- The lines of a sequence at the column `indent`, which the first line has reached. -/
def sequenceLines (indent : Nat) : List Content → List Char
  | [] => []
  | [item] => '-' :: afterIndicator indent item
  | item :: next :: rest =>
    '-' :: afterIndicator indent item ++ blanks indent ++ sequenceLines indent (next :: rest)

/-- The lines of a mapping at the column `indent`, which the first line has reached. -/
def mappingLines (indent : Nat) : List (String × Content) → List Char
  | [] => []
  | [entry] => entryLines indent entry
  | entry :: next :: rest =>
    entryLines indent entry ++ blanks indent ++ mappingLines indent (next :: rest)

/-- The lines of an entry. A key that is long or has several lines stands alone. -/
def entryLines (indent : Nat) : String × Content → List Char
  | (key, value) =>
    if isInlineKey key.toList then
      styled (indent + 2) key.toList (style true key.toList) ++ ':' :: afterKey indent value
    else
      '?' :: ' ' :: endLine (string (indent + 2) key) ++ blanks indent ++
        ':' :: afterIndicator indent value

end

/-- The text of a document. -/
def document : Content → List Char
  | .sequence (item :: rest) => sequenceLines 0 (item :: rest)
  | .mapping (entry :: rest) => mappingLines 0 (entry :: rest)
  | value => endLine (scalar 2 value)

/-- The YAML text of a value. -/
def write (value : Content) : String := String.ofList (document value)

end ToolPolicy.Yaml
