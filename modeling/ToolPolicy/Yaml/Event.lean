import ToolPolicy.Yaml.Token.Lexer

/-! The structure of YAML texts, as a list of events in the order of the text. -/

namespace ToolPolicy.Yaml

/-- What an event is. Collections are given by their two ends. -/
inductive Event.Kind where
  | alias (name : String)
  | scalar (anchor tag : Option String) (text : String) (presentation : Presentation)
  | sequenceStart (anchor tag : Option String)
  | sequenceEnd
  | mappingStart (anchor tag : Option String)
  | mappingEnd
deriving DecidableEq, Repr

/-- An event with the place where it starts. -/
structure Event where
  kind : Event.Kind
  mark : Mark
deriving DecidableEq, Repr

/-- The events of a document, and the fault that cut them short. -/
structure Document where
  events : List Event
  fault : Option Malformed
deriving Repr

/-- A text with its first document, and whether anything follows it. -/
structure Stream where
  first : Document
  hasMore : Bool
deriving Repr

/-- The grammar's view of a text: the tokens left, the events so far in reverse, and the tag handles
that are declared. -/
structure Progress where
  tokens : List Token
  fault : Option Malformed
  events : List Event
  handles : List (String × String)

/-- A part of the grammar. The events that came before a fault are kept. -/
abbrev Grammar := ExceptT Malformed (StateM Progress)

namespace Grammar

/-- The next token; where there is none, the fault that cut the tokens short comes up. -/
def peek : Grammar Token := do
  let p ← get
  match p.tokens with
  | t :: _ => return t
  | [] => throw (p.fault.getD (.here .expectedDocument .start))

/-- Goes over a token. -/
def skip : Grammar Unit := modify fun p => { p with tokens := p.tokens.tail }

/-- The token after the next one, which is gone over. -/
def skipAndPeek : Grammar Token := do
  skip
  peek

/-- Adds an event. -/
def emit (kind : Event.Kind) (mark : Mark) : Grammar Unit :=
  modify fun p => { p with events := ⟨kind, mark⟩ :: p.events }

/-- Adds an empty scalar where a node is left out. -/
def emitEmpty (mark : Mark) : Grammar Unit := emit (.scalar none none "" .plain) mark

/-- The handles that need no declaration. -/
def standardHandles : List (String × String) := [("!", "!"), ("!!", "tag:yaml.org,2002:")]

/-- The whole tag of a handle and a suffix. -/
def wholeTag (since : Mark) (handle suffix : String) (mark : Mark) : Grammar String := do
  if handle = "" then return suffix
  else
    match (← get).handles.lookup handle with
    | some uri => return uri ++ suffix
    | none => throw (.within .undefinedHandle mark .node since)

/-- The anchor and the tag before a node. -/
structure Properties where
  anchor : Option String
  tag : Option String
  since : Mark

/-- Reads the tag that comes next, if one does. -/
def tag? : Grammar (Option (String × String × Mark)) := do
  let t ← peek
  match t.kind with
  | .tag handle suffix => do
    skip
    return some (handle, suffix, t.start)
  | _ => return none

/-- Reads the anchor that comes next, if one does. -/
def anchor? : Grammar (Option String) := do
  let t ← peek
  match t.kind with
  | .anchor name => do
    skip
    return some name
  | _ => return none

/-- Reads an anchor and a tag in either order. -/
def properties : Grammar Properties := do
  let since := (← peek).start
  let before ← anchor?
  let tag ← tag?
  -- An anchor after the tag is read only if none came before it.
  let anchor ← if before.isNone && tag.isSome then anchor? else pure before
  let whole ← match tag with
    | some (handle, suffix, mark) => some <$> wholeTag since handle suffix mark
    | none => pure none
  return ⟨anchor, whole, since⟩

/-- Whether a token of a block mapping leaves out the node before it. -/
def endsBlockNode (kind : Token.Kind) : Bool :=
  kind = .key ∨ kind = .value ∨ kind = .blockEnd

mutual

/-- A node: an alias, a scalar or a collection. In flow collections there are no block collections,
and only after keys and colons may a sequence start at the column of its mapping. -/
def node : Nat → Bool → Bool → Grammar Unit
  | 0, _, _ => pure ()
  | fuel + 1, block, indentless => do
    let t ← peek
    match t.kind with
    | .alias name => do
      skip
      emit (.alias name) t.start
    | _ => do
      let p ← properties
      let t ← peek
      match t.kind with
      | .scalar text presentation => do
        skip
        -- A lone exclamation mark before a scalar is as good as no tag.
        emit (.scalar p.anchor (p.tag.filter (· != "!")) text presentation) p.since
      | .flowSequenceStart => do
        emit (.sequenceStart p.anchor p.tag) p.since
        skip
        flowSequence fuel t.start true
      | .flowMappingStart => do
        emit (.mappingStart p.anchor p.tag) p.since
        skip
        flowMapping fuel t.start true
      | kind =>
        if indentless && kind = .blockEntry then do
          emit (.sequenceStart p.anchor p.tag) p.since
          indentlessSequence fuel
        else if block && kind = .blockSequenceStart then do
          emit (.sequenceStart p.anchor p.tag) p.since
          skip
          blockSequence fuel t.start
        else if block && kind = .blockMappingStart then do
          emit (.mappingStart p.anchor p.tag) p.since
          skip
          blockMapping fuel t.start
        -- A node that has only properties is an empty scalar.
        else if p.anchor.isSome || p.tag.isSome then
          emit (.scalar p.anchor p.tag "" .plain) p.since
        else
          throw (.within .expectedNode t.start (if block then .blockNode else .flowNode) p.since)

/-- The entries of a block sequence that started at a place. -/
def blockSequence : Nat → Mark → Grammar Unit
  | 0, _ => pure ()
  | fuel + 1, since => do
    let t ← peek
    match t.kind with
    | .blockEntry => do
      let next ← skipAndPeek
      if next.kind = .blockEntry ∨ next.kind = .blockEnd then emitEmpty t.finish
      else node fuel true false
      blockSequence fuel since
    | .blockEnd => do
      skip
      emit .sequenceEnd t.start
    | _ => throw (.within .expectedEntry t.start .blockCollection since)

/-- The entries of a sequence at the column of the mapping around it. -/
def indentlessSequence : Nat → Grammar Unit
  | 0 => pure ()
  | fuel + 1 => do
    let t ← peek
    match t.kind with
    | .blockEntry => do
      let next ← skipAndPeek
      if next.kind = .blockEntry ∨ endsBlockNode next.kind then emitEmpty t.finish
      else node fuel true false
      indentlessSequence fuel
    -- No token ends such a sequence; what comes next belongs to the mapping around it.
    | _ => emit .sequenceEnd t.start

/-- The entries of a block mapping that started at a place. -/
def blockMapping : Nat → Mark → Grammar Unit
  | 0, _ => pure ()
  | fuel + 1, since => do
    let t ← peek
    match t.kind with
    | .key => do
      let next ← skipAndPeek
      if endsBlockNode next.kind then emitEmpty t.finish else node fuel true true
      let colon ← peek
      if colon.kind = .value then do
        let next ← skipAndPeek
        if endsBlockNode next.kind then emitEmpty colon.finish else node fuel true true
      else emitEmpty colon.start
      blockMapping fuel since
    | .blockEnd => do
      skip
      emit .mappingEnd t.start
    | _ => throw (.within .expectedKey t.start .blockMapping since)

/-- The entries of a flow sequence that started at a place. -/
def flowSequence : Nat → Mark → Bool → Grammar Unit
  | 0, _, _ => pure ()
  | fuel + 1, since, isFirst => do
    let t ← peek
    if t.kind ≠ .flowSequenceEnd && !isFirst then
      if t.kind = .flowEntry then skip
      else throw (.within .expectedSequenceEnd t.start .flowSequence since)
    let t ← peek
    match t.kind with
    | .flowSequenceEnd => do
      skip
      emit .sequenceEnd t.start
    | .key => do
      emit (.mappingStart none none) t.start
      skip
      flowPair fuel
      flowSequence fuel since false
    | _ => do
      node fuel false false
      flowSequence fuel since false

/-- The one entry of a mapping that is written as an entry of a flow sequence. A key that is left
out takes the token in its place with it. -/
def flowPair : Nat → Grammar Unit
  | 0 => pure ()
  | fuel + 1 => do
    let t ← peek
    if t.kind = .value ∨ t.kind = .flowEntry ∨ t.kind = .flowSequenceEnd then do
      skip
      emitEmpty t.finish
    else node fuel false false
    let colon ← peek
    if colon.kind = .value then do
      let next ← skipAndPeek
      if next.kind = .flowEntry ∨ next.kind = .flowSequenceEnd then emitEmpty next.start
      else node fuel false false
    else emitEmpty colon.start
    emit .mappingEnd (← peek).start

/-- The entries of a flow mapping that started at a place. -/
def flowMapping : Nat → Mark → Bool → Grammar Unit
  | 0, _, _ => pure ()
  | fuel + 1, since, isFirst => do
    let t ← peek
    if t.kind ≠ .flowMappingEnd && !isFirst then
      if t.kind = .flowEntry then skip
      else throw (.within .expectedMappingEnd t.start .flowMapping since)
    let t ← peek
    match t.kind with
    | .flowMappingEnd => do
      skip
      emit .mappingEnd t.start
    | .key => do
      let next ← skipAndPeek
      if next.kind = .value ∨ next.kind = .flowEntry ∨ next.kind = .flowMappingEnd then
        emitEmpty next.start
      else node fuel false false
      let colon ← peek
      if colon.kind = .value then do
        let next ← skipAndPeek
        if next.kind = .flowEntry ∨ next.kind = .flowMappingEnd then emitEmpty next.start
        else node fuel false false
      else emitEmpty colon.start
      flowMapping fuel since false
    | _ => do
      node fuel false false
      emitEmpty (← peek).start
      flowMapping fuel since false

end

/-- Declares a tag handle. -/
def declareHandle (handle uri : String) (mark : Mark) : Grammar Unit := do
  if ((← get).handles.lookup handle).isSome then throw (.here .duplicateHandle mark)
  else modify fun p => { p with handles := p.handles ++ [(handle, uri)] }

/-- Reads the directives before a document. -/
def directives : Nat → Bool → Grammar Unit
  | 0, _ => pure ()
  | fuel + 1, hasVersion => do
    let t ← peek
    match t.kind with
    | .versionDirective major minor =>
      if hasVersion then throw (.here .duplicateVersion t.start)
      else if major ≠ 1 || (minor ≠ 1 && minor ≠ 2) then throw (.here .incompatibleVersion t.start)
      else do
        skip
        directives fuel true
    | .tagDirective handle uri => do
      declareHandle handle uri t.start
      skip
      directives fuel hasVersion
    | _ => modify fun p => { p with handles := p.handles ++ standardHandles }

/-- Whether a token belongs before a document or at its end. -/
def isOutside : Token.Kind → Bool
  | .versionDirective .. | .tagDirective .. | .documentStart | .documentEnd | .streamEnd => true
  | _ => false

/-- The first document, unless the text has none. -/
def firstDocument (fuel : Nat) : Grammar Unit := do
  skip
  let t ← peek
  if t.kind = .streamEnd then return ()
  -- A document without a marker has no directives, but the standard handles are still declared.
  else if t.kind = .documentEnd || !isOutside t.kind then do
    directives fuel false
    node fuel true false
  else do
    directives fuel false
    let t ← peek
    if t.kind ≠ .documentStart then throw (.here .expectedDocument t.start)
    else do
      let next ← skipAndPeek
      if isOutside next.kind then emitEmpty next.start else node fuel true false
  if (← peek).kind = .documentEnd then skip

end Grammar

/-- Whether the tokens after a document hold anything but its end. -/
def Progress.hasMore (p : Progress) : Bool :=
  (p.tokens.dropWhile (·.kind = .documentEnd)).head?.map (·.kind) != some .streamEnd

/-- The structure of a text. The fuel bounds the parts of the grammar, of which there are fewer than
four for each token. -/
def Stream.read (cs : List Char) : Stream :=
  let (tokens, fault) := Token.scan cs
  let start : Progress := ⟨tokens, fault, [], []⟩
  let run : Grammar Unit := do
    -- A fault in the first token comes up before anything is read.
    let _ ← Grammar.peek
    Grammar.firstDocument (4 * tokens.length + 8)
  match run.run start with
  | (.ok (), p) => ⟨⟨p.events.reverse, none⟩, p.hasMore⟩
  | (.error e, p) => ⟨⟨p.events.reverse, some e⟩, false⟩

end ToolPolicy.Yaml
