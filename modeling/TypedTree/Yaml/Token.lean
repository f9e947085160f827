import TypedTree.Number.Whole
import TypedTree.Text.Decode
import TypedTree.Yaml.Scalar

/-! # YAML tokens

A text is cut into tokens. Indentation opens and closes blocks. A key is only recognised by the
colon behind it, so every place where a key may have started is remembered, and the token that
says so is put in there once the colon is found. A text that cannot be cut up to its end still has
the tokens that are settled before the fault.
-/

namespace TypedTree.Yaml

open ReadM

inductive Token where
  | streamEnd
  | version (major : Nat)
  | tagHandle (handle expansion : String)
  | otherDirective
  | documentStart
  | documentEnd
  | blockSequenceStart
  | blockMappingStart
  | blockEnd
  | flowSequenceStart
  | flowSequenceEnd
  | flowMappingStart
  | flowMappingEnd
  | blockEntry
  | flowEntry
  | key
  | value
  | aliasOf (name : String)
  | anchor (name : String)
  /-- The handle is absent from a tag that is written in full. -/
  | tag (handle : Option String) (rest : String)
  | scalar (text : Text.CodePoints) (plain : Bool)
  deriving DecidableEq, Repr

/-- A place where a key may have started. -/
structure KeyStart where
  /-- How many tokens stand before it. -/
  token : Nat
  /-- Whether something else than a key cannot stand there. -/
  required : Bool
  index : Nat
  line : Nat
  column : Nat
  deriving DecidableEq, Repr

/-- Tokens so far, and what decides the next one. -/
structure Lexer where
  place : Place
  /-- The tokens, last first, and their number. -/
  tokens : List Token := []
  count : Nat := 0
  flowLevel : Nat := 0
  indent : Int := -1
  indents : List Int := []
  keyAllowed : Bool := true
  /-- At most one for each flow level. -/
  keyStarts : List (Nat × KeyStart) := []

abbrev LexM := StateT Lexer (Except Fault)

namespace LexM

/-- Runs a reader at the place of the lexer. -/
def read {α : Type} (r : ReadM α) : LexM α := do
  let s ← get
  let (a, place) ← r.run s.place
  set { s with place }
  return a

def push (t : Token) : LexM Unit :=
  modify fun s => { s with tokens := t :: s.tokens, count := s.count + 1 }

def allowKey (b : Bool) : LexM Unit := modify fun s => { s with keyAllowed := b }

def inFlow : LexM Bool := do return (← get).flowLevel != 0

/-- A block that is indented more deeply than the one around it opens; tells whether it does. -/
def openBlock (column : Nat) : LexM Bool := do
  let s ← get
  if s.indent < column then
    set { s with indents := s.indent :: s.indents, indent := column }
    return true
  else return false

/-- Closes blocks until one is indented no more than a column, and tells how many. -/
def closeBlocks (column : Int) : List Int → Int → Nat → Int × List Int × Nat
  | outer :: rest, indent, closed =>
    if column < indent then closeBlocks column rest outer (closed + 1)
    else (indent, outer :: rest, closed)
  | [], indent, closed => (indent, [], closed)

def unwind (column : Int) : LexM Unit := do
  let s ← get
  if s.flowLevel = 0 then
    let (indent, indents, closed) := closeBlocks column s.indents s.indent 0
    let tokens := List.replicate closed .blockEnd ++ s.tokens
    set { s with indent, indents, tokens, count := s.count + closed }

/-- Gives up the possible key of the current level. -/
def dropKeyStart : LexM Unit := do
  let s ← get
  match s.keyStarts.lookup s.flowLevel with
  | some k =>
    if k.required then throw .malformed
    set { s with keyStarts := s.keyStarts.filter fun e => e.1 != s.flowLevel }
  | none => return ()

/-- A key does not span lines and has at most 1024 characters. -/
def dropStaleKeyStarts : LexM Unit := do
  let s ← get
  let stale (k : KeyStart) : Bool := k.line != s.place.line || s.place.index - k.index > 1024
  if s.keyStarts.any fun e => stale e.2 && e.2.required then throw .malformed
  set { s with keyStarts := s.keyStarts.filter fun e => !stale e.2 }

/-- Remembers that a key may start here. -/
def saveKeyStart : LexM Unit := do
  let s ← get
  if s.keyAllowed then
    dropKeyStart
    let required := s.flowLevel == 0 && s.indent == s.place.column
    let k : KeyStart :=
      ⟨s.count, required, s.place.index, s.place.line, s.place.column⟩
    modify fun s => { s with keyStarts := (s.flowLevel, k) :: s.keyStarts }

end LexM

open LexM

/-! ## Properties and directives -/

def anchorName : ReadM String := do
  advance 1
  let name ← takeWhile isWordChar
  if name.isEmpty then throw .malformed
  expect fun c => endsToken c || c ∈ ['?', ':', ',', ']', '\x7d', '%', '@', '\x60']
  return String.ofList name

def isUriChar (c : Char) : Bool :=
  c.isAlphanum || c ∈ ['-', ';', '/', '?', ':', '@', '&', '=', '+', '$', ',', '_', '.', '!', '~',
    '*', '\x27', '(', ')', '[', ']']

/-- A run of escaped bytes, which together must be characters. -/
def uriEscapes : Nat → ReadM Text.Bytes
  | 0 => return []
  | n + 1 => do
    if (← peek 0) = '%' then
      advance 1
      let b ← hexNumber 2
      advance 2
      return b.toUInt8 :: (← uriEscapes n)
    else return []

def uriRuns : Nat → ReadM (List Char)
  | 0 => return []
  | n + 1 => do
    let run ← takeWhile isUriChar
    if (← peek 0) = '%' then
      let bytes ← uriEscapes (n + 1)
      match Text.Decoder.run { encoding := "utf-8", errors := "strict" } bytes with
      | .ok points => return run ++ points.map Char.ofNat ++ (← uriRuns n)
      | .error _ => throw .malformed
    else return run

def tagUri : ReadM String := do
  let uri ← uriRuns ((← get).rest.length + 1)
  if uri.isEmpty then throw .malformed
  return String.ofList uri

/-- A tag handle: an exclamation mark, or a word between two. -/
def tagHandle : ReadM String := do
  expect (· == '!')
  advance 1
  if (← peek 0) = ' ' then return "!"
  let name ← takeWhile isWordChar
  expect (· == '!')
  advance 1
  return String.ofList ('!' :: (name ++ ['!']))

/-- Whether a second exclamation mark stands in the same word. -/
def hasSecondMark : ReadM Bool := do
  let between := ((← get).rest.drop 1).takeWhile fun c => !endsWord c && c != '!'
  return (← peek (between.length + 1)) == '!'

def tagToken : ReadM Token := do
  let c ← peek 1
  let token ←
    if c = '<' then do
      advance 2
      let uri ← tagUri
      expect (· == '>')
      advance 1
      pure (Token.tag none uri)
    else if endsToken c then do
      advance 1
      pure (Token.tag none "!")
    else if ← hasSecondMark then do
      let handle ← tagHandle
      let uri ← tagUri
      pure (Token.tag (some handle) uri)
    else do
      advance 1
      let uri ← tagUri
      pure (Token.tag (some "!") uri)
  expect endsWord
  return token

def versionNumber : ReadM Nat := do
  let digits ← takeWhile Char.isDigit
  if digits.isEmpty then throw .malformed
  if Whole.digitLimit < digits.length then
    throw (.badNumber (Whole.Fault.tooLong digits.length).message)
  return ofDigits 10 digits

def directive : ReadM Token := do
  advance 1
  let name ← takeWhile isWordChar
  if name.isEmpty then throw .malformed
  expect endsWord
  let token ←
    if name = "YAML".toList then do
      skipSpaces
      let major ← versionNumber
      expect (· == '.')
      advance 1
      let _ ← versionNumber
      expect endsWord
      pure (Token.version major)
    else if name = "TAG".toList then do
      skipSpaces
      let handle ← tagHandle
      expect (· == ' ')
      skipSpaces
      let expansion ← tagUri
      expect endsWord
      pure (Token.tagHandle handle expansion)
    else do
      let _ ← takeWhile fun c => !endsLine c
      pure Token.otherDirective
  finishLine
  return token

/-! ## One token after the other -/

/-- Skips spaces, comments and line breaks; a line break outside of flow allows a key. -/
def toNextToken : Nat → LexM Unit
  | 0 => return ()
  | n + 1 => do
    read skipSpaces
    if (← read (peek 0)) = '#' then
      let _ ← read (takeWhile fun c => !endsLine c)
    let b ← read lineBreak
    if !b.isEmpty then
      if !(← inFlow) then allowKey true
      toNextToken n

/-- Whether a plain scalar can start with the characters. -/
def startsPlain (flow : Bool) (c next : Char) : Bool :=
  let indicator := endsToken c || isFlowSign c ||
    c ∈ ['-', '?', ':', '#', '&', '*', '!', '|', '>', '\x27', '\x22', '%', '@', '\x60']
  !indicator || (!endsToken next && (c == '-' || (!flow && (c == '?' || c == ':'))))

/-- Whether a sign is looked at together with the character behind it. -/
def isAmbiguous (flow : Bool) (c : Char) : Bool :=
  c ∈ ['-', '?', ':', '%', '@', '\x60'] || (flow && c ∈ ['|', '>'])

def endBlocks : LexM Unit := do
  unwind (-1)
  dropKeyStart
  allowKey false

def lexMarker (t : Token) : LexM Unit := do
  endBlocks
  read (advance 3)
  push t

def lexFlowStart (t : Token) : LexM Unit := do
  saveKeyStart
  modify fun s => { s with flowLevel := s.flowLevel + 1 }
  allowKey true
  read (advance 1)
  push t

def lexFlowEnd (t : Token) : LexM Unit := do
  dropKeyStart
  if !(← inFlow) then throw .malformed
  modify fun s => { s with flowLevel := s.flowLevel - 1 }
  allowKey false
  read (advance 1)
  push t

/-- Outside of flow, an entry or a key can only stand where a key could, and may open a block. -/
def openAt (t : Token) : LexM Unit := do
  if !(← inFlow) then
    let s ← get
    if !s.keyAllowed then throw .malformed
    if ← openBlock s.place.column then push t

def lexBlockEntry : LexM Unit := do
  openAt .blockSequenceStart
  allowKey true
  dropKeyStart
  read (advance 1)
  push .blockEntry

def lexKey : LexM Unit := do
  openAt .blockMappingStart
  allowKey (!(← inFlow))
  dropKeyStart
  read (advance 1)
  push .key

def lexValue : LexM Unit := do
  let s ← get
  match s.keyStarts.lookup s.flowLevel with
  | some k =>
    set { s with keyStarts := s.keyStarts.filter fun e => e.1 != s.flowLevel }
    let opened ← if s.flowLevel = 0 then openBlock k.column else pure false
    let inserted := if opened then [Token.blockMappingStart, .key] else [.key]
    let later := s.count - k.token
    modify fun s => { s with
      tokens := s.tokens.take later ++ inserted.reverse ++ s.tokens.drop later
      count := s.count + inserted.length }
    allowKey false
  | none =>
    openAt .blockMappingStart
    allowKey (!(← inFlow))
    dropKeyStart
  read (advance 1)
  push .value

/-- A token that may itself be a key. -/
def lexKeyable (r : ReadM Token) : LexM Unit := do
  saveKeyStart
  allowKey false
  push (← read r)

def lexPlain : LexM Unit := do
  saveKeyStart
  let s ← get
  let (text, broken) ← read (plainScalar (s.flowLevel != 0) s.indent)
  allowKey broken
  push (.scalar text true)

def lexBlockScalar (folded : Bool) : LexM Unit := do
  allowKey true
  dropKeyStart
  let s ← get
  let text ← read (blockScalar folded s.indent)
  push (.scalar text false)

/-- Reads the next token; tells whether the text goes on. -/
def lexNext : LexM Bool := do
  toNextToken ((← get).place.rest.length + 1)
  dropStaleKeyStarts
  unwind (← get).place.column
  let c ← read (peek 0)
  let outermost := (← get).place.column = 0
  let flow ← inFlow
  if c = endMark then
    endBlocks
    modify fun s => { s with keyStarts := [] }
    push .streamEnd
    return false
  if c = '%' && outermost then
    endBlocks
    push (← read directive)
    return true
  if c = '-' && outermost then
    if ← read (atMarker ['-']) then
      lexMarker .documentStart
      return true
  if c = '.' && outermost then
    if ← read (atMarker ['.']) then
      lexMarker .documentEnd
      return true
  -- What these signs are is told by what follows them.
  let next ← if isAmbiguous flow c then read (peek 1) else pure endMark
  if c = '[' then lexFlowStart .flowSequenceStart
  else if c = '\x7b' then lexFlowStart .flowMappingStart
  else if c = ']' then lexFlowEnd .flowSequenceEnd
  else if c = '\x7d' then lexFlowEnd .flowMappingEnd
  else if c = ',' then
    allowKey true
    dropKeyStart
    read (advance 1)
    push .flowEntry
  else if c = '-' && endsToken next then lexBlockEntry
  else if c = '?' && (flow || endsToken next) then lexKey
  else if c = ':' && (flow || endsToken next) then lexValue
  else if c = '*' then lexKeyable (return .aliasOf (← anchorName))
  else if c = '&' then lexKeyable (return .anchor (← anchorName))
  else if c = '!' then lexKeyable tagToken
  else if c = '|' && !flow then lexBlockScalar false
  else if c = '>' && !flow then lexBlockScalar true
  else if c = '\x27' || c = '\x22' then lexKeyable (return .scalar (← quotedScalar) false)
  else if startsPlain flow c next then lexPlain
  else throw .malformed
  return true

/-- The tokens of a text, up to the fault that cuts them short if there is one. -/
structure Tokens where
  list : List Token
  fault : Option Fault := none

/-- The tokens that nothing can be put before any more: those before the first possible key. -/
def Lexer.settled (s : Lexer) : List Token :=
  (s.tokens.drop (s.count - s.keyStarts.foldl (fun n e => min n e.2.token) s.count)).reverse

def lexAll : Nat → Lexer → Tokens
  | 0, s => ⟨s.settled, some .malformed⟩
  | n + 1, s =>
    match (do dropStaleKeyStarts; return ← get : LexM Lexer).run s with
    | .error f => ⟨[], some f⟩
    | .ok (s, _) =>
      match lexNext.run s with
      | .error f => ⟨s.settled, some f⟩
      | .ok (false, s) => ⟨s.tokens.reverse, none⟩
      | .ok (true, s) => lexAll n s

/-- How many characters come at a time. -/
def blockSize : Nat := 4096

/-- How many characters have come before the block of one at a place; the first two blocks come
together. -/
def blockStart (place : Nat) : Nat :=
  if place < 2 * blockSize then 0 else place / blockSize * blockSize

/-- The start of a text that may break off. Nothing can be had of a block that breaks off, or holds a
character that no text may contain. -/
def Place.first (text : List Char) (broken : Option Text.ReadFault) : Place :=
  let come := if broken.isSome then text.take (blockStart text.length) else text
  match come.findIdx? fun c => !isAllowed c with
  | some i => { rest := come.take (blockStart i), cut := some .malformed }
  | none => { rest := come, cut := broken.map .unread }

/-- Cuts a text into tokens. A byte order mark may stand at its start. -/
def tokens (text : List Char) (broken : Option Text.ReadFault) : Tokens :=
  let place := Place.first text broken
  let start := if place.peek 0 == byteOrderMark then place.next else place
  lexAll (text.length + 2) { place := start }

end TypedTree.Yaml
