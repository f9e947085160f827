import TypedTree.Text.Quoted
import TypedTree.Yaml.Cursor

/-! # Scalars as they are written

The three ways to write a scalar: in a block of its own, between quotes, or plainly. Lines are
folded: a single line break inside a scalar is a space, and further breaks are kept.
-/

namespace TypedTree.Yaml

open ReadM

/-! ## Block scalars -/

/-- What becomes of the line breaks at the end of a block. -/
inductive Chomp where
  | strip
  | clip
  | keep
  deriving DecidableEq, Repr

/-- Skips spaces up to a column. -/
def skipIndent (indent : Nat) : ReadM Unit := do
  let p ← get
  advance (min (indent - p.column) (p.rest.takeWhile (· == ' ')).length)

/-- The line breaks before the next line of a block; the first argument bounds their number. -/
def blockBreaks (indent : Nat) : Nat → ReadM (List Char)
  | 0 => return []
  | n + 1 => do
    skipIndent indent
    if isBreak (← peek 0) then
      let b ← lineBreak
      let rest ← blockBreaks indent n
      return b ++ rest
    else return []

/-- The line breaks before the first line of a block, and the deepest column reached by spaces. -/
def blockIndentation (deepest : Nat) : Nat → ReadM (List Char × Nat)
  | 0 => return ([], deepest)
  | n + 1 => do
    let c ← peek 0
    if c = ' ' then
      advance 1
      let p ← get
      blockIndentation (max deepest p.column) n
    else if isBreak c then
      let b ← lineBreak
      let (rest, deepest) ← blockIndentation deepest n
      return (b ++ rest, deepest)
    else return ([], deepest)

/-- Whether a line of the block stands here. -/
def atBlockLine (indent : Nat) : ReadM Bool := do
  if (← get).column = indent then return (← peek 0) != endMark else return false

/-- The lines of a block: their text, the last line break, and the breaks that follow it. -/
def blockLines (folded : Bool) (indent : Nat) :
    Nat → List Char → ReadM (List Char × List Char × List Char)
  | 0, breaks => return ([], [], breaks)
  | n + 1, breaks => do
    if !(← atBlockLine indent) then
      return ([], [], breaks)
    let flush := !isSpaceOrTab (← peek 0)
    let line ← takeWhile fun c => !endsLine c
    let lineEnd ← lineBreak
    let next ← blockBreaks indent ((← get).rest.length + 1)
    if ← atBlockLine indent then
      let joint :=
        if folded && lineEnd == ['\n'] && flush && !isSpaceOrTab (← peek 0) then
          if next.isEmpty then [' '] else []
        else lineEnd
      let (text, lastEnd, after) ← blockLines folded indent n next
      return (breaks ++ line ++ joint ++ text, lastEnd, after)
    else return (breaks ++ line, lineEnd, next)

def chompOf (c : Char) : Option Chomp :=
  if c = '+' then some .keep else if c = '-' then some .strip else none

/-- A chomping sign and an indentation digit, in either order. -/
def blockHeader : ReadM (Chomp × Option Nat) := do
  let digit? : ReadM (Option Nat) := do
    let c ← peek 0
    if c.isDigit then
      if c = '0' then throw .malformed
      advance 1
      return some (hexDigit c)
    else return none
  let sign? : ReadM (Option Chomp) := do
    match chompOf (← peek 0) with
    | some s => advance 1; return some s
    | none => return none
  let first ← sign?
  let depth ← digit?
  let sign ← if first.isNone && depth.isSome then sign? else pure first
  expect endsWord
  return (sign.getD .clip, depth)

/-- A block scalar whose parent is indented by `indent`. -/
def blockScalar (folded : Bool) (indent : Int) : ReadM Text.CodePoints := do
  advance 1
  let (chomp, depth) ← blockHeader
  finishLine
  let least := (max (indent + 1) 1).toNat
  let fuel := (← get).rest.length + 1
  let (breaks, column) ← match depth with
    | none => do
      let (breaks, deepest) ← blockIndentation 0 fuel
      pure (breaks, max least deepest)
    | some d => do
      let column := least + d - 1
      let breaks ← blockBreaks column fuel
      pure (breaks, column)
  let (text, lastEnd, after) ← blockLines folded column fuel breaks
  let tail := match chomp with
    | .strip => []
    | .clip => lastEnd
    | .keep => lastEnd ++ after
  return (text ++ tail).map Char.toNat

/-! ## Quoted scalars -/

def simpleEscape? : Char → Option Char
  | '0' => some '\x00'
  | 'a' => some '\x07'
  | 'b' => some '\x08'
  | 't' => some '\t'
  | '\t' => some '\t'
  | 'n' => some '\n'
  | 'v' => some '\x0b'
  | 'f' => some '\x0c'
  | 'r' => some '\r'
  | 'e' => some '\x1b'
  | ' ' => some ' '
  | '\x22' => some '\x22'
  | '\\' => some '\\'
  | '/' => some '/'
  | 'N' => some '\u0085'
  | '_' => some '\u00A0'
  | 'L' => some '\u2028'
  | 'P' => some '\u2029'
  | _ => none

/-- How many hexadecimal digits follow an escape letter. -/
def escapeWidth? : Char → Option Nat
  | 'x' => some 2
  | 'u' => some 4
  | 'U' => some 8
  | _ => none

/-- The number in the next `width` hexadecimal digits, which are not passed. -/
def hexNumber (width : Nat) : ReadM Nat := do
  let digits := ((← get).rest.take width).takeWhile isHexDigit
  if digits.length = width then return ofDigits 16 digits
  else
    reach digits.length
    throw .malformed

/-- The code point with the number just read, which may be a surrogate; a number beyond all code
points is refused, and one of 32 bits in other words. -/
def codePoint (n : Nat) : ReadM Nat :=
  if n < 0x110000 then return n
  else if n < 0x80000000 then throw (.badNumber "chr() arg not in range(0x110000)")
  else throw (.tooLarge "Python int too large to convert to C int")

/-- Blank lines inside a quoted scalar. -/
def quotedBreaks : Nat → ReadM (List Char)
  | 0 => return []
  | n + 1 => do
    if ← atSeparator then throw .malformed
    let _ ← takeWhile isSpaceOrTab
    if isBreak (← peek 0) then
      let b ← lineBreak
      let rest ← quotedBreaks n
      return b ++ rest
    else return []

def stopsQuotedRun (c : Char) : Bool := c == '\x27' || c == '\x22' || c == '\\' || endsToken c

/-- What follows a backslash. -/
def escaped : ReadM Text.CodePoints := do
  let c ← peek 0
  match simpleEscape? c, escapeWidth? c with
  | some e, _ =>
    advance 1
    return [e.toNat]
  | none, some width =>
    advance 1
    let code ← codePoint (← hexNumber width)
    advance width
    return [code]
  | none, none =>
    if isBreak c then
      let _ ← lineBreak
      let breaks ← quotedBreaks ((← get).rest.length + 1)
      return breaks.map Char.toNat
    else throw .malformed

/-- Text without spaces inside a quoted scalar. -/
def quotedRun (double : Bool) : Nat → ReadM Text.CodePoints
  | 0 => return []
  | n + 1 => do
    let run := (← takeWhile fun c => !stopsQuotedRun c).map Char.toNat
    let c ← peek 0
    if !double && c = '\x27' && (← peek 1) = '\x27' then
      advance 2
      return run ++ c.toNat :: (← quotedRun double n)
    else if (double && c = '\x27') || (!double && (c = '\x22' || c = '\\')) then
      advance 1
      return run ++ c.toNat :: (← quotedRun double n)
    else if double && c = '\\' then
      advance 1
      let e ← escaped
      return run ++ e ++ (← quotedRun double n)
    else return run

/-- Spaces inside a quoted scalar, folded where they hold a line break. -/
def quotedSpaces : ReadM (List Char) := do
  let spaces ← takeWhile isSpaceOrTab
  let c ← peek 0
  if c = endMark then throw .malformed
  else if isBreak c then
    let b ← lineBreak
    let more ← quotedBreaks ((← get).rest.length + 1)
    if b ≠ ['\n'] then return b ++ more
    else if more.isEmpty then return [' ']
    else return more
  else return spaces

/-- The text up to the closing quote. -/
def quotedRest (quote : Char) : Nat → ReadM Text.CodePoints
  | 0 => throw .malformed
  | n + 1 => do
    if (← peek 0) = quote then return []
    else
      let spaces ← quotedSpaces
      let run ← quotedRun (quote == '\x22') (n + 1)
      return spaces.map Char.toNat ++ run ++ (← quotedRest quote n)

def quotedScalar : ReadM Text.CodePoints := do
  let quote ← peek 0
  advance 1
  let fuel := (← get).rest.length + 1
  let run ← quotedRun (quote == '\x22') fuel
  let rest ← quotedRest quote fuel
  advance 1
  return run ++ rest

/-! ## Plain scalars -/

def isFlowSign (c : Char) : Bool :=
  c == ',' || c == '[' || c == ']' || c == '\x7b' || c == '\x7d'

/-- Whether a plain scalar ends at the start of the characters. -/
def stopsPlainRun (flow : Bool) : List Char → Bool
  | [] => true
  | c :: rest =>
    endsToken c ||
      (c == ':' && (endsToken (rest.headD endMark) || (flow && isFlowSign (rest.headD endMark)))) ||
      (flow && (isFlowSign c || c == '?'))

/-- The characters before the place where a plain scalar ends. -/
def plainRun (flow : Bool) : List Char → List Char
  | [] => []
  | c :: rest => if stopsPlainRun flow (c :: rest) then [] else c :: plainRun flow rest

/-- Blank lines inside a plain scalar; nothing if a document marker ends it. -/
def plainBreaks : Nat → ReadM (Option (List Char))
  | 0 => return some []
  | n + 1 => do
    let c ← peek 0
    if c = ' ' then
      advance 1
      plainBreaks n
    else if isBreak c then
      let b ← lineBreak
      if ← atSeparator then return none
      return (← plainBreaks n).map (b ++ ·)
    else return some []

/-- Spaces after a run of a plain scalar, folded, and whether they hold a line break. -/
def plainSpaces : ReadM (List Char × Bool) := do
  let spaces ← takeWhile (· == ' ')
  if isBreak (← peek 0) then
    let b ← lineBreak
    if ← atSeparator then return ([], true)
    match ← plainBreaks ((← get).rest.length + 1) with
    | none => return ([], true)
    | some more =>
      if b ≠ ['\n'] then return (b ++ more, true)
      else if more.isEmpty then return ([' '], true)
      else return (more, true)
  else return (spaces, false)

/-- The runs of a plain scalar after `spaces`, and whether a line break stands after the last. -/
def plainRuns (flow : Bool) (indent : Int) :
    Nat → List Char → Bool → ReadM (List Char × Bool)
  | 0, _, broken => return ([], broken)
  | n + 1, spaces, broken => do
    if (← peek 0) = '#' then return ([], broken)
    let run := plainRun flow (← get).rest
    -- A colon ends the run only by what follows it.
    if (← peek run.length) = ':' then reach (run.length + 1)
    if run.isEmpty then return ([], broken)
    advance run.length
    let (after, broken) ← plainSpaces
    let column : Int := (← get).column
    if after.isEmpty || (← peek 0) == '#' || (!flow && column < indent) then
      return (spaces ++ run, broken)
    else
      let (text, broken) ← plainRuns flow indent n after broken
      return (spaces ++ run ++ text, broken)

/-- A plain scalar, and whether a line break stands behind it. -/
def plainScalar (flow : Bool) (indent : Int) : ReadM (Text.CodePoints × Bool) := do
  let (text, broken) ← plainRuns flow (indent + 1) ((← get).rest.length + 1) [] false
  return (text.map Char.toNat, broken)

end TypedTree.Yaml
