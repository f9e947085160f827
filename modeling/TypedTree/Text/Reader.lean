import TypedTree.Text.Decode
import TypedTree.Text.FileName

/-! # Reading a file as text

A file is read in chunks of bytes, and its text is handed out some characters at a time. The bytes
are UTF-8. A character whose bytes are not all in a chunk waits for the next one, and so does a
carriage return, which may be the first half of a line end. Of a chunk with malformed bytes there is
no text at all.
-/

namespace TypedTree

namespace Text

/-- Why a file cannot be read on. -/
inductive ReadFault where
  | undecodable (fault : DecodeFault)
  | system (fault : SystemFault)
  deriving DecidableEq, Repr

/-- Line ends in their common form. -/
def commonLineEnds : List Char → List Char
  | '\r' :: '\n' :: rest => '\n' :: commonLineEnds rest
  | '\r' :: rest => '\n' :: commonLineEnds rest
  | c :: rest => c :: commonLineEnds rest
  | [] => []

/-- The text of bytes of which more may come, and the bytes at their end that are no character yet. -/
def decodePart (final : Bool) (bytes : Bytes) : Except DecodeFault (CodePoints × Bytes) :=
  match decodeFrom .utf8 "" .strict 0 bytes with
  | .ok ps => .ok (ps, [])
  | .error f =>
    match final, f with
    | false, .malformed _ _ start reason =>
      if reason = Utf.unexpectedEnd then do
        return (← decodeFrom .utf8 "" .strict 0 (bytes.take start), bytes.drop start)
      else .error f
    | _, f => .error f

/-- A file that is being read. -/
structure Reader where
  /-- The bytes that have not been read, and why there are no more if these are not all. -/
  rest : Bytes
  fault : Option SystemFault := none
  /-- The bytes of a character that is not complete. -/
  held : Bytes := []
  /-- Whether a carriage return waits for what follows it. -/
  carriage : Bool := false
  /-- The characters that have not been handed out. -/
  ready : List Char := []
  /-- How many bytes the last chunk had, and how many characters. -/
  last : Nat × Nat := (0, 0)

/-- How many bytes a chunk has at least. -/
def chunkSize : Nat := 8192

namespace Reader

/-- Reads a chunk, for a number of characters that are still wanted; nothing at the end. -/
def chunk (r : Reader) (wanted : Nat) : Except ReadFault (Option Reader) := do
  let size := max chunkSize (r.last.1 * wanted / r.last.2)
  let bytes := r.rest.take size
  let final := bytes.isEmpty
  match final, r.fault with
  | true, some f => throw (.system f)
  | _, _ =>
    let (points, held) ← (decodePart final (r.held ++ bytes)).mapError .undecodable
    let waits := r.carriage && points.isEmpty && !final
    let text := if r.carriage && !waits then '\r' :: points.map Char.ofNat else points.map Char.ofNat
    let splits := !final && text.getLast? == some '\r'
    let ready := commonLineEnds (if splits then text.dropLast else text)
    if final && ready.isEmpty then return none
    else
      return some { r with
        rest := r.rest.drop size, held, carriage := waits || splits, ready
        last := (bytes.length, ready.length) }

/-- Hands out the next `n` characters, or fewer at the end. The last number bounds how many chunks
there are. -/
def take (n : Nat) : Nat → Reader → Except ReadFault (List Char × Reader)
  | 0, r => .ok ([], r)
  | chunks + 1, r => do
    let found := r.ready.take n
    let r := { r with ready := r.ready.drop n }
    if found.length = n then return (found, r)
    else
      match ← r.chunk (n - found.length) with
      | none => return (found, r)
      | some r =>
        let (more, r) ← r.take (n - found.length) chunks
        return (found ++ more, r)

/-- All text in blocks of `n` characters, and why it breaks off if it does. -/
def blocks (n : Nat) : Nat → Reader → List Char × Option ReadFault
  | 0, _ => ([], none)
  | count + 1, r =>
    match r.take n (r.rest.length + 3) with
    | .error f => ([], some f)
    | .ok ([], _) => ([], none)
    | .ok (block, r) =>
      let (more, fault) := r.blocks n count
      (block ++ more, fault)

end Reader

end Text

end TypedTree
