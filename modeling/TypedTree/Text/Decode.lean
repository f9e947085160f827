import TypedTree.Text.CodePage
import TypedTree.Text.Encoding
import TypedTree.Text.Escape
import TypedTree.Text.MultiByte
import TypedTree.Text.Punycode
import TypedTree.Text.Utf
import TypedTree.Text.Utf7

/-! # Decoding bytes

Bytes are decoded one piece at a time. A stretch that no character has is malformed, and an error
handler says what stands for it and where decoding goes on. Text is a list of code points, because a
handler may produce lone surrogates.
-/

namespace TypedTree.Text

open Utf (Endian)

/-- How an encoding writes a character. -/
inductive Scheme where
  | utf8
  | utf16 (order : Endian)
  | utf32 (order : Endian)
  | utf7
  | ascii
  | latin1
  | page (p : CodePage)
  | escaped
  | rawEscaped
  | multiByte (e : MultiByte)
  /-- Only the ASCII characters of the encoding are known here. -/
  | partlyAscii
  deriving DecidableEq, Repr

namespace Scheme

/-- The name that a malformed input is reported under. -/
def label : Scheme → String → String
  | utf8, _ => "utf-8"
  | utf16 .little, _ => "utf-16-le"
  | utf16 .big, _ => "utf-16-be"
  | utf32 .little, _ => "utf-32-le"
  | utf32 .big, _ => "utf-32-be"
  | utf7, _ => "utf7"
  | ascii, _ => "ascii"
  | latin1, _ => "latin-1"
  | page _, _ => "charmap"
  | escaped, _ => "unicodeescape"
  | rawEscaped, _ => "rawunicodeescape"
  | multiByte _, name => name
  | partlyAscii, name => name

def piece : Scheme → UInt8 → Bytes → Piece
  | utf8, b, rest => Utf.piece8 b rest
  | utf16 order, b, rest => Utf.piece16 order b rest
  | utf32 order, b, rest => Utf.piece32 order b rest
  | utf7, b, rest => Utf7.piece b rest
  | ascii, b, _ =>
    if b < 0x80 then .char b.toNat 1 else .malformed 1 "ordinal not in range(128)"
  | latin1, b, _ => .char b.toNat 1
  | page p, b, _ =>
    match p.point? b with
    | some n => .char n 1
    | none => .malformed 1 "character maps to <undefined>"
  | escaped, b, rest => Escape.piece b rest
  | rawEscaped, b, rest => Escape.rawPiece b rest
  | multiByte e, b, rest => e.piece b rest
  | partlyAscii, b, _ =>
    if b < 0x80 then .char b.toNat 1 else .malformed 1 "illegal multibyte sequence"

/-- The surrogate that the first bytes spell in a scheme with room for one, and their number. -/
def surrogate? (scheme : Scheme) (bytes : Bytes) : Option (Nat × Nat) :=
  let found := match scheme with
    | utf8 => (Utf.surrogate8? bytes).map (·, 3)
    | utf16 order => (Utf.surrogate16? order bytes).map (·, 2)
    | utf32 order => (Utf.surrogate32? order bytes).map (·, 4)
    | _ => none
  found.filter fun (n, _) => isSurrogate n

end Scheme

/-- What to do with a malformed stretch. -/
inductive Handler where
  | strict
  | replace
  | ignore
  | backslash
  | surrogate
  /-- Lets a surrogate through that the encoding spells out. -/
  | passSurrogates
  /-- Known, but only for writing. -/
  | writingOnly
  | unknown (name : String)
  deriving DecidableEq, Repr

def Handler.ofName : String → Handler
  | "strict" => .strict
  | "replace" => .replace
  | "ignore" => .ignore
  | "backslashreplace" => .backslash
  | "surrogateescape" => .surrogate
  | "surrogatepass" => .passSurrogates
  | "xmlcharrefreplace" => .writingOnly
  | "namereplace" => .writingOnly
  | name => .unknown name

inductive DecodeFault where
  /-- The bytes from `start` on that no character has. -/
  | malformed (codec : String) (bytes : Bytes) (start : Nat) (reason : String)
  /-- A handler that nobody knows, and the encoding that asked for it if that is told. -/
  | unknownHandler (name : String) (encoding : Option String := none)
  /-- A handler that cannot read, and the encoding that asked for it if that is told. -/
  | writingHandler (encoding : Option String := none)
  /-- A name with a NUL character in it. -/
  | nulInName
  | unknownEncoding (name : String)
  | notText (name : String)
  /-- An encoding that gives up on the whole input. -/
  | failed (reason : String) (encoding : String := "")
  deriving DecidableEq, Repr

def wrongHandler : String := "don't know how to handle UnicodeDecodeError in error callback"

def DecodeFault.message : DecodeFault → String
  | malformed codec [b] start reason =>
    s!"'{codec}' codec can't decode byte 0x{String.ofList (hex 2 b.toNat)} in position {start}: {reason}"
  | malformed codec bytes start reason =>
    s!"'{codec}' codec can't decode bytes in position {start}-{start + bytes.length - 1}: {reason}"
  | unknownHandler name none => s!"unknown error handler name '{name}'"
  | unknownHandler name (some encoding) =>
    s!"decoding with '{encoding}' codec failed (LookupError: unknown error handler name '{name}')"
  | writingHandler none => wrongHandler
  | writingHandler (some encoding) =>
    s!"decoding with '{encoding}' codec failed (TypeError: {wrongHandler})"
  | nulInName => "embedded null character"
  | unknownEncoding name => "unknown encoding: " ++ name
  | notText name =>
    s!"'{name}' is not a text encoding; use codecs.decode() to handle arbitrary codecs"
  | failed reason encoding =>
    s!"decoding with '{encoding}' codec failed (UnicodeError: {reason})"

/-- A malformed byte spelled out. -/
def backslashed (b : UInt8) : CodePoints :=
  ('\\' :: 'x' :: hex 2 b.toNat).map Char.toNat

/-- What stands for the malformed bytes at the head of the input, and how many bytes are done
with. -/
def Handler.resolve (h : Handler) (scheme : Scheme) (bytes input : Bytes) :
    Option (CodePoints × Nat) :=
  match h with
  | strict => none
  | replace => some ([0xFFFD], bytes.length)
  | ignore => some ([], bytes.length)
  | backslash => some (bytes.flatMap backslashed, bytes.length)
  | surrogate =>
    match bytes.takeWhile fun b => 0x80 ≤ b with
    | [] => none
    | escaped => some (escaped.map fun b => 0xDC00 + b.toNat, escaped.length)
  | passSurrogates => (scheme.surrogate? input).map fun (n, len) => ([n], len)
  | writingOnly => none
  | unknown _ => none

/-- Decodes from a byte at offset `pos` on. -/
def decodeFrom (scheme : Scheme) (name : String) (h : Handler) (pos : Nat) :
    Bytes → Except DecodeFault CodePoints
  | [] => .ok []
  | b :: rest =>
    let p := scheme.piece b rest
    match p.fault with
    | none => do
      let more ← decodeFrom scheme name h (pos + p.length) (rest.drop (p.length - 1))
      return p.points ++ more
    | some reason =>
      let bad := (b :: rest).take p.length
      match h with
      | .unknown handler => .error (.unknownHandler handler)
      | .writingOnly => .error .writingHandler
      | _ =>
        match h.resolve scheme bad (b :: rest) with
        | none => .error (.malformed (scheme.label name) bad pos reason)
        | some (out, done) => do
          let more ← decodeFrom scheme name h (pos + done) (rest.drop (done - 1))
          return p.points ++ out ++ more
termination_by bytes => bytes.length
decreasing_by all_goals simp only [List.length_drop, List.length_cons]; omega

/-- The scheme of an encoding that has no byte order mark, by its known name. -/
def schemeOf (name : String) : Scheme :=
  match name with
  | "utf-8" => .utf8
  | "utf-16-le" => .utf16 .little
  | "utf-16-be" => .utf16 .big
  | "utf-32-le" => .utf32 .little
  | "utf-32-be" => .utf32 .big
  | "ascii" => .ascii
  | "iso8859-1" => .latin1
  | "charmap" => .latin1
  | "utf-7" => .utf7
  | "unicode-escape" => .escaped
  | "raw-unicode-escape" => .rawEscaped
  | other =>
    match CodePage.find? other, MultiByte.ofName? other with
    | some p, _ => .page p
    | none, some e => .multiByte e
    | none, none => .partlyAscii

/-- A byte order mark chooses the order of the units after it; without one it is little. -/
def decodeMarked (bytes : Bytes) (littleMark bigMark : Bytes) (scheme : Endian → Scheme)
    (h : Handler) : Except DecodeFault CodePoints :=
  let n := littleMark.length
  if littleMark.isPrefixOf bytes then decodeFrom (scheme .little) "" h n (bytes.drop n)
  else if bigMark.isPrefixOf bytes then decodeFrom (scheme .big) "" h n (bytes.drop n)
  else decodeFrom (scheme .little) "" h 0 bytes

/-- The fault of a handler that an encoding has no use for. -/
def unsupported (handler : String) : DecodeFault := .failed ("Unsupported error handling " ++ handler)

def decodePunycode (errors : String) (bytes : Bytes) : Except DecodeFault CodePoints :=
  if ["strict", "replace", "ignore"].contains errors then do
    let (plain, digits) := Punycode.split bytes
    let plain ← decodeFrom .ascii "" (.ofName errors) 0 plain
    let _ ← decodeFrom .ascii "" .strict 0 digits
    let rigour := if errors = "strict" then .strict else .lenient
    (Punycode.decode rigour plain digits).mapError fun reason => .failed reason
  else .error (unsupported errors)

def asciiBytes (s : String) : Bytes := s.toList.map fun c => c.toNat.toUInt8

/-- What marks a part of a name that is not plain. -/
def nameMark : Bytes := asciiBytes "xn--"

/-- One part of a name. -/
def decodeLabel (bytes : Bytes) : Except DecodeFault CodePoints :=
  if nameMark.isPrefixOf bytes then decodePunycode "strict" (bytes.drop nameMark.length)
  else decodeFrom .ascii "" .strict 0 bytes

/-- The parts of a name, between dots. -/
def labelsOf : Bytes → List Bytes
  | [] => [[]]
  | b :: rest =>
    match b == 0x2E, labelsOf rest with
    | true, labels => [] :: labels
    | false, first :: labels => (b :: first) :: labels
    | false, [] => [[b]]

/-- The name of a machine, part by part. -/
def decodeName (errors : String) (bytes : Bytes) : Except DecodeFault CodePoints :=
  if errors = "strict" then do
    let labels ← (labelsOf bytes).mapM decodeLabel
    return [0x2E].intercalate labels
  else .error (unsupported errors)

def decodeAs (e : Encoding) (errors : String) (bytes : Bytes) : Except DecodeFault CodePoints :=
  let h := Handler.ofName errors
  match e.name with
  | "punycode" => decodePunycode errors bytes
  | "idna" => decodeName errors bytes
  | "undefined" => .error (.failed "undefined encoding")
  | "utf-8-sig" =>
    let mark : Bytes := [0xEF, 0xBB, 0xBF]
    decodeFrom .utf8 "" h 0 (if mark.isPrefixOf bytes then bytes.drop 3 else bytes)
  | "utf-16" => decodeMarked bytes [0xFF, 0xFE] [0xFE, 0xFF] .utf16 h
  | "utf-32" => decodeMarked bytes [0xFF, 0xFE, 0, 0] [0, 0, 0xFE, 0xFF] .utf32 h
  | name => decodeFrom (schemeOf name) name h 0 bytes

/-- The message for an argument that is not text, by the name of its type. -/
def notTextArgument (parameter typeName : String) : String :=
  s!"decode() argument '{parameter}' must be str, not {typeName}"

/-- An encoding and an error handler, both by name. -/
structure Decoder where
  encoding : String := "utf-8"
  errors : String := "replace"
  deriving DecidableEq, Repr

/-- The encodings whose faults never tell the encoding, in normal form. -/
def plainEncodings : List String :=
  ["utf_8", "utf8", "utf_16", "utf16", "utf_32", "utf32", "ascii", "us_ascii", "latin1", "latin_1",
   "iso_8859_1", "iso8859_1"]

/-- The name of an encoding, if its faults tell it. -/
def toldEncoding (encoding : String) : Option String :=
  if plainEncodings.contains (normalForm encoding) then none else some encoding

/-- A fault as the encoding of a given name reports it. -/
def DecodeFault.within (encoding : String) : DecodeFault → DecodeFault
  | unknownHandler name _ => .unknownHandler name (toldEncoding encoding)
  | writingHandler _ => .writingHandler (toldEncoding encoding)
  | failed reason _ => .failed reason encoding
  | f => f

/-- Decodes bytes; no bytes are no text, whatever the names are, as long as they have no NUL. -/
def Decoder.run (d : Decoder) (bytes : Bytes) : Except DecodeFault CodePoints :=
  if (d.encoding ++ d.errors).contains '\x00' then .error .nulInName
  else if bytes.isEmpty then .ok []
  else match findEncoding d.encoding with
    | none => .error (.unknownEncoding d.encoding)
    | some e =>
      if e.textual then (decodeAs e d.errors bytes).mapError (·.within d.encoding)
      else .error (.notText d.encoding)

end TypedTree.Text
