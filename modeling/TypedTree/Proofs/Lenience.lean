import TypedTree.Build.Node
import TypedTree.Proofs.Malformed
import TypedTree.Proofs.Rechecking

/-! # When text can always be read

The handlers that settings allow are lenient: each says what stands for a malformed stretch. Even so
an encoding may refuse to give text, or to work with a handler, and surrogates can only stand for
bytes of the upper half. Where neither is the case, every stretch of every source is read as text;
where one of them is, some source cannot be read. -/

namespace TypedTree

namespace Text

section DecodeFrom

variable {scheme : Scheme} {name : String} {h : Handler}

/-- The handler goes on after every malformed stretch of a scheme. -/
def Handler.Resolves (h : Handler) (scheme : Scheme) : Prop :=
  ∀ b rest, (scheme.piece b rest).fault.isSome →
    (h.resolve scheme ((b :: rest).take (scheme.piece b rest).length) (b :: rest)).isSome

theorem decodeFrom_nil (pos : Nat) : decodeFrom scheme name h pos [] = .ok [] := by
  rw [decodeFrom]

theorem decodeFrom_cons_char {b : UInt8} {rest : Bytes}
    (hfault : (scheme.piece b rest).fault = none) (pos : Nat) :
    decodeFrom scheme name h pos (b :: rest) = do
      let more ← decodeFrom scheme name h (pos + (scheme.piece b rest).length)
        (rest.drop ((scheme.piece b rest).length - 1))
      return (scheme.piece b rest).points ++ more := by
  rw [decodeFrom]
  simp only [hfault]

theorem exists_error_of_unresolved {b : UInt8} {rest : Bytes} {reason : String}
    (hfault : (scheme.piece b rest).fault = some reason)
    (hresolve : h.resolve scheme ((b :: rest).take (scheme.piece b rest).length) (b :: rest) = none)
    (pos : Nat) : ∃ f, decodeFrom scheme name h pos (b :: rest) = .error f := by
  rw [decodeFrom]
  simp only [hfault, hresolve]
  split <;> exact ⟨_, rfl⟩

theorem decodeFrom_cons_resolved {b : UInt8} {rest : Bytes} {reason : String} {out : CodePoints}
    {done : Nat} (hfault : (scheme.piece b rest).fault = some reason)
    (hresolve : h.resolve scheme ((b :: rest).take (scheme.piece b rest).length) (b :: rest) =
      some (out, done)) (pos : Nat) :
    decodeFrom scheme name h pos (b :: rest) = do
      let more ← decodeFrom scheme name h (pos + done) (rest.drop (done - 1))
      return (scheme.piece b rest).points ++ out ++ more := by
  rw [decodeFrom]
  simp only [hfault, hresolve]
  cases h with
  | strict | writingOnly | unknown => cases hresolve
  | replace | ignore | backslash | surrogate | passSurrogates => rfl

/-- A handler that goes on after every malformed stretch gets to the end of every input. -/
theorem Handler.Resolves.exists_decodeFrom (hresolves : h.Resolves scheme) (pos : Nat)
    (bytes : Bytes) : ∃ points, decodeFrom scheme name h pos bytes = .ok points := by
  -- On the length, since a stretch may be of any length and the handler says how much is done.
  induction hn : bytes.length using Nat.strongRecOn generalizing pos bytes with
  | ind n ih =>
    cases bytes with
    | nil => exact ⟨[], decodeFrom_nil pos⟩
    | cons b rest =>
      have hlater : ∀ pos' k, ∃ more, decodeFrom scheme name h pos' (rest.drop k) = .ok more :=
        fun pos' k => by
          refine ih (rest.drop k).length ?_ pos' (rest.drop k) rfl
          simp only [List.length_drop, ← hn, List.length_cons]
          omega
      cases hfault : (scheme.piece b rest).fault with
      | none =>
        obtain ⟨more, hmore⟩ := hlater (pos + (scheme.piece b rest).length)
          ((scheme.piece b rest).length - 1)
        rw [decodeFrom_cons_char hfault, hmore]
        exact ⟨_, rfl⟩
      | some reason =>
        obtain ⟨⟨out, done⟩, hresolve⟩ :=
          Option.isSome_iff_exists.mp (hresolves b rest (hfault ▸ rfl))
        obtain ⟨more, hmore⟩ := hlater (pos + done) (done - 1)
        rw [decodeFrom_cons_resolved hfault hresolve, hmore]
        exact ⟨_, rfl⟩

end DecodeFrom

/-- Surrogates can stand for the first bytes of a stretch that begins in the upper half. -/
theorem Handler.resolves_surrogate {scheme : Scheme} (h : scheme.UpperFaults) :
    Handler.surrogate.Resolves scheme := by
  intro b rest hfault
  obtain ⟨hb, hlength⟩ := h.escapable b rest hfault
  obtain ⟨k, hk⟩ : ∃ k, (scheme.piece b rest).length = k + 1 :=
    ⟨(scheme.piece b rest).length - 1, by omega⟩
  rw [hk, List.take_succ_cons]
  simp [Handler.resolve, hb]

/-- They cannot stand for a byte of the lower half. -/
theorem exists_decodeFrom_surrogate_error {scheme : Scheme} (h : ¬ scheme.UpperFaults)
    (name : String) (pos : Nat) :
    ∃ b rest f, b < 0x80 ∧ decodeFrom scheme name .surrogate pos (b :: rest) = .error f := by
  obtain ⟨b, rest, reason, hb, hfault⟩ := Scheme.exists_lower_fault h
  have hstretch : ((b :: rest).take (scheme.piece b rest).length).takeWhile
      (fun b => decide (0x80 ≤ b)) = [] := by
    cases (scheme.piece b rest).length with
    | zero => rfl
    | succ k =>
      have hno : ¬ 0x80 ≤ b := UInt8.not_le.mpr hb
      simp [List.take_succ_cons, hno]
  have hresolve : Handler.surrogate.resolve scheme
      ((b :: rest).take (scheme.piece b rest).length) (b :: rest) = none := by
    simp only [Handler.resolve, hstretch]
  obtain ⟨f, hf⟩ := exists_error_of_unresolved hfault hresolve pos
  exact ⟨b, rest, f, hb, hf⟩

end Text

/-- The handler of a name that settings allow. -/
def Leniency.handler : Leniency → Text.Handler
  | replace => .replace
  | backslashreplace => .backslash
  | surrogateescape => .surrogate
  | ignore => .ignore

theorem Leniency.ofName_name (l : Leniency) : Text.Handler.ofName l.name = l.handler := by
  cases l <;> rfl

theorem Leniency.resolves {l : Leniency} {scheme : Text.Scheme}
    (h : l = .surrogateescape → scheme.UpperFaults) : l.handler.Resolves scheme := by
  cases l with
  | surrogateescape => exact Text.Handler.resolves_surrogate (h rfl)
  | replace => exact fun _ _ _ => rfl
  | backslashreplace => exact fun _ _ _ => rfl
  | ignore => exact fun _ _ _ => rfl

namespace Text

/-- The encodings that refuse some input, or all, whatever the lenient handler. -/
def refusingNames : List String := ["punycode", "idna", "undefined"]

/-- The encodings that switch between sets of characters by bytes of the lower half. -/
def switchingNames : List String :=
  ["hz", "iso2022_jp", "iso2022_jp_1", "iso2022_jp_2", "iso2022_jp_2004", "iso2022_jp_3",
   "iso2022_jp_ext", "iso2022_kr"]

/-- The schemes that text of an encoding may be written in. -/
def schemesOf (name : String) : List Scheme :=
  match name with
  | "utf-8-sig" => [.utf8]
  | "utf-16" => [.utf16 .little, .utf16 .big]
  | "utf-32" => [.utf32 .little, .utf32 .big]
  | name => [schemeOf name]

/-- Text of the encoding can be read under a handler, whatever the bytes: it is an encoding of text
that takes lenient handlers, and if surrogates are to stand for malformed bytes then only bytes of
the upper half can be malformed. -/
structure Encoding.Lenient (e : Encoding) (l : Leniency) : Prop where
  textual : e.textual = true
  takes : e.name ∉ refusingNames
  upper : l = .surrogateescape →
    e.name ∉ switchingNames ∧ ∀ scheme ∈ schemesOf e.name, scheme.UpperFaults

theorem exists_decodeMarked {h : Handler} {scheme : Utf.Endian → Scheme}
    (hlittle : h.Resolves (scheme .little)) (hbig : h.Resolves (scheme .big))
    (little big bytes : Bytes) :
    ∃ points, decodeMarked bytes little big scheme h = .ok points := by
  unfold decodeMarked
  dsimp only
  split
  · exact hlittle.exists_decodeFrom _ _
  · split
    · exact hbig.exists_decodeFrom _ _
    · exact hlittle.exists_decodeFrom _ _

theorem ne_of_takes {name : String} (h : name ∉ refusingNames) :
    name ≠ "punycode" ∧ name ≠ "idna" ∧ name ≠ "undefined" := by
  simpa only [refusingNames, List.mem_cons, List.not_mem_nil, or_false, not_or] using h

theorem schemesOf_plain {name : String} (hsig : name ≠ "utf-8-sig") (h16 : name ≠ "utf-16")
    (h32 : name ≠ "utf-32") : schemesOf name = [schemeOf name] := by
  unfold schemesOf
  split
  · exact absurd rfl hsig
  · exact absurd rfl h16
  · exact absurd rfl h32
  · rfl

theorem exists_decodeAs {e : Encoding} {l : Leniency} (h : e.Lenient l) (bytes : Bytes) :
    ∃ points, decodeAs e l.name bytes = .ok points := by
  have hresolves : ∀ scheme ∈ schemesOf e.name, l.handler.Resolves scheme :=
    fun scheme hscheme => Leniency.resolves fun hl => (h.upper hl).2 scheme hscheme
  obtain ⟨hpunycode, hidna, hundefined⟩ := ne_of_takes h.takes
  unfold decodeAs
  rw [Leniency.ofName_name]
  dsimp only
  -- The three encodings that refuse come first, then those with a mark of their own at the start.
  split
  · exact absurd ‹_› hpunycode
  · exact absurd ‹_› hidna
  · exact absurd ‹_› hundefined
  · rename_i hname
    rw [hname] at hresolves
    exact (hresolves .utf8 List.mem_cons_self).exists_decodeFrom _ _
  · rename_i hname
    rw [hname] at hresolves
    exact exists_decodeMarked (hresolves (.utf16 .little) (by simp [schemesOf]))
      (hresolves (.utf16 .big) (by simp [schemesOf])) _ _ _
  · rename_i hname
    rw [hname] at hresolves
    exact exists_decodeMarked (hresolves (.utf32 .little) (by simp [schemesOf]))
      (hresolves (.utf32 .big) (by simp [schemesOf])) _ _ _
  · rename_i name hsig h16 h32
    rw [schemesOf_plain hsig h16 h32] at hresolves
    exact (hresolves _ (List.mem_singleton_self _)).exists_decodeFrom _ _

theorem exists_punycode_error (errors : String) : ∃ f, decodePunycode errors [0x80] = .error f := by
  have hfault : (Scheme.ascii.piece 0x80 []).fault = some "ordinal not in range(128)" := rfl
  obtain ⟨f, hf⟩ : ∃ f, decodeFrom .ascii "" .strict 0 [0x80] = .error f :=
    exists_error_of_unresolved hfault rfl 0
  have hsplit : Punycode.split [0x80] = ([], [0x80]) := rfl
  unfold decodePunycode
  split
  · simp only [hsplit, decodeFrom_nil, hf]
    exact ⟨f, rfl⟩
  · exact ⟨_, rfl⟩

/-- An encoding that refuses lenient handlers, or input that is not plain, refuses this byte. -/
theorem exists_refused {e : Encoding} (h : e.name ∈ refusingNames) (l : Leniency) :
    ∃ f, decodeAs e l.name [0x80] = .error f := by
  simp only [refusingNames, List.mem_cons, List.not_mem_nil, or_false] at h
  rcases h with h | h | h <;> simp only [decodeAs, h]
  · exact exists_punycode_error l.name
  · cases l <;> exact ⟨_, rfl⟩
  · exact ⟨_, rfl⟩

/-- Surrogates cannot stand for half a unit of sixteen or thirty-two bits. -/
theorem exists_marked_error (scheme : Utf.Endian → Scheme) (little big : Bytes)
    (hlittle : little.isPrefixOf [0x41] = false) (hbig : big.isPrefixOf [0x41] = false)
    (hfault : ((scheme .little).piece 0x41 []).fault.isSome) :
    ∃ f, decodeMarked [0x41] little big scheme .surrogate = .error f := by
  obtain ⟨reason, hreason⟩ := Option.isSome_iff_exists.mp hfault
  have hresolve : Handler.surrogate.resolve (scheme .little)
      ([0x41].take ((scheme .little).piece 0x41 []).length) [0x41] = none := by
    cases ((scheme .little).piece 0x41 []).length <;> rfl
  simp only [decodeMarked, hlittle, hbig, Bool.false_eq_true, if_false]
  exact exists_error_of_unresolved hreason hresolve 0

theorem exists_unescaped {e : Encoding} (htakes : e.name ∉ refusingNames)
    (hupper : ¬ ∀ scheme ∈ schemesOf e.name, scheme.UpperFaults) :
    ∃ b rest f, decodeAs e "surrogateescape" (b :: rest) = .error f := by
  obtain ⟨hpunycode, hidna, hundefined⟩ := ne_of_takes htakes
  unfold decodeAs
  dsimp only
  split
  · exact absurd ‹_› hpunycode
  · exact absurd ‹_› hidna
  · exact absurd ‹_› hundefined
  · rename_i hname
    rw [hname] at hupper
    exact absurd (by simp [schemesOf, Scheme.UpperFaults]) hupper
  · obtain ⟨f, hf⟩ := exists_marked_error .utf16 [0xFF, 0xFE] [0xFE, 0xFF] rfl rfl rfl
    exact ⟨0x41, [], f, hf⟩
  · obtain ⟨f, hf⟩ := exists_marked_error .utf32 [0xFF, 0xFE, 0, 0] [0, 0, 0xFE, 0xFF] rfl rfl rfl
    exact ⟨0x41, [], f, hf⟩
  · rename_i name hsig h16 h32
    rw [schemesOf_plain hsig h16 h32] at hupper
    obtain ⟨b, rest, f, -, hf⟩ :=
      exists_decodeFrom_surrogate_error (by simpa using hupper) e.name 0
    exact ⟨b, rest, f, hf⟩

/-- Where text cannot always be read, some bytes cannot. -/
theorem exists_decodeAs_error {e : Encoding} {l : Leniency} (h : ¬ e.Lenient l)
    (htextual : e.textual = true) (hswitching : l = .surrogateescape → e.name ∉ switchingNames) :
    ∃ b rest f, decodeAs e l.name (b :: rest) = .error f := by
  by_cases htakes : e.name ∈ refusingNames
  · obtain ⟨f, hf⟩ := exists_refused htakes l
    exact ⟨0x80, [], f, hf⟩
  · have hl : l = .surrogateescape ∧ ¬ ∀ scheme ∈ schemesOf e.name, scheme.UpperFaults := by
      apply Classical.byContradiction
      intro hno
      rw [not_and, Classical.not_not] at hno
      exact h ⟨htextual, htakes, fun hl => ⟨hswitching hl, hno hl⟩⟩
    obtain ⟨rfl, hupper⟩ := hl
    exact exists_unescaped htakes hupper

end Text

namespace BuildOptions

variable {o : BuildOptions}

/-- All text can be read under these options. -/
def Lenient (o : BuildOptions) : Prop :=
  ∃ e ∈ Text.encodings, e.name = o.encoding ∧ e.Lenient o.decodeErrors

/-- The decoder of settled options finds their encoding. -/
theorem run_decoder {e : Text.Encoding} (he : e ∈ Text.encodings) (hname : e.name = o.encoding)
    (bytes : Text.Bytes) :
    o.decoder.run bytes =
      if bytes.isEmpty then .ok []
      else if e.textual then
        (Text.decodeAs e o.decodeErrors.name bytes).mapError (·.within o.encoding)
      else .error (.notText o.encoding) := by
  have hplain : (o.encoding ++ o.decodeErrors.name).contains '\x00' = false := by
    have herrors : '\x00' ∉ o.decodeErrors.name.toList := by
      cases o.decodeErrors <;> decide
    rw [String.contains_char_eq, String.toList_append, ← hname, decide_eq_false_iff_not]
    intro h
    exact (List.mem_append.mp h).elim (Text.Encoding.noNul he) herrors
  unfold Text.Decoder.run decoder
  dsimp only
  rw [hplain, ← hname, Text.findEncoding_name he]
  rfl

theorem Lenient.exists_run (h : o.Lenient) (bytes : Text.Bytes) :
    ∃ points, o.decoder.run bytes = .ok points := by
  obtain ⟨e, he, hname, hlenient⟩ := h
  rw [run_decoder he hname, if_pos hlenient.textual]
  cases bytes with
  | nil => exact ⟨[], rfl⟩
  | cons b rest =>
    obtain ⟨points, hpoints⟩ := Text.exists_decodeAs hlenient (b :: rest)
    exact ⟨points, by rw [hpoints]; rfl⟩

theorem exists_run_error (h : ¬ o.Lenient) (hsettled : o.Settled)
    (hswitching : o.decodeErrors = .surrogateescape → o.encoding ∉ Text.switchingNames) :
    ∃ bytes f, o.decoder.run bytes = .error f := by
  obtain ⟨e, he, hname⟩ := hsettled
  by_cases htextual : e.textual = true
  · obtain ⟨b, rest, f, hf⟩ := Text.exists_decodeAs_error
      (fun hlenient => h ⟨e, he, hname, hlenient⟩) htextual (fun hl => hname ▸ hswitching hl)
    refine ⟨b :: rest, f.within o.encoding, ?_⟩
    rw [run_decoder he hname, if_pos htextual, hf]
    rfl
  · refine ⟨[0], .notText o.encoding, ?_⟩
    rw [run_decoder he hname, if_neg htextual]
    rfl

end BuildOptions

namespace Extractor

variable {info : NodeInfo} {source : Text.Bytes} {decoder : Text.Decoder}

theorem run_text_ok {points : Text.CodePoints}
    (h : decoder.run (info.range.slice source) = .ok points) :
    text.run info source decoder = .ok (.text points) := by
  rw [run, h]
  rfl

theorem run_text_error {f : Text.DecodeFault}
    (h : decoder.run (info.range.slice source) = .error f) :
    text.run info source decoder = .error f := by
  rw [run, h]
  rfl

end Extractor

namespace BuildContext

variable {ctx : BuildContext} {slot : Slot} {info : NodeInfo}

/-- The slot holds the text of its node: it is declared so, or the caller asks for it. -/
def ReadsText (ctx : BuildContext) (slot : Slot) : Prop :=
  slot.rule = .fixed .text ∨ slot.rule = .requested ∧ ctx.requested = .text

theorem fillSlot_text (h : ctx.ReadsText slot) (build : TypeId → Tree → BuildM Value)
    (buckets : Buckets) : ctx.fillSlot build info buckets slot = ctx.annotate .text info := by
  unfold fillSlot
  rcases h with hfixed | ⟨hrequested, htext⟩
  · rw [hfixed]
  · rw [hrequested, htext]

theorem annotate_text_ok {points : Text.CodePoints}
    (h : ctx.options.decoder.run (info.range.slice ctx.source) = .ok points) :
    ctx.annotate .text info = pure (.text points) := by
  unfold annotate
  rw [Extractor.run_text_ok h]

theorem annotate_text_error {f : Text.DecodeFault}
    (h : ctx.options.decoder.run (info.range.slice ctx.source) = .error f) :
    ctx.annotate .text info = throw (.raised (.decode f)) := by
  unfold annotate
  rw [Extractor.run_text_error h]

end BuildContext

/-- The range of all bytes gives all bytes. -/
theorem Range.slice_all (bytes : Text.Bytes) : Range.slice ⟨0, bytes.length⟩ bytes = bytes := by
  have hlow : clampIndex bytes.length 0 = 0 := by
    rw [clampIndex, if_neg (by omega)]
    exact Nat.zero_min _
  have hhigh : clampIndex bytes.length bytes.length = bytes.length := by
    rw [clampIndex, if_neg (by omega)]
    exact Nat.min_self _
  simp only [Range.slice, hlow, hhigh, List.drop_zero, Nat.sub_zero, List.take_length]

/-- Under lenient options every slot that holds text is filled, whatever the source and the node.
Under other options that pass their check some source has a node whose text cannot be read. -/
theorem BuildOptions.fillSlot_reads_text {d : Data} {o : BuildOptions}
    (h : BuildOptions.check d = .valid o) :
    (o.Lenient → ∀ ctx : BuildContext, ctx.options = o → ∀ slot, ctx.ReadsText slot →
      ∀ build info buckets, ∃ points,
        ctx.fillSlot build info buckets slot = pure (.text points)) ∧
    (¬ o.Lenient → (o.decodeErrors = .surrogateescape → o.encoding ∉ Text.switchingNames) →
      ∃ source info f, ∀ ctx : BuildContext, ctx.options = o → ctx.source = source →
        ∀ slot, ctx.ReadsText slot → ∀ build buckets,
          ctx.fillSlot build info buckets slot = throw (.raised (.decode f))) := by
  constructor
  · rintro hlenient ctx rfl slot hslot build info buckets
    obtain ⟨points, hrun⟩ := hlenient.exists_run (info.range.slice ctx.source)
    rw [ctx.fillSlot_text hslot]
    exact ⟨points, ctx.annotate_text_ok hrun⟩
  · intro hlenient hswitching
    obtain ⟨bytes, f, hf⟩ := exists_run_error hlenient (settled_of_check h) hswitching
    refine ⟨bytes, { (default : NodeInfo) with startByte := 0, endByte := bytes.length }, f, ?_⟩
    rintro ctx rfl rfl slot hslot build buckets
    rw [ctx.fillSlot_text hslot]
    refine ctx.annotate_text_error ?_
    rw [NodeInfo.range, Range.slice_all]
    exact hf

namespace Lenience

def utf16 : Text.Encoding := ⟨"utf-16", true, ["utf_16"], ["u16", "utf16"]⟩

def utf16Little : Text.Encoding :=
  ⟨"utf-16-le", true, ["utf_16_le"], ["unicodelittleunmarked", "utf_16le"]⟩

/-- The encoding turns letters into other letters, not bytes into text. -/
def rot13 : Text.Encoding := ⟨"rot-13", false, ["rot_13"], ["rot13"]⟩

theorem utf16_mem : utf16 ∈ Text.encodings := by decide +kernel

theorem utf16Little_mem : utf16Little ∈ Text.encodings := by decide +kernel

theorem rot13_mem : rot13 ∈ Text.encodings := by decide +kernel

def ignoring : BuildOptions := { encoding := "utf-16", decodeErrors := .ignore }

def escaping : BuildOptions := { encoding := "utf-16-le", decodeErrors := .surrogateescape }

def rotating : BuildOptions := { encoding := "rot-13" }

theorem ignoring_passes : BuildOptions.check ignoring.toData = .valid ignoring :=
  BuildOptions.Settled.check ⟨utf16, utf16_mem, rfl⟩

theorem ignoring_lenient : ignoring.Lenient :=
  ⟨utf16, utf16_mem, rfl, rfl, by decide, fun h => by cases h⟩

/-- The first byte of a source. -/
def firstByte : NodeInfo := { (default : NodeInfo) with startByte := 0, endByte := 1 }

/-- A source that ends within a unit of sixteen bits. -/
def half : BuildContext :=
  { schema := [], source := [0x41], requested := .text, options := ignoring }

theorem fillSlot_half :
    ∃ points, half.fillSlot (fun _ _ => pure .none) firstByte [] ⟨"ann", .requested⟩ =
      pure (.text points) :=
  (BuildOptions.fillSlot_reads_text ignoring_passes).1 ignoring_lenient half rfl
    ⟨"ann", .requested⟩ (.inr ⟨rfl, rfl⟩) _ _ _

/-- Two choices of options that pass their check, and a source that cannot be read under each: one
encoding is none of text, and in the other a byte of the lower half is malformed. -/
theorem options_refuse_text :
    (BuildOptions.check rotating.toData = .valid rotating ∧
      ∃ f, Extractor.text.run firstByte [0x61] rotating.decoder = .error f) ∧
    (BuildOptions.check escaping.toData = .valid escaping ∧
      ∃ f, Extractor.text.run firstByte [0x41] escaping.decoder = .error f) := by
  constructor
  · refine ⟨BuildOptions.Settled.check ⟨rot13, rot13_mem, rfl⟩, .notText "rot-13", ?_⟩
    refine Extractor.run_text_error ?_
    rw [BuildOptions.run_decoder rot13_mem rfl]
    rfl
  · have hdecode : ∃ f, Text.decodeAs utf16Little "surrogateescape" [0x41] = .error f := by
      have hfault : ((Text.Scheme.utf16 .little).piece 0x41 []).fault = some "truncated data" := rfl
      exact Text.exists_error_of_unresolved hfault rfl 0
    obtain ⟨f, hf⟩ := hdecode
    refine ⟨BuildOptions.Settled.check ⟨utf16Little, utf16Little_mem, rfl⟩,
      f.within "utf-16-le", ?_⟩
    refine Extractor.run_text_error ?_
    rw [BuildOptions.run_decoder utf16Little_mem rfl]
    exact congrArg (Except.mapError _) hf

end Lenience

end TypedTree
