import Mathlib.Data.List.Nodup
import TypedTree.Data.Json
import TypedTree.Proofs.Dispatch
import TypedTree.Proofs.Faults
import TypedTree.Proofs.Spelling

/-! # Names of tokens

A token type that is declared by its kind alone is named by the code points of the kind, in
hexadecimal digits of no fixed width between underscores. The code points can be read back from the
name, so no two kinds give one name. Two tokens of a sum have different symbols, hence different
kinds, and so no list of what is expected shows both under one name. -/

namespace TypedTree

namespace Text

/-! ## Hexadecimal digits -/

/-- The number that hexadecimal digits stand for. -/
def readHex (digits : List Char) : Nat :=
  digits.foldl (fun n c => 16 * n + (Json.hexValue? c).getD 0) 0

theorem readHex_snoc (digits : List Char) (c : Char) :
    readHex (digits ++ [c]) = 16 * readHex digits + (Json.hexValue? c).getD 0 := by
  simp [readHex]

theorem hexValue?_digitChar {d : Nat} (h : d < 16) : Json.hexValue? d.digitChar = some d := by
  have hall : ∀ d < 16, Json.hexValue? (Nat.digitChar d) = some d := by decide
  exact hall d h

/-- A property of all hexadecimal numerals, from those of one digit to those of one digit more. -/
theorem hexDigits_induction {motive : Nat → List Char → Prop}
    (digit : ∀ d < 16, motive d [d.digitChar])
    (snoc : ∀ n, ∀ d < 16, motive n (Nat.toDigits 16 n) →
      motive (16 * n + d) (Nat.toDigits 16 n ++ [d.digitChar])) (n : Nat) :
    motive n (Nat.toDigits 16 n) := by
  induction n using Nat.strongRecOn with
  | ind n ih =>
    rcases Nat.lt_or_ge n 16 with hn | hn
    · rw [Nat.toDigits_of_lt_base hn]
      exact digit n hn
    · have hstep := snoc (n / 16) (n % 16) (Nat.mod_lt n (by decide)) (ih (n / 16) (by omega))
      rw [Nat.div_add_mod] at hstep
      rwa [Nat.toDigits_of_base_le (by decide) hn]

theorem readHex_toDigits (n : Nat) : readHex (Nat.toDigits 16 n) = n := by
  refine hexDigits_induction (motive := fun n digits => readHex digits = n) ?_ ?_ n
  · intro d hd
    simp [readHex, hexValue?_digitChar hd]
  · intro n d hd ih
    rw [readHex_snoc, ih, hexValue?_digitChar hd, Option.getD_some]

theorem isSome_hexValue?_of_mem {n : Nat} {c : Char} (h : c ∈ Nat.toDigits 16 n) :
    (Json.hexValue? c).isSome = true := by
  revert h
  refine hexDigits_induction
    (motive := fun _ digits => c ∈ digits → (Json.hexValue? c).isSome = true) ?_ ?_ n
  · intro d hd hc
    rw [List.mem_singleton.mp hc, hexValue?_digitChar hd, Option.isSome_some]
  · intro n d hd ih hc
    rcases List.mem_append.mp hc with hc | hc
    · exact ih hc
    · rw [List.mem_singleton.mp hc, hexValue?_digitChar hd, Option.isSome_some]

theorem not_mem_toDigits {c : Char} (h : Json.hexValue? c = none) (n : Nat) :
    c ∉ Nat.toDigits 16 n := by
  intro hc
  have hsome := isSome_hexValue?_of_mem hc
  simp [h] at hsome

end Text

theorem mem_of_mem_intercalate {α : Type} {sep : List α} {rows : List (List α)} {x : α}
    (h : x ∈ sep.intercalate rows) : x ∈ sep ∨ ∃ row ∈ rows, x ∈ row := by
  induction rows with
  | nil => simp at h
  | cons row rest ih =>
    cases rest with
    | nil => exact .inr ⟨row, by simp, by simpa using h⟩
    | cons next rest =>
      rw [List.intercalate_cons_cons, List.append_assoc, List.mem_append, List.mem_append] at h
      rcases h with h | h | h
      · exact .inr ⟨row, by simp, h⟩
      · exact .inl h
      · exact (ih h).imp_right fun ⟨r, hr, hx⟩ => ⟨r, List.mem_cons_of_mem _ hr, hx⟩

namespace Schema

/-! ## Names that kinds give -/

/-- The numerals of code points, with underscores between them. -/
def numerals (points : Text.CodePoints) : List Char :=
  ['_'].intercalate (points.map (Nat.toDigits 16))

theorem toList_tokenNameOf (points : Text.CodePoints) :
    (tokenNameOf points).toList = "Token_".toList ++ numerals points := by
  simp [tokenNameOf, numerals, String.toList_intercalate, Function.comp_def]

/-- The code points that numerals stand for. -/
def readNumerals (cs : List Char) : Text.CodePoints :=
  if cs = [] then [] else (cs.splitOn '_').map Text.readHex

theorem splitOn_numerals {points : Text.CodePoints} (h : points ≠ []) :
    (numerals points).splitOn '_' = points.map (Nat.toDigits 16) := by
  refine List.splitOn_intercalate '_' (fun row hrow => ?_) (by simpa using h)
  obtain ⟨n, -, rfl⟩ := List.mem_map.mp hrow
  exact Text.not_mem_toDigits (by decide) n

theorem numerals_ne_nil {points : Text.CodePoints} (h : points ≠ []) : numerals points ≠ [] := by
  intro hnil
  have hrows := splitOn_numerals h
  rw [hnil] at hrows
  -- Splitting nothing leaves one empty row, but no numeral is empty.
  have hempty : [] ∈ points.map (Nat.toDigits 16) := by simp [← hrows]
  obtain ⟨n, -, hn⟩ := List.mem_map.mp hempty
  exact Nat.toDigits_ne_nil hn

theorem readNumerals_numerals (points : Text.CodePoints) :
    readNumerals (numerals points) = points := by
  by_cases h : points = []
  · subst h
    rfl
  · rw [readNumerals, if_neg (numerals_ne_nil h), splitOn_numerals h, List.map_map]
    calc
      points.map (Text.readHex ∘ Nat.toDigits 16) = points.map id :=
        List.map_congr_left fun n _ => Text.readHex_toDigits n
      _ = points := List.map_id points

theorem tokenNameOf_inj {a b : Text.CodePoints} : tokenNameOf a = tokenNameOf b ↔ a = b := by
  refine ⟨fun h => ?_, congrArg tokenNameOf⟩
  have hnames := congrArg String.toList h
  rw [toList_tokenNameOf, toList_tokenNameOf] at hnames
  have hnumerals : numerals a = numerals b := List.append_cancel_left hnames
  rw [← readNumerals_numerals a, hnumerals, readNumerals_numerals]

theorem tokenName_inj {a b : String} : tokenName a = tokenName b ↔ a = b :=
  ⟨fun h => Text.points_inj (tokenNameOf_inj.mp h), congrArg tokenName⟩

theorem name_tokenDecl (kind : String) : (tokenDecl kind "").name = tokenName kind := rfl

example : (tokenDecl "<<" "").name = "Token_3c_3c" := by decide

theorem blank_not_mem_tokenNameOf (points : Text.CodePoints) :
    ' ' ∉ (tokenNameOf points).toList := by
  rw [toList_tokenNameOf, List.mem_append]
  rintro (h | h)
  · revert h
    decide
  · rcases mem_of_mem_intercalate h with h | ⟨row, hrow, h⟩
    · simp at h
    · obtain ⟨n, -, rfl⟩ := List.mem_map.mp hrow
      exact Text.not_mem_toDigits (by decide) n h

/-! ## Lists of what is expected -/

variable {s : Schema} {g : Grammar} {target : TypeId} {table : DispatchTable}
  {entry : Int × TypeId}

/-- The line of an entry in a list of what is expected. -/
def lineOf (s : Schema) (g : Grammar) (entry : Int × TypeId) : String :=
  s!"{s.nameOf entry.2} ({g.nameFor entry.1}, symbol {entry.1})"

theorem expected_eq_map (s : Schema) (g : Grammar) (table : DispatchTable) :
    table.expected s g = table.map (s.lineOf g) := rfl

/-- The name that a line starts with: all before the first blank. -/
def shownName (line : String) : String := String.ofList (line.toList.takeWhile (· ≠ ' '))

theorem shownName_lineOf (h : ' ' ∉ (s.nameOf entry.2).toList) :
    shownName (s.lineOf g entry) = s.nameOf entry.2 := by
  have hline : (s.lineOf g entry).toList = (s.nameOf entry.2).toList ++
      ' ' :: s!"({g.nameFor entry.1}, symbol {entry.1})".toList := by
    simp only [lineOf, String.toList_append, List.append_assoc]
    rfl
  have hname : ∀ c ∈ (s.nameOf entry.2).toList, decide (c ≠ ' ') = true := by
    intro c hc
    rw [decide_eq_true_eq]
    rintro rfl
    exact h hc
  rw [shownName, hline, List.takeWhile_append_of_pos hname]
  simp

/-- A list has one line for each entry of a table. The line of a token that is declared by its kind
alone starts with the name that the kind gives, and the lines of two such tokens start with
different names. -/
structure ShowsApart (s : Schema) (g : Grammar) (table : DispatchTable) (lines : List String) :
    Prop where
  lines : lines.Perm (table.map (s.lineOf g))
  shown : ∀ e ∈ table, ∀ kind, s.decl e.2 = tokenDecl kind "" →
    shownName (s.lineOf g e) = tokenName kind
  apart : ∀ a ∈ table, ∀ b ∈ table, ∀ kind other, s.decl a.2 = tokenDecl kind "" →
    s.decl b.2 = tokenDecl other "" → a.2 ≠ b.2 →
    shownName (s.lineOf g a) ≠ shownName (s.lineOf g b)

theorem shownName_of_token {kind : String} (h : s.decl entry.2 = tokenDecl kind "") :
    shownName (s.lineOf g entry) = tokenName kind := by
  have hname : s.nameOf entry.2 = tokenName kind := by rw [nameOf, h, name_tokenDecl]
  rw [shownName_lineOf, hname]
  rw [hname]
  exact blank_not_mem_tokenNameOf _

theorem decl_ne_of_dispatch (h : s.dispatch g target = .ok table) {a b : Int × TypeId}
    (ha : a ∈ table) (hb : b ∈ table) (hne : a.2 ≠ b.2) : s.decl a.2 ≠ s.decl b.2 := by
  obtain ⟨-, hentered⟩ := entered_of_dispatch h
  intro hdecl
  -- A symbol depends on the declaration alone, and no two entries have one symbol.
  have hsymbol : s.symbolFor g a.2 = s.symbolFor g b.2 := by rw [symbolFor, symbolFor, hdecl]
  rw [hentered.symbols a ha, hentered.symbols b hb] at hsymbol
  have hab : a = b := List.inj_on_of_nodup_map hentered.keys ha hb (Except.ok.inj hsymbol)
  exact hne (congrArg Prod.snd hab)

theorem showsApart_of_dispatch (h : s.dispatch g target = .ok table) {lines : List String}
    (hlines : lines.Perm (table.expected s g)) : s.ShowsApart g table lines where
  lines := by rwa [expected_eq_map] at hlines
  shown e _ kind hkind := shownName_of_token hkind
  apart a ha b hb kind other hkind hother hne := by
    rw [shownName_of_token hkind, shownName_of_token hother, Ne, tokenName_inj]
    rintro rfl
    exact decl_ne_of_dispatch h ha hb hne (hkind.trans hother.symm)

end Schema

namespace BuildContext

variable {ctx : BuildContext} {g : Grammar} {target : TypeId} {t : Tree} {name : String}
  {expected : List String} {site : Site}

theorem counted_ne_noMatch {attr : String} {cardinality : Cardinality} {parent : NodeInfo}
    {count : Nat} :
    counted attr cardinality parent count ≠ .error (.mismatch (.noMatch name expected site)) := by
  intro h
  rcases miscount_of_counted_error h with h | h | h <;> cases h

theorem admitted_ne_mismatch {id : TypeId} {m : Mismatch} :
    ctx.admitted g id ≠ .error (.mismatch m) := by
  intro h
  obtain ⟨_, -, hm⟩ := mapError_eq_error h
  cases hm

/-- By induction on the tree: what is expected is the list of the dispatch table of some type, that
of the node which nothing matches. -/
theorem listed_of_plain
    (h : ctx.plain g target t = .error (.mismatch (.noMatch name expected site))) :
    ∃ type table, ctx.schema.dispatch g type = .ok table ∧ name = ctx.schema.nameOf type ∧
      expected = table.expected ctx.schema g := by
  induction t using Tree.induction_children generalizing target with
  | step t ih =>
    rw [plain_eq] at h
    rcases bind_eq_error h with hm | ⟨id, -, h⟩
    · rcases matched_eq_error hm with ⟨_, -, he⟩ | ⟨table, hd, he⟩
      · cases he
      · cases he
        exact ⟨target, table, hd, rfl, rfl⟩
    · rcases bind_eq_error h with ha | ⟨plan, -, h⟩
      · exact absurd ha admitted_ne_mismatch
      · rcases bind_eq_error h with hfields | ⟨fields, -, h⟩
        · obtain ⟨slot, -, hfield⟩ := mapM_eq_error hfields
          obtain ⟨-, -, -, element, -, c, hc, he⟩ :=
            child_of_field_error (by simp) (fun _ _ => counted_ne_noMatch) hfield
          exact ih c hc he
        · cases h

end BuildContext

theorem Mismatch.exists_of_code_noMatch {m : Mismatch} (h : m.report.code = .noMatch) :
    ∃ target expected site, m = .noMatch target expected site := by
  cases m with
  | noMatch target expected site => exact ⟨target, expected, site, rfl⟩
  | missingField => cases h
  | multipleNodes => cases h
  | emptyList => cases h
  | tooDeep => cases h

namespace BuildRequest

variable {r : BuildRequest} {g : Grammar} {symbols : SymbolTable} {plans : PlanCache} {f : Report}

/-- A build that fails because nothing matches a node reports the dispatch table of some type. -/
theorem listed_of_result (hsymbols : symbols.Sound r.schema g) (hplans : plans.Sound r.schema)
    (hresult : (r.run symbols plans).result = .ok { failure := some f })
    (hcode : f.code = .noMatch) :
    ∃ type table site, r.schema.dispatch g type = .ok table ∧
      f = (Mismatch.noMatch (r.schema.nameOf type) (table.expected r.schema g) site).report := by
  rcases plain_of_failure hsymbols hplans hresult with rfl | hdeep | ⟨root, e, target, m, hm, rfl⟩
  · cases hcode
  · cases hcode.symm.trans hdeep
  · obtain ⟨name, expected, site, rfl⟩ := Mismatch.exists_of_code_noMatch hcode
    obtain ⟨type, table, hd, rfl, rfl⟩ := BuildContext.listed_of_plain hm
    exact ⟨type, table, site, hd, rfl⟩

end BuildRequest

open Schema in
/-- Two kinds give one name only if they are one kind, whatever code points they are made of,
surrogates included. So no list of what is expected, and no failure that reports such a list, shows
two tokens of a type under one name. -/
theorem token_names_apart :
    (∀ a b : Text.CodePoints, tokenNameOf a = tokenNameOf b ↔ a = b) ∧
      (∀ kind : String, (tokenDecl kind "").name = tokenNameOf (Text.points kind)) ∧
      (∀ a b : String, (tokenDecl a "").name = (tokenDecl b "").name ↔ a = b) ∧
      (∀ (s : Schema) (g : Grammar) (target : TypeId) (table : DispatchTable),
        s.dispatch g target = .ok table → s.ShowsApart g table (table.expected s g)) ∧
      ∀ (r : BuildRequest) (g : Grammar) (symbols : SymbolTable) (plans : PlanCache) (f : Report),
        symbols.Sound r.schema g → plans.Sound r.schema →
        (r.run symbols plans).result = .ok { failure := some f } → f.code = .noMatch →
        ∃ type table lines symbol, r.schema.dispatch g type = .ok table ∧
          f.details = .record [("target", .text (r.schema.nameOf type)),
            ("expected", .list (lines.map .text)), ("symbol", .int symbol)] ∧
          r.schema.ShowsApart g table lines := by
  refine ⟨fun _ _ => tokenNameOf_inj, name_tokenDecl, fun _ _ => tokenName_inj,
    fun _ _ _ _ h => showsApart_of_dispatch h (.refl _), ?_⟩
  intro r g symbols plans f hsymbols hplans hresult hcode
  obtain ⟨type, table, site, hd, rfl⟩ :=
    BuildRequest.listed_of_result hsymbols hplans hresult hcode
  exact ⟨type, table, _, site.symbol, hd, rfl, showsApart_of_dispatch hd (sortStrings_perm _)⟩

/-! Two operators whose names have the same digits: one is two signs less than, the other a single
character, whose code point is written with the digits of both. -/

namespace Operators

def grammar : Grammar :=
  { kinds := [("<<", false, 1), ("\u3c3c", false, 2), ("name", true, 3)] }

def schema : Schema :=
  Schema.prelude ++
    [Schema.tokenDecl "<<" "", Schema.tokenDecl "\u3c3c" "",
     { name := "Operator", path := "operators.Operator", shape := .sum
       layers := [{ owner := "Operator", variants := some [.direct 9, .direct 10]
                    laidOut := false }, Schema.choiceLayer] }]

/-- A name in the place of an operator. -/
def request : BuildRequest :=
  { schema, target := .direct 11, source := [120]
    root := some (.node ⟨3, "name", true, false, 0, 1, ⟨0, 0⟩, ⟨0, 1⟩⟩ none []) }

def table : DispatchTable := [(1, 9), (2, 10)]

theorem dispatch_operator : schema.dispatch grammar 11 = .ok table := by
  have hvariants : schema.variants 11 = ⟨[9, 10], none⟩ := by
    rw [Schema.variants, Schema.expand_sum rfl (by simp) rfl]
    change schema.expand [11] [.direct 9, .direct 10] = _
    rw [Schema.expand_product rfl (by simp) rfl rfl, Schema.expand_product rfl (by simp) rfl rfl,
      Schema.expand]
    rfl
  rw [Schema.dispatch, hvariants]
  rfl

theorem result_request : (request.run { grammar } []).result =
    .ok { failure := some (Mismatch.noMatch "Operator" (table.expected schema grammar)
      ⟨"name", 3, 0, 0⟩).report } := by
  have hplain := BuildRequest.result_of_height (r := request)
    (SymbolTable.sound_fresh schema (.refl grammar)) (PlanCache.sound_nil schema) rfl rfl rfl
    (by decide)
  rw [hplain, BuildContext.plain_eq, BuildContext.matched_none dispatch_operator rfl]
  rfl

theorem operators_apart :
    Schema.shownName (schema.lineOf grammar (1, 9)) = "Token_3c_3c" ∧
      Schema.shownName (schema.lineOf grammar (2, 10)) = "Token_3c3c" ∧
      Schema.shownName (schema.lineOf grammar (1, 9)) ≠
        Schema.shownName (schema.lineOf grammar (2, 10)) ∧
      ∃ type table lines symbol, schema.dispatch grammar type = .ok table ∧
        (Mismatch.noMatch "Operator" (Operators.table.expected schema grammar)
            ⟨"name", 3, 0, 0⟩).report.details =
          .record [("target", .text (schema.nameOf type)), ("expected", .list (lines.map .text)),
            ("symbol", .int symbol)] ∧
        schema.ShowsApart grammar table lines := by
  obtain ⟨-, -, -, hsums, hfailures⟩ := token_names_apart
  have hshown := hsums schema grammar 11 table dispatch_operator
  refine ⟨?_, ?_, ?_, ?_⟩
  · rw [hshown.shown (1, 9) (by simp [table]) "<<" rfl]
    decide
  · rw [hshown.shown (2, 10) (by simp [table]) "\u3c3c" rfl]
    decide
  · exact hshown.apart (1, 9) (by simp [table]) (2, 10) (by simp [table]) "<<" "\u3c3c" rfl rfl
      (by decide)
  · exact hfailures request grammar { grammar } [] _ (SymbolTable.sound_fresh schema (.refl grammar))
      (PlanCache.sound_nil schema) result_request rfl

end Operators

end TypedTree
