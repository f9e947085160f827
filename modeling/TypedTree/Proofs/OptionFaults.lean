import TypedTree.Proofs.Nesting

/-! # Options that are unfit

Before the environment is read the caller's options are looked at one after the other, and files and
arguments that they name are read. The first that is not of the kind it has to be, or cannot be read,
is why loading goes no further; where all are fit, they say how the variables are named. -/

namespace TypedTree

/-- Whether a value counts as a number, as truth values do. -/
def Data.isNumber : Data → Bool
  | bool _ => true
  | int _ => true
  | float _ => true
  | _ => false

namespace Overrides

/-- The options that have to be of some kind, and what else they bring about. -/
inductive Concern where
  | splits
  | start
  | reading
  | files
  | line
  | arguments
  | merging
  | names

/-- In the order in which they are looked at. -/
def concerns : List Concern :=
  [.splits, .start, .reading, .files, .line, .arguments, .merging, .names]

/-- What is wrong with an option of the caller's. -/
inductive Complains (o : Overrides) (r : OptionReader) : Concern → OptionFault → Prop
  | notNumber {d : Data} (given : o.data? "_env_nested_max_split" = some d)
      (full : d.isEmpty = false) (noNumber : d.isNumber = false) :
      Complains o r .splits (.notNumber d.typeName)
  | noLength {d : Data} (given : o.data? "_env_prefix" = some d) (noText : d.isText = false)
      (noList : ∀ ds, d ≠ .list ds) (noMap : ∀ m, d ≠ .map m) :
      Complains o r .start (.noLength d.typeName)
  | unreadFiles {d : Data} {reason : String} (given : o.data? "_env_file" = some d)
      (unread : r.files o = .error reason) : Complains o r .reading (.unread reason)
  | notIterable {d : Data} (given : o.data? "_env_file" = some d) (number : d.isNumber = true) :
      Complains o r .files (.notIterable d.typeName)
  | notPath {ds : List Data} {d : Data} (given : o.data? "_env_file" = some (.list ds))
      (first : ds.find? (fun d => !d.isText) = some d) : Complains o r .files (.notPath d.typeName)
  | unreadLine {d : Data} {reason : String} (given : o.data? "_cli_parse_args" = some d)
      (unread : r.arguments o = .error reason) : Complains o r .line (.unread reason)
  | notArguments {d : Data} (given : o.data? "_cli_parse_args" = some d)
      (noList : ∀ ds, d ≠ .list ds) (noBool : ∀ b, d ≠ .bool b)
      (nonzero : d.isNumber = true → d.isEmpty = false) :
      Complains o r .arguments (.notArguments d.typeName)
  | tooNested {line : Mapping} (read : o.line r = .ok line)
      (meets : o.asData.Meets Mapping.mergeLimit line) : Complains o r .merging .tooNested
  | notName {d : Data} (started : o.hasNoStart = false) (given : o.data? "_env_prefix" = some d)
      (wrong : (∃ ds, d = .list ds) ∨ ∃ m, d = .map m) : Complains o r .names .notName

/-- Why the options are unfit. -/
def Unfit (o : Overrides) (r : OptionReader) (f : OptionFault) : Prop :=
  First (o.Complains r) concerns f

/-- How variables are named where the options are fit. -/
def named (o : Overrides) : Environment.Naming :=
  o.namingWith (if o.hasNoStart then [] else o.start.toOption.getD []) (o.splits.toOption.getD none)

variable {o : Overrides} {r : OptionReader} {f : OptionFault}

theorem splits_eq_error : o.splits = .error f ↔ o.Complains r .splits f := by
  constructor
  · intro h
    unfold splits at h
    split at h
    · cases h
    · rename_i d given
      split at h
      · cases h
      · rename_i full
        split at h
        · cases h
        · cases h
        · cases h
        · rename_i noBool noInt noFloat
          cases h
          refine .notNumber given (Bool.eq_false_iff.mpr full) ?_
          cases d <;> simp_all [Data.isNumber]
  · intro h
    cases h with
    | @notNumber d given full noNumber =>
      unfold splits
      rw [given]
      dsimp only
      rw [full]
      cases d <;> simp_all [Data.isNumber]

theorem start_cases (o : Overrides) : (∃ ps, o.start = .ok ps) ∨ o.start = .error .notName ∨
    ∃ given, o.start = .error (.noLength given) := by
  unfold start
  split
  · exact .inl ⟨_, rfl⟩
  · split <;> simp

theorem start_eq_noLength {given : String} :
    o.start = .error (.noLength given) ↔ o.Complains r .start (.noLength given) := by
  constructor
  · intro h
    unfold start at h
    split at h
    · cases h
    · rename_i d hgiven
      split at h
      · cases h
      · cases h
      · cases h
      · cases h
      · rename_i noText noWide noList noMap
        cases h
        refine .noLength hgiven ?_ noList noMap
        cases d <;> simp_all [Data.isText]
  · intro h
    cases h with
    | @noLength d hgiven noText noList noMap =>
      unfold start
      rw [hgiven]
      cases d <;> simp_all [Data.isText]

theorem start_eq_notName (hstarted : o.hasNoStart = false) :
    o.start = .error .notName ↔ o.Complains r .names .notName := by
  constructor
  · intro h
    unfold start at h
    split at h
    · cases h
    · rename_i d hgiven
      split at h
      · cases h
      · cases h
      · exact .notName hstarted hgiven (.inl ⟨_, rfl⟩)
      · exact .notName hstarted hgiven (.inr ⟨_, rfl⟩)
      · cases h
  · intro h
    cases h with
    | notName _ hgiven wrong =>
      unfold start
      rw [hgiven]
      rcases wrong with ⟨ds, rfl⟩ | ⟨m, rfl⟩ <;> rfl

theorem readFiles_eq_error : o.readFiles r = .error f ↔ o.Complains r .reading f := by
  constructor
  · intro h
    unfold readFiles at h
    split at h
    · cases h
    · rename_i d given
      obtain ⟨reason, unread, rfl⟩ := mapError_eq_error h
      exact .unreadFiles given unread
  · intro h
    cases h with
    | unreadFiles given unread =>
      unfold readFiles
      rw [given]
      dsimp only
      rw [unread]
      rfl

theorem checkFiles_eq_error : o.checkFiles = .error f ↔ o.Complains r .files f := by
  constructor
  · intro h
    unfold checkFiles at h
    split at h
    · rename_i ds given
      split at h
      · rename_i d first
        cases h
        exact .notPath given first
      · cases h
    · rename_i n given
      cases h
      exact .notIterable given rfl
    · rename_i x given
      cases h
      exact .notIterable given rfl
    · rename_i b given
      cases h
      exact .notIterable given rfl
    · cases h
  · intro h
    cases h with
    | @notIterable d given number =>
      unfold checkFiles
      rw [given]
      cases d <;> first | rfl | cases number
    | notPath given first =>
      unfold checkFiles
      rw [given]
      dsimp only
      rw [first]

theorem line_eq_error : o.line r = .error f ↔ o.Complains r .line f := by
  constructor
  · intro h
    unfold line at h
    split at h
    · cases h
    · rename_i d given
      rcases bind_eq_error h with h | ⟨_, -, h⟩
      · obtain ⟨reason, unread, rfl⟩ := mapError_eq_error h
        exact .unreadLine given unread
      · cases h
  · intro h
    cases h with
    | unreadLine given unread =>
      unfold line
      rw [given]
      dsimp only
      rw [unread]
      rfl

theorem checkLine_eq_error : o.checkLine r = .error f ↔ o.Complains r .merging f := by
  constructor
  · intro h
    unfold checkLine at h
    split at h
    · rename_i line read
      split at h
      · rename_i meets
        cases h
        exact .tooNested read (Mapping.meets_iff.mp meets)
      · cases h
    · cases h
  · intro h
    cases h with
    | tooNested read meets =>
      unfold checkLine
      rw [read]
      exact if_pos (Mapping.meets_iff.mpr meets)

theorem checkArguments_eq_error : o.checkArguments = .error f ↔ o.Complains r .arguments f := by
  constructor
  · intro h
    unfold checkArguments at h
    split at h
    · cases h
    · cases h
    · rename_i n given
      split at h
      · cases h
      · rename_i nonzero
        cases h
        exact .notArguments given (by simp) (by simp) fun _ => by simpa [Data.isEmpty] using nonzero
    · rename_i x given
      split at h
      · cases h
      · rename_i nonzero
        cases h
        exact .notArguments given (by simp) (by simp) fun _ => by simpa [Data.isEmpty] using nonzero
    · rename_i d noList noBool noInt noFloat given
      cases h
      refine .notArguments given noList noBool ?_
      cases d <;> simp_all [Data.isNumber]
    · cases h
  · intro h
    cases h with
    | @notArguments d given noList noBool nonzero =>
      unfold checkArguments
      rw [given]
      cases d <;> simp_all [Data.isNumber, Data.isEmpty, Data.typeName]

/-- A look at one of the options. -/
def look (o : Overrides) (r : OptionReader) : Concern → Except OptionFault Unit
  | .splits => o.splits.map fun _ => ()
  | .start =>
    match o.start with
    | .error (.noLength given) => .error (.noLength given)
    | _ => .ok ()
  | .reading => o.readFiles r
  | .files => o.checkFiles
  | .line => (o.line r).map fun _ => ()
  | .arguments => o.checkArguments
  | .merging => o.checkLine r
  | .names =>
    match o.hasNoStart, o.start with
    | false, .error .notName => .error .notName
    | _, _ => .ok ()

theorem look_eq_error {c : Concern} : o.look r c = .error f ↔ o.Complains r c f := by
  cases c with
  | splits => rw [look, map_eq_error, splits_eq_error]
  | start =>
    dsimp only [look]
    constructor
    · intro h
      split at h
      · rename_i given hs
        cases h
        exact start_eq_noLength.mp hs
      · cases h
    · intro h
      cases h with
      | noLength given noText noList noMap =>
        rw [(start_eq_noLength (r := r)).mpr (.noLength given noText noList noMap)]
  | reading => exact readFiles_eq_error
  | files => exact checkFiles_eq_error
  | line => rw [look, map_eq_error, line_eq_error]
  | arguments => exact checkArguments_eq_error
  | merging => exact checkLine_eq_error
  | names =>
    dsimp only [look]
    constructor
    · intro h
      split at h
      · rename_i started hs
        cases h
        exact (start_eq_notName started).mp hs
      · cases h
    · intro h
      cases h with
      | notName started given wrong =>
        rw [started, (start_eq_notName (r := r) started).mpr (.notName started given wrong)]

/-- The options are looked at, and then they say how variables are named. -/
theorem naming_eq (o : Overrides) (r : OptionReader) :
    o.naming r = (concerns.foldlM (fun _ c => o.look r c) ()).map fun _ => o.named := by
  unfold naming named concerns
  simp only [List.foldlM_cons, List.foldlM_nil, look]
  cases o.splits with
  | error e => rfl
  | ok splits =>
  cases o.readFiles r <;> cases o.checkFiles <;> cases o.line r <;> cases o.checkArguments <;>
    cases o.checkLine r <;> cases o.hasNoStart <;>
      rcases o.start_cases with ⟨ps, hs⟩ | hs | ⟨given, hs⟩ <;> rw [hs] <;> rfl

theorem naming_eq_error : o.naming r = .error f ↔ o.Unfit r f := by
  have hlook (s : Unit) (c : Concern) (f : OptionFault) :
      o.look r c = .error f ↔ o.Complains r c f := look_eq_error
  rw [naming_eq, map_eq_error]
  exact foldlM_eq_error hlook

theorem naming_eq_ok {naming : Environment.Naming} :
    o.naming r = .ok naming ↔ (∀ f, ¬ o.Unfit r f) ∧ naming = o.named := by
  simp only [← naming_eq_error]
  rw [naming_eq]
  cases concerns.foldlM (fun _ c => o.look r c) () <;> simp [Except.map, eq_comm]

end Overrides

end TypedTree
