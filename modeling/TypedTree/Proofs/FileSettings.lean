import TypedTree.Settings.Load

/-! # What a settings file holds

There are no settings at a path where nothing is, nor in a file whose data stands for "nothing given";
else the data has to be a mapping. Everything that can be wrong with a file is told by what is found
at its path and by what its bytes are as a document. The project file is looked for in the working
directory, or at a path where there has to be something. -/

namespace TypedTree

namespace FileSystem

/-- The settings at a path. -/
inductive Gives (s : FileSystem) (path : FilePath) : Mapping → Prop
  | absent (found : s.entry path = .absent) : Gives s path []
  | empty {content : Text.Bytes} {fault : Option SystemFault} {d : Data}
      (found : s.entry path = .file content fault) (read : readDocument content fault = .ok d)
      (empty : d.isEmpty = true) : Gives s path []
  | mapping {content : Text.Bytes} {fault : Option SystemFault} {d : Data} {m : Mapping}
      (found : s.entry path = .file content fault) (read : readDocument content fault = .ok d)
      (full : d.isEmpty = false) (bare : d.bare = .map m) : Gives s path m

/-- What is wrong with the settings at a path. -/
inductive Spoiled (s : FileSystem) (path : FilePath) : FileFault → Prop
  | unknown {fault : SystemFault} (found : s.entry path = .unknown fault) :
      Spoiled s path (.system fault path.points)
  | shut {fault : SystemFault} (found : s.entry path = .shut fault) :
      Spoiled s path (.system fault path.points)
  | notYaml {content : Text.Bytes} {fault : Option SystemFault}
      (found : s.entry path = .file content fault)
      (read : readDocument content fault = .error .malformed) :
      Spoiled s path (.config (.unreadable path.points notYamlReason))
  | document {content : Text.Bytes} {fault : Option SystemFault} {reason : Yaml.Fault}
      (found : s.entry path = .file content fault)
      (read : readDocument content fault = .error reason) (other : reason ≠ .malformed) :
      Spoiled s path (.document reason)
  | notMapping {content : Text.Bytes} {fault : Option SystemFault} {d : Data}
      (found : s.entry path = .file content fault) (read : readDocument content fault = .ok d)
      (full : d.isEmpty = false) (other : ∀ m, d.bare ≠ .map m) :
      Spoiled s path (.config (.unreadable path.points notMappingReason))

variable {s : FileSystem} {path : FilePath}

theorem settings?_eq_some {d : Data} {m : Mapping} : d.settings? = some m ↔
    (d.isEmpty = true ∧ m = []) ∨ (d.isEmpty = false ∧ d.bare = .map m) := by
  unfold Data.settings?
  cases d.isEmpty with
  | true => simp [eq_comm]
  | false => cases d.bare <;> simp

theorem settings?_eq_none {d : Data} :
    d.settings? = none ↔ d.isEmpty = false ∧ ∀ m, d.bare ≠ .map m := by
  unfold Data.settings?
  cases d.isEmpty with
  | true => simp
  | false => cases d.bare <;> simp

theorem settings_eq_ok {m : Mapping} : s.settings path = .ok m ↔ s.Gives path m := by
  constructor
  · intro h
    unfold settings at h
    cases found : s.entry path with
    | absent =>
      rw [found] at h
      cases h
      exact .absent found
    | unknown fault => rw [found] at h; cases h
    | shut fault => rw [found] at h; cases h
    | file content fault =>
      rw [found] at h
      dsimp only at h
      split at h
      · cases h
      · cases h
      · rename_i d read
        split at h
        · rename_i settings hsettings
          cases h
          rcases settings?_eq_some.mp hsettings with ⟨hempty, rfl⟩ | ⟨hfull, hbare⟩
          · exact .empty found read hempty
          · exact .mapping found read hfull hbare
        · cases h
  · intro h
    cases h with
    | absent found => simp only [settings, found]
    | empty found read empty =>
      simp only [settings, found, read, settings?_eq_some.mpr (.inl ⟨empty, rfl⟩)]
    | mapping found read full bare =>
      simp only [settings, found, read, settings?_eq_some.mpr (.inr ⟨full, bare⟩)]

theorem settings_eq_error {f : FileFault} : s.settings path = .error f ↔ s.Spoiled path f := by
  constructor
  · intro h
    unfold settings at h
    cases found : s.entry path with
    | absent => rw [found] at h; cases h
    | unknown fault =>
      rw [found] at h
      cases h
      exact .unknown found
    | shut fault =>
      rw [found] at h
      cases h
      exact .shut found
    | file content fault =>
      rw [found] at h
      dsimp only at h
      split at h
      · rename_i read
        cases h
        exact .notYaml found read
      · rename_i reason other read
        cases h
        exact .document found read other
      · rename_i d read
        split at h
        · cases h
        · rename_i hsettings
          cases h
          obtain ⟨hfull, hother⟩ := settings?_eq_none.mp hsettings
          exact .notMapping found read hfull hother
  · intro h
    cases h with
    | unknown found => simp only [settings, found]
    | shut found => simp only [settings, found]
    | notYaml found read => simp only [settings, found, read]
    | document found read other => simp only [settings, found, read]
    | notMapping found read full other =>
      simp only [settings, found, read, settings?_eq_none.mpr ⟨full, other⟩]

end FileSystem

namespace Sources

variable {s : Sources} {path : FilePath}

/-- The path of the project file. -/
inductive Found (s : Sources) : FilePath → Prop
  | here {ps : Text.CodePoints} (unnamed : s.projectFile = none)
      (directory : s.files.directory = .ok ps) :
      Found s (.ofPoints (ps ++ Text.points ("/" ++ projectFileName)))
  | named {path : FilePath} (named : s.projectFile = some path)
      (present : s.files.entry path ≠ .absent) (known : ∀ f, s.files.entry path ≠ .unknown f) :
      Found s path

/-- Why there is no project file to look for. -/
inductive Lost (s : Sources) : LoadFault → Prop
  | adrift {f : SystemFault} (unnamed : s.projectFile = none)
      (directory : s.files.directory = .error f) : Lost s (.adrift f)
  | missing {path : FilePath} (named : s.projectFile = some path)
      (absent : s.files.entry path = .absent) : Lost s (.config (.missing path.points))
  | unknown {path : FilePath} {f : SystemFault} (named : s.projectFile = some path)
      (unknown : s.files.entry path = .unknown f) : Lost s (.file (.system f path.points))

theorem Found.project_eq (h : s.Found path) : s.project = .ok path := by
  unfold project
  cases h with
  | here unnamed directory =>
    rw [unnamed]
    dsimp only [FileSystem.inside]
    rw [directory]
    rfl
  | named named present known =>
    rw [named]
    dsimp only
    split
    · rename_i absent
      exact absurd absent present
    · rename_i f unknown
      exact absurd unknown (known f)
    · rfl

theorem Lost.project_eq {f : LoadFault} (h : s.Lost f) : s.project = .error f := by
  unfold project
  cases h with
  | adrift unnamed directory =>
    rw [unnamed]
    dsimp only [FileSystem.inside]
    rw [directory]
    rfl
  | missing named absent =>
    rw [named]
    dsimp only
    rw [absent]
  | unknown named unknown =>
    rw [named]
    dsimp only
    rw [unknown]

theorem found_or_lost (s : Sources) : (∃ path, s.Found path) ∨ ∃ f, s.Lost f := by
  cases hnamed : s.projectFile with
  | none =>
    cases hdirectory : s.files.directory with
    | ok ps => exact .inl ⟨_, .here hnamed hdirectory⟩
    | error f => exact .inr ⟨_, .adrift hnamed hdirectory⟩
  | some path =>
    cases hentry : s.files.entry path with
    | absent => exact .inr ⟨_, .missing hnamed hentry⟩
    | unknown f => exact .inr ⟨_, .unknown hnamed hentry⟩
    | shut f => exact .inl ⟨path, .named hnamed (by simp [hentry]) (by simp [hentry])⟩
    | file content fault => exact .inl ⟨path, .named hnamed (by simp [hentry]) (by simp [hentry])⟩

end Sources

end TypedTree
