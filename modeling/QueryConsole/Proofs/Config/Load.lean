import QueryConsole.Proofs.Config.Effective
import QueryConsole.Proofs.Text.Decoded

/-!
# Loading settings

A file that is read either settles everything or is the reason why there are no settings. The
defaults are in force only where no text names a file and the default file is missing. A variable
whose value is no text names no file, though it is set: this is the one way in which a file that is
named is passed over.

## Main definitions

- `Config.Untold`: a variable that gives no text
- `Config.Opens`: the path that is read
- `Config.Loaded`: what becomes of the settings, row by row

## Main results

- `Config.loaded_load`: loading settings ends in one of these rows
- `load_passes_over_garbled_names`: every outcome of loading, and what holds of the settings it
  gives
- `garbled_name_passed_over`: a name that is set, and no text, does not count
-/

namespace QueryConsole

namespace Config

/-- A variable is not set, or its value is no text. -/
def Untold (vars : Variables) (name : String) : Prop :=
  ∀ text : String, vars name ≠ some (Utf8.bytesOf text)

/-- The path that is read: the one that is named by a text, or the default file if it is there. -/
inductive Opens (files : Files) (vars : Variables) : String → Prop
  | named {path : String} (h : vars fileVariable = some (Utf8.bytesOf path)) :
      Opens files vars path
  | standard {found : FileTree} (untold : Untold vars fileVariable)
      (present : files defaultFile = .ok found) : Opens files vars defaultFile

/-- Nothing is at a path. -/
def Absent (files : Files) (path : String) : Prop := ∀ found, files path ≠ .ok found

/-- What becomes of the settings. -/
inductive Loaded (files : Files) (vars : Variables) : Except Fault Config → Prop
  | defaults (untold : Untold vars fileVariable) (absent : Absent files defaultFile) :
      Loaded files vars (.ok (({} : Config).override vars.environment))
  | notFound {path : String} (opens : Opens files vars path) (absent : Absent files path) :
      Loaded files vars (.error (.notFound path))
  | directory {path : String} {entries : List (String × FileTree)} (opens : Opens files vars path)
      (h : files path = .ok (.directory entries)) :
      Loaded files vars (.error (.unreadable path FileTree.isDirectory))
  | garbled {path : String} {content : List UInt8} {executable : Bool}
      (opens : Opens files vars path) (h : files path = .ok (.file content executable))
      (garbled : ∀ text : String, content ≠ Utf8.bytesOf text) :
      Loaded files vars (.error (.unreadable path notText))
  | refused {path text : String} {executable : Bool} {fault : Fault}
      (opens : Opens files vars path)
      (h : files path = .ok (.file (Utf8.bytesOf text) executable))
      (refused : ofText text = .error fault) : Loaded files vars (.error fault)
  | settled {path text : String} {executable : Bool} {c : Config}
      (opens : Opens files vars path)
      (h : files path = .ok (.file (Utf8.bytesOf text) executable))
      (settled : ofText text = .ok c) : Loaded files vars (.ok (c.override vars.environment))

variable {files : Files} {vars : Variables} {name path text : String} {executable : Bool}
  {content : List UInt8} {c : Config} {fault : Fault} {r : Except Fault Config}

/-! ## Reading a variable -/

theorem Variables.read_eq_ok_iff :
    vars.read name = .ok text ↔ vars name = some (Utf8.bytesOf text) := by
  rw [read]
  cases hvalue : vars name with
  | none => simp
  | some value =>
    simp only [Option.some.injEq, Utf8.bytesOf_eq_encode, ← Utf8.decode?_eq_some_iff]
    cases hread : Utf8.decode? value with
    | none => simp
    | some cs => simp [String.ext_iff]

theorem Variables.read_eq_error_iff :
    (∃ cause, vars.read name = .error cause) ↔ Untold vars name := by
  simp only [Untold, ne_eq, ← read_eq_ok_iff]
  cases vars.read name <;> simp

theorem toOption_read_eq_some_iff :
    (vars.read name).toOption = some text ↔ vars name = some (Utf8.bytesOf text) := by
  rw [← Variables.read_eq_ok_iff]
  cases vars.read name <;> simp [Except.toOption]

/-- A variable is not set, or it has no text, or it has one. -/
theorem read_cases (vars : Variables) (name : String) :
    (∃ text, vars name = some (Utf8.bytesOf text)) ∨ Untold vars name := by
  rw [Untold, ← not_exists]
  exact em _

/-! ## Reading a file -/

theorem absent_iff : Absent files path ↔ ∃ missing, files path = .error missing := by
  constructor
  · intro h
    cases hfound : files path with
    | error missing => exact ⟨missing, rfl⟩
    | ok found => exact absurd hfound (h found)
  · rintro ⟨missing, hmissing⟩ found hfound
    rw [hmissing] at hfound
    cases hfound

theorem ofFile_absent (h : Absent files path) : ofFile files path = .error (.notFound path) := by
  obtain ⟨missing, hmissing⟩ := absent_iff.1 h
  rw [ofFile, hmissing]

theorem ofFile_directory {entries : List (String × FileTree)}
    (h : files path = .ok (.directory entries)) :
    ofFile files path = .error (.unreadable path FileTree.isDirectory) := by
  rw [ofFile, h]

theorem ofFile_garbled (h : files path = .ok (.file content executable))
    (garbled : ∀ text : String, content ≠ Utf8.bytesOf text) :
    ofFile files path = .error (.unreadable path notText) := by
  have hnone : Utf8.decode? content = none := by
    refine Option.eq_none_iff_forall_ne_some.2 fun cs hcs => ?_
    apply garbled (String.ofList cs)
    rw [Utf8.bytesOf_eq_encode, String.toList_ofList]
    exact Utf8.decode?_eq_some_iff.1 hcs
  simp only [ofFile, h, hnone]

theorem ofFile_text (h : files path = .ok (.file (Utf8.bytesOf text) executable)) :
    ofFile files path = ofText text := by
  simp only [ofFile, h, Utf8.decode?_bytesOf, String.ofList_toList]

/-- Bytes are those of a text, or of none. -/
theorem text_or_garbled (content : List UInt8) :
    (∃ text : String, content = Utf8.bytesOf text) ∨
      ∀ text : String, content ≠ Utf8.bytesOf text := by
  rw [← not_exists]
  exact em _

theorem validate_of_ofFile (h : ofFile files path = .ok c) : c.validate = .ok c := by
  unfold ofFile at h
  split at h
  · cases h
  · cases h
  · split at h
    · cases h
    · exact validate_of_ofText h

/-! ## The file that is read -/

theorem Opens.base_eq (h : Opens files vars path) : base files vars = ofFile files path := by
  cases h with
  | named hnamed => rw [base, Variables.read_eq_ok_iff.2 hnamed]
  | standard untold present =>
    obtain ⟨cause, hcause⟩ := Variables.read_eq_error_iff.2 untold
    rw [base, hcause, present]

theorem base_of_absent (untold : Untold vars fileVariable) (absent : Absent files defaultFile) :
    base files vars = .ok {} := by
  obtain ⟨cause, hcause⟩ := Variables.read_eq_error_iff.2 untold
  obtain ⟨missing, hmissing⟩ := absent_iff.1 absent
  rw [base, hcause, hmissing]

/-- A file is read, unless no text names one and the default file is missing. -/
theorem opens_or_absent (files : Files) (vars : Variables) :
    (∃ path, Opens files vars path) ∨ Untold vars fileVariable ∧ Absent files defaultFile := by
  obtain ⟨path, hnamed⟩ | untold := read_cases vars fileVariable
  · exact .inl ⟨path, .named hnamed⟩
  · cases hfound : files defaultFile with
    | ok found => exact .inl ⟨defaultFile, .standard untold hfound⟩
    | error missing => exact .inr ⟨untold, absent_iff.2 ⟨missing, hfound⟩⟩

theorem validate_of_base (h : base files vars = .ok c) : c.validate = .ok c := by
  obtain ⟨path, hopens⟩ | ⟨untold, absent⟩ := opens_or_absent files vars
  · rw [hopens.base_eq] at h
    exact validate_of_ofFile h
  · rw [base_of_absent untold absent] at h
    cases h
    rfl

theorem load_eq (files : Files) (vars : Variables) :
    load files vars = (base files vars).map (·.override vars.environment) :=
  settle_eq fun _ h => validate_of_base h

/-! ## Outcomes -/

theorem loaded_text (opens : Opens files vars path)
    (h : files path = .ok (.file (Utf8.bytesOf text) executable)) :
    Loaded files vars ((ofText text).map (·.override vars.environment)) := by
  cases hread : ofText text with
  | error fault => exact .refused opens h hread
  | ok c => exact .settled opens h hread

theorem loaded_file (opens : Opens files vars path) :
    Loaded files vars ((ofFile files path).map (·.override vars.environment)) := by
  cases hfound : files path with
  | error missing =>
    have absent : Absent files path := absent_iff.2 ⟨missing, hfound⟩
    rw [ofFile_absent absent]
    exact .notFound opens absent
  | ok found =>
    cases found with
    | directory entries =>
      rw [ofFile_directory hfound]
      exact .directory opens hfound
    | file content executable =>
      obtain ⟨text, rfl⟩ | garbled := text_or_garbled content
      · rw [ofFile_text hfound]
        exact loaded_text opens hfound
      · rw [ofFile_garbled hfound garbled]
        exact .garbled opens hfound garbled

theorem loaded_load (files : Files) (vars : Variables) : Loaded files vars (load files vars) := by
  rw [load_eq]
  obtain ⟨path, hopens⟩ | ⟨untold, absent⟩ := opens_or_absent files vars
  · rw [hopens.base_eq]
    exact loaded_file hopens
  · rw [base_of_absent untold absent]
    exact .defaults untold absent

theorem Loaded.load_eq (h : Loaded files vars r) : load files vars = r := by
  rw [Config.load_eq]
  cases h with
  | defaults untold absent => rw [base_of_absent untold absent, Except.map]
  | notFound opens absent => rw [opens.base_eq, ofFile_absent absent, Except.map]
  | directory opens h => rw [opens.base_eq, ofFile_directory h, Except.map]
  | garbled opens h garbled => rw [opens.base_eq, ofFile_garbled h garbled, Except.map]
  | refused opens h refused => rw [opens.base_eq, ofFile_text h, refused, Except.map]
  | settled opens h settled => rw [opens.base_eq, ofFile_text h, settled, Except.map]

/-- What is wrong with a text has nothing to do with its file. -/
theorem fault_of_ofText (h : ofText text = .error fault) :
    fault = .malformed ∨ ∃ f ∈ durations, fault = .zero f.key := by
  unfold ofText at h
  split at h
  · cases h
    exact .inl rfl
  · obtain ⟨f, hf, rfl⟩ := validate_eq_error_iff.1 h
    exact .inr ⟨f, hf.exists_mem.1, rfl⟩

theorem durations_positive_iff : (∀ f ∈ durations, c.get f ≠ .integer 0) ↔
    0 < c.daemon.requestTimeoutSecs ∧ 0 < c.daemon.stopTimeoutSecs ∧
      0 < c.console.liveIntervalMs := by
  simp [durations, get, Nat.pos_iff_ne_zero]

/-- Settings that are loaded can work, and have what the environment gives them. -/
theorem settings_of_load (h : load files vars = .ok c) :
    (0 < c.daemon.requestTimeoutSecs ∧ 0 < c.daemon.stopTimeoutSecs ∧
      0 < c.console.liveIntervalMs) ∧ c.override vars.environment = c := by
  rw [load_eq, map_eq_ok_iff] at h
  obtain ⟨before, hbefore, rfl⟩ := h
  have hvalid : (before.override vars.environment).validate =
      .ok (before.override vars.environment) := validate_override (validate_of_base hbefore)
  exact ⟨durations_positive_iff.1 (validate_eq_ok_iff.1 hvalid).2,
    override_override before vars.environment⟩

/-! ## Directories -/

theorem find_defaultFile (entries : List (String × FileTree)) (above : Trail) :
    Trail.find (.directory entries :: above) defaultFile =
      match entries.lookup defaultFile with
      | some found => .ok found
      | none => .error .entry := by
  have hcomponents : Trail.components defaultFile = [defaultFile] := by decide
  have hrelative : Trail.isAbsolute defaultFile = false := by decide +kernel
  have hwalk : ¬(defaultFile = "" ∨ defaultFile = ".") ∧ defaultFile ≠ ".." := by decide
  have hshort : ¬Trail.longestPath < defaultFile.utf8ByteSize ∧
      ¬Trail.longestName < defaultFile.utf8ByteSize := by decide
  rw [Trail.find, Trail.follow, hcomponents, hrelative, if_neg (by decide), if_neg hshort.1]
  simp only [Bool.false_eq_true, if_false, Trail.walk, List.head?_cons, if_neg hwalk.1,
    if_neg hwalk.2, if_neg hshort.2]
  cases entries.lookup defaultFile with
  | none => rfl
  | some found => rfl

/-- The default file is missing from a directory that has no entry of its name, and the empty path
leads nowhere. -/
theorem absent_in_directory (entries : List (String × FileTree)) (above : Trail) :
    (Absent (Trail.find (.directory entries :: above)) defaultFile ↔
      entries.lookup defaultFile = none) ∧
    Absent (Trail.find (.directory entries :: above)) "" := by
  constructor
  · simp only [Absent, find_defaultFile]
    cases entries.lookup defaultFile <;> simp
  · intro found hfound
    cases hfound

end Config

/-- Loading settings starts from the defaults only where no text names a file and the default file is
missing from the directory. Otherwise one file is read, and it is missing, a directory, no text or
refused, or else its settings are in force, but for those that variables replace whose values are
texts. So a file that is named is passed over exactly where the bytes of its name are no text. -/
theorem load_passes_over_garbled_names (files : Config.Files) (vars : Config.Variables) :
    (∀ result, Config.load files vars = result ↔ Config.Loaded files vars result) ∧
    (∀ text fault, Config.ofText text = .error fault →
      fault = .malformed ∨ ∃ f ∈ Config.durations, fault = .zero f.key) ∧
    (∀ c, Config.load files vars = .ok c →
      (0 < c.daemon.requestTimeoutSecs ∧ 0 < c.daemon.stopTimeoutSecs ∧
        0 < c.console.liveIntervalMs) ∧ c.override vars.environment = c) ∧
    (∀ text,
      (vars.environment.bind = some text ↔
        vars "HMSCONSOLE_BIND" = some (Utf8.bytesOf text)) ∧
      (vars.environment.daemonUrl = some text ↔
        vars "HMSCONSOLE_DAEMON_URL" = some (Utf8.bytesOf text)) ∧
      (vars.environment.proxyUrl = some text ↔
        vars "HMSCONSOLE_PROXY_URL" = some (Utf8.bytesOf text))) ∧
    ∀ entries above, (Config.Absent (Trail.find (.directory entries :: above)) Config.defaultFile ↔
        entries.lookup Config.defaultFile = none) ∧
      Config.Absent (Trail.find (.directory entries :: above)) "" := by
  refine ⟨?_, ?_, ?_, ?_, Config.absent_in_directory⟩
  · intro result
    constructor
    · rintro rfl
      exact Config.loaded_load files vars
    · exact Config.Loaded.load_eq
  · intro text fault
    exact Config.fault_of_ofText
  · intro c
    exact Config.settings_of_load
  · intro text
    exact ⟨Config.toOption_read_eq_some_iff, Config.toOption_read_eq_some_iff,
      Config.toOption_read_eq_some_iff⟩

/-- The variables of a program in which one is set, to a text. -/
def Config.Variables.single (name text : String) : Config.Variables := fun other =>
  if other = name then some (Utf8.bytesOf text) else none

/-- A directory in the place of the default file is no reason to start from the defaults; a file of
another name is. -/
theorem load_passes_over_garbled_names_default :
    Config.load (Trail.find [.directory [("hmsconsole.toml", .directory [])]])
        (.single "HMSCONSOLE_BIND" "h:2") =
      .error (.unreadable "hmsconsole.toml" "Is a directory (os error 21)") ∧
    Config.load (Trail.find [.directory [("other.toml", .file [] false)]])
        (.single "HMSCONSOLE_BIND" "h:2") =
      .ok { server := { bind := "h:2" } } ∧
    ({ server := { bind := "h:2" } } : Config).override
        (Config.Variables.single "HMSCONSOLE_BIND" "h:2").environment =
      { server := { bind := "h:2" } } ∧
    Config.ofText "[" = .error .malformed ∧
    (Config.Fault.malformed = .malformed ∨
      ∃ f ∈ Config.durations, Config.Fault.malformed = .zero f.key) := by
  obtain ⟨hloaded, hfault, -, -, -⟩ := load_passes_over_garbled_names
    (Trail.find [.directory [("hmsconsole.toml", .directory [])]])
    (.single "HMSCONSOLE_BIND" "h:2")
  obtain ⟨hother, -, hsettings, -, hdirectory⟩ := load_passes_over_garbled_names
    (Trail.find [.directory [("other.toml", .file [] false)]]) (.single "HMSCONSOLE_BIND" "h:2")
  have hunset : Config.Untold (.single "HMSCONSOLE_BIND" "h:2") Config.fileVariable := by
    intro text htext
    cases htext
  have henvironment : (Config.Variables.single "HMSCONSOLE_BIND" "h:2").environment =
      { bind := some "h:2" } := by decide +kernel
  have hbound : Config.load (Trail.find [.directory [("other.toml", .file [] false)]])
      (.single "HMSCONSOLE_BIND" "h:2") = .ok { server := { bind := "h:2" } } := by
    refine (hother _).2 ?_
    have habsent := (hdirectory [("other.toml", .file [] false)] []).1.2 rfl
    have hdefaults := Config.Loaded.defaults hunset habsent
    rw [henvironment] at hdefaults
    exact hdefaults
  have hmalformed : Config.ofText "[" = .error .malformed := by decide +kernel
  refine ⟨(hloaded _).2 ?_, hbound, (hsettings _ hbound).2, hmalformed,
    hfault _ _ hmalformed⟩
  exact .directory (.standard hunset (Config.find_defaultFile _ [])) (Config.find_defaultFile _ [])

/-- A file is named, by bytes that are no text, and does not exist: the defaults are in force. -/
theorem garbled_name_passed_over :
    Config.load (Trail.find [.directory []]) (fun name =>
      if name = "HMSCONSOLE_CONFIG" then some [0x2F, 0x65, 0x74, 0x63, 0x2F, 0xFF] else none) =
        .ok {} := by
  decide +kernel

end QueryConsole
