import Traversal.Proofs.Settings.Layers

/-! # Settings from the environment and a file

Settings are resolved exactly if all that is read is in order. Then each of them comes from the
environment, from the file or from the built-in settings, whichever is first to have it. Otherwise
the first check that fails, in a fixed order, gives the error: `resolve_in_layers`. -/

namespace Traversal

/-- The path is what the environment names as the settings file, without white space at its ends. -/
inductive Settings.NamesFile (env : Environment) (path : String) : Prop
  | mk {raw : String} (given : env SettingKey.file.name = some raw)
      (trims : Text.Trims raw.toList path.toList) (some : path ≠ "")

/-- The environment has no name of a settings file, or a blank one. -/
def Settings.NamesNoFile (env : Environment) : Prop :=
  ∀ raw ∈ env SettingKey.file.name, Text.Blank raw.toList

/-- The content of the settings file; where none is named, that is nothing. -/
inductive Settings.Gives (env : Environment) (files : Files) : SettingsFile → Prop
  | nothing (unnamed : NamesNoFile env) : Gives env files {}
  | file {path text : String} {file : SettingsFile} (named : NamesFile env path)
      (readable : files path = some text) (shaped : SettingsFile.read text = some file) :
      Gives env files file

namespace Settings

/-- What can fail when settings are resolved. -/
inductive Check where
  | readable | shape | filePort | fileTimeout | port | timeout

/-- The order in which failures count. -/
def Check.inOrder : List Check := [.readable, .shape, .filePort, .fileTimeout, .port, .timeout]

/-- A check fails with an error, whatever becomes of the other checks. -/
inductive Fails (env : Environment) (files : Files) : Check → SettingsError → Prop
  | readable {path : String} (named : NamesFile env path) (missing : files path = none) :
      Fails env files .readable (.unreadable path)
  | shape {path text : String} (named : NamesFile env path) (readable : files path = some text)
      (misshaped : SettingsFile.read text = none) : Fails env files .shape (.malformed path)
  | filePort {file : SettingsFile} {e : SettingsError} (given : Gives env files file)
      (invalid : Invalid file.asEnvironment .port UInt16.size e) : Fails env files .filePort e
  | fileTimeout {file : SettingsFile} {e : SettingsError} (given : Gives env files file)
      (invalid : Invalid file.asEnvironment .timeout UInt64.size e) : Fails env files .fileTimeout e
  | port {e : SettingsError} (invalid : Invalid env .port UInt16.size e) : Fails env files .port e
  | timeout {e : SettingsError} (invalid : Invalid env .timeout UInt64.size e) :
      Fails env files .timeout e

/-- The first of the checks to fail does so with the error. -/
inductive FirstFailure (env : Environment) (files : Files) (e : SettingsError) : List Check → Prop
  | here {check : Check} (fails : Fails env files check e) (rest : List Check) :
      FirstFailure env files e (check :: rest)
  | later {check : Check} {rest : List Check} (passes : ∀ other, ¬ Fails env files check other)
      (first : FirstFailure env files e rest) : FirstFailure env files e (check :: rest)

end Settings

/-! ## Null in a file -/

namespace SettingsFile

/-- The port and the timeout are not null where they are given. -/
structure WithoutNull (file : SettingsFile) : Prop where
  port : file.port ≠ some .null
  timeout : file.timeout ≠ some .null

theorem valueSetting_ne_null (value : Json) : valueSetting value ≠ some .null := by
  cases value <;> simp [valueSetting]

theorem WithoutNull.set {file next : SettingsFile} {key : SettingKey} {value : Json}
    (h : file.WithoutNull) (made : file.set? key value = some next) : next.WithoutNull := by
  cases key with
  | proto | host | version =>
    obtain ⟨text, -, rfl⟩ := Option.map_eq_some_iff.mp made
    exact ⟨h.port, h.timeout⟩
  | port =>
    obtain rfl := Option.some.inj made
    exact ⟨valueSetting_ne_null value, h.timeout⟩
  | timeout =>
    obtain rfl := Option.some.inj made
    exact ⟨h.port, valueSetting_ne_null value⟩
  | file => cases made

theorem WithoutNull.setAll {file next : SettingsFile} {seen : List SettingKey}
    {members : List (SettingKey × Json)} (h : file.WithoutNull)
    (made : file.setAll seen members = some next) : next.WithoutNull := by
  induction members generalizing file seen with
  | nil => exact Option.some.inj made ▸ h
  | cons member rest ih =>
    obtain ⟨key, value⟩ := member
    rw [SettingsFile.setAll] at made
    split_ifs at made
    split at made
    next between eq => exact ih (h.set eq) made
    next => cases made

theorem withoutNull_empty : ({} : SettingsFile).WithoutNull := ⟨by simp, by simp⟩

theorem withoutNull_of_read {text : String} {file : SettingsFile} (made : read text = some file) :
    file.WithoutNull := by
  unfold read at made
  split at made
  next =>
    split at made
    next =>
      split_ifs at made
      exact withoutNull_empty.setAll made
    next => cases made
  next =>
    split at made
    next =>
      split_ifs at made
      exact withoutNull_empty.setAll made
    next => cases made
  next => cases made

end SettingsFile

/-! ## The settings file -/

namespace Settings

variable {env : Environment} {files : Files} {file : SettingsFile} {path : String}

theorem Gives.withoutNull (h : Gives env files file) : file.WithoutNull := by
  cases h with
  | nothing => exact SettingsFile.withoutNull_empty
  | file _ _ shaped => exact SettingsFile.withoutNull_of_read shaped

theorem trim_eq_empty_iff {raw : String} : Text.trim raw = "" ↔ Text.Blank raw.toList := by
  rw [← Text.trims_nil_iff, ← Text.trimChars_eq_iff, Text.trim, ← String.ofList_nil,
    String.ofList_inj]

theorem NamesNoFile.filePath?_eq (h : NamesNoFile env) : filePath? env = none := by
  cases given : env SettingKey.file.name with
  | none => simp [filePath?, given]
  | some raw => simp [filePath?, given, trim_eq_empty_iff.mpr (h raw given)]

theorem NamesFile.filePath?_eq (h : NamesFile env path) : filePath? env = some path := by
  obtain ⟨given, trims, some⟩ := h
  simp [filePath?, given, Text.trim, trims.trimChars_eq, some]

theorem namesNoFile_or_namesFile (env : Environment) :
    NamesNoFile env ∨ ∃ path, NamesFile env path := by
  cases given : env SettingKey.file.name with
  | none => exact .inl (by simp [NamesNoFile, given])
  | some raw =>
    by_cases blank : Text.Blank raw.toList
    · exact .inl (by simpa [NamesNoFile, given] using blank)
    · refine .inr ⟨Text.trim raw, given, ?_, mt trim_eq_empty_iff.mp blank⟩
      rw [Text.trim, String.toList_ofList]
      exact Text.trims_trimChars raw.toList

theorem exists_gives (readable : ∀ e, ¬ Fails env files .readable e)
    (shape : ∀ e, ¬ Fails env files .shape e) : ∃ file, Gives env files file := by
  rcases namesNoFile_or_namesFile env with unnamed | ⟨path, named⟩
  · exact ⟨{}, .nothing unnamed⟩
  · cases found : files path with
    | none => exact absurd (.readable named found) (readable _)
    | some text =>
      cases read : SettingsFile.read text with
      | none => exact absurd (.shape named found read) (shape _)
      | some file => exact ⟨file, .file named found read⟩

theorem NamesFile.resolve_eq (h : NamesFile env path) (files : Files) :
    resolve env files = (ofFile files path).bind (·.override env) := by
  simp only [resolve, h.filePath?_eq]
  rfl

theorem Gives.resolve_eq (h : Gives env files file) :
    resolve env files = (({} : Settings).override file.asEnvironment).bind (·.override env) := by
  rw [← file.settings_eq_override]
  cases h with
  | nothing unnamed =>
    simp only [resolve, unnamed.filePath?_eq]
    rfl
  | file named readable shaped => simp only [named.resolve_eq, ofFile, readable, shaped]

theorem Gives.validPort (h : Gives env files file) (passes : ∀ e, ¬ Fails env files .filePort e) :
    ValidNumber file.asEnvironment .port UInt16.size :=
  validNumber_of_not_invalid (by decide) fun e invalid => passes e (.filePort h invalid)

theorem Gives.valid (h : Gives env files file) (port : ∀ e, ¬ Fails env files .filePort e)
    (timeout : ∀ e, ¬ Fails env files .fileTimeout e) : Valid file.asEnvironment where
  port := h.validPort port
  timeout := validNumber_of_not_invalid (by decide) fun e invalid => timeout e (.fileTimeout h invalid)

/-! ## Checks in order -/

theorem Check.mem_inOrder (check : Check) : check ∈ inOrder := by
  cases check <;> simp [inOrder]

theorem firstFailure_or_passes (env : Environment) (files : Files) :
    (∃ e, FirstFailure env files e Check.inOrder) ∨ ∀ check e, ¬ Fails env files check e := by
  suffices ∀ checks : List Check, (∃ e, FirstFailure env files e checks) ∨
      ∀ check ∈ checks, ∀ e, ¬ Fails env files check e from
    (this Check.inOrder).imp_right fun passes check => passes check check.mem_inOrder
  intro checks
  induction checks with
  | nil => exact .inr (by simp)
  | cons check rest ih =>
    by_cases fails : ∃ e, Fails env files check e
    · obtain ⟨e, fails⟩ := fails
      exact .inl ⟨e, .here fails rest⟩
    · have passes : ∀ e, ¬ Fails env files check e := fun e h => fails ⟨e, h⟩
      rcases ih with ⟨e, first⟩ | others
      · exact .inl ⟨e, .later passes first⟩
      · exact .inr (List.forall_mem_cons.mpr ⟨passes, others⟩)

theorem firstFailure_cons_iff {e : SettingsError} {check : Check} {rest : List Check} :
    FirstFailure env files e (check :: rest) ↔ Fails env files check e ∨
      ((∀ other, ¬ Fails env files check other) ∧ FirstFailure env files e rest) := by
  constructor
  · intro h
    cases h with
    | here fails => exact .inl fails
    | later passes first => exact .inr ⟨passes, first⟩
  · rintro (fails | ⟨passes, first⟩)
    · exact .here fails rest
    · exact .later passes first

theorem FirstFailure.resolve_eq {e : SettingsError} (h : FirstFailure env files e Check.inOrder) :
    resolve env files = .error e := by
  rw [Check.inOrder] at h
  obtain fails | ⟨readable, h⟩ := firstFailure_cons_iff.mp h
  · cases fails with
    | readable named missing =>
      simp only [named.resolve_eq, ofFile, missing]
      rfl
  obtain fails | ⟨shape, h⟩ := firstFailure_cons_iff.mp h
  · cases fails with
    | shape named found misshaped =>
      simp only [named.resolve_eq, ofFile, found, misshaped]
      rfl
  obtain fails | ⟨filePort, h⟩ := firstFailure_cons_iff.mp h
  · cases fails with
    | filePort given invalid =>
      rw [given.resolve_eq, override_of_invalid_port invalid]
      rfl
  obtain fails | ⟨fileTimeout, h⟩ := firstFailure_cons_iff.mp h
  · cases fails with
    | fileTimeout given invalid =>
      rw [given.resolve_eq, override_of_invalid_timeout (given.validPort filePort) invalid]
      rfl
  -- the file is in order, and its settings are below those of the environment
  obtain ⟨file, given⟩ := exists_gives readable shape
  obtain ⟨below, eq, -⟩ := exists_override (given.valid filePort fileTimeout) {}
  rw [given.resolve_eq, eq]
  obtain fails | ⟨port, h⟩ := firstFailure_cons_iff.mp h
  · cases fails with
    | port invalid => exact override_of_invalid_port invalid below
  obtain fails | ⟨timeout, h⟩ := firstFailure_cons_iff.mp h
  · cases fails with
    | timeout invalid =>
      have valid : ValidNumber env .port UInt16.size :=
        validNumber_of_not_invalid (by decide) fun e invalid => port e (.port invalid)
      exact override_of_invalid_timeout valid invalid below
  cases h

theorem Gives.exists_resolve (given : Gives env files file) (fileValid : Valid file.asEnvironment)
    (valid : Valid env) : ∃ s, resolve env files = .ok s ∧
      Over (fun name => (env name).or (file.asEnvironment name)) {} s := by
  obtain ⟨below, eq, lower⟩ := exists_override fileValid {}
  obtain ⟨s, resolved, upper⟩ := exists_override valid below
  refine ⟨s, ?_, lower.trans upper⟩
  rw [given.resolve_eq, eq]
  exact resolved

theorem valid_of_passes (passes : ∀ check e, ¬ Fails env files check e) : Valid env where
  port := validNumber_of_not_invalid (by decide) fun e invalid => passes .port e (.port invalid)
  timeout := validNumber_of_not_invalid (by decide) fun e invalid =>
    passes .timeout e (.timeout invalid)

theorem passes_of_resolve {s : Settings} (resolved : resolve env files = .ok s) :
    ∀ check e, ¬ Fails env files check e :=
  (firstFailure_or_passes env files).resolve_left fun ⟨_, first⟩ => by
    cases first.resolve_eq.symm.trans resolved

theorem resolve_eq_error_iff {e : SettingsError} :
    resolve env files = .error e ↔ FirstFailure env files e Check.inOrder := by
  refine ⟨fun failed => ?_, FirstFailure.resolve_eq⟩
  rcases firstFailure_or_passes env files with ⟨other, first⟩ | passes
  · obtain rfl : other = e := Except.error.inj (first.resolve_eq.symm.trans failed)
    exact first
  · obtain ⟨file, given⟩ := exists_gives (passes .readable) (passes .shape)
    have fileValid := given.valid (passes .filePort) (passes .fileTimeout)
    obtain ⟨s, resolved, -⟩ := given.exists_resolve fileValid (valid_of_passes passes)
    cases failed.symm.trans resolved

/-- Settings are resolved exactly if the settings file, where one is named, can be read and has the
right shape and all numbers in it and in the environment are valid. Each setting is then taken from the
environment if it is there, else from the file, in which null counts as nothing, else it is built in.
Otherwise the error is that of the first check to fail. -/
theorem resolve_in_layers (env : Environment) (files : Files) :
    ((∃ s, resolve env files = .ok s) ↔
      ∃ file, Gives env files file ∧ Valid file.asEnvironment ∧ Valid env) ∧
    (∀ s file, resolve env files = .ok s → Gives env files file → file.WithoutNull ∧
      Over (fun name => (env name).or (file.asEnvironment name)) {} s) ∧
    ∀ e, resolve env files = .error e ↔ FirstFailure env files e Check.inOrder := by
  refine ⟨⟨fun ⟨s, resolved⟩ => ?_, fun ⟨file, given, fileValid, valid⟩ => ?_⟩,
    fun s file resolved given => ⟨given.withoutNull, ?_⟩, fun e => resolve_eq_error_iff⟩
  · have passes := passes_of_resolve resolved
    obtain ⟨file, given⟩ := exists_gives (passes .readable) (passes .shape)
    exact ⟨file, given, given.valid (passes .filePort) (passes .fileTimeout), valid_of_passes passes⟩
  · obtain ⟨s, resolved, -⟩ := given.exists_resolve fileValid valid
    exact ⟨s, resolved⟩
  · have passes := passes_of_resolve resolved
    have fileValid := given.valid (passes .filePort) (passes .fileTimeout)
    obtain ⟨other, eq, layered⟩ := given.exists_resolve fileValid (valid_of_passes passes)
    obtain rfl : other = s := Except.ok.inj (eq.symm.trans resolved)
    exact layered

/-- A port in the file is looked at even where the environment has another one. -/
example :
    let env : Environment := fun name => match name with
      | "CAYLEY_SETTINGS" => some " cayley.json "
      | "CAYLEY_PORT" => some "80"
      | _ => none
    let files : Files := fun path =>
      if path = "cayley.json" then some "\x7b\"CAYLEY_PORT\":65536\x7d" else none
    resolve env files = .error (.invalid .port "65536" .tooLarge) := by
  cbv

end Settings

end Traversal
