import Traversal.Proofs.Number.Word
import Traversal.Proofs.Text.Trimming
import Traversal.Settings.Resolve

/-! # One layer of settings

A settings file gives its settings as the environment does: what it holds are texts under the names
of the variables. So one layer is described once. Its texts win over the settings below, each for
itself, and of its numbers the port is looked at before the timeout. -/

namespace Traversal

/-- The text is a number below the limit, apart from white space at both ends. -/
inductive Denotes (limit : Nat) (raw : String) (n : Nat) : Prop
  | mk {core : List Char} (trims : Text.Trims raw.toList core) (spells : Spells core n)
      (small : n < limit)

/-- What is wrong with a text that is no number below the limit. -/
inductive Faulty (limit : Nat) (raw : String) (cause : NumeralError) : Prop
  | mk {core : List Char} (trims : Text.Trims raw.toList core) (wrong : Misspells limit core cause)

namespace Settings

/-- The variable is not set, or to a number below the limit. -/
def ValidNumber (env : Environment) (key : SettingKey) (limit : Nat) : Prop :=
  ∀ raw ∈ env key.name, ∃ n, Denotes limit raw n

/-- The error of a variable that is set to something else. -/
inductive Invalid (env : Environment) (key : SettingKey) (limit : Nat) : SettingsError → Prop
  | mk {raw : String} {cause : NumeralError} (given : env key.name = some raw)
      (faulty : Faulty limit raw cause) : Invalid env key limit (.invalid key raw cause)

/-- The port and the timeout are valid where they are set. -/
structure Valid (env : Environment) : Prop where
  port : ValidNumber env .port UInt16.size
  timeout : ValidNumber env .timeout UInt64.size

/-- The value that the text means, if there is one, or the value below. -/
inductive Chosen {α : Type} (Means : String → α → Prop) (below : α) : Option String → α → Prop
  | given {raw : String} {value : α} (means : Means raw value) : Chosen Means below (some raw) value
  | absent : Chosen Means below none below

/-- Each setting is what its variable says, or as below where the variable is not set. -/
structure Over (env : Environment) (below s : Settings) : Prop where
  proto : s.proto = (env SettingKey.proto.name).getD below.proto
  host : s.host = (env SettingKey.host.name).getD below.host
  port : Chosen (Denotes UInt16.size) below.port (env SettingKey.port.name) s.port
  version : s.version = (env SettingKey.version.name).getD below.version
  timeout : Chosen (fun raw timeout => ∃ n, timeout = some n ∧ Denotes UInt64.size raw n)
    below.timeout (env SettingKey.timeout.name) s.timeout

end Settings

/-- The texts in a settings file, under the names of the variables. -/
def SettingsFile.asEnvironment (file : SettingsFile) : Environment := fun name =>
  if name = SettingKey.proto.name then file.proto
  else if name = SettingKey.host.name then file.host
  else if name = SettingKey.port.name then file.port.map Json.plainText
  else if name = SettingKey.version.name then file.version
  else if name = SettingKey.timeout.name then file.timeout.map Json.plainText
  else none

/-! ## Numbers -/

section Numbers

variable {key : SettingKey} {limit : Nat} {raw : String}

theorem readSetting_of_denotes {n : Nat} (h : Denotes limit raw n) :
    readSetting key limit raw = .ok n := by
  obtain ⟨trims, spells, small⟩ := h
  rw [readSetting, trims.trimChars_eq, spells.readWord_eq small]

theorem readSetting_of_faulty {cause : NumeralError} (h : Faulty limit raw cause) :
    readSetting key limit raw = .error (.invalid key raw cause) := by
  obtain ⟨trims, wrong⟩ := h
  rw [readSetting, trims.trimChars_eq, wrong.readWord_eq]

theorem denotes_or_faulty (positive : 0 < limit) (raw : String) :
    (∃ n, Denotes limit raw n) ∨ ∃ cause, Faulty limit raw cause := by
  have trims := Text.trims_trimChars raw.toList
  cases read : readWord limit (Text.trimChars raw.toList) with
  | ok n =>
    obtain ⟨spells, small⟩ := (readWord_eq_ok_iff positive).mp read
    exact .inl ⟨n, trims, spells, small⟩
  | error cause => exact .inr ⟨cause, trims, (readWord_eq_error_iff positive).mp read⟩

end Numbers

/-! ## Layers -/

theorem SettingsFile.asEnvironment_name (file : SettingsFile) (key : SettingKey) :
    file.asEnvironment key.name = match key with
      | .file => none
      | .proto => file.proto
      | .host => file.host
      | .port => file.port.map Json.plainText
      | .version => file.version
      | .timeout => file.timeout.map Json.plainText := by
  cases key <;> simp [asEnvironment, SettingKey.name]

theorem SettingsFile.settings_eq_override (file : SettingsFile) :
    file.settings = ({} : Settings).override file.asEnvironment := by
  obtain ⟨proto, host, port, version, timeout⟩ := file
  cases port <;> cases timeout <;> simp [settings, Settings.override, asEnvironment_name]

namespace Settings

variable {env : Environment} {below s : Settings}

theorem validNumber_of_not_invalid {key : SettingKey} {limit : Nat} (positive : 0 < limit)
    (h : ∀ e, ¬ Invalid env key limit e) : ValidNumber env key limit := fun raw given =>
  (denotes_or_faulty positive raw).resolve_right fun ⟨_, faulty⟩ => h _ ⟨given, faulty⟩

theorem override_eq_bind (env : Environment) (below : Settings) : below.override env = do
    let port ← (env SettingKey.port.name).elim (.ok below.port) readPort
    let timeout ← (env SettingKey.timeout.name).elim (.ok below.timeout) fun raw =>
      some <$> readTimeout raw
    return {
      proto := (env SettingKey.proto.name).getD below.proto
      host := (env SettingKey.host.name).getD below.host
      version := (env SettingKey.version.name).getD below.version
      port, timeout } := by
  unfold override
  cases env SettingKey.port.name <;> cases env SettingKey.timeout.name <;> rfl

theorem exists_chosen {α : Type} {Means : String → α → Prop} {read : String → Except SettingsError α}
    {text : Option String} (readable : ∀ raw ∈ text, ∃ value, Means raw value ∧ read raw = .ok value)
    (below : α) : ∃ value, text.elim (.ok below) read = .ok value ∧ Chosen Means below text value := by
  cases text with
  | none => exact ⟨below, rfl, .absent⟩
  | some raw =>
    obtain ⟨value, means, eq⟩ := readable raw rfl
    exact ⟨value, eq, .given means⟩

theorem exists_port (valid : ValidNumber env .port UInt16.size) (below : Nat) : ∃ port,
    (env SettingKey.port.name).elim (.ok below) readPort = .ok port ∧
      Chosen (Denotes UInt16.size) below (env SettingKey.port.name) port := by
  refine exists_chosen (fun raw given => ?_) below
  obtain ⟨n, denotes⟩ := valid raw given
  exact ⟨n, denotes, readSetting_of_denotes denotes⟩

theorem exists_timeout (valid : ValidNumber env .timeout UInt64.size) (below : Option Nat) :
    ∃ timeout, (env SettingKey.timeout.name).elim (.ok below) (fun raw => some <$> readTimeout raw) =
        .ok timeout ∧
      Chosen (fun raw timeout => ∃ n, timeout = some n ∧ Denotes UInt64.size raw n) below
        (env SettingKey.timeout.name) timeout := by
  refine exists_chosen (fun raw given => ?_) below
  obtain ⟨n, denotes⟩ := valid raw given
  exact ⟨some n, ⟨n, rfl, denotes⟩, by rw [readTimeout, readSetting_of_denotes denotes]; rfl⟩

theorem exists_override (valid : Valid env) (below : Settings) :
    ∃ s, below.override env = .ok s ∧ Over env below s := by
  obtain ⟨port, portEq, portChosen⟩ := exists_port valid.port below.port
  obtain ⟨timeout, timeoutEq, timeoutChosen⟩ := exists_timeout valid.timeout below.timeout
  rw [override_eq_bind, portEq, timeoutEq]
  exact ⟨_, rfl, rfl, rfl, portChosen, rfl, timeoutChosen⟩

theorem override_of_invalid_port {e : SettingsError} (invalid : Invalid env .port UInt16.size e)
    (below : Settings) : below.override env = .error e := by
  obtain ⟨given, faulty⟩ := invalid
  rw [override_eq_bind, given, Option.elim_some, readPort, readSetting_of_faulty faulty]
  rfl

theorem override_of_invalid_timeout {e : SettingsError} (port : ValidNumber env .port UInt16.size)
    (invalid : Invalid env .timeout UInt64.size e) (below : Settings) :
    below.override env = .error e := by
  obtain ⟨given, faulty⟩ := invalid
  obtain ⟨n, eq, -⟩ := exists_port port below.port
  rw [override_eq_bind, eq, given, Option.elim_some, readTimeout, readSetting_of_faulty faulty]
  rfl

theorem Chosen.trans {α : Type} {Means : String → α → Prop} {below between value : α}
    {lower upper : Option String} (first : Chosen Means below lower between)
    (second : Chosen Means between upper value) : Chosen Means below (upper.or lower) value := by
  cases second with
  | given means => exact .given means
  | absent => exact first

/-- Two layers are one, in which the upper one wins setting by setting. -/
theorem Over.trans {lower upper : Environment} {below between s : Settings}
    (first : Over lower below between) (second : Over upper between s) :
    Over (fun name => (upper name).or (lower name)) below s where
  proto := by rw [second.proto, first.proto, Option.getD_or]
  host := by rw [second.host, first.host, Option.getD_or]
  port := first.port.trans second.port
  version := by rw [second.version, first.version, Option.getD_or]
  timeout := first.timeout.trans second.timeout

end Settings

end Traversal
