import GrantGate.Proofs.Config.Reading

namespace GrantGate.Config

section Faults

variable {α β : Type}

/-- Of the faults that occur, the first one in the list decides. -/
def FirstOf : List (Error → Prop) → Error → Prop
  | [], _ => False
  | fault :: later, e => fault e ∨ (∀ e', ¬ fault e') ∧ FirstOf later e

theorem firstOf_singleton_iff {fault : Error → Prop} {e : Error} : FirstOf [fault] e ↔ fault e := by
  simp [FirstOf]

theorem exists_firstOf_iff {faults : List (Error → Prop)} :
    (∃ e, FirstOf faults e) ↔ ∃ fault ∈ faults, ∃ e, fault e := by
  induction faults with
  | nil => simp [FirstOf]
  | cons fault later ih =>
    simp only [FirstOf, exists_or, exists_and_left, List.mem_cons, exists_eq_or_imp, ← ih]
    by_cases occurs : ∃ e, fault e
    · simp only [occurs, true_or]
    · simp [not_exists.1 occurs]

theorem firstOf_append_iff {faults later : List (Error → Prop)} {e : Error} :
    FirstOf (faults ++ later) e ↔
      FirstOf faults e ∨ (∀ e', ¬ FirstOf faults e') ∧ FirstOf later e := by
  induction faults with
  | nil => simp [FirstOf]
  | cons fault faults ih =>
    by_cases occurs : ∃ e, fault e
    · have decides : ¬ ∀ e', ¬ fault e' := fun never => occurs.elim never
      simp only [List.cons_append, FirstOf, decides, false_and, or_false]
    · simp only [List.cons_append, FirstOf, not_exists.1 occurs, ih, false_or, not_false_eq_true,
        implies_true, true_and]

/-- A reading fails exactly by the first of these faults. -/
def FailsBy (r : Except Error α) (faults : List (Error → Prop)) : Prop :=
  ∀ e, r = .error e ↔ FirstOf faults e

theorem failsBy_ok (a : α) : FailsBy (.ok a) [] := by
  intro e
  simp [FirstOf]

/-- What is read later can fail only after all that came before was read. -/
theorem FailsBy.bind {x : Except Error α} {f : α → Except Error β}
    {faults later : List (Error → Prop)} (first : FailsBy x faults)
    (next : ∀ a, x = .ok a → FailsBy (f a) later) : FailsBy (x >>= f) (faults ++ later) := by
  intro e
  rw [firstOf_append_iff, ← first e]
  cases hx : x with
  | error e' =>
    have decided : FirstOf faults e' := (first e').1 hx
    have stops : (.error e' >>= f : Except Error β) = .error e' := rfl
    rw [or_iff_left fun h => h.1 e' decided, stops, Except.error.injEq, Except.error.injEq]
  | ok a =>
    have sound : ∀ e', ¬ FirstOf faults e' := by
      intro e' decided
      cases hx.symm.trans ((first e').2 decided)
    rw [← next a hx e, and_iff_right sound, or_iff_right nofun]
    rfl

theorem FailsBy.exists_error_iff {r : Except Error α} {faults : List (Error → Prop)}
    (h : FailsBy r faults) : (∃ e, r = .error e) ↔ ∃ fault ∈ faults, ∃ e, fault e := by
  rw [← exists_firstOf_iff]
  exact exists_congr h

theorem bind_ok_iff {x : Except Error α} {f : α → Except Error β} {b : β} :
    (x >>= f) = .ok b ↔ ∃ a, x = .ok a ∧ f a = .ok b := by
  cases x <;> simp [Bind.bind, Except.bind]

/-- A setting is given in a text that cannot be read. -/
def Misread (read : String → Except Error α) (given : Option String) (e : Error) : Prop :=
  ∃ text, given = some text ∧ read text = .error e

theorem Misread.unique {read : String → Except Error α} {given : Option String} {e e' : Error}
    (h : Misread read given e) (h' : Misread read given e') : e = e' := by
  obtain ⟨text, found, failed⟩ := h
  obtain ⟨text', found', failed'⟩ := h'
  cases found.symm.trans found'
  exact Except.error.inj (failed.symm.trans failed')

private theorem failsBy_settingOr {default : α} {read : String → Except Error α}
    {given : Option String} :
    FailsBy (settingOr default read given) [Misread read given] := by
  intro e
  rw [firstOf_singleton_iff]
  cases given <;> simp [settingOr, Misread]

private theorem eq_of_settingOr {default a : α} {read : String → Except Error α}
    {given : Option String}
    (h : settingOr default read given = .ok a) :
    a = (given.bind fun text => (read text).toOption).getD default := by
  cases given with
  | none => exact (Except.ok.inj h).symm
  | some text =>
    replace h : read text = .ok a := h
    simp [h, Except.toOption]

end Faults

private theorem toOption_readAddress (setting text : String) :
    (readAddress setting text).toOption = SocketAddress.parse? text := by
  rw [readAddress]
  cases SocketAddress.parse? text <;> rfl

private theorem toOption_mapError {ε α : Type} (f : ε → Error) (r : Except ε α) :
    (r.mapError f).toOption = r.toOption := by
  cases r <;> rfl

/-- What can be wrong with the environment, in the order in which it is read. -/
def environmentFaults (env : Environment) : List (Error → Prop) :=
  [Misread (readAddress "WARDEN_ADMISSION_BIND") (env "WARDEN_ADMISSION_BIND"),
    Misread (fun text => (readNumber text).mapError .timeout) (env "WARDEN_CAPABILITY_TIMEOUT_MS"),
    Misread (fun text => (readFlag text).mapError .oracleFlag) (env "WARDEN_ORACLE_ENABLED")]

theorem failsBy_ofEnvironment (env : Environment) :
    FailsBy (ofEnvironment env) (environmentFaults env) :=
  failsBy_settingOr.bind fun _ _ => failsBy_settingOr.bind fun _ _ =>
    failsBy_settingOr.bind fun _ _ => failsBy_ok _

private theorem eq_of_ofEnvironment {env : Environment} {c : Config}
    (h : ofEnvironment env = .ok c) :
    c.bindAddress =
      ((env "WARDEN_ADMISSION_BIND").bind SocketAddress.parse?).getD (.v4 0 0 0 0 8443) ∧
    c.capabilityTimeout = ((env "WARDEN_CAPABILITY_TIMEOUT_MS").bind fun text =>
      (readNumber text).toOption).getD 2000 ∧
    c.snapshot = (env "WARDEN_SNAPSHOT").filter (fun path => path ≠ "") ∧
    c.oracleEnabled = ((env "WARDEN_ORACLE_ENABLED").bind fun text =>
      (readFlag text).toOption).getD true := by
  obtain ⟨bindAddress, hb, h⟩ := bind_ok_iff.1 h
  obtain ⟨capabilityTimeout, ht, h⟩ := bind_ok_iff.1 h
  obtain ⟨oracleEnabled, ho, h⟩ := bind_ok_iff.1 h
  cases h
  refine ⟨?_, ?_, ?_, ?_⟩
  · simpa only [toOption_readAddress] using eq_of_settingOr hb
  · simpa only [toOption_mapError] using eq_of_settingOr ht
  · have path (s : String) : (!s.isEmpty) = decide (s ≠ "") := by by_cases h : s = "" <;> simp [h]
    simp only [path]
  · simpa only [toOption_mapError] using eq_of_settingOr ho

/-- The standard address is what its text spells. -/
example : SocketAddress.parse? "0.0.0.0:8443" = some (.v4 0 0 0 0 8443) := by decide +kernel

/-- The settings that a text spells. -/
def Override.ofText? (text : String) : Option Override :=
  (Yaml.ofText? text).bind fun y => (decode y).toOption

/-- The settings of the file that the environment names, as far as there are any. -/
def override? (env : Environment) (files : Snapshot.Files) : Option Override :=
  ((env "WARDEN_ADMISSION_CONFIG").bind files).bind Override.ofText?

/-- A configuration with what a file gives, where there is one, in the place of what there was. -/
def overlaid (file : Option Override) (c : Config) : Config where
  bindAddress := ((file.bind Override.bindAddress).bind SocketAddress.parse?).getD c.bindAddress
  capabilityTimeout := (file.bind Override.capabilityTimeout).getD c.capabilityTimeout
  snapshot := (file.bind Override.snapshot).or c.snapshot
  oracleEnabled := (file.bind Override.oracleEnabled).getD c.oracleEnabled

/-- A text spells no settings, or its address cannot be read. -/
def TextFault (text : String) (e : Error) : Prop :=
  match Override.ofText? text with
  | none => e = .malformed
  | some o => Misread (readAddress "bind_addr") o.bindAddress e

/-- The file that the environment names is missing, or its text cannot be applied. -/
def FileFault (env : Environment) (files : Snapshot.Files) (e : Error) : Prop :=
  ∃ path, env "WARDEN_ADMISSION_CONFIG" = some path ∧
    match files path with
    | none => e = .unreadable path
    | some text => TextFault text e

private theorem applyYaml_eq (text : String) : applyYaml text = match Override.ofText? text with
    | some o => o.apply
    | none => throw .malformed := by
  unfold applyYaml Override.ofText?
  cases Yaml.ofText? text with
  | none => rfl
  | some y =>
    simp only [Option.map_some, Option.bind_some]
    cases (Override.decode y : Except Wire.DecodeError Override) <;> rfl

private theorem run_apply_of_misread {o : Override} {e : Error} (c : Config)
    (misread : Misread (readAddress "bind_addr") o.bindAddress e) :
    o.apply.run.run c = (.error e, c) := by
  obtain ⟨text, given, failed⟩ := misread
  simp only [Override.apply, given, failed]
  rfl

private theorem run_apply {o : Override} (c : Config)
    (readable : ∀ e, ¬ Misread (readAddress "bind_addr") o.bindAddress e) :
    o.apply.run.run c = (.ok (), c.overlaid (some o)) := by
  obtain ⟨address, timeout, path, enabled⟩ := o
  cases address with
  | none => cases timeout <;> cases path <;> cases enabled <;> rfl
  | some text =>
    cases h : readAddress "bind_addr" text with
    | error e => exact absurd ⟨text, rfl, h⟩ (readable e)
    | ok a =>
      have parsed : SocketAddress.parse? text = some a := by
        rw [← toOption_readAddress "bind_addr", h]
        rfl
      simp only [Override.apply, h, overlaid, Option.bind_some, parsed, Option.getD_some]
      cases timeout <;> cases path <;> cases enabled <;> rfl

/-- A text can be applied or not; if not, the configuration stays as it is. -/
theorem run_applyYaml (text : String) (c : Config) :
    (∃ e, TextFault text e ∧ (applyYaml text).run.run c = (.error e, c)) ∨
    (∀ e, ¬ TextFault text e) ∧ ∃ o, Override.ofText? text = some o ∧
      (applyYaml text).run.run c = (.ok (), c.overlaid (some o)) := by
  rw [applyYaml_eq]
  unfold TextFault
  cases Override.ofText? text with
  | none => exact .inl ⟨.malformed, rfl, rfl⟩
  | some o =>
    by_cases unreadable : ∃ e, Misread (readAddress "bind_addr") o.bindAddress e
    · obtain ⟨e, misread⟩ := unreadable
      exact .inl ⟨e, misread, run_apply_of_misread c misread⟩
    · have readable := not_exists.1 unreadable
      exact .inr ⟨readable, o, rfl, run_apply c readable⟩

theorem TextFault.unique {text : String} {e e' : Error} (h : TextFault text e)
    (h' : TextFault text e') : e = e' := by
  unfold TextFault at h h'
  cases spells : Override.ofText? text with
  | none =>
    simp only [spells] at h h'
    rw [h, h']
  | some o =>
    simp only [spells] at h h'
    exact Misread.unique h h'

theorem changed_error_iff {c : Config} {text : String} {e : Error} :
    c.changed (applyYaml text) = .error e ↔ TextFault text e := by
  rw [changed]
  obtain ⟨e', fault, run⟩ | ⟨sound, o, -, run⟩ := run_applyYaml text c
  · rw [run]
    constructor
    · intro h
      exact Except.error.inj h ▸ fault
    · intro h
      rw [fault.unique h]
  · rw [run]
    exact ⟨nofun, fun fault => absurd fault (sound e)⟩

theorem failsBy_load (env : Environment) (files : Snapshot.Files) :
    FailsBy (load env files) (environmentFaults env ++ [FileFault env files]) := by
  refine (failsBy_ofEnvironment env).bind fun c _ e => ?_
  rw [firstOf_singleton_iff]
  unfold FileFault
  cases env "WARDEN_ADMISSION_CONFIG" with
  | none => exact ⟨nofun, nofun⟩
  | some path =>
    simp only [Option.some.injEq, exists_eq_left']
    cases files path with
    | none => simp only [Except.error.injEq, eq_comm]
    | some text => exact changed_error_iff

/-- A configuration that comes about is that of the environment, under that of the file. -/
theorem eq_of_load {env : Environment} {files : Snapshot.Files} {c : Config}
    (h : load env files = .ok c) :
    ∃ start, ofEnvironment env = .ok start ∧ c = start.overlaid (override? env files) := by
  obtain ⟨start, started, h⟩ := bind_ok_iff.1 h
  refine ⟨start, started, ?_⟩
  unfold override?
  cases named : env "WARDEN_ADMISSION_CONFIG" with
  | none =>
    simp only [named] at h
    exact (Except.ok.inj h).symm
  | some path =>
    cases found : files path with
    | none => simp [named, found] at h
    | some text =>
      simp only [named, found, changed] at h
      obtain ⟨e, -, run⟩ | ⟨-, o, spells, run⟩ := run_applyYaml text start
      · simp [run] at h
      · simp only [run, Except.ok.injEq] at h
        simp [found, spells, h]

private theorem exists_misread_readAddress_iff {setting : String} {given : Option String} :
    (∃ e, Misread (readAddress setting) given e) ↔
      ∃ text, given = some text ∧ SocketAddress.parse? text = none := by
  unfold Misread readAddress
  rw [exists_comm]
  refine exists_congr fun text => ?_
  cases SocketAddress.parse? text <;> simp

private theorem exists_mapError_iff {ε α : Type} {f : ε → Error} {r : Except ε α} :
    (∃ e, r.mapError f = .error e) ↔ ∃ fault, r = .error fault := by
  cases r with
  | error fault => exact ⟨fun _ => ⟨fault, rfl⟩, fun _ => ⟨f fault, rfl⟩⟩
  | ok a => exact ⟨nofun, nofun⟩

private theorem exists_misread_mapError_iff {ε α : Type} {f : ε → Error}
    {read : String → Except ε α} {given : Option String} :
    (∃ e, Misread (fun text => (read text).mapError f) given e) ↔
      ∃ text, given = some text ∧ ∃ fault, read text = .error fault := by
  unfold Misread
  rw [exists_comm]
  refine exists_congr fun text => ?_
  rw [exists_and_left]
  exact and_congr_right fun _ => exists_mapError_iff

private theorem exists_misread_readNumber_iff {given : Option String} :
    (∃ e, Misread (fun text => (readNumber text).mapError .timeout) given e) ↔
      ∃ text, given = some text ∧ ¬ ∃ n, Numeral text n ∧ n < Nat.pow 2 64 := by
  rw [exists_misread_mapError_iff]
  refine exists_congr fun text => and_congr_right fun _ => ?_
  simp only [← readNumber_ok_iff]
  cases readNumber text <;> simp

private theorem exists_misread_readFlag_iff {given : Option String} :
    (∃ e, Misread (fun text => (readFlag text).mapError .oracleFlag) given e) ↔
      ∃ text, given = some text ∧ ¬ Spells ["1", "true", "yes", "on"] text ∧
        ¬ Spells ["0", "false", "no", "off"] text := by
  rw [exists_misread_mapError_iff]
  exact exists_congr fun text => and_congr_right fun _ => readFlag_error_iff

private theorem exists_fileFault_iff {env : Environment} {files : Snapshot.Files} :
    (∃ e, FileFault env files e) ↔
      ∃ path, env "WARDEN_ADMISSION_CONFIG" = some path ∧ (files path = none ∨
        ∃ content, files path = some content ∧ (Override.ofText? content = none ∨
          ∃ o text, Override.ofText? content = some o ∧ o.bindAddress = some text ∧
            SocketAddress.parse? text = none)) := by
  unfold FileFault TextFault
  rw [exists_comm]
  refine exists_congr fun path => ?_
  cases files path with
  | none => simp
  | some content =>
    cases spells : Override.ofText? content with
    | none => simp [spells]
    | some o => simp [spells, exists_misread_readAddress_iff]

/-- How a configuration comes about from the variables of the environment and the files. -/
structure LoadsAsSet (vars : Variables) (files : Snapshot.Files) : Prop where
  /-- Bytes that spell no text do not count. -/
  texts : ∀ name text, vars.texts name = some text ↔ vars name = some text.toUTF8
  flag_on : ∀ text, readFlag text = .ok true ↔ Spells ["1", "true", "yes", "on"] text
  flag_off : ∀ text, readFlag text = .ok false ↔ Spells ["0", "false", "no", "off"] text
  number : ∀ text n, readNumber text = .ok n ↔ Numeral text n ∧ n < Nat.pow 2 64
  fails : (∃ e, load vars.texts files = .error e) ↔
    (∃ text, vars.texts "WARDEN_ADMISSION_BIND" = some text ∧ SocketAddress.parse? text = none) ∨
    (∃ text, vars.texts "WARDEN_CAPABILITY_TIMEOUT_MS" = some text ∧
      ¬ ∃ n, Numeral text n ∧ n < Nat.pow 2 64) ∨
    (∃ text, vars.texts "WARDEN_ORACLE_ENABLED" = some text ∧
      ¬ Spells ["1", "true", "yes", "on"] text ∧ ¬ Spells ["0", "false", "no", "off"] text) ∨
    ∃ path, vars.texts "WARDEN_ADMISSION_CONFIG" = some path ∧ (files path = none ∨
      ∃ content, files path = some content ∧ (Override.ofText? content = none ∨
        ∃ o text, Override.ofText? content = some o ∧ o.bindAddress = some text ∧
          SocketAddress.parse? text = none))
  /-- The variables decide before the file, and in this order. -/
  first : ∀ e, load vars.texts files = .error e ↔
    FirstOf (environmentFaults vars.texts ++ [FileFault vars.texts files]) e
  settled : ∀ c, load vars.texts files = .ok c →
    let file := override? vars.texts files
    c.bindAddress = (((file.bind Override.bindAddress).bind SocketAddress.parse?).or
      ((vars.texts "WARDEN_ADMISSION_BIND").bind SocketAddress.parse?)).getD (.v4 0 0 0 0 8443) ∧
    c.capabilityTimeout = ((file.bind Override.capabilityTimeout).or
      ((vars.texts "WARDEN_CAPABILITY_TIMEOUT_MS").bind fun text =>
        (readNumber text).toOption)).getD 2000 ∧
    c.snapshot = (file.bind Override.snapshot).or
      ((vars.texts "WARDEN_SNAPSHOT").filter fun path => path ≠ "") ∧
    c.oracleEnabled = ((file.bind Override.oracleEnabled).or
      ((vars.texts "WARDEN_ORACLE_ENABLED").bind fun text => (readFlag text).toOption)).getD true
  /-- A file that cannot be applied changes no setting. -/
  kept : ∀ text c e after, (applyYaml text).run.run c = (.error e, after) → after = c

/-- A configuration fails for the first text that cannot be read, and otherwise each setting is
settled by itself. -/
theorem load_exact (vars : Variables) (files : Snapshot.Files) : LoadsAsSet vars files where
  texts name text := texts_eq_some_iff
  flag_on text := readFlag_true_iff
  flag_off text := readFlag_false_iff
  number text n := readNumber_ok_iff
  fails := by
    rw [(failsBy_load vars.texts files).exists_error_iff]
    simp only [environmentFaults, List.cons_append, List.nil_append, List.mem_cons,
      List.not_mem_nil, or_false, exists_eq_or_imp, exists_eq_left, exists_misread_readAddress_iff,
      exists_misread_readNumber_iff, exists_misread_readFlag_iff, exists_fileFault_iff]
  first := failsBy_load vars.texts files
  settled c loaded := by
    intro file
    obtain ⟨start, started, rfl⟩ := eq_of_load loaded
    obtain ⟨address, timeout, path, enabled⟩ := eq_of_ofEnvironment started
    simp only [overlaid, address, timeout, path, enabled, Option.getD_or, file, and_self]
  kept text c e after failed := by
    obtain ⟨e', -, run⟩ | ⟨-, o, -, run⟩ := run_applyYaml text c
    · exact (congrArg Prod.snd (run.symm.trans failed)).symm
    · cases run.symm.trans failed

/-- A file gives the address; the timeout and the flag come from the environment, or fail there. -/
theorem load_exact_partial_file :
    let vars (timeout flag : String) : Variables := fun name =>
      ([("WARDEN_ADMISSION_BIND", "127.0.0.1:9443"), ("WARDEN_CAPABILITY_TIMEOUT_MS", timeout),
        ("WARDEN_SNAPSHOT", ""), ("WARDEN_ORACLE_ENABLED", flag),
        ("WARDEN_ADMISSION_CONFIG", "/etc/warden.yaml")].lookup name).map String.toUTF8
    let files : Snapshot.Files := fun path =>
      if path = "/etc/warden.yaml" then some "bind_addr: 127.0.0.1:10443" else none
    let wrong := "bind_addr: nope\noracle_enabled: false"
    (∃ c, load (vars "250" " Off ").texts files = .ok c ∧ c.bindAddress = .v4 127 0 0 1 10443 ∧
      c.capabilityTimeout = 250 ∧ c.snapshot = none ∧ c.oracleEnabled = false) ∧
    (∃ e, load (vars "250" "maybe").texts files = .error e) ∧
    load (vars "soon" "maybe").texts files = .error (.timeout .invalidDigit) ∧
    ∃ e, (applyYaml wrong).run.run {} = (.error e, {}) := by
  intro vars files wrong
  have address (timeout flag : String) :
      (vars timeout flag).texts "WARDEN_ADMISSION_BIND" = some "127.0.0.1:9443" :=
    texts_eq_some_iff.2 rfl
  have flag (timeout flag : String) :
      (vars timeout flag).texts "WARDEN_ORACLE_ENABLED" = some flag :=
    texts_eq_some_iff.2 rfl
  have file : override? (vars "250" " Off ").texts files =
      some ⟨some "127.0.0.1:10443", none, none, none⟩ := by decide +kernel
  refine ⟨?_, ?_, ?_, ?_⟩
  · cases loaded : load (vars "250" " Off ").texts files with
    | error e =>
      have sound : (load (vars "250" " Off ").texts files).toOption.isSome := by decide +kernel
      simp [loaded, Except.toOption] at sound
    | ok c =>
      have fields := (load_exact (vars "250" " Off ") files).settled c loaded
      rw [file] at fields
      obtain ⟨address, timeout, path, enabled⟩ := fields
      exact ⟨c, rfl, address.trans (by decide +kernel), timeout.trans (by decide +kernel),
        path.trans (by decide +kernel), enabled.trans (by decide +kernel)⟩
  · have on : ¬ Spells ["1", "true", "yes", "on"] "maybe" := by
      rw [spells_iff (by decide)]
      decide +kernel
    have off : ¬ Spells ["0", "false", "no", "off"] "maybe" := by
      rw [spells_iff (by decide)]
      decide +kernel
    refine (load_exact (vars "250" "maybe") files).fails.2 ?_
    exact .inr (.inr (.inl ⟨"maybe", flag .., on, off⟩))
  · refine ((load_exact (vars "soon" "maybe") files).first _).2 (.inr ⟨fun e misread => ?_, .inl ?_⟩)
    · obtain ⟨text, given, unread⟩ := exists_misread_readAddress_iff.1 ⟨e, misread⟩
      cases given.symm.trans (address ..)
      exact absurd unread (by decide +kernel)
    · exact ⟨"soon", texts_eq_some_iff.2 rfl, rfl⟩
  · rcases run : (applyYaml wrong).run.run {} with ⟨e | u, after⟩
    · exact ⟨e, by rw [(load_exact (vars "" "") files).kept _ _ _ _ run]⟩
    · have refused : ((applyYaml wrong).run.run {}).1.toOption = none := by decide +kernel
      simp [run, Except.toOption] at refused

end GrantGate.Config
