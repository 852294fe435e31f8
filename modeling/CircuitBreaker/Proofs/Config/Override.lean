import CircuitBreaker.Config.Load
import CircuitBreaker.Config.Yaml

/-!
# `Proofs.Config.Override` — the environment goes before the file

Settings come from three places. What a path stands for (`ConfigDocument.IsAt`) is the document that a
reader finds in a file, or the settings that hold without one. How documents are written is up to the
reader, and nothing here depends on it. The environment then takes the place of two settings of the
document, if its variables are set and can be read (`Environment.replaced`).

The document is checked before anything in it is replaced, and again afterwards. So a file has to be
valid by itself, also in a setting that the environment replaces: an expiry interval of zero is refused
whatever the variable says (`zero_in_file_refused`). This is the only way in which the file's own value
of such a setting shows. All else that comes of loading is the same for documents that differ in nothing
but what the environment replaces (`check_congr`, `override_congr`).

## Contents
- `Environment.variable`: one setting and its variable.
- `Environment.IsReadable`, `Environment.replaced`, `override_eq_ok_iff`: what the environment replaces.
- `Environment.SameElsewhere`, `override_congr`, `check_congr`: documents that differ in nothing else.
- `Environment.pathFor`, `ConfigDocument.IsAt`, `load_eq`: loading.
- `environment_goes_first`, `zero_in_file_refused`.
-/

namespace CircuitBreaker

/-- One step after another succeeds if both do. -/
theorem LoadError.bind_eq_ok_iff {α β : Type} {m : Except LoadError α} {k : α → Except LoadError β}
    {b : β} :
    m.bind k = .ok b ↔ ∃ a, m = .ok a ∧ k a = .ok b := by
  cases m <;> simp [Except.bind]

namespace Environment

/-! ## One variable -/

section Variable

variable {α : Type} {parse : String → Option α} {fault : String → LoadError} {own other a : α}
  {v : Option String}

/-- A setting for which there is a variable: what the variable says, if it is set, and else the
    document's own value. -/
def setting (parse : String → Option α) (fault : String → LoadError) (own : α) :
    Option String → Except LoadError α
  | none => .ok own
  | some value =>
      match parse (Text.trim value) with
      | some a => .ok a
      | none => .error (fault value)

/-- What a variable says, if it is set and can be read. White space around it does not matter. -/
def said? (parse : String → Option α) (v : Option String) : Option α :=
  v.bind fun value => parse (Text.trim value)

theorem setting_eq_ok_iff : setting parse fault own v = .ok a ↔
    (v.isSome → (said? parse v).isSome) ∧ a = (said? parse v).getD own := by
  cases v with
  | none => simp [setting, said?, eq_comm]
  | some value => cases hp : parse (Text.trim value) <;> simp [setting, said?, hp, eq_comm]

/-- The document's own value makes no difference if the variable is set. -/
theorem setting_congr (h : v = none → other = own) :
    setting parse fault other v = setting parse fault own v := by
  cases v with
  | none => rw [h rfl]
  | some value => rfl

end Variable

/-! ## What the environment replaces -/

variable {env : Environment} {f g d : ConfigDocument}

/-- **The variables that are set can be read.** -/
structure IsReadable (env : Environment) : Prop where
  enable : env.enable.isSome → (said? flag? env.enable).isSome
  expireInterval : env.expireInterval.isSome → (said? number? env.expireInterval).isSome

/-- **The document with what the environment says** in the place of its own settings. -/
def replaced (env : Environment) (f : ConfigDocument) : ConfigDocument :=
  { f with config := { f.config with
      enabled := (said? flag? env.enable).getD f.config.enabled
      expireInterval := (said? number? env.expireInterval).getD f.config.expireInterval } }

/-- Overriding reads the two variables one after the other. -/
theorem override_eq (env : Environment) (f : ConfigDocument) :
    env.override f =
      (setting flag? .badEnable f.config.enabled env.enable).bind fun enabled =>
        (setting number? .badExpireInterval f.config.expireInterval env.expireInterval).bind
          fun expireInterval => .ok { f with config := { f.config with enabled, expireInterval } } := by
  unfold override setting
  cases env.enable with
  | none =>
      cases env.expireInterval with
      | none => rfl
      | some value => simp only []; cases number? (Text.trim value) <;> rfl
  | some flag =>
      simp only []
      cases flag? (Text.trim flag) with
      | none => rfl
      | some enabled =>
          cases env.expireInterval with
          | none => rfl
          | some value => simp only []; cases number? (Text.trim value) <;> rfl

/-- **Overriding gives the document with what the environment says in it**, if that can be read. -/
theorem override_eq_ok_iff : env.override f = .ok d ↔ env.IsReadable ∧ d = env.replaced f := by
  rw [override_eq]
  constructor
  · intro h
    obtain ⟨enabled, henabled, hrest⟩ := LoadError.bind_eq_ok_iff.mp h
    obtain ⟨interval, hinterval, hd⟩ := LoadError.bind_eq_ok_iff.mp hrest
    obtain ⟨hflag, rfl⟩ := setting_eq_ok_iff.mp henabled
    obtain ⟨hnumber, rfl⟩ := setting_eq_ok_iff.mp hinterval
    cases hd
    exact ⟨⟨hflag, hnumber⟩, rfl⟩
  · rintro ⟨h, rfl⟩
    refine LoadError.bind_eq_ok_iff.mpr ⟨_, setting_eq_ok_iff.mpr ⟨h.enable, rfl⟩, ?_⟩
    exact LoadError.bind_eq_ok_iff.mpr ⟨_, setting_eq_ok_iff.mpr ⟨h.expireInterval, rfl⟩, rfl⟩

/-- **Two documents differ in nothing but what the environment replaces.** -/
structure SameElsewhere (env : Environment) (f g : ConfigDocument) : Prop where
  version : g.version = f.version
  others : g.config = { f.config with
    enabled := g.config.enabled
    expireInterval := g.config.expireInterval }
  enabled : env.enable = none → g.config.enabled = f.config.enabled
  expireInterval : env.expireInterval = none → g.config.expireInterval = f.config.expireInterval

/-- **What is replaced makes no difference** to what overriding comes to. -/
theorem override_congr (h : env.SameElsewhere f g) : env.override g = env.override f := by
  rw [override_eq, override_eq, setting_congr h.enabled, setting_congr h.expireInterval]
  obtain ⟨fversion, fconfig⟩ := f
  obtain ⟨gversion, gconfig⟩ := g
  obtain ⟨hversion, hothers, -, -⟩ := h
  cases hversion
  simp only at hothers
  rw [hothers]

/-- **The path that settings are loaded from**: the one that is given, or if that is blank, the one that
    the environment names. -/
def pathFor (env : Environment) (path : String) : String :=
  if Text.isBlank path then env.path.getD ConfigDocument.noFile else path

end Environment

namespace ConfigDocument

variable {parse : DocumentReader} {read : String → File} {env : Environment} {path : String}
  {f g d : ConfigDocument}

/-! ## Loading -/

/-- **What a path stands for**: the document that the reader finds in the file there, or the settings
    that hold without a file. -/
inductive IsAt (parse : DocumentReader) (read : String → File) (path : String) :
    ConfigDocument → Prop where
  | standard (hpath : path = noFile) : IsAt parse read path {}
  | file (hpath : path ≠ noFile) (content : String) (hread : read path = .text content)
      (f : ConfigDocument) (hf : parse content = some f) : IsAt parse read path f

/-- **Loading** checks the document, overrides it, and checks what comes of that. -/
theorem load_eq (h : IsAt parse read (env.pathFor path) f) :
    load parse read env path = f.checked.bind fun f => (env.override f).bind checked := by
  cases h with
  | standard hpath =>
      -- the check is left out for the settings that hold without a file, which pass it
      exact if_pos hpath
  | file hpath content hread f hf =>
      have hfile : ofFile parse read (env.pathFor path) = f.checked := by
        unfold ofFile
        rw [hread]
        simp only [hf]
      rw [← hfile]
      exact if_neg hpath

theorem checked_eq_ok_iff : f.checked = .ok d ↔ f.check = .ok () ∧ d = f := by
  unfold checked
  cases f.check with
  | error e => simp
  | ok u => simp [eq_comm]

/-- Documents that differ in nothing but what is replaced pass the same checks, unless the one has an
    interval of zero and the other has not. -/
theorem check_congr (h : env.SameElsewhere f g)
    (hzero : g.config.expireInterval = 0 ↔ f.config.expireInterval = 0) : g.check = f.check := by
  obtain ⟨hversion, hothers, -, -⟩ := h
  have hbuckets : g.config.bucketCount = f.config.bucketCount := by rw [hothers]
  have hprobes : g.config.probes = f.config.probes := by rw [hothers]
  have hpatterns : g.config.patternCapacity = f.config.patternCapacity := by rw [hothers]
  simp only [check, Config.check, hversion, hbuckets, hprobes, hpatterns, hzero]

/-- **The environment goes before the file.** Take any reader of documents, any files, any environment and
    any path, and the document that the path stands for.
    * The settings are loaded exactly if the document passes its check, the variables that are set can be
      read, and the document with their values passes the check; then this is what is loaded.
    * A document that does not pass its check is refused for the reason that the check gives.
    * What comes of loading, reasons of refusal included, is the same for a document that differs only in
      what the environment replaces, as long as the interval is zero in both or in none. -/
theorem environment_goes_first (h : IsAt parse read (env.pathFor path) f) :
    (∀ d, load parse read env path = .ok d ↔
      f.check = .ok () ∧ env.IsReadable ∧ (env.replaced f).check = .ok () ∧ d = env.replaced f) ∧
    (∀ e, f.check = .error e → load parse read env path = .error (.refused e)) ∧
    ∀ (again : String → File) (g : ConfigDocument), IsAt parse again (env.pathFor path) g →
      env.SameElsewhere f g → (g.config.expireInterval = 0 ↔ f.config.expireInterval = 0) →
      load parse again env path = load parse read env path := by
  rw [load_eq h]
  refine ⟨fun d => ?_, fun e he => ?_, fun again g hg hsame hzero => ?_⟩
  · constructor
    · -- the check of the document, the environment, and the check of what comes of it
      intro hload
      obtain ⟨first, hfirst, hrest⟩ := LoadError.bind_eq_ok_iff.mp hload
      obtain ⟨hf, rfl⟩ := checked_eq_ok_iff.mp hfirst
      obtain ⟨next, hnext, hlast⟩ := LoadError.bind_eq_ok_iff.mp hrest
      obtain ⟨henv, rfl⟩ := Environment.override_eq_ok_iff.mp hnext
      obtain ⟨hd, rfl⟩ := checked_eq_ok_iff.mp hlast
      exact ⟨hf, henv, hd, rfl⟩
    · rintro ⟨hf, henv, hd, rfl⟩
      refine LoadError.bind_eq_ok_iff.mpr ⟨f, checked_eq_ok_iff.mpr ⟨hf, rfl⟩, ?_⟩
      refine LoadError.bind_eq_ok_iff.mpr ⟨_, Environment.override_eq_ok_iff.mpr ⟨henv, rfl⟩, ?_⟩
      exact checked_eq_ok_iff.mpr ⟨hd, rfl⟩
  · unfold checked
    rw [he]
    rfl
  · rw [load_eq hg]
    have hcheck : g.check = f.check := check_congr hsame hzero
    cases hf : f.check with
    | error e =>
        unfold checked
        rw [hcheck, hf]
    | ok u =>
        -- what the two have of their own is gone once they are past the first check
        have hgoes {d : ConfigDocument} (hd : d.check = .ok ()) :
            (d.checked.bind fun d => (env.override d).bind checked) =
              (env.override d).bind checked := by
          rw [checked_eq_ok_iff.mpr ⟨hd, rfl⟩]
          rfl
        rw [hgoes (hcheck.trans hf), hgoes hf, Environment.override_congr hsame]

/-- A file with both settings that the environment may replace. -/
def slowFile : String := "config:\n  enable: false\n  counters_expire_interval_ms: 5000\n"

/-- A file with one of them. -/
def quickFile : String := "config:\n  counters_expire_interval_ms: 70\n"

/-- A file with an interval that is not allowed. -/
def zeroFile : String := "config:\n  counters_expire_interval_ms: 0\n"

theorem ofYaml?_slowFile :
    ofYaml? slowFile = some { config := { enabled := false, expireInterval := 5000 } } := by
  decide +kernel

theorem ofYaml?_quickFile : ofYaml? quickFile = some { config := { expireInterval := 70 } } := by
  decide +kernel

theorem ofYaml?_zeroFile : ofYaml? zeroFile = some { config := { expireInterval := 0 } } := by
  decide +kernel

/-- An environment with both variables, and white space around their values. -/
def sampleEnvironment : Environment := { enable := some "true ", expireInterval := some " 1234" }

theorem isReadable_sampleEnvironment : sampleEnvironment.IsReadable :=
  ⟨fun _ => by decide, fun _ => by decide⟩

/-- A file stands for the document in it. -/
theorem isAt_sample {parse : DocumentReader} {text : String} {f : ConfigDocument}
    (hf : parse text = some f) :
    IsAt parse (fun _ => .text text) (sampleEnvironment.pathFor "meshguard.yaml") f := by
  have hpath : sampleEnvironment.pathFor "meshguard.yaml" ≠ noFile := by decide
  exact .file hpath text rfl f hf

/-- Two files that differ in both settings come to the same, as the environment replaces both. -/
theorem sample_environment_goes_first :
    let loaded : ConfigDocument := { config := { expireInterval := 1234 } }
    let f : ConfigDocument := { config := { enabled := false, expireInterval := 5000 } }
    let g : ConfigDocument := { config := { expireInterval := 70 } }
    IsAt ofYaml? (fun _ => .text slowFile) (sampleEnvironment.pathFor "meshguard.yaml") f ∧
      IsAt ofYaml? (fun _ => .text quickFile) (sampleEnvironment.pathFor "meshguard.yaml") g ∧
      sampleEnvironment.SameElsewhere f g ∧
      load ofYaml? (fun _ => .text slowFile) sampleEnvironment "meshguard.yaml" = .ok loaded ∧
      load ofYaml? (fun _ => .text quickFile) sampleEnvironment "meshguard.yaml" = .ok loaded := by
  intro loaded f g
  have hslow := isAt_sample ofYaml?_slowFile
  have hquick := isAt_sample ofYaml?_quickFile
  have hsame : sampleEnvironment.SameElsewhere f g :=
    ⟨rfl, rfl, nofun, nofun⟩
  obtain ⟨hload, -, hcongr⟩ := environment_goes_first hslow
  have hreplaced : loaded = sampleEnvironment.replaced f := by decide
  have hloaded : load ofYaml? (fun _ => .text slowFile) sampleEnvironment "meshguard.yaml" = .ok loaded :=
    (hload loaded).mpr ⟨rfl, isReadable_sampleEnvironment, hreplaced ▸ rfl, hreplaced⟩
  refine ⟨hslow, hquick, hsame, hloaded, ?_⟩
  rw [hcongr _ g hquick hsame (by decide), hloaded]

/-! ## What the file has to be by itself -/

/-- The promise that nothing but what comes of replacing has to pass the check. -/
def EnvironmentAlone (parse : DocumentReader) : Prop :=
  ∀ (read : String → File) (env : Environment) (path : String) (f : ConfigDocument),
    IsAt parse read (env.pathFor path) f → ∀ d, load parse read env path = .ok d ↔
      env.IsReadable ∧ (env.replaced f).check = .ok () ∧ d = env.replaced f

/-- **A zero in the file is refused**, though the environment sets the interval and what comes of that
    passes the check. This is so for every reader that finds the interval of zero in the file, as one
    does. -/
theorem zero_in_file_refused :
    let f : ConfigDocument := { config := { expireInterval := 0 } }
    ofYaml? zeroFile = some f ∧ sampleEnvironment.IsReadable ∧
      (sampleEnvironment.replaced f).check = .ok () ∧
      ∀ parse : DocumentReader, parse zeroFile = some f →
        load parse (fun _ => .text zeroFile) sampleEnvironment "meshguard.yaml" =
          .error (.refused (.zero .expireInterval)) ∧ ¬EnvironmentAlone parse := by
  intro f
  have hcheck : (sampleEnvironment.replaced f).check = .ok () := rfl
  refine ⟨ofYaml?_zeroFile, isReadable_sampleEnvironment, hcheck, fun parse hparse => ?_⟩
  have hzero := isAt_sample hparse
  have hrefused : load parse (fun _ => .text zeroFile) sampleEnvironment "meshguard.yaml" =
      .error (.refused (.zero .expireInterval)) := by
    rw [load_eq hzero]
    rfl
  refine ⟨hrefused, fun hall => ?_⟩
  have hloaded := (hall _ sampleEnvironment "meshguard.yaml" f hzero _).mpr
    ⟨isReadable_sampleEnvironment, hcheck, rfl⟩
  rw [hrefused] at hloaded
  cases hloaded

end ConfigDocument

end CircuitBreaker
