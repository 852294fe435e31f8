import CircuitBreaker.Config.Codec
import CircuitBreaker.Outcome.Codec
import CircuitBreaker.Proofs.Rule.Codec
import CircuitBreaker.Status.Codec

/-!
# `Proofs.Codec` — nothing is lost in JSON

Rules, outcomes, statuses and settings leave the library as JSON and come back as JSON. Each of them is
restored from whatever may be written of it, as a value and as a text in either layout
(`json_loses_nothing`).

## Contents
- `Resource.restores`, `Outcome.restores`: outcomes.
- `Status.restores`: statuses.
- `Config.restores`, `ConfigDocument.restores`: settings.
- `json_loses_nothing`: all of them, and rules.
-/

namespace CircuitBreaker

open Json

/-! ## Outcomes -/

namespace ServiceKey

/-- The fields of a service key. -/
def fields (k : ServiceKey) : List Json.Field := [
  .required "namespace" (IsExactly .str) k.realm,
  .required "service" (IsExactly .str) k.name]

/-- What may be written of a service key. -/
def HasForm (k : ServiceKey) : Json → Prop := IsRecordOf k.fields

theorem hasForm_toJson (k : ServiceKey) : k.HasForm k.toJson :=
  (Written.keep rfl (.keep rfl .nil)).isRecordOf

theorem restores (k : ServiceKey) : Restores ofJson? HasForm k := by
  intro j h
  obtain ⟨vs, hread, hvs⟩ := fields?_of_isRecordOf fieldNames false h rfl (by decide)
  obtain _ | ⟨hrealm, _ | ⟨hname, _ | _⟩⟩ := hvs
  unfold ofJson?
  rw [hread]
  apply need_bind hrealm (restores_toStr? k.realm)
  apply need_bind hname (restores_toStr? k.name)
  rfl

theorem writesPlain (k : ServiceKey) : WritesPlain HasForm k := by
  intro j h
  exact IsRecordOf.isPlain h ⟨writesPlain_str k.realm, writesPlain_str k.name, trivial⟩

end ServiceKey

namespace Resource

/-- The fields of a resource. -/
def fields : Resource → List Json.Field
  | service k => [.required "service" ServiceKey.HasForm k]
  | method k p => [.required "service" ServiceKey.HasForm k, .required "path" (IsExactly .str) p]
  | endpoint k h p => [
      .required "service" ServiceKey.HasForm k,
      .required "host" (IsExactly .str) h,
      .required "port" (IsExactly .nat) p]

/-- What may be written of a resource: its fields, under the name of its level. -/
def HasForm (r : Resource) (j : Json) : Prop :=
  ∃ body, body.IsRecordOf r.fields ∧ j = .record [(r.level.text, body)]

/-- Whether the port of a resource fits its type. -/
def Fits : Resource → Prop
  | endpoint _ _ p => p ≤ limit32
  | _ => True

theorem hasForm_toJson (r : Resource) : r.HasForm r.toJson := by
  refine ⟨r.fieldsJson, ?_, rfl⟩
  cases r with
  | service k => exact (Written.keep k.hasForm_toJson .nil).isRecordOf
  | method k p => exact (Written.keep k.hasForm_toJson (.keep rfl .nil)).isRecordOf
  | endpoint k h p => exact (Written.keep k.hasForm_toJson (.keep rfl (.keep rfl .nil))).isRecordOf

theorem ofFields?_of_isRecordOf {r : Resource} (hr : r.Fits) {body : Json}
    (h : body.IsRecordOf r.fields) : ofFields? r.level body = some r := by
  cases r with
  | service k =>
      obtain ⟨vs, hread, hvs⟩ := fields?_of_isRecordOf ["service"] false h rfl (by decide)
      obtain _ | ⟨hkey, _ | _⟩ := hvs
      simp only [level, ofFields?]
      rw [hread]
      apply need_bind hkey k.restores
      rfl
  | method k p =>
      obtain ⟨vs, hread, hvs⟩ := fields?_of_isRecordOf ["service", "path"] false h rfl (by decide)
      obtain _ | ⟨hkey, _ | ⟨hpath, _ | _⟩⟩ := hvs
      simp only [level, ofFields?]
      rw [hread]
      apply need_bind hkey k.restores
      apply need_bind hpath (restores_toStr? p)
      rfl
  | endpoint k host p =>
      obtain ⟨vs, hread, hvs⟩ :=
        fields?_of_isRecordOf ["service", "host", "port"] false h rfl (by decide)
      obtain _ | ⟨hkey, _ | ⟨hhost, _ | ⟨hport, _ | _⟩⟩⟩ := hvs
      simp only [level, ofFields?]
      rw [hread]
      apply need_bind hkey k.restores
      apply need_bind hhost (restores_toStr? host)
      apply need_bind hport (restores_toNat? hr)
      rfl

theorem restores {r : Resource} (hr : r.Fits) : Restores ofJson? HasForm r := by
  rintro _ ⟨body, hbody, rfl⟩
  have hlevel : (Level.all.find? fun l => l.text == r.level.text) = some r.level := by
    cases r.level <;> rfl
  simp only [ofJson?, record, List.map_cons, List.map_nil, hlevel]
  exact ofFields?_of_isRecordOf hr hbody

theorem writesPlain {r : Resource} (hr : r.Fits) : WritesPlain HasForm r := by
  rintro _ ⟨body, hbody, rfl⟩
  have hplain : body.IsPlain := by
    apply IsRecordOf.isPlain hbody
    cases r with
    | service k => exact ⟨k.writesPlain, trivial⟩
    | method k p => exact ⟨k.writesPlain, writesPlain_str p, trivial⟩
    | endpoint k h p =>
        exact ⟨k.writesPlain, writesPlain_str h, writesPlain_nat (le_limit64 hr), trivial⟩
  refine isPlain_record fun m hm => ?_
  rw [List.mem_singleton.mp hm]
  exact hplain

end Resource

theorem Verdict.restores (v : Verdict) : Restores ofJson? (IsExactly toJson) v := by
  rintro _ rfl
  cases v <;> rfl

namespace Outcome

/-- The fields of an outcome. -/
def fields (o : Outcome) : List Json.Field := [
  .required "resource" Resource.HasForm o.resource,
  .spare "caller" (IsOptionOf ServiceKey.HasForm) o.caller none,
  .required "ret_code" (IsExactly .int) o.code,
  .required "delay_ms" (IsExactly .nat) o.delay,
  .required "ret_status" (IsExactly Verdict.toJson) o.verdict,
  .required "timestamp_ms" (IsExactly .nat) o.timestamp]

/-- What may be written of an outcome. -/
def HasForm (o : Outcome) : Json → Prop := IsRecordOf o.fields

/-- Whether the numbers of an outcome fit their types. -/
structure Fits (o : Outcome) : Prop where
  resource : o.resource.Fits
  code : leastCode ≤ o.code ∧ o.code ≤ greatestCode
  delay : o.delay ≤ limit64
  timestamp : o.timestamp ≤ limit64

theorem hasForm_toJson (o : Outcome) : o.HasForm o.toJson := by
  have hcaller := isOptionOf_ofOption ServiceKey.toJson o.caller ServiceKey.hasForm_toJson
  exact (Written.keep o.resource.hasForm_toJson (.keep hcaller (.keep rfl (.keep rfl (.keep rfl
    (.keep rfl .nil)))))).isRecordOf

theorem restores {o : Outcome} (ho : o.Fits) : Restores ofJson? HasForm o := by
  intro j h
  obtain ⟨vs, hread, hvs⟩ := fields?_of_isRecordOf fieldNames false h rfl (by decide)
  obtain _ | ⟨hresource, _ | ⟨hcaller, _ | ⟨hcode, _ | ⟨hdelay, _ | ⟨hverdict,
    _ | ⟨htimestamp, _ | _⟩⟩⟩⟩⟩⟩ := hvs
  unfold ofJson?
  rw [hread]
  apply need_bind hresource (Resource.restores ho.resource)
  apply maybe_bind hcaller (fun k _ => k.restores) rfl
  apply need_bind hcode (restores_toInt? ho.code)
  apply need_bind hdelay (restores_toNat? ho.delay)
  apply need_bind hverdict o.verdict.restores
  apply need_bind htimestamp (restores_toNat? ho.timestamp)
  rfl

theorem writesPlain {o : Outcome} (ho : o.Fits) : WritesPlain HasForm o := by
  have hcode : Int64.minValue.toInt ≤ o.code ∧ o.code ≤ significandLimit :=
    ⟨ho.code.1, Int.le_trans ho.code.2 (by decide)⟩
  intro j h
  exact IsRecordOf.isPlain h ⟨Resource.writesPlain ho.resource,
    writesPlain_option fun k _ => k.writesPlain, writesPlain_int hcode, writesPlain_nat ho.delay,
    writesPlain_isExactly rfl, writesPlain_nat ho.timestamp, trivial⟩

end Outcome

/-! ## Statuses -/

theorem Phase.restores (p : Phase) : Restores ofJson? (IsExactly toJson) p := by
  rintro _ rfl
  cases p <;> rfl

namespace Status

/-- The fields of a status. -/
def fields (s : Status) : List Json.Field := [
  .required "rule_name" (IsExactly .str) s.rule,
  .required "status" (IsExactly Phase.toJson) s.phase,
  .required "reason" (IsExactly .str) s.reason,
  .required "start_time_ms" (IsExactly .nat) s.since,
  .spare "fallback_info" (IsOptionOf Response.HasForm) s.fallback none]

/-- What may be written of a status. -/
def HasForm (s : Status) : Json → Prop := IsRecordOf s.fields

/-- Whether the numbers of a status fit their types. -/
structure Fits (s : Status) : Prop where
  since : s.since ≤ limit64
  fallback : ∀ r, s.fallback = some r → r.Fits

theorem hasForm_toJson (s : Status) : s.HasForm s.toJson := by
  have hfallback := isOptionOf_ofOption Response.toJson s.fallback Response.hasForm_toJson
  exact (Written.keep rfl (.keep rfl (.keep rfl (.keep rfl (.keep hfallback .nil))))).isRecordOf

theorem restores {s : Status} (hs : s.Fits) : Restores ofJson? HasForm s := by
  intro j h
  obtain ⟨vs, hread, hvs⟩ := fields?_of_isRecordOf fieldNames false h rfl (by decide)
  obtain _ | ⟨hrule, _ | ⟨hphase, _ | ⟨hreason, _ | ⟨hsince, _ | ⟨hfallback, _ | _⟩⟩⟩⟩⟩ := hvs
  unfold ofJson?
  rw [hread]
  apply need_bind hrule (restores_toStr? s.rule)
  apply need_bind hphase s.phase.restores
  apply need_bind hreason (restores_toStr? s.reason)
  apply need_bind hsince (restores_toNat? hs.since)
  apply maybe_bind hfallback (fun r hr => Response.restores (hs.fallback r hr)) rfl
  rfl

theorem writesPlain {s : Status} (hs : s.Fits) : WritesPlain HasForm s := by
  intro j h
  exact IsRecordOf.isPlain h ⟨writesPlain_str s.rule, writesPlain_isExactly rfl,
    writesPlain_str s.reason, writesPlain_nat hs.since,
    writesPlain_option fun r hr => Response.writesPlain (hs.fallback r hr), trivial⟩

end Status

/-! ## Settings -/

namespace Config

/-- The settings as fields. -/
def fields (c : Config) : List Json.Field := [
  .spare "enable" (IsExactly .bool) c.enabled ({} : Config).enabled,
  .spare "check_period_ms" (IsExactly .nat) c.checkPeriod ({} : Config).checkPeriod,
  .spare "counters_expire_interval_ms" (IsExactly .nat) c.expireInterval ({} : Config).expireInterval,
  .spare "bucket_count" (IsExactly .nat) c.bucketCount ({} : Config).bucketCount,
  .spare "max_half_open_requests" (IsExactly .nat) c.probes ({} : Config).probes,
  .spare "regex_cache_capacity" (IsExactly .nat) c.patternCapacity ({} : Config).patternCapacity,
  .spare "log_config_file" (IsExactly .str) c.logFile ({} : Config).logFile]

/-- What may be written of settings. -/
def HasForm (c : Config) : Json → Prop := IsRecordOf c.fields

/-- Whether the numbers of settings fit their types. -/
structure Fits (c : Config) : Prop where
  checkPeriod : c.checkPeriod ≤ limit64
  expireInterval : c.expireInterval ≤ limit64
  bucketCount : c.bucketCount ≤ limit32
  probes : c.probes ≤ limit32
  patternCapacity : c.patternCapacity ≤ limit64

theorem hasForm_toJson (c : Config) : c.HasForm c.toJson :=
  (Written.keep rfl (.keep rfl (.keep rfl (.keep rfl (.keep rfl (.keep rfl
    (.keep rfl .nil))))))).isRecordOf

theorem restores {c : Config} (hc : c.Fits) : Restores ofJson? HasForm c := by
  intro j h
  obtain ⟨vs, hread, hvs⟩ := fields?_of_isRecordOf fieldNames true h rfl (by decide)
  obtain _ | ⟨henabled, _ | ⟨hcheckPeriod, _ | ⟨hexpireInterval, _ | ⟨hbucketCount, _ | ⟨hprobes,
    _ | ⟨hpatternCapacity, _ | ⟨hlogFile, _ | _⟩⟩⟩⟩⟩⟩⟩ := hvs
  unfold ofJson?
  rw [hread]
  apply orElse_bind henabled (restores_toBool? c.enabled)
  apply orElse_bind hcheckPeriod (restores_toNat? hc.checkPeriod)
  apply orElse_bind hexpireInterval (restores_toNat? hc.expireInterval)
  apply orElse_bind hbucketCount (restores_toNat? hc.bucketCount)
  apply orElse_bind hprobes (restores_toNat? hc.probes)
  apply orElse_bind hpatternCapacity (restores_toNat? hc.patternCapacity)
  apply orElse_bind hlogFile (restores_toStr? c.logFile)
  rfl

theorem writesPlain {c : Config} (hc : c.Fits) : WritesPlain HasForm c := by
  intro j h
  exact IsRecordOf.isPlain h ⟨writesPlain_bool c.enabled, writesPlain_nat hc.checkPeriod,
    writesPlain_nat hc.expireInterval, writesPlain_nat (le_limit64 hc.bucketCount),
    writesPlain_nat (le_limit64 hc.probes), writesPlain_nat hc.patternCapacity,
    writesPlain_str c.logFile, trivial⟩

end Config

namespace ConfigDocument

/-- The fields of a document. -/
def fields (d : ConfigDocument) : List Json.Field := [
  .spare "version" (IsExactly .str) d.version ({} : ConfigDocument).version,
  .spare "config" Config.HasForm d.config ({} : ConfigDocument).config]

/-- What may be written of a document. -/
def HasForm (d : ConfigDocument) : Json → Prop := IsRecordOf d.fields

theorem hasForm_toJson (d : ConfigDocument) : d.HasForm d.toJson :=
  (Written.keep rfl (.keep d.config.hasForm_toJson .nil)).isRecordOf

theorem restores {d : ConfigDocument} (hd : d.config.Fits) : Restores ofJson? HasForm d := by
  intro j h
  obtain ⟨vs, hread, hvs⟩ := fields?_of_isRecordOf ["version", "config"] true h rfl (by decide)
  obtain _ | ⟨hversion, _ | ⟨hconfig, _ | _⟩⟩ := hvs
  unfold ofJson?
  rw [hread]
  apply orElse_bind hversion (restores_toStr? d.version)
  apply orElse_bind hconfig (Config.restores hd)
  rfl

theorem writesPlain {d : ConfigDocument} (hd : d.config.Fits) : WritesPlain HasForm d := by
  intro j h
  exact IsRecordOf.isPlain h ⟨writesPlain_str d.version, Config.writesPlain hd, trivial⟩

end ConfigDocument

/-! ## All of them -/

/-- **JSON loses nothing.** What is written of a rule is one of its written forms, and the rule is restored
    from each of them, whatever id it would be given if it had none: from a value with all its fields, and
    from one without some of those that have their default value, in any order. All fields come back, the
    id and the revision among them. The numbers have to fit the types that they travel in, and the shares
    have to be finite. If in addition the shares read back from their own texts, the rule is restored from
    the text of each of its forms too, on one line or on many.

    The same holds of outcomes, statuses and documents with settings, which have no shares. -/
theorem json_loses_nothing :
    (∀ rule : Rule, rule.Fits → (∀ l ∈ rule.limits, l.threshold.isFinite = true) →
      rule.HasForm rule.toJson ∧
      ∀ freshId, Restores (Rule.ofJson? freshId) Rule.HasForm rule ∧
        ((∀ l ∈ rule.limits, ReadsBack l.threshold) →
          RestoresText (Rule.ofJson? freshId) Rule.HasForm rule)) ∧
    (∀ o : Outcome, o.Fits → o.HasForm o.toJson ∧
      Restores Outcome.ofJson? Outcome.HasForm o ∧ RestoresText Outcome.ofJson? Outcome.HasForm o) ∧
    (∀ s : Status, s.Fits → s.HasForm s.toJson ∧
      Restores Status.ofJson? Status.HasForm s ∧ RestoresText Status.ofJson? Status.HasForm s) ∧
    (∀ d : ConfigDocument, d.config.Fits → d.HasForm d.toJson ∧
      Restores ConfigDocument.ofJson? ConfigDocument.HasForm d ∧
      RestoresText ConfigDocument.ofJson? ConfigDocument.HasForm d) := by
  refine ⟨?_, ?_, ?_, ?_⟩
  · intro rule hfits hfinite
    refine ⟨rule.hasForm_toJson, fun freshId => ?_⟩
    have hrestores := Rule.restores hfits hfinite freshId
    refine ⟨hrestores, fun hreads => ?_⟩
    exact hrestores.restoresText (Rule.writesPlain hfits hreads)
  · intro o hfits
    have hrestores := Outcome.restores hfits
    exact ⟨o.hasForm_toJson, hrestores, hrestores.restoresText (Outcome.writesPlain hfits)⟩
  · intro s hfits
    have hrestores := Status.restores hfits
    exact ⟨s.hasForm_toJson, hrestores, hrestores.restoresText (Status.writesPlain hfits)⟩
  · intro d hfits
    have hrestores := ConfigDocument.restores hfits
    exact ⟨d.hasForm_toJson, hrestores, hrestores.restoresText (ConfigDocument.writesPlain hfits)⟩

section Echo

theorem readsBack_half : ReadsBack 0.5 := by
  have htext : numberText (.float 0.5) = "0.5" := by decide +kernel
  refine ⟨⟨false, ['0'], some ['5'], none⟩, ?_, rfl⟩
  rw [htext]
  rfl

/-- A rule on the answers of one method, which leaves much to the defaults. -/
def echoRule : Rule where
  id := "r-1"
  name := "echo-rate"
  level := .method
  matcher := { destination := { name := "echo", method := some { kind := .regex, value := "^/echo" } } }
  blocks := [{
    name := "rate"
    errors := [.code { kind := .oneOf, value := "500,503" }, .delay 1000]
    triggers := [.errorRate { threshold := 0.5, interval := 10000, minimum := 10 }, .consecutiveError 5] }]
  recovery := { sleepWindow := 5000 }
  fallback := some { response := { code := 503, headers := .ofList [("retry-after", "5")] } }

/-- The rule without most of what it leaves to the defaults, and with its name in front of its id. -/
def echoForm : Json := .record [
  ("name", .str "echo-rate"),
  ("id", .str "r-1"),
  ("level", .str "Method"),
  ("rule_matcher", echoRule.matcher.toJson),
  ("block_configs", .array (echoRule.blocks.map BlockRule.toJson)),
  ("recover_condition", .record [("sleep_window_ms", .nat 5000)]),
  ("fallback_config", .ofOption Fallback.toJson echoRule.fallback)]

theorem hasForm_echoForm : echoRule.HasForm echoForm := by
  have hblocks := isListOf_map BlockRule.toJson echoRule.blocks fun b _ => b.hasForm_toJson
  have hrecovery : echoRule.recovery.HasForm (.record [("sleep_window_ms", .nat 5000)]) :=
    (Written.keep rfl (.skip rfl (.skip rfl .nil))).isRecordOf
  have hfallback :=
    isOptionOf_ofOption Fallback.toJson echoRule.fallback Fallback.hasForm_toJson
  refine ⟨_, _, ?_, List.Perm.swap ("id", .str "r-1") ("name", .str "echo-rate") _, rfl⟩
  exact .keep rfl (.keep rfl (.skip rfl (.keep rfl (.keep echoRule.matcher.hasForm_toJson
    (.keep hblocks (.keep hrecovery (.keep hfallback (.skip rfl .nil))))))))

theorem fits_echoRule : echoRule.Fits where
  blocks := by
    intro b hb
    rw [List.mem_singleton.mp hb]
    constructor
    · rintro c (_ | ⟨_, _ | ⟨_, ⟨⟩⟩⟩)
      · exact trivial
      · show 1000 ≤ limit64
        decide
    · rintro c (_ | ⟨_, _ | ⟨_, ⟨⟩⟩⟩)
      · show 10000 ≤ limit64 ∧ 10 ≤ limit32
        decide
      · show 5 ≤ limit32
        decide
  recovery := ⟨by decide, by decide, by rintro n ⟨⟩⟩
  fallback := by
    rintro f ⟨⟩
    constructor <;> decide

/-- A call to one instance that took too long. -/
def echoOutcome : Outcome where
  resource := .endpoint ⟨"default", "echo"⟩ "10.0.0.1" 8080
  caller := some ⟨"default", "front"⟩
  code := -1
  delay := 1200
  verdict := .timeout
  timestamp := 1700000000000

/-- Where the circuit of the rule stands while it is open. -/
def echoStatus : Status where
  rule := "echo-rate"
  phase := .opened
  reason := "5 consecutive errors"
  since := 1700000001200
  fallback := some { code := 503 }

/-- Settings with twice as many buckets. -/
def echoConfig : ConfigDocument where
  config := { bucketCount := 20 }

theorem json_loses_nothing_echo :
    ((echoRule.Fits ∧ ∀ l ∈ echoRule.limits, l.threshold.isFinite = true ∧ ReadsBack l.threshold) ∧
      Rule.ofJson? "fresh" echoRule.toJson = some echoRule ∧
      Rule.ofJson? "fresh" echoForm = some echoRule ∧
      (parse? echoForm.pretty).bind (Rule.ofJson? "fresh") = some echoRule) ∧
    (echoOutcome.Fits ∧ (parse? echoOutcome.toJson.compress).bind Outcome.ofJson? = some echoOutcome) ∧
    (echoStatus.Fits ∧ (parse? echoStatus.toJson.compress).bind Status.ofJson? = some echoStatus) ∧
    (echoConfig.config.Fits ∧
      (parse? echoConfig.toJson.compress).bind ConfigDocument.ofJson? = some echoConfig) := by
  have hlimits : ∀ l ∈ echoRule.limits, l.threshold.isFinite = true ∧ ReadsBack l.threshold := by
    intro l hl
    have honly : echoRule.limits = [⟨0.5, 10000, 10⟩] := rfl
    rw [honly] at hl
    rw [List.mem_singleton.mp hl]
    exact ⟨by decide, readsBack_half⟩
  have houtcomefits : echoOutcome.Fits :=
    ⟨show 8080 ≤ limit32 by decide, by decide, by decide, by decide⟩
  have hstatusfits : echoStatus.Fits := by
    refine ⟨by decide, ?_⟩
    rintro r ⟨⟩
    constructor <;> decide
  have hconfigfits : echoConfig.config.Fits :=
    ⟨by decide, by decide, by decide, by decide, by decide⟩
  obtain ⟨hrule, houtcome, hstatus, hconfig⟩ := json_loses_nothing
  refine ⟨⟨⟨fits_echoRule, hlimits⟩, ?_⟩, ⟨houtcomefits, ?_⟩, ⟨hstatusfits, ?_⟩, hconfigfits, ?_⟩
  · obtain ⟨hform, hall⟩ := hrule echoRule fits_echoRule fun l hl => (hlimits l hl).1
    obtain ⟨hvalue, htext⟩ := hall "fresh"
    refine ⟨hvalue _ hform, hvalue _ hasForm_echoForm, ?_⟩
    exact (htext (fun l hl => (hlimits l hl).2) _ hasForm_echoForm).2
  · obtain ⟨hform, -, htext⟩ := houtcome echoOutcome houtcomefits
    exact (htext _ hform).1
  · obtain ⟨hform, -, htext⟩ := hstatus echoStatus hstatusfits
    exact (htext _ hform).1
  · obtain ⟨hform, -, htext⟩ := hconfig echoConfig hconfigfits
    exact (htext _ hform).1

end Echo

end CircuitBreaker
