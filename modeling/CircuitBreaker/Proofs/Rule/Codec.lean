import CircuitBreaker.Proofs.Circuit.Soundness
import CircuitBreaker.Proofs.Json.Text
import CircuitBreaker.Rule.Codec

/-!
# `Proofs.Rule.Codec` — rules are read as they were written

A rule has many written forms. Any field but the conditions' own may be left out where it has the value
that a structure without it gets, at every level of the rule, and the members of an object may come in any
order. `Rule.HasForm` says which values are written forms of a rule, one structure at a time.

The proof follows the structures from the inside out. For each of them there is what it may look like
(`fields`, `HasForm`), that it is written so (`hasForm_toJson`), that it is restored from whatever may be
written of it (`restores`), and that no form has anything in it that a text would not carry
(`writesPlain`). Numbers have to fit the types that they travel in, which is what `Fits` asks of each
structure; and a share that is no finite number is written as null and lost, so the shares of a rule have
to be finite.

## Contents
- `Pattern.restores`, `RuleMatcher.restores`: patterns and matchers.
- `ErrorCondition.restores`, `TriggerCondition.restores`, `BlockRule.restores`: conditions.
- `Recovery.restores`, `Headers.restores`, `Response.restores`, `Fallback.restores`: what happens while a
  circuit is open.
- `Rule.restores`: rules.
-/

namespace CircuitBreaker

open Json

/-! ## Patterns and matchers -/

theorem PatternKind.restores (k : PatternKind) : Restores ofJson? (IsExactly toJson) k := by
  rintro _ rfl
  cases k <;> rfl

namespace Pattern

/-- The fields of a pattern. -/
def fields (p : Pattern) : List Json.Field := [
  .spare "match_type" (IsExactly PatternKind.toJson) p.kind ({} : Pattern).kind,
  .spare "value" (IsExactly .str) p.value ({} : Pattern).value]

/-- What may be written of a pattern. -/
def HasForm (p : Pattern) : Json → Prop := IsRecordOf p.fields

theorem hasForm_toJson (p : Pattern) : p.HasForm p.toJson :=
  (Written.keep rfl (.keep rfl .nil)).isRecordOf

theorem restores (p : Pattern) : Restores ofJson? HasForm p := by
  intro j h
  obtain ⟨vs, hread, hvs⟩ :=
    fields?_of_isRecordOf ["match_type", "value"] true h rfl (by decide)
  obtain _ | ⟨hkind, _ | ⟨hvalue, _ | _⟩⟩ := hvs
  unfold ofJson?
  rw [hread]
  -- the reader takes the fields one after the other, and each of them gives back its own
  apply orElse_bind hkind (PatternKind.restores p.kind)
  apply orElse_bind hvalue (restores_toStr? p.value)
  rfl

theorem isShallow {p : Pattern} {j : Json} (h : p.HasForm j) : IsShallow 1 j := by
  refine IsRecordOf.isShallow h ⟨?_, ?_, trivial⟩
  · rintro _ rfl
    exact isShallow_str p.kind.text
  · rintro _ rfl
    exact isShallow_str p.value

theorem writesPlain (p : Pattern) : WritesPlain HasForm p := by
  intro j h
  exact IsRecordOf.isPlain h ⟨writesPlain_isExactly rfl, writesPlain_str p.value, trivial⟩

end Pattern

namespace NameMatcher

/-- The fields of a name matcher. -/
def fields (m : NameMatcher) : List Json.Field := [
  .spare "namespace" (IsExactly .str) m.realm ({} : NameMatcher).realm,
  .spare "service" (IsExactly .str) m.name ({} : NameMatcher).name]

/-- What may be written of a name matcher. -/
def HasForm (m : NameMatcher) : Json → Prop := IsRecordOf m.fields

theorem hasForm_toJson (m : NameMatcher) : m.HasForm m.toJson :=
  (Written.keep rfl (.keep rfl .nil)).isRecordOf

theorem restores (m : NameMatcher) : Restores ofJson? HasForm m := by
  intro j h
  obtain ⟨vs, hread, hvs⟩ :=
    fields?_of_isRecordOf ["namespace", "service"] true h rfl (by decide)
  obtain _ | ⟨hrealm, _ | ⟨hname, _ | _⟩⟩ := hvs
  unfold ofJson?
  rw [hread]
  apply orElse_bind hrealm (restores_toStr? m.realm)
  apply orElse_bind hname (restores_toStr? m.name)
  rfl

theorem writesPlain (m : NameMatcher) : WritesPlain HasForm m := by
  intro j h
  exact IsRecordOf.isPlain h ⟨writesPlain_str m.realm, writesPlain_str m.name, trivial⟩

end NameMatcher

namespace DestinationMatcher

/-- The fields of a destination matcher. -/
def fields (m : DestinationMatcher) : List Json.Field := [
  .spare "namespace" (IsExactly .str) m.realm ({} : DestinationMatcher).realm,
  .spare "service" (IsExactly .str) m.name ({} : DestinationMatcher).name,
  .spare "method" (IsOptionOf Pattern.HasForm) m.method ({} : DestinationMatcher).method]

/-- What may be written of a destination matcher. -/
def HasForm (m : DestinationMatcher) : Json → Prop := IsRecordOf m.fields

theorem hasForm_toJson (m : DestinationMatcher) : m.HasForm m.toJson := by
  have hmethod := isOptionOf_ofOption Pattern.toJson m.method Pattern.hasForm_toJson
  exact (Written.keep rfl (.keep rfl (.keep hmethod .nil))).isRecordOf

theorem restores (m : DestinationMatcher) : Restores ofJson? HasForm m := by
  intro j h
  obtain ⟨vs, hread, hvs⟩ :=
    fields?_of_isRecordOf ["namespace", "service", "method"] true h rfl (by decide)
  obtain _ | ⟨hrealm, _ | ⟨hname, _ | ⟨hmethod, _ | _⟩⟩⟩ := hvs
  unfold ofJson?
  rw [hread]
  apply orElse_bind hrealm (restores_toStr? m.realm)
  apply orElse_bind hname (restores_toStr? m.name)
  apply maybe_bind hmethod (fun p _ => p.restores) rfl
  rfl

theorem writesPlain (m : DestinationMatcher) : WritesPlain HasForm m := by
  intro j h
  exact IsRecordOf.isPlain h ⟨writesPlain_str m.realm, writesPlain_str m.name,
    writesPlain_option fun p _ => p.writesPlain, trivial⟩

end DestinationMatcher

namespace RuleMatcher

/-- The fields of a rule matcher. -/
def fields (m : RuleMatcher) : List Json.Field := [
  .spare "source" NameMatcher.HasForm m.source ({} : RuleMatcher).source,
  .spare "destination" DestinationMatcher.HasForm m.destination ({} : RuleMatcher).destination]

/-- What may be written of a rule matcher. -/
def HasForm (m : RuleMatcher) : Json → Prop := IsRecordOf m.fields

theorem hasForm_toJson (m : RuleMatcher) : m.HasForm m.toJson :=
  (Written.keep m.source.hasForm_toJson (.keep m.destination.hasForm_toJson .nil)).isRecordOf

theorem restores (m : RuleMatcher) : Restores ofJson? HasForm m := by
  intro j h
  obtain ⟨vs, hread, hvs⟩ :=
    fields?_of_isRecordOf ["source", "destination"] true h rfl (by decide)
  obtain _ | ⟨hsource, _ | ⟨hdestination, _ | _⟩⟩ := hvs
  unfold ofJson?
  rw [hread]
  apply orElse_bind hsource m.source.restores
  apply orElse_bind hdestination m.destination.restores
  rfl

theorem writesPlain (m : RuleMatcher) : WritesPlain HasForm m := by
  intro j h
  exact IsRecordOf.isPlain h ⟨m.source.writesPlain, m.destination.writesPlain, trivial⟩

end RuleMatcher

/-! ## Conditions -/

namespace ErrorCondition

/-- What may be written of an error condition. -/
def HasForm : ErrorCondition → Json → Prop
  | code p => IsTaggedRecordOf "ret_code" [.required "pattern" Pattern.HasForm p]
  | delay n => IsTaggedRecordOf "delay" [.required "max_delay_ms" (IsExactly .nat) n]

/-- Whether the numbers of an error condition fit their types. -/
def Fits : ErrorCondition → Prop
  | code _ => True
  | delay n => n ≤ limit64

theorem hasForm_toJson (c : ErrorCondition) : c.HasForm c.toJson := by
  cases c with
  | code p => exact (Written.keep rfl (.keep p.hasForm_toJson .nil)).isRecordOf
  | delay n => exact (Written.keep rfl (.keep rfl .nil)).isRecordOf

theorem restores {c : ErrorCondition} (hc : c.Fits) : Restores ofJson? HasForm c := by
  intro j h
  cases c with
  | code p =>
      obtain ⟨body, vs, htagged, hread, hvs⟩ := kindFields?_of_isTaggedRecordOf ["pattern"] false h rfl
        (by decide) ⟨fun j => p.isShallow, trivial⟩ (by decide)
      obtain _ | ⟨hpattern, _ | _⟩ := hvs
      unfold ofJson?
      simp only [htagged]
      rw [hread]
      show (need Pattern.ofJson? _).map code = _
      rw [need_eq hpattern p.restores]
      rfl
  | delay n =>
      obtain ⟨body, vs, htagged, hread, hvs⟩ := kindFields?_of_isTaggedRecordOf ["max_delay_ms"] false h
        rfl (by decide) ⟨fun j hj => hj ▸ isShallow_nat n, trivial⟩ (by decide)
      obtain _ | ⟨hdelay, _ | _⟩ := hvs
      unfold ofJson?
      simp only [htagged]
      rw [hread]
      show (need (toNat? limit64) _).map delay = _
      rw [need_eq hdelay (restores_toNat? hc)]
      rfl

theorem writesPlain {c : ErrorCondition} (hc : c.Fits) : WritesPlain HasForm c := by
  intro j h
  cases c with
  | code p => exact IsRecordOf.isPlain h ⟨writesPlain_str _, p.writesPlain, trivial⟩
  | delay n => exact IsRecordOf.isPlain h ⟨writesPlain_str _, writesPlain_nat hc, trivial⟩

end ErrorCondition

namespace RateLimit

/-- The fields of a limit, given the name of its share. -/
def fields (share : String) (l : RateLimit) : List Json.Field := [
  .required share (IsExactly .float) l.threshold,
  .required "interval_ms" (IsExactly .nat) l.interval,
  .required "minimum_request" (IsExactly .nat) l.minimum]

/-- Whether the numbers of a limit fit their types. -/
def Fits (l : RateLimit) : Prop := l.interval ≤ limit64 ∧ l.minimum ≤ limit32

theorem isShallow_fields (share : String) (l : RateLimit) :
    Field.All (IsShallow 0) (l.fields share) := by
  refine ⟨?_, ?_, ?_, trivial⟩
  · rintro _ rfl
    exact isShallow_float l.threshold
  · rintro _ rfl
    exact isShallow_nat l.interval
  · rintro _ rfl
    exact isShallow_nat l.minimum

/-- A limit is read from its fields, if its share is a number that JSON can write. -/
theorem limitOf?_eq {share : String} {l : RateLimit} (hl : l.Fits) (hfinite : l.threshold.isFinite = true)
    {threshold interval minimum : Option Json}
    (h : List.Forall₂ Field.Reads (l.fields share) [threshold, interval, minimum]) :
    TriggerCondition.limitOf? threshold interval minimum = some l := by
  obtain _ | ⟨hthreshold, _ | ⟨hinterval, _ | ⟨hminimum, _⟩⟩⟩ := h
  unfold TriggerCondition.limitOf?
  apply need_bind hthreshold (restores_toFloat?_iff.mpr hfinite)
  apply need_bind hinterval (restores_toNat? hl.1)
  apply need_bind hminimum (restores_toNat? hl.2)
  rfl

theorem isPlain_fields {share : String} {l : RateLimit} (hl : l.Fits) (hreads : ReadsBack l.threshold) :
    Field.All IsPlain (l.fields share) :=
  ⟨writesPlain_float hreads, writesPlain_nat hl.1, writesPlain_nat (le_limit64 hl.2), trivial⟩

end RateLimit

namespace TriggerCondition

/-- What may be written of a trigger condition. -/
def HasForm : TriggerCondition → Json → Prop
  | consecutiveError n =>
      IsTaggedRecordOf "consecutive_error" [.required "error_count" (IsExactly .nat) n]
  | errorRate l => IsTaggedRecordOf "error_rate" (l.fields "error_rate")
  | slowRate n l =>
      IsTaggedRecordOf "slow_rate" (.required "max_rt_ms" (IsExactly .nat) n :: l.fields "slow_rate")

/-- Whether the numbers of a trigger condition fit their types. -/
def Fits : TriggerCondition → Prop
  | consecutiveError n => n ≤ limit32
  | errorRate l => l.Fits
  | slowRate n l => n ≤ limit64 ∧ l.Fits

theorem hasForm_toJson (c : TriggerCondition) : c.HasForm c.toJson := by
  cases c with
  | consecutiveError n => exact (Written.keep rfl (.keep rfl .nil)).isRecordOf
  | errorRate l =>
      exact (Written.keep rfl (.keep rfl (.keep rfl (.keep rfl .nil)))).isRecordOf
  | slowRate n l =>
      exact (Written.keep rfl (.keep rfl (.keep rfl (.keep rfl (.keep rfl .nil))))).isRecordOf

theorem restores {c : TriggerCondition} (hc : c.Fits)
    (hfinite : ∀ l, c.limit? = some l → l.threshold.isFinite = true) : Restores ofJson? HasForm c := by
  intro j h
  cases c with
  | consecutiveError n =>
      obtain ⟨body, vs, htagged, hread, hvs⟩ := kindFields?_of_isTaggedRecordOf ["error_count"] false h rfl
        (by decide) ⟨fun j hj => hj ▸ isShallow_nat n, trivial⟩ (by decide)
      obtain _ | ⟨hcount, _ | _⟩ := hvs
      unfold ofJson?
      simp only [htagged]
      rw [hread]
      show (need (toNat? limit32) _).map consecutiveError = _
      rw [need_eq hcount (restores_toNat? hc)]
      rfl
  | errorRate l =>
      obtain ⟨body, vs, htagged, hread, hvs⟩ := kindFields?_of_isTaggedRecordOf
        ["error_rate", "interval_ms", "minimum_request"] false h rfl (by decide)
        (l.isShallow_fields "error_rate") (by decide)
      have hlimit := hvs
      obtain _ | ⟨hthreshold, _ | ⟨hinterval, _ | ⟨hminimum, _ | _⟩⟩⟩ := hvs
      unfold ofJson?
      simp only [htagged]
      rw [hread]
      show (limitOf? _ _ _).map errorRate = _
      rw [RateLimit.limitOf?_eq hc (hfinite l rfl) hlimit]
      rfl
  | slowRate n l =>
      have hshallow : Field.All (IsShallow 0)
          (.required "max_rt_ms" (IsExactly .nat) n :: l.fields "slow_rate") :=
        ⟨fun j hj => hj ▸ isShallow_nat n, l.isShallow_fields "slow_rate"⟩
      obtain ⟨body, vs, htagged, hread, hvs⟩ := kindFields?_of_isTaggedRecordOf
        ["max_rt_ms", "slow_rate", "interval_ms", "minimum_request"] false h rfl (by decide)
        hshallow (by decide)
      obtain _ | ⟨hleast, hlimit⟩ := hvs
      have hrest := hlimit
      obtain _ | ⟨hthreshold, _ | ⟨hinterval, _ | ⟨hminimum, _ | _⟩⟩⟩ := hrest
      unfold ofJson?
      simp only [htagged]
      rw [hread]
      apply need_bind hleast (restores_toNat? hc.1)
      rw [RateLimit.limitOf?_eq hc.2 (hfinite l rfl) hlimit]
      rfl

theorem writesPlain {c : TriggerCondition} (hc : c.Fits)
    (hreads : ∀ l, c.limit? = some l → ReadsBack l.threshold) : WritesPlain HasForm c := by
  intro j h
  cases c with
  | consecutiveError n =>
      exact IsRecordOf.isPlain h ⟨writesPlain_str _, writesPlain_nat (le_limit64 hc), trivial⟩
  | errorRate l =>
      exact IsRecordOf.isPlain h ⟨writesPlain_str _, RateLimit.isPlain_fields hc (hreads l rfl)⟩
  | slowRate n l =>
      exact IsRecordOf.isPlain h ⟨writesPlain_str _, writesPlain_nat hc.1,
        RateLimit.isPlain_fields hc.2 (hreads l rfl)⟩

end TriggerCondition

namespace BlockRule

/-- The fields of a block rule. -/
def fields (b : BlockRule) : List Json.Field := [
  .spare "name" (IsExactly .str) b.name ({} : BlockRule).name,
  .spare "api" (IsOptionOf Pattern.HasForm) b.api ({} : BlockRule).api,
  .spare "error_conditions" (IsListOf ErrorCondition.HasForm) b.errors ({} : BlockRule).errors,
  .spare "trigger_conditions" (IsListOf TriggerCondition.HasForm) b.triggers ({} : BlockRule).triggers]

/-- What may be written of a block rule. -/
def HasForm (b : BlockRule) : Json → Prop := IsRecordOf b.fields

/-- Whether the numbers of a block rule fit their types. -/
def Fits (b : BlockRule) : Prop := (∀ c ∈ b.errors, c.Fits) ∧ ∀ c ∈ b.triggers, c.Fits

theorem hasForm_toJson (b : BlockRule) : b.HasForm b.toJson := by
  have hapi := isOptionOf_ofOption Pattern.toJson b.api Pattern.hasForm_toJson
  have herrors := isListOf_map ErrorCondition.toJson b.errors fun c _ => c.hasForm_toJson
  have htriggers := isListOf_map TriggerCondition.toJson b.triggers fun c _ => c.hasForm_toJson
  exact (Written.keep rfl (.keep hapi (.keep herrors (.keep htriggers .nil)))).isRecordOf

theorem restores {b : BlockRule} (hb : b.Fits)
    (hfinite : ∀ l ∈ b.triggers.filterMap TriggerCondition.limit?, l.threshold.isFinite = true) :
    Restores ofJson? HasForm b := by
  have herror : ∀ c ∈ b.errors, Restores ErrorCondition.ofJson? ErrorCondition.HasForm c :=
    fun c hc => ErrorCondition.restores (hb.1 c hc)
  have htrigger : ∀ c ∈ b.triggers, Restores TriggerCondition.ofJson? TriggerCondition.HasForm c :=
    fun c hc => TriggerCondition.restores (hb.2 c hc)
      fun l hl => hfinite l (List.mem_filterMap.mpr ⟨c, hc, hl⟩)
  intro j h
  obtain ⟨vs, hread, hvs⟩ := fields?_of_isRecordOf fieldNames true h rfl (by decide)
  obtain _ | ⟨hname, _ | ⟨hapi, _ | ⟨herrors, _ | ⟨htriggers, _ | _⟩⟩⟩⟩ := hvs
  unfold ofJson?
  rw [hread]
  apply orElse_bind hname (restores_toStr? b.name)
  apply maybe_bind hapi (fun p _ => p.restores) rfl
  apply orElse_bind herrors (restores_toList? herror)
  apply orElse_bind htriggers (restores_toList? htrigger)
  rfl

theorem writesPlain {b : BlockRule} (hb : b.Fits)
    (hreads : ∀ l ∈ b.triggers.filterMap TriggerCondition.limit?, ReadsBack l.threshold) :
    WritesPlain HasForm b := by
  have herrors : WritesPlain (IsListOf ErrorCondition.HasForm) b.errors :=
    writesPlain_list fun c hc => ErrorCondition.writesPlain (hb.1 c hc)
  have htriggers : WritesPlain (IsListOf TriggerCondition.HasForm) b.triggers :=
    writesPlain_list fun c hc => TriggerCondition.writesPlain (hb.2 c hc)
      fun l hl => hreads l (List.mem_filterMap.mpr ⟨c, hc, hl⟩)
  intro j h
  exact IsRecordOf.isPlain h ⟨writesPlain_str b.name, writesPlain_option fun p _ => p.writesPlain,
    herrors, htriggers, trivial⟩

end BlockRule

/-! ## What happens while a circuit is open -/

namespace Recovery

/-- The fields of a recovery. -/
def fields (r : Recovery) : List Json.Field := [
  .spare "sleep_window_ms" (IsExactly .nat) r.sleepWindow ({} : Recovery).sleepWindow,
  .spare "consecutive_success" (IsExactly .nat) r.successes ({} : Recovery).successes,
  .spare "max_half_open_requests" (IsOptionOf (IsExactly .nat)) r.probes ({} : Recovery).probes]

/-- What may be written of a recovery. -/
def HasForm (r : Recovery) : Json → Prop := IsRecordOf r.fields

/-- Whether the numbers of a recovery fit their types. -/
structure Fits (r : Recovery) : Prop where
  sleepWindow : r.sleepWindow ≤ limit64
  successes : r.successes ≤ limit32
  probes : ∀ n, r.probes = some n → n ≤ limit32

theorem hasForm_toJson (r : Recovery) : r.HasForm r.toJson := by
  have hprobes : IsOptionOf (IsExactly .nat) r.probes (Json.ofOption Json.nat r.probes) :=
    isOptionOf_ofOption Json.nat r.probes fun n => rfl
  exact (Written.keep rfl (.keep rfl (.keep hprobes .nil))).isRecordOf

theorem restores {r : Recovery} (hr : r.Fits) : Restores ofJson? HasForm r := by
  intro j h
  obtain ⟨vs, hread, hvs⟩ := fields?_of_isRecordOf fieldNames true h rfl (by decide)
  obtain _ | ⟨hsleepWindow, _ | ⟨hsuccesses, _ | ⟨hprobes, _ | _⟩⟩⟩ := hvs
  unfold ofJson?
  rw [hread]
  apply orElse_bind hsleepWindow (restores_toNat? hr.sleepWindow)
  apply orElse_bind hsuccesses (restores_toNat? hr.successes)
  apply maybe_bind hprobes (fun n hn => restores_toNat? (hr.probes n hn)) rfl
  rfl

theorem writesPlain {r : Recovery} (hr : r.Fits) : WritesPlain HasForm r := by
  intro j h
  exact IsRecordOf.isPlain h ⟨writesPlain_nat hr.sleepWindow, writesPlain_nat (le_limit64 hr.successes),
    writesPlain_option fun n hn => writesPlain_nat (le_limit64 (hr.probes n hn)), trivial⟩

end Recovery

namespace Headers

/-- What may be written of headers. A map has no order, and neither have its members. -/
def HasForm (h : Headers) (j : Json) : Prop :=
  ∃ entries : List (String × String), entries.Perm h.entries ∧
    j = .record (entries.map fun e => (e.1, .str e.2))

theorem hasForm_toJson (h : Headers) : h.HasForm h.toJson := ⟨h.entries, List.Perm.refl _, rfl⟩

/-- A new entry comes in its place, and the others stay. -/
theorem perm_insertEntry {name value : String} {entries : List (String × String)}
    (h : name ∉ entries.map Prod.fst) :
    (insertEntry name value entries).Perm ((name, value) :: entries) := by
  induction entries with
  | nil => exact List.Perm.refl _
  | cons e rest ih =>
      obtain ⟨hne, hrest⟩ := not_or.mp (List.mem_cons.not.mp h)
      unfold insertEntry
      split
      · exact List.Perm.refl _
      · split
        · exact ((ih hrest).cons e).trans (List.Perm.swap _ _ _)
        · rename_i hge hle
          exact absurd (String.le_antisymm (String.not_lt.mp hle) (String.not_lt.mp hge)) hne

/-- Entries of different names all come into the map. -/
theorem perm_foldl_insert {entries : List (String × String)} (done : Headers)
    (h : ((done.entries ++ entries).map Prod.fst).Nodup) :
    (entries.foldl (fun h e => h.insert e.1 e.2) done).entries.Perm (done.entries ++ entries) := by
  induction entries generalizing done with
  | nil =>
      rw [List.append_nil]
      exact List.Perm.refl _
  | cons e rest ih =>
      have hmiddle : (done.entries ++ e :: rest).Perm (e :: (done.entries ++ rest)) := List.perm_middle
      have hnew : e.1 ∉ done.entries.map Prod.fst := by
        have hnodup := (hmiddle.map Prod.fst).nodup_iff.mp h
        intro hmem
        apply (List.nodup_cons.mp hnodup).1
        rw [List.map_append]
        exact List.mem_append_left _ hmem
      have hinsert : ((done.insert e.1 e.2).entries ++ rest).Perm (e :: (done.entries ++ rest)) :=
        (perm_insertEntry hnew).append_right rest
      have hsame := hinsert.trans hmiddle.symm
      exact (ih (done.insert e.1 e.2) ((hsame.map Prod.fst).nodup_iff.mpr h)).trans hsame

/-- Maps with the same entries are equal. -/
theorem eq_of_entries_eq {g h : Headers} (he : g.entries = h.entries) : g = h := by
  cases g
  cases h
  cases he
  rfl

/-- **A map is rebuilt from its entries in any order.** -/
theorem ofList_of_perm {h : Headers} {entries : List (String × String)}
    (hperm : entries.Perm h.entries) : ofList entries = h := by
  have hnodup : (h.entries.map Prod.fst).Nodup := by
    rw [List.Nodup, List.pairwise_map]
    refine h.ascending.imp fun hlt heq => ?_
    exact String.lt_irrefl _ (heq ▸ hlt)
  -- both lists of entries are in order, so that they have nothing left to differ in
  have hall : (ofList entries).entries.Perm entries :=
    perm_foldl_insert {} ((hperm.map Prod.fst).nodup_iff.mpr hnodup)
  refine eq_of_entries_eq ((hall.trans hperm).eq_of_pairwise ?_ (ofList entries).ascending h.ascending)
  intro a b _ _ hab hba
  exact absurd hba (String.lt_asymm hab)

theorem mapM_entryOf? (entries : List (String × String)) :
    (named (entries.map fun e => (e.1, .str e.2))).mapM entryOf? = some entries := by
  induction entries with
  | nil => rfl
  | cons e rest ih =>
      show ((named ((e.1, .str e.2) :: rest.map fun e => (e.1, .str e.2))).mapM entryOf?) = _
      rw [named, List.map_cons, List.mapM_cons, ← named, ih]
      rfl

theorem restores (h : Headers) : Restores ofJson? HasForm h := by
  rintro _ ⟨entries, hperm, rfl⟩
  show ((named _).mapM entryOf?).map ofList = some h
  rw [mapM_entryOf?, Option.map_some, ofList_of_perm hperm]

theorem writesPlain (h : Headers) : WritesPlain HasForm h := by
  rintro _ ⟨entries, -, rfl⟩
  refine isPlain_record fun m hm => ?_
  obtain ⟨e, -, rfl⟩ := List.mem_map.mp hm
  exact rfl

end Headers

namespace Response

/-- The fields of an answer. -/
def fields (r : Response) : List Json.Field := [
  .spare "code" (IsExactly .int) r.code ({} : Response).code,
  .spare "headers" Headers.HasForm r.headers ({} : Response).headers,
  .spare "body" (IsExactly .str) r.body ({} : Response).body]

/-- What may be written of an answer. -/
def HasForm (r : Response) : Json → Prop := IsRecordOf r.fields

/-- Whether the code of an answer fits its type. -/
def Fits (r : Response) : Prop := leastCode ≤ r.code ∧ r.code ≤ greatestCode

theorem hasForm_toJson (r : Response) : r.HasForm r.toJson :=
  (Written.keep rfl (.keep r.headers.hasForm_toJson (.keep rfl .nil))).isRecordOf

theorem restores {r : Response} (hr : r.Fits) : Restores ofJson? HasForm r := by
  intro j h
  obtain ⟨vs, hread, hvs⟩ :=
    fields?_of_isRecordOf ["code", "headers", "body"] true h rfl (by decide)
  obtain _ | ⟨hcode, _ | ⟨hheaders, _ | ⟨hbody, _ | _⟩⟩⟩ := hvs
  unfold ofJson?
  rw [hread]
  apply orElse_bind hcode (restores_toInt? hr)
  apply orElse_bind hheaders r.headers.restores
  apply orElse_bind hbody (restores_toStr? r.body)
  rfl

theorem writesPlain {r : Response} (hr : r.Fits) : WritesPlain HasForm r := by
  have hcode : Int64.minValue.toInt ≤ r.code ∧ r.code ≤ significandLimit :=
    ⟨Int.le_trans (by decide) hr.1, Int.le_trans hr.2 (by decide)⟩
  intro j h
  exact IsRecordOf.isPlain h ⟨writesPlain_int hcode, r.headers.writesPlain, writesPlain_str r.body,
    trivial⟩

end Response

namespace Fallback

/-- The fields of a fallback. -/
def fields (f : Fallback) : List Json.Field := [
  .spare "enable" (IsExactly .bool) f.enabled ({} : Fallback).enabled,
  .spare "response" Response.HasForm f.response ({} : Fallback).response]

/-- What may be written of a fallback. -/
def HasForm (f : Fallback) : Json → Prop := IsRecordOf f.fields

theorem hasForm_toJson (f : Fallback) : f.HasForm f.toJson :=
  (Written.keep rfl (.keep f.response.hasForm_toJson .nil)).isRecordOf

theorem restores {f : Fallback} (hf : f.response.Fits) : Restores ofJson? HasForm f := by
  intro j h
  obtain ⟨vs, hread, hvs⟩ := fields?_of_isRecordOf ["enable", "response"] true h rfl (by decide)
  obtain _ | ⟨henabled, _ | ⟨hresponse, _ | _⟩⟩ := hvs
  unfold ofJson?
  rw [hread]
  apply orElse_bind henabled (restores_toBool? f.enabled)
  apply orElse_bind hresponse (Response.restores hf)
  rfl

theorem writesPlain {f : Fallback} (hf : f.response.Fits) : WritesPlain HasForm f := by
  intro j h
  exact IsRecordOf.isPlain h ⟨writesPlain_bool f.enabled, Response.writesPlain hf, trivial⟩

end Fallback

/-! ## Rules -/

theorem Level.restores (l : Level) : Restores ofJson? (IsExactly toJson) l := by
  rintro _ rfl
  cases l <;> rfl

namespace Rule

/-- The fields of a rule. The id has to be there: a rule without one is given a fresh one. -/
def fields (r : Rule) : List Json.Field := [
  .required "id" (IsExactly .str) r.id,
  .spare "name" (IsExactly .str) r.name ({} : Rule).name,
  .spare "enable" (IsExactly .bool) r.enabled ({} : Rule).enabled,
  .spare "level" (IsExactly Level.toJson) r.level ({} : Rule).level,
  .spare "rule_matcher" RuleMatcher.HasForm r.matcher ({} : Rule).matcher,
  .spare "block_configs" (IsListOf BlockRule.HasForm) r.blocks ({} : Rule).blocks,
  .spare "recover_condition" Recovery.HasForm r.recovery ({} : Rule).recovery,
  .spare "fallback_config" (IsOptionOf Fallback.HasForm) r.fallback ({} : Rule).fallback,
  .spare "revision" (IsExactly .str) r.revision ({} : Rule).revision]

/-- What may be written of a rule. -/
def HasForm (r : Rule) : Json → Prop := IsRecordOf r.fields

/-- Whether the numbers of a rule fit their types. -/
structure Fits (r : Rule) : Prop where
  blocks : ∀ b ∈ r.blocks, b.Fits
  recovery : r.recovery.Fits
  fallback : ∀ f, r.fallback = some f → f.response.Fits

theorem hasForm_toJson (r : Rule) : r.HasForm r.toJson := by
  have hblocks := isListOf_map BlockRule.toJson r.blocks fun b _ => b.hasForm_toJson
  have hfallback := isOptionOf_ofOption Fallback.toJson r.fallback Fallback.hasForm_toJson
  exact (Written.keep rfl (.keep rfl (.keep rfl (.keep rfl (.keep r.matcher.hasForm_toJson
    (.keep hblocks (.keep r.recovery.hasForm_toJson (.keep hfallback
      (.keep rfl .nil))))))))).isRecordOf

/-- **A rule is restored from whatever may be written of it**, whatever id it would be given otherwise. -/
theorem restores {r : Rule} (hr : r.Fits) (hfinite : ∀ l ∈ r.limits, l.threshold.isFinite = true)
    (freshId : String) : Restores (ofJson? freshId) HasForm r := by
  have hblock : ∀ b ∈ r.blocks, Restores BlockRule.ofJson? BlockRule.HasForm b :=
    fun b hb => BlockRule.restores (hr.blocks b hb)
      fun l hl => hfinite l (List.mem_flatMap.mpr ⟨b, hb, hl⟩)
  intro j h
  obtain ⟨vs, hread, hvs⟩ := fields?_of_isRecordOf fieldNames true h rfl (by decide)
  obtain _ | ⟨hid, _ | ⟨hname, _ | ⟨henabled, _ | ⟨hlevel, _ | ⟨hmatcher, _ | ⟨hblocks,
    _ | ⟨hrecovery, _ | ⟨hfallback, _ | ⟨hrevision, _ | _⟩⟩⟩⟩⟩⟩⟩⟩⟩ := hvs
  unfold ofJson?
  rw [hread]
  -- the fresh id is never looked at
  apply orElse_bind_required hid (restores_toStr? r.id)
  apply orElse_bind hname (restores_toStr? r.name)
  apply orElse_bind henabled (restores_toBool? r.enabled)
  apply orElse_bind hlevel r.level.restores
  apply orElse_bind hmatcher r.matcher.restores
  apply orElse_bind hblocks (restores_toList? hblock)
  apply orElse_bind hrecovery (Recovery.restores hr.recovery)
  apply maybe_bind hfallback (fun f hf => Fallback.restores (hr.fallback f hf)) rfl
  apply orElse_bind hrevision (restores_toStr? r.revision)
  rfl

/-- All but the id may be missing. -/
example : Rule.ofJson? "fresh" (.record [("id", .str "r-1")]) = some { id := "r-1" } := rfl

theorem writesPlain {r : Rule} (hr : r.Fits) (hreads : ∀ l ∈ r.limits, ReadsBack l.threshold) :
    WritesPlain HasForm r := by
  have hblocks : WritesPlain (IsListOf BlockRule.HasForm) r.blocks :=
    writesPlain_list fun b hb => BlockRule.writesPlain (hr.blocks b hb)
      fun l hl => hreads l (List.mem_flatMap.mpr ⟨b, hb, hl⟩)
  have hfallback : WritesPlain (IsOptionOf Fallback.HasForm) r.fallback :=
    writesPlain_option fun f hf => Fallback.writesPlain (hr.fallback f hf)
  intro j h
  exact IsRecordOf.isPlain h ⟨writesPlain_str r.id, writesPlain_str r.name, writesPlain_bool r.enabled,
    writesPlain_isExactly rfl, r.matcher.writesPlain, hblocks, Recovery.writesPlain hr.recovery,
    hfallback, writesPlain_str r.revision, trivial⟩

end Rule

end CircuitBreaker
