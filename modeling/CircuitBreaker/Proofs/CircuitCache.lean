import Mathlib.Data.List.Nodup
import CircuitBreaker.CircuitCache
import CircuitBreaker.Proofs.Circuit.Effect

/-!
# `Proofs.CircuitCache` — what becomes of the entries of a cache

A cache is **placed** if every entry is in the table of its level and no resource has two. In a placed
cache `find?` finds exactly the entries (`find?_eq_some_iff`), whatever tables they are in. It is **tidy**
if every circuit is kept for its own resource besides.

An entry is added by `insert`. Everything else leads to a **later** cache: there is an entry before for
every entry after, and all that happened to its circuit is a run of operations.

## Contents
- `Slot.Grows`: what becomes of one entry.
- `CircuitCache.IsPlaced`, `find?_eq_some_iff`: finding the entries.
- `CircuitCache.IsTidy`: circuits and their resources.
- `isTidy_insert`, `mem_insert`: new entries.
- `CircuitCache.Later`, `later_touch`, `later_put`, `later_removeWhere`: everything else.
-/

namespace CircuitBreaker

namespace Slot

/-- **What becomes of what is known about a resource**: its circuit runs, and nothing else. -/
inductive Grows : Slot → Slot → Prop where
  | notConfigured : Grows .notConfigured .notConfigured
  | tracking (serial : Nat) (c : Circuit) (ops : List Circuit.Op) :
      Grows (.tracking serial c) (.tracking serial (c.run ops).1)

theorem Grows.refl (s : Slot) : s.Grows s := by
  cases s with
  | notConfigured => exact .notConfigured
  | tracking serial c => exact .tracking serial c []

theorem Grows.trans {s t u : Slot} (hst : s.Grows t) (htu : t.Grows u) : s.Grows u := by
  cases hst with
  | notConfigured => exact htu
  | tracking serial c ops =>
      cases htu with
      | tracking _ _ more =>
          have hrun : ((c.run ops).1.run more).1 = (c.run (ops ++ more)).1 := by
            rw [Circuit.run_append]
          rw [hrun]
          exact .tracking serial c (ops ++ more)

/-- What is known once a circuit was asked for, the `serial`-th if there is one. -/
def ofCircuit? (serial : Nat) : Option Circuit → Slot
  | some c => .tracking serial c
  | none => .notConfigured

end Slot

namespace CircuitCache

/-! ## The tables -/

theorem mem_entries_iff {c : CircuitCache} {e : CacheEntry} :
    e ∈ c.entries ↔ ∃ l, e ∈ c.level l := by
  unfold entries
  constructor
  · intro he
    rcases List.mem_append.mp he with he | he
    · rcases List.mem_append.mp he with he | he
      · exact ⟨.service, he⟩
      · exact ⟨.method, he⟩
    · exact ⟨.endpoint, he⟩
  · rintro ⟨l, he⟩
    cases l with
    | service => exact List.mem_append_left _ (List.mem_append_left _ he)
    | method => exact List.mem_append_left _ (List.mem_append_right _ he)
    | endpoint => exact List.mem_append_right _ he

/-- Changing one table leaves the others alone. -/
theorem level_mapLevel (f : List CacheEntry → List CacheEntry) (c : CircuitCache) (k l : Level) :
    (c.mapLevel f k).level l = if l = k then f (c.level l) else c.level l := by
  cases k <;> cases l <;> rfl

/-- A cache is **placed** if every entry is where it is looked for. -/
structure IsPlaced (c : CircuitCache) : Prop where
  placed : ∀ l, ∀ e ∈ c.level l, e.resource.level = l
  unique : ∀ l, ((c.level l).map fun e => e.resource).Nodup

/-- A cache is **tidy** if every entry is where it is looked for, with a circuit of its resource. -/
structure IsTidy (c : CircuitCache) : Prop where
  placed : ∀ l, ∀ e ∈ c.level l, e.resource.level = l
  unique : ∀ l, ((c.level l).map fun e => e.resource).Nodup
  owned : ∀ e ∈ c.entries, ∀ circuit, e.slot.circuit? = some circuit → circuit.resource = e.resource

theorem isTidy_empty : ({} : CircuitCache).IsTidy := by
  refine ⟨fun l e he => ?_, fun l => ?_, fun e he => by cases he⟩
  · cases l <;> cases he
  · cases l <;> exact List.nodup_nil

variable {c d : CircuitCache} {r : Resource} {e : CacheEntry}

theorem IsTidy.isPlaced (h : c.IsTidy) : c.IsPlaced := ⟨h.placed, h.unique⟩

/-- In a placed cache every entry is in the table of its level. -/
theorem IsPlaced.mem_level (h : c.IsPlaced) (he : e ∈ c.entries) : e ∈ c.level e.resource.level := by
  obtain ⟨l, hl⟩ := mem_entries_iff.mp he
  rwa [h.placed l e hl]

/-- In a placed cache no resource has two entries. -/
theorem IsPlaced.eq_of_resource_eq (h : c.IsPlaced) {x y : CacheEntry} (hx : x ∈ c.entries)
    (hy : y ∈ c.entries) (hxy : x.resource = y.resource) : x = y := by
  have hy' := h.mem_level hy
  rw [← hxy] at hy'
  exact List.inj_on_of_nodup_map (h.unique _) (h.mem_level hx) hy' hxy

/-- What is found is an entry of the resource. -/
theorem mem_of_find? (h : c.find? r = some e) : e ∈ c.entries ∧ e.resource = r := by
  unfold find? at h
  exact ⟨mem_entries_iff.mpr ⟨_, List.mem_of_find?_eq_some h⟩, by simpa using List.find?_some h⟩

/-- **In a placed cache an entry is found exactly if it is there.** -/
theorem find?_eq_some_iff (h : c.IsPlaced) :
    c.find? r = some e ↔ e ∈ c.entries ∧ e.resource = r := by
  refine ⟨mem_of_find?, ?_⟩
  rintro ⟨he, rfl⟩
  cases hfind : c.find? e.resource with
  | none =>
      have habsent := List.find?_eq_none.mp hfind e (h.mem_level he)
      exact absurd (beq_self_eq_true e.resource) habsent
  | some x =>
      obtain ⟨hx, hxe⟩ := mem_of_find? hfind
      rw [h.eq_of_resource_eq hx he hxe]

theorem find?_eq_none_iff (h : c.IsPlaced) :
    c.find? r = none ↔ ∀ e ∈ c.entries, e.resource ≠ r := by
  constructor
  · intro hnone e he hr
    rw [(find?_eq_some_iff h).mpr ⟨he, hr⟩] at hnone
    cases hnone
  · intro hall
    cases hfind : c.find? r with
    | none => rfl
    | some e =>
        obtain ⟨he, hr⟩ := (find?_eq_some_iff h).mp hfind
        exact absurd hr (hall e he)

theorem find?_isSome_of_mem (h : c.IsPlaced) (he : e ∈ c.entries) : (c.find? e.resource).isSome := by
  rw [(find?_eq_some_iff h).mpr ⟨he, rfl⟩]
  rfl

/-- The circuit of a resource is that of an entry. -/
theorem exists_of_circuit? (h : c.IsPlaced) {circuit : Circuit} (hc : c.circuit? r = some circuit) :
    ∃ x ∈ c.entries, ∃ serial, x.resource = r ∧ x.slot = .tracking serial circuit := by
  obtain ⟨x, hfind, hslot⟩ := Option.bind_eq_some_iff.mp hc
  obtain ⟨hx, hr⟩ := (find?_eq_some_iff h).mp hfind
  cases hs : x.slot with
  | notConfigured => rw [hs] at hslot; cases hslot
  | tracking serial c =>
      rw [hs] at hslot
      cases hslot
      exact ⟨x, hx, serial, hr, hs⟩

/-- The circuit of a resource is one for this resource. -/
theorem resource_of_circuit? (h : c.IsTidy) {circuit : Circuit} (hc : c.circuit? r = some circuit) :
    circuit.resource = r := by
  obtain ⟨x, hx, serial, hr, hs⟩ := exists_of_circuit? h.isPlaced hc
  rw [← hr]
  exact h.owned x hx circuit (by rw [hs]; rfl)

/-! ## A new entry -/

section Insert

variable (c) (r) (now : Nat) (made : Option Circuit)

/-- The entry that is added for a resource. -/
def added : CacheEntry := { resource := r, slot := .ofCircuit? c.built made, lastAccess := now }

theorem level_insert (l : Level) :
    (c.insert r now made).level l =
      if l = r.level then c.level l ++ [c.added r now made] else c.level l := by
  rw [← level_mapLevel (· ++ [c.added r now made])]
  cases made with
  | none => rfl
  | some circuit => cases r <;> cases l <;> rfl

end Insert

variable {now : Nat} {made : Option Circuit}

theorem mem_insert (he : e ∈ (c.insert r now made).entries) :
    e ∈ c.entries ∨ e = c.added r now made := by
  obtain ⟨l, hl⟩ := mem_entries_iff.mp he
  rw [level_insert] at hl
  split at hl
  · rcases List.mem_append.mp hl with hl | hl
    · exact Or.inl (mem_entries_iff.mpr ⟨l, hl⟩)
    · exact Or.inr (List.mem_singleton.mp hl)
  · exact Or.inl (mem_entries_iff.mpr ⟨l, hl⟩)

/-- A cache stays placed when a resource that has no entry gets one. -/
theorem isPlaced_insert (h : c.IsPlaced) (habsent : c.find? r = none) :
    (c.insert r now made).IsPlaced := by
  have hnew := (find?_eq_none_iff h).mp habsent
  refine ⟨fun l e he => ?_, fun l => ?_⟩
  · rw [level_insert] at he
    split at he
    · rename_i hl
      rcases List.mem_append.mp he with he | he
      · exact h.placed l e he
      · rw [List.mem_singleton.mp he]
        exact hl.symm
    · exact h.placed l e he
  · rw [level_insert]
    split
    · rw [List.map_append, List.nodup_append]
      refine ⟨h.unique l, List.nodup_singleton _, fun a ha b hb hab => ?_⟩
      obtain ⟨e, he, rfl⟩ := List.mem_map.mp ha
      exact hnew e (mem_entries_iff.mpr ⟨l, he⟩) (hab.trans (List.mem_singleton.mp hb))
    · exact h.unique l

/-- **A cache stays tidy** when a resource that has no entry gets one with a circuit of its own. -/
theorem isTidy_insert (h : c.IsTidy) (habsent : c.find? r = none)
    (hmade : ∀ circuit ∈ made, circuit.resource = r) : (c.insert r now made).IsTidy := by
  have hplaced : (c.insert r now made).IsPlaced := isPlaced_insert h.isPlaced habsent
  refine ⟨hplaced.placed, hplaced.unique, fun e he circuit hc => ?_⟩
  rcases mem_insert he with he | rfl
  · exact h.owned e he circuit hc
  · cases made with
    | none => cases hc
    | some circuit => cases hc; exact hmade _ rfl

/-! ## Later caches -/

/-- **One cache comes after another** if it is as tidy and every entry of it was there before. -/
structure Later (c d : CircuitCache) : Prop where
  isTidy : d.IsTidy
  before : ∀ y ∈ d.entries, ∃ x ∈ c.entries, x.resource = y.resource ∧ x.slot.Grows y.slot

theorem Later.refl (h : c.IsTidy) : Later c c :=
  ⟨h, fun y hy => ⟨y, hy, rfl, .refl _⟩⟩

theorem Later.trans {b : CircuitCache} (hbc : Later b c) (hcd : Later c d) : Later b d := by
  refine ⟨hcd.isTidy, fun z hz => ?_⟩
  obtain ⟨y, hy, hyz, hgyz⟩ := hcd.before z hz
  obtain ⟨x, hx, hxy, hgxy⟩ := hbc.before y hy
  exact ⟨x, hx, hxy.trans hyz, hgxy.trans hgyz⟩

/-- Nothing comes out of an empty cache. -/
theorem Later.entries_eq_nil (h : Later c d) (hc : c.entries = []) : d.entries = [] := by
  refine List.eq_nil_iff_forall_not_mem.mpr fun y hy => ?_
  obtain ⟨x, hx, _⟩ := h.before y hy
  rw [hc] at hx
  cases hx

/-- Whatever an entry grows from, its circuit stays one for its resource. -/
theorem owned_of_before (h : c.IsTidy)
    (hbefore : ∀ y ∈ d.entries, ∃ x ∈ c.entries, x.resource = y.resource ∧ x.slot.Grows y.slot) :
    ∀ y ∈ d.entries, ∀ circuit, y.slot.circuit? = some circuit → circuit.resource = y.resource := by
  intro y hy circuit hc
  obtain ⟨x, hx, hxy, hgrows⟩ := hbefore y hy
  have howned := h.owned x hx
  generalize x.slot = s, y.slot = t at hgrows howned hc
  cases hgrows with
  | notConfigured => cases hc
  | tracking serial first ops =>
      cases hc
      rw [Circuit.resource_run, howned first rfl, hxy]

/-- Changing the entry of a resource changes that entry only, in whatever table. -/
theorem level_update (h : c.IsPlaced) (f : CacheEntry → CacheEntry) (l : Level) :
    (c.update r f).level l = (c.level l).map fun e => if e.resource = r then f e else e := by
  rw [update, level_mapLevel]
  split
  · rfl
  · rename_i hl
    refine ((List.map_congr_left (g := id) fun e he => ?_).trans (List.map_id _)).symm
    have hne : e.resource ≠ r := fun hr => hl (by rw [← h.placed l e he, hr])
    rw [if_neg hne]
    rfl

/-- A cache stays placed when the entry of a resource changes and stays one of the resource. -/
theorem isPlaced_update (h : c.IsPlaced) {f : CacheEntry → CacheEntry}
    (hf : ∀ e ∈ c.entries, e.resource = r → (f e).resource = e.resource) :
    (c.update r f).IsPlaced := by
  have same : ∀ l, ((c.update r f).level l).map (fun e => e.resource) =
      (c.level l).map fun e => e.resource := by
    intro l
    rw [level_update h, List.map_map]
    refine List.map_congr_left fun e he => ?_
    rw [Function.comp_apply]
    split
    · exact hf e (mem_entries_iff.mpr ⟨l, he⟩) ‹_›
    · rfl
  refine ⟨fun l e he => ?_, fun l => ?_⟩
  · have hmem : e.resource ∈ (c.level l).map fun e => e.resource := by
      rw [← same l]
      exact List.mem_map_of_mem he
    obtain ⟨x, hx, hxe⟩ := List.mem_map.mp hmem
    rw [← hxe]
    exact h.placed l x hx
  · rw [same]
    exact h.unique l

/-- Changing the entry of a resource leads to a later cache, if its circuit is only run. -/
theorem later_update (h : c.IsTidy) {f : CacheEntry → CacheEntry}
    (hf : ∀ e ∈ c.entries, e.resource = r → (f e).resource = e.resource ∧ e.slot.Grows (f e).slot) :
    Later c (c.update r f) := by
  have same (e : CacheEntry) (he : e ∈ c.entries) :
      (if e.resource = r then f e else e).resource = e.resource ∧
        e.slot.Grows (if e.resource = r then f e else e).slot := by
    split
    · exact hf e he ‹_›
    · exact ⟨rfl, .refl _⟩
  have before : ∀ y ∈ (c.update r f).entries,
      ∃ x ∈ c.entries, x.resource = y.resource ∧ x.slot.Grows y.slot := by
    intro y hy
    obtain ⟨l, hl⟩ := mem_entries_iff.mp hy
    rw [level_update h.isPlaced] at hl
    obtain ⟨x, hx, rfl⟩ := List.mem_map.mp hl
    have hmem := mem_entries_iff.mpr ⟨l, hx⟩
    exact ⟨x, hmem, (same x hmem).1.symm, (same x hmem).2⟩
  have hplaced := isPlaced_update h.isPlaced fun e he her => (hf e he her).1
  exact ⟨⟨hplaced.placed, hplaced.unique, owned_of_before h before⟩, before⟩

theorem later_touch (h : c.IsTidy) (r : Resource) (now : Nat) : Later c (c.touch r now) :=
  later_update h fun _ _ _ => ⟨rfl, .refl _⟩

/-- **Putting a circuit back** after operations on it leads to a later cache. -/
theorem later_put (h : c.IsTidy) {circuit : Circuit} (hc : c.circuit? r = some circuit)
    (ops : List Circuit.Op) : Later c (c.put r (circuit.run ops).1) := by
  obtain ⟨x, hx, serial, hr, hs⟩ := exists_of_circuit? h.isPlaced hc
  refine later_update h fun e he her => ?_
  rw [h.isPlaced.eq_of_resource_eq he hx (her.trans hr.symm), hs]
  exact ⟨rfl, .tracking serial circuit ops⟩

theorem level_removeWhere (c : CircuitCache) (gone : CacheEntry → Bool) (l : Level) :
    (c.removeWhere gone).1.level l = (c.level l).filter fun e => !gone e := by
  cases l <;> rfl

theorem mem_removeWhere {gone : CacheEntry → Bool} :
    e ∈ (c.removeWhere gone).1.entries ↔ e ∈ c.entries ∧ gone e = false := by
  simp only [mem_entries_iff, level_removeWhere, List.mem_filter, Bool.not_eq_true', exists_and_right]

/-- A cache stays placed when entries leave it. -/
theorem isPlaced_removeWhere (h : c.IsPlaced) (gone : CacheEntry → Bool) :
    (c.removeWhere gone).1.IsPlaced := by
  refine ⟨fun l e he => ?_, fun l => ?_⟩
  · rw [level_removeWhere] at he
    exact h.placed l e (List.mem_filter.mp he).1
  · rw [level_removeWhere]
    exact (List.filter_sublist.map _).nodup (h.unique l)

/-- **Removing entries** leads to a later cache. -/
theorem later_removeWhere (h : c.IsTidy) (gone : CacheEntry → Bool) :
    Later c (c.removeWhere gone).1 := by
  have before : ∀ y ∈ (c.removeWhere gone).1.entries,
      ∃ x ∈ c.entries, x.resource = y.resource ∧ x.slot.Grows y.slot :=
    fun y hy => ⟨y, (mem_removeWhere.mp hy).1, rfl, .refl _⟩
  have hplaced := isPlaced_removeWhere h.isPlaced gone
  exact ⟨⟨hplaced.placed, hplaced.unique, owned_of_before h before⟩, before⟩

/-- **Nothing of a service is left** once it was removed. -/
theorem key_ne_of_mem_removeService {service : ServiceKey}
    (he : e ∈ (c.removeService service).1.entries) : e.resource.key ≠ service := by
  intro hk
  have hstay : (e.resource.key == service) = false := (mem_removeWhere.mp he).2
  rw [beq_iff_eq.mpr hk] at hstay
  cases hstay

end CircuitCache

end CircuitBreaker
