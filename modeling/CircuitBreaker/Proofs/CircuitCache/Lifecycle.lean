import CircuitBreaker.Proofs.CircuitCache.InPlace

/-!
# `Proofs.CircuitCache.Lifecycle` — a circuit lives exactly while it is in the cache

Circuits are numbered in the order in which they were built. A cache **accounts** for a list of circuits
if each of them is found in it exactly once, by its number, as what became of it: either it is in use and
not destroyed, or it left the tables and is destroyed (`CircuitCache.Accounts`).

There are four ways in which a cache is changed. Circuits are changed in place, an entry is noted as
needed, an entry is added, with the next circuit or with none, and entries are removed. Each of them
keeps the account (`Accounts.mapCircuits`, `Accounts.touch`, `Accounts.insert`, `Accounts.removeWhere`).

## Contents
- `Circuit.RunsOn`: what becomes of a circuit that is not destroyed.
- `CacheEntry.life?`, `lives_eq`: the circuits and their numbers.
- `lives_mapCircuits`, `slots_touch`, `lives_insert_perm`, `serials_removeWhere_perm`: what each of the
  four ways leaves of them.
- `CircuitCache.Accounts`: the account, and what keeps it.
- `Accounts.isDestroyed_iff`, `Accounts.serial_eq`: who lives.
-/

namespace CircuitBreaker

namespace Circuit

/-- What a circuit comes to by operations none of which destroys it. -/
def RunsOn (c d : Circuit) : Prop := ∃ ops : List Op, (∀ op ∈ ops, op ≠ .destroy) ∧ d = (c.run ops).1

theorem RunsOn.refl (c : Circuit) : c.RunsOn c := by
  refine ⟨[], fun op hmem => ?_, rfl⟩
  cases hmem

theorem RunsOn.single (c : Circuit) (op : Op) (h : op ≠ .destroy) : c.RunsOn (c.step op).1 := by
  refine ⟨[op], fun other hmem => ?_, rfl⟩
  rw [List.mem_singleton.mp hmem]
  exact h

/-- **Only destruction destroys.** No edge between phases leads out of use. -/
theorem isDestroyed_step {c : Circuit} (hc : c.isDestroyed = false) {op : Op} (hop : op ≠ .destroy) :
    (c.step op).1.isDestroyed = false := by
  have hlive : c.phase ≠ .destroyed := by simpa [isDestroyed] using hc
  have hnext : (c.step op).1.phase ≠ .destroyed := by
    rcases status_effect (effect_step c op) with hsame | hedge | ⟨hdestroy, -⟩
    · have hphase : (c.step op).1.phase = c.phase := congrArg Status.phase hsame
      rw [hphase]
      exact hlive
    · intro hgone
      rw [hgone] at hedge
      exact Phase.destroyed_not_mem_next _ hedge
    · exact absurd hdestroy hop
  simpa [isDestroyed] using hnext

theorem RunsOn.isDestroyed {c d : Circuit} (h : c.RunsOn d) (hc : c.isDestroyed = false) :
    d.isDestroyed = false := by
  obtain ⟨ops, hops, rfl⟩ := h
  induction ops generalizing c with
  | nil => exact hc
  | cons op rest ih =>
      have hstep := isDestroyed_step hc (hops op List.mem_cons_self)
      exact ih hstep fun other hmem => hops other (List.mem_cons_of_mem op hmem)

theorem isDestroyed_destroy (c : Circuit) : c.destroy.isDestroyed = true := by
  simp [isDestroyed]

end Circuit

/-- The circuit in a slot with its number, if there is one. -/
def Slot.life? : Slot → Option (Nat × Circuit)
  | .notConfigured => none
  | .tracking serial circuit => some (serial, circuit)

/-- The circuit of an entry with its number, if it has one. -/
def CacheEntry.life? (e : CacheEntry) : Option (Nat × Circuit) := e.slot.life?

theorem CacheEntry.life?_eq_some_iff {e : CacheEntry} {serial : Nat} {circuit : Circuit} :
    e.life? = some (serial, circuit) ↔ e.slot = .tracking serial circuit := by
  unfold life? Slot.life?
  cases e.slot <;> simp

theorem CacheEntry.life?_mapCircuit (f : Circuit → Circuit) (e : CacheEntry) :
    (e.mapCircuit f).life? = e.life?.map fun l => (l.1, f l.2) := by
  unfold life? mapCircuit Slot.mapCircuit
  cases e.slot <;> rfl

namespace CircuitCache

/-! ## The circuits of a cache -/

/-- The circuits are those in use and those that left. -/
theorem lives_eq (c : CircuitCache) : c.lives = c.entries.filterMap CacheEntry.life? ++ c.retired :=
  rfl

/-- Which circuits there are depends on the slots of the entries and on what left. -/
theorem lives_congr {c d : CircuitCache}
    (hslots : d.entries.map (fun e => e.slot) = c.entries.map fun e => e.slot)
    (hretired : d.retired = c.retired) : d.lives = c.lives := by
  have hlife : ∀ es : List CacheEntry,
      es.filterMap CacheEntry.life? = (es.map fun e => e.slot).filterMap Slot.life? := by
    intro es
    rw [List.filterMap_map]
    rfl
  rw [lives_eq, lives_eq, hretired, hlife, hlife, hslots]

/-- Circuits that are changed in place keep their numbers, and those that left stay as they are. -/
theorem lives_mapCircuits (c : CircuitCache) (f : Resource → Circuit → Circuit) :
    (c.mapCircuits f).lives =
      c.entries.filterMap (fun e => e.life?.map fun l => (l.1, f e.resource l.2)) ++ c.retired := by
  rw [lives_eq, entries_mapCircuits, List.filterMap_map]
  refine congrArg (· ++ c.retired) (List.filterMap_congr fun e _ => ?_)
  exact CacheEntry.life?_mapCircuit (f e.resource) e

/-- No slot changes when a resource is noted as needed. -/
theorem slots_touch {c : CircuitCache} (h : c.IsPlaced) (r : Resource) (now : Nat) :
    (c.touch r now).entries.map (fun e => e.slot) = c.entries.map fun e => e.slot := by
  have hlevel : ∀ l, ((c.touch r now).level l).map (fun e => e.slot) =
      (c.level l).map fun e => e.slot := by
    intro l
    rw [touch, level_update h, List.map_map]
    refine List.map_congr_left fun e _ => ?_
    simp only [Function.comp_apply]
    split <;> rfl
  have hs := hlevel .service
  have hm := hlevel .method
  have he := hlevel .endpoint
  simp only [level] at hs hm he
  simp only [entries, List.map_append, hs, hm, he]

theorem retired_touch (c : CircuitCache) (r : Resource) (now : Nat) :
    (c.touch r now).retired = c.retired := by
  unfold touch update
  cases r <;> rfl

theorem built_touch (c : CircuitCache) (r : Resource) (now : Nat) :
    (c.touch r now).built = c.built := by
  unfold touch update
  cases r <;> rfl

/-- The circuits that leave are destroyed, and keep their numbers. -/
theorem retire_eq (es : List CacheEntry) :
    retire es = (es.filterMap CacheEntry.life?).map fun l => (l.1, l.2.destroy) := by
  unfold retire
  rw [List.map_filterMap]
  refine List.filterMap_congr fun e _ => ?_
  unfold CacheEntry.life?
  cases e.slot <;> rfl

theorem retired_removeWhere (c : CircuitCache) (gone : CacheEntry → Bool) :
    (c.removeWhere gone).1.retired = c.retired ++ retire (c.entries.filter gone) :=
  rfl

theorem entries_removeWhere (c : CircuitCache) (gone : CacheEntry → Bool) :
    (c.removeWhere gone).1.entries = c.entries.filter fun e => !gone e := by
  unfold entries removeWhere
  simp only [List.filter_append]

/-- A new entry comes at the end of its table, so somewhere among the entries. -/
theorem entries_insert_perm (c : CircuitCache) (r : Resource) (now : Nat) (made : Option Circuit) :
    (c.insert r now made).entries.Perm (c.added r now made :: c.entries) := by
  have hlevel := c.level_insert r now made
  have hs : (c.insert r now made).services = (c.insert r now made).level .service := rfl
  have hm : (c.insert r now made).methods = (c.insert r now made).level .method := rfl
  have he : (c.insert r now made).endpoints = (c.insert r now made).level .endpoint := rfl
  unfold entries
  rw [hs, hm, he, hlevel, hlevel, hlevel]
  cases hl : r.level with
  | service =>
      simp only [reduceCtorEq, ↓reduceIte, List.append_assoc, List.singleton_append]
      exact List.perm_middle
  | method =>
      simp only [reduceCtorEq, ↓reduceIte, List.append_assoc, List.singleton_append]
      rw [← List.append_assoc]
      exact List.perm_middle.trans (by rw [List.append_assoc]; exact List.Perm.refl _)
  | endpoint =>
      simp only [reduceCtorEq, ↓reduceIte, List.append_assoc, level]
      rw [← List.append_assoc, ← List.append_assoc, ← List.append_assoc]
      exact List.perm_append_singleton _ _

theorem built_insert (c : CircuitCache) (r : Resource) (now : Nat) (made : Option Circuit) :
    (c.insert r now made).built = c.built + made.toList.length := by
  cases made with
  | none => cases r <;> rfl
  | some circuit => rfl

theorem retired_insert (c : CircuitCache) (r : Resource) (now : Nat) (made : Option Circuit) :
    (c.insert r now made).retired = c.retired := by
  cases made <;> cases r <;> rfl

/-- Adding an entry adds its circuit under the next number, if it has one. -/
theorem lives_insert_perm (c : CircuitCache) (r : Resource) (now : Nat) (made : Option Circuit) :
    (c.insert r now made).lives.Perm ((made.map fun x => (c.built, x)).toList ++ c.lives) := by
  have hnew : (c.added r now made).life? = made.map fun x => (c.built, x) := by
    cases made <;> rfl
  have hentries := (c.entries_insert_perm r now made).filterMap CacheEntry.life?
  rw [List.filterMap_cons, hnew] at hentries
  rw [lives_eq, lives_eq, retired_insert, ← List.append_assoc]
  refine List.Perm.append_right _ ?_
  cases made with
  | none => exact hentries
  | some x => exact hentries

/-- The numbers of the circuits of some entries. -/
def serialsOf (es : List CacheEntry) : List Nat := (es.filterMap CacheEntry.life?).map fun l => l.1

theorem serials_eq (c : CircuitCache) :
    (c.lives.map fun l => l.1) = serialsOf c.entries ++ c.retired.map fun l => l.1 := by
  rw [lives_eq, List.map_append]
  rfl

/-- Circuits that leave keep their numbers. -/
theorem serials_retire (es : List CacheEntry) : ((retire es).map fun l => l.1) = serialsOf es := by
  rw [retire_eq, List.map_map]
  rfl

theorem serialsOf_append (es fs : List CacheEntry) :
    serialsOf (es ++ fs) = serialsOf es ++ serialsOf fs := by
  unfold serialsOf
  rw [List.filterMap_append, List.map_append]

theorem serialsOf_perm {es fs : List CacheEntry} (h : es.Perm fs) :
    (serialsOf es).Perm (serialsOf fs) := (h.filterMap _).map _

/-- **Removing entries drops no number**: what stays and what leaves are all of the entries. -/
theorem serials_removeWhere_perm (c : CircuitCache) (gone : CacheEntry → Bool) :
    ((c.removeWhere gone).1.lives.map fun l => l.1).Perm (c.lives.map fun l => l.1) := by
  let stay := c.entries.filter fun e => !gone e
  let leave := c.entries.filter gone
  let before := c.retired.map fun l => l.1
  have hsplit : (stay ++ leave).Perm c.entries :=
    List.perm_append_comm.trans (List.filter_append_perm gone c.entries)
  calc
    List.Perm _ (serialsOf stay ++ (before ++ serialsOf leave)) := by
      rw [serials_eq, entries_removeWhere, retired_removeWhere, List.map_append, serials_retire]
    List.Perm _ (serialsOf stay ++ (serialsOf leave ++ before)) :=
      List.perm_append_comm.append_left _
    List.Perm _ (serialsOf (stay ++ leave) ++ before) := by
      rw [serialsOf_append, List.append_assoc]
    List.Perm _ (serialsOf c.entries ++ before) := (serialsOf_perm hsplit).append_right _
    List.Perm _ (c.lives.map fun l => l.1) := by rw [serials_eq]

/-! ## The account -/

/-- **The cache accounts for some circuits**, given as they were when they were built. -/
structure Accounts (c : CircuitCache) (births : List Circuit) : Prop where
  tidy : c.IsTidy
  built : c.built = births.length
  /-- Each number is there once. -/
  serials : (c.lives.map fun l => l.1).Perm (List.range births.length)
  /-- Each circuit is what became of the one with its number. -/
  origin : ∀ l ∈ c.lives, ∃ birth ops, births[l.1]? = some birth ∧ l.2 = (birth.run ops).1
  /-- What is in use is not destroyed. -/
  inUse : ∀ e ∈ c.entries, ∀ circuit, e.slot.circuit? = some circuit → circuit.isDestroyed = false
  /-- What left is destroyed. -/
  left : ∀ l ∈ c.retired, l.2.isDestroyed = true

theorem accounts_empty : ({} : CircuitCache).Accounts [] where
  tidy := isTidy_empty
  built := rfl
  serials := List.Perm.refl _
  origin := fun l hl => by cases hl
  inUse := fun e he => by cases he
  left := fun l hl => by cases hl

namespace Accounts

variable {c : CircuitCache} {births : List Circuit} {r : Resource}

/-- What is in use, as it is found among all circuits. -/
theorem mem_lives {e : CacheEntry} (he : e ∈ c.entries) {serial : Nat} {circuit : Circuit}
    (hs : e.slot = .tracking serial circuit) : (serial, circuit) ∈ c.lives := by
  rw [lives_eq]
  exact List.mem_append_left _
    (List.mem_filterMap.mpr ⟨e, he, CacheEntry.life?_eq_some_iff.mpr hs⟩)

/-- A circuit is in use, or it left. -/
theorem mem_lives_cases {serial : Nat} {circuit : Circuit} (hl : (serial, circuit) ∈ c.lives) :
    (∃ e ∈ c.entries, e.slot = .tracking serial circuit) ∨ (serial, circuit) ∈ c.retired := by
  rw [lives_eq] at hl
  rcases List.mem_append.mp hl with hl | hl
  · obtain ⟨e, he, hlife⟩ := List.mem_filterMap.mp hl
    exact Or.inl ⟨e, he, CacheEntry.life?_eq_some_iff.mp hlife⟩
  · exact Or.inr hl

/-- **Circuits that run on where they stand** stay accounted for. -/
theorem mapCircuits (h : c.Accounts births) {f : Resource → Circuit → Circuit}
    (hf : ∀ r x, c.circuit? r = some x → x.RunsOn (f r x)) :
    (c.mapCircuits f).Accounts births := by
  -- Every circuit afterwards is one from before that ran on, under the same number.
  have hrun : ∀ e ∈ c.entries, ∀ x, e.slot.circuit? = some x → x.RunsOn (f e.resource x) :=
    fun e he x hx => hf e.resource x ((circuit?_of_mem h.tidy.isPlaced he).trans hx)
  have hlives := c.lives_mapCircuits f
  constructor
  case tidy =>
    refine isTidy_mapCircuits h.tidy fun r x hx => ?_
    obtain ⟨ops, -, hops⟩ := hf r x hx
    rw [hops]
    exact Circuit.resource_run x ops
  case built => exact h.built
  case serials =>
    have hsame : ((c.mapCircuits f).lives.map fun l => l.1) = c.lives.map fun l => l.1 := by
      rw [hlives, lives_eq, List.map_append, List.map_append, List.map_filterMap,
        List.map_filterMap]
      refine congrArg (· ++ _) (List.filterMap_congr fun e _ => ?_)
      rw [Option.map_map]
      rfl
    rw [hsame]
    exact h.serials
  case origin =>
    intro l hl
    rw [hlives] at hl
    rcases List.mem_append.mp hl with hl | hl
    · obtain ⟨e, he, hlife⟩ := List.mem_filterMap.mp hl
      obtain ⟨⟨serial, x⟩, hx, rfl⟩ := Option.map_eq_some_iff.mp hlife
      have hslot := CacheEntry.life?_eq_some_iff.mp hx
      -- What became of it so far goes on with what is done to it now.
      obtain ⟨birth, ops, hbirth, hops⟩ := h.origin _ (mem_lives he hslot)
      obtain ⟨more, -, hmore⟩ := hrun e he x (by rw [hslot]; rfl)
      refine ⟨birth, ops ++ more, hbirth, ?_⟩
      have hx : x = (birth.run ops).1 := hops
      rw [hmore, hx, Circuit.run_append]
    · exact h.origin l (lives_eq c ▸ List.mem_append_right _ hl)
  case inUse =>
    intro e he circuit hcircuit
    rw [entries_mapCircuits] at he
    obtain ⟨x, hx, rfl⟩ := List.mem_map.mp he
    obtain ⟨d, hd, rfl⟩ :=
      Option.map_eq_some_iff.mp ((Slot.circuit?_mapCircuit _ _).symm.trans hcircuit)
    exact (hrun x hx d hd).isDestroyed (h.inUse x hx d hd)
  case left => exact h.left

/-- Changing the circuits of some resources. -/
theorem mapCircuits_onAll (h : c.Accounts births) (rs : List Resource) {f : Circuit → Circuit}
    (hf : ∀ x : Circuit, x.RunsOn (f x)) : (c.mapCircuits (onAll rs f)).Accounts births := by
  refine h.mapCircuits fun r x _ => ?_
  unfold onAll
  split
  · exact hf x
  · exact .refl x

/-- **Noting that a resource was needed** is nothing to its circuit. -/
theorem touch (h : c.Accounts births) (r : Resource) (now : Nat) :
    (c.touch r now).Accounts births := by
  have hslots := slots_touch h.tidy.isPlaced r now
  have hlives : (c.touch r now).lives = c.lives := lives_congr hslots (c.retired_touch r now)
  constructor
  case tidy => exact (later_touch h.tidy r now).isTidy
  case built => rw [built_touch, h.built]
  case serials => rw [hlives]; exact h.serials
  case origin => rw [hlives]; exact h.origin
  case inUse =>
    intro e he circuit hcircuit
    have hmem : e.slot ∈ c.entries.map fun e => e.slot := by
      rw [← hslots]
      exact List.mem_map_of_mem he
    obtain ⟨x, hx, hxe⟩ := List.mem_map.mp hmem
    exact h.inUse x hx circuit (by rw [hxe]; exact hcircuit)
  case left => rw [retired_touch]; exact h.left

/-- **A new entry** has the next circuit, or none. -/
theorem insert (h : c.Accounts births) (habsent : c.find? r = none) (now : Nat)
    {made : Option Circuit} (hresource : ∀ x ∈ made, x.resource = r)
    (hlive : ∀ x ∈ made, x.isDestroyed = false) :
    (c.insert r now made).Accounts (births ++ made.toList) := by
  have hentries := c.entries_insert_perm r now made
  have hlives := c.lives_insert_perm r now made
  rw [h.built] at hlives
  constructor
  case tidy => exact isTidy_insert h.tidy habsent hresource
  case built => rw [built_insert, h.built, List.length_append]
  case serials =>
    refine (hlives.map _).trans ?_
    rw [List.map_append]
    cases made with
    | none => simpa using h.serials
    | some x =>
        -- The new number is the last of the longer range.
        simp only [Option.map_some, Option.toList_some, List.map_cons, List.map_nil,
          List.singleton_append, List.length_append, List.length_singleton, List.range_succ]
        exact (h.serials.cons _).trans (List.perm_append_singleton _ _).symm
  case origin =>
    intro l hl
    rcases List.mem_append.mp (hlives.mem_iff.mp hl) with hl | hl
    · obtain ⟨x, hx, rfl⟩ := Option.map_eq_some_iff.mp (Option.mem_toList.mp hl)
      refine ⟨x, [], ?_, rfl⟩
      rw [hx]
      simp
    · obtain ⟨birth, ops, hbirth, hops⟩ := h.origin l hl
      refine ⟨birth, ops, ?_, hops⟩
      rw [List.getElem?_append_left (List.getElem?_eq_some_iff.mp hbirth).1]
      exact hbirth
  case inUse =>
    intro e he circuit hcircuit
    rcases List.mem_cons.mp (hentries.mem_iff.mp he) with rfl | he
    · cases made with
      | none => cases hcircuit
      | some x => cases hcircuit; exact hlive _ rfl
    · exact h.inUse e he circuit hcircuit
  case left => rw [retired_insert]; exact h.left

/-- **Removing entries** destroys the circuits in them, and no others. -/
theorem removeWhere (h : c.Accounts births) (gone : CacheEntry → Bool) :
    (c.removeWhere gone).1.Accounts births := by
  constructor
  case tidy => exact (later_removeWhere h.tidy gone).isTidy
  case built => exact h.built
  case serials => exact (c.serials_removeWhere_perm gone).trans h.serials
  case origin =>
    intro l hl
    rw [lives_eq, entries_removeWhere, retired_removeWhere] at hl
    rcases List.mem_append.mp hl with hl | hl
    · obtain ⟨e, he, hlife⟩ := List.mem_filterMap.mp hl
      refine h.origin l ?_
      exact mem_lives (List.mem_filter.mp he).1 (CacheEntry.life?_eq_some_iff.mp hlife)
    · rcases List.mem_append.mp hl with hl | hl
      · exact h.origin l (lives_eq c ▸ List.mem_append_right _ hl)
      · rw [retire_eq] at hl
        obtain ⟨⟨serial, x⟩, hx, rfl⟩ := List.mem_map.mp hl
        obtain ⟨e, he, hlife⟩ := List.mem_filterMap.mp hx
        have hslot := CacheEntry.life?_eq_some_iff.mp hlife
        obtain ⟨birth, ops, hbirth, hops⟩ := h.origin _ (mem_lives (List.mem_filter.mp he).1 hslot)
        refine ⟨birth, ops ++ [.destroy], hbirth, ?_⟩
        have hx : x = (birth.run ops).1 := hops
        rw [Circuit.run_append, ← hx]
        rfl
  case inUse =>
    intro e he circuit hcircuit
    exact h.inUse e (mem_removeWhere.mp he).1 circuit hcircuit
  case left =>
    intro l hl
    rw [retired_removeWhere] at hl
    rcases List.mem_append.mp hl with hl | hl
    · exact h.left l hl
    · rw [retire_eq] at hl
      obtain ⟨x, -, rfl⟩ := List.mem_map.mp hl
      exact Circuit.isDestroyed_destroy x.2

/-! ## Who lives -/

/-- Each number belongs to one circuit. -/
theorem eq_of_mem_lives (h : c.Accounts births) {serial : Nat} {x y : Circuit}
    (hx : (serial, x) ∈ c.lives) (hy : (serial, y) ∈ c.lives) : x = y := by
  have hnodup : (c.lives.map fun l => l.1).Nodup := h.serials.nodup_iff.mpr List.nodup_range
  have heq := List.inj_on_of_nodup_map hnodup hx hy rfl
  exact congrArg Prod.snd heq

/-- **A circuit is destroyed exactly if no entry holds it.** -/
theorem isDestroyed_iff (h : c.Accounts births) {serial : Nat} {x : Circuit}
    (hx : (serial, x) ∈ c.lives) :
    x.isDestroyed = true ↔ ∀ e ∈ c.entries, ∀ y, e.slot ≠ .tracking serial y := by
  constructor
  · intro hdestroyed e he y hslot
    have hsame := h.eq_of_mem_lives hx (mem_lives he hslot)
    have hlive : y.isDestroyed = false := h.inUse e he y (by rw [hslot]; rfl)
    rw [← hsame, hdestroyed] at hlive
    cases hlive
  · intro hnone
    rcases mem_lives_cases hx with ⟨e, he, hslot⟩ | hleft
    · exact absurd hslot (hnone e he x)
    · exact h.left _ hleft

/-- **No two circuits of one resource live at a time.** -/
theorem serial_eq (h : c.Accounts births) {m n : Nat} {x y : Circuit} (hx : (m, x) ∈ c.lives)
    (hy : (n, y) ∈ c.lives) (hxlive : x.isDestroyed = false) (hylive : y.isDestroyed = false)
    (hr : x.resource = y.resource) : m = n := by
  have inUse {k : Nat} {z : Circuit} (hz : (k, z) ∈ c.lives) (hlive : z.isDestroyed = false) :
      ∃ e ∈ c.entries, e.slot = .tracking k z ∧ e.resource = z.resource := by
    rcases mem_lives_cases hz with ⟨e, he, hslot⟩ | hleft
    · exact ⟨e, he, hslot, (h.tidy.owned e he z (by rw [hslot]; rfl)).symm⟩
    · rw [h.left _ hleft] at hlive
      cases hlive
  obtain ⟨a, ha, haslot, har⟩ := inUse hx hxlive
  obtain ⟨b, hb, hbslot, hbr⟩ := inUse hy hylive
  have hsame : a = b := h.tidy.isPlaced.eq_of_resource_eq ha hb (har.trans (hr.trans hbr.symm))
  rw [hsame, hbslot] at haslot
  injection haslot with hserial
  exact hserial.symm

end Accounts

end CircuitCache

end CircuitBreaker
