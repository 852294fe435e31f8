import Mathlib.Data.Finset.Card
import CircuitBreaker.CircuitCache.Run
import CircuitBreaker.Proofs.CircuitCache.Lifecycle

/-!
# `Proofs.CircuitCache.OneMap` — three tables that are one finite map

A cache keeps its entries in one table for each level, in the order in which they came. Seen from
outside it is one finite map, from resources to what is known about them and when they were last needed
(`ResourceMap`). The operations on the map say what is meant: a new resource gets a value, a known one a
later time, and whatever is removed is removed by its resource and time alone, without regard to tables
and to whether there is a circuit.

A cache **represents** a map if what is found for a resource is what the map holds of it
(`Represents`). Each operation keeps this and gives the answer that the map gives (`represents_step`),
and so does every run (`represents_run`). Sizes and the list of circuits are read off a cache that
represents a map (`Represents.size_eq`, `Represents.listsOnce`).

## Contents
- `Held`, `ResourceMap`: the map, with `set`, `without`, `fetch`, `step` and `run`.
- `IsPlaced.nodup_resources`, `length_eq_card`: counting entries.
- `Represents`: the relation, what it says about sizes, and what keeps it.
- `behaves_as_one_map`: every run from the empty cache.
-/

namespace CircuitBreaker

/-! ## The map -/

/-- What a map holds of a resource. -/
structure Held where
  slot : Slot
  /-- The latest time at which the resource was needed. -/
  lastAccess : Nat

/-- What an entry says about its resource. -/
def CacheEntry.held (e : CacheEntry) : Held := { slot := e.slot, lastAccess := e.lastAccess }

/-- **A finite map** from resources to what is known about them. -/
structure ResourceMap where
  keys : Finset Resource
  value? : Resource → Option Held
  mem_keys : ∀ r, r ∈ keys ↔ (value? r).isSome
  /-- How many circuits were built. -/
  built : Nat

namespace ResourceMap

/-- The map that holds nothing. -/
def empty : ResourceMap where
  keys := ∅
  value? _ := none
  mem_keys _ := by simp
  built := 0

/-- The map with another value for one resource. -/
def set (m : ResourceMap) (r : Resource) (h : Held) : ResourceMap where
  keys := insert r m.keys
  value? := Function.update m.value? r (some h)
  mem_keys s := by
    by_cases hs : s = r
    · simp [hs]
    · simp [hs, m.mem_keys]
  built := m.built

/-- The map without the resources that a condition holds of. -/
def without (m : ResourceMap) (gone : Resource → Held → Bool) : ResourceMap where
  keys := m.keys.filter fun r => (m.value? r).all fun h => !gone r h
  value? r := (m.value? r).filter fun h => !gone r h
  mem_keys r := by
    cases hr : m.value? r with
    | none => simp [m.mem_keys, hr]
    | some h => simp [m.mem_keys, hr]
  built := m.built

/-- How many resources are left out. -/
def dropped (m : ResourceMap) (gone : Resource → Held → Bool) : Nat :=
  (m.keys \ (m.without gone).keys).card

/-- Whether the resource belongs to a service. -/
def belongs (service : ServiceKey) (r : Resource) (_ : Held) : Bool := r.key == service

/-- Whether more than `ttl` milliseconds went by since the resource was last needed. The difference of
    the times is negative where the resource was needed later. -/
def isIdle (now ttl : Nat) (_ : Resource) (h : Held) : Bool :=
  decide ((now : Int) - h.lastAccess > ttl)

/-- What is known about a resource is found, and made only if nothing is known. -/
def fetch {σ : Type} (m : ResourceMap) (r : Resource) (now : Nat) (make : σ → Option Circuit × σ)
    (s : σ) : ResourceMap × σ × CircuitCache.Answer :=
  match m.value? r with
  | some h =>
      (m.set r { h with lastAccess := max h.lastAccess now }, s, .fetched false (some h.slot))
  | none =>
      let slot := Slot.ofCircuit? m.built (make s).1
      let built := m.built + (make s).1.toList.length
      ({ m.set r { slot := slot, lastAccess := now } with built := built }, (make s).2,
        .fetched true (some slot))

/-- One operation on the map. -/
def step {σ : Type} (m : ResourceMap) (s : σ) :
    CircuitCache.Op σ → ResourceMap × σ × CircuitCache.Answer
  | .fetch r now make => m.fetch r now make s
  | .get r => (m, s, .found ((m.value? r).map Held.slot))
  | .removeService service =>
      (m.without (belongs service), s, .removed (m.dropped (belongs service)))
  | .expire now ttl => (m.without (isIdle now ttl), s, .removed (m.dropped (isIdle now ttl)))
  | .clear => (m.without fun _ _ => true, s, .nothing)

/-- Operations one after the other, with the answer to each. -/
def run {σ : Type} (m : ResourceMap) (s : σ) :
    List (CircuitCache.Op σ) → ResourceMap × σ × List CircuitCache.Answer
  | [] => (m, s, [])
  | op :: rest =>
      let (m, s, answer) := m.step s op
      let (m, s, answers) := m.run s rest
      (m, s, answer :: answers)

/-- **A list names each circuit of the map once**: its circuits have different numbers, and they are
    those that are held of the resources. -/
def ListsOnce (m : ResourceMap) (circuits : List Circuit) : Prop :=
  ∃ lives : List (Nat × Circuit), circuits = lives.map Prod.snd ∧ (lives.map Prod.fst).Nodup ∧
    ∀ l, l ∈ lives ↔ ∃ r h, m.value? r = some h ∧ h.slot.life? = some l

end ResourceMap

namespace CircuitCache

/-! ## Counting entries -/

section Counting

variable {c : CircuitCache}

/-- In a placed cache no resource has two entries, in whatever tables. -/
theorem IsPlaced.nodup_resources (h : c.IsPlaced) :
    (c.entries.map fun e => e.resource).Nodup := by
  -- Tables of different levels have no resource in common.
  have apart {k l : Level} (hkl : k ≠ l) : ∀ a ∈ (c.level k).map fun e => e.resource,
      ∀ b ∈ (c.level l).map fun e => e.resource, a ≠ b := by
    intro a ha b hb hab
    obtain ⟨x, hx, rfl⟩ := List.mem_map.mp ha
    obtain ⟨y, hy, rfl⟩ := List.mem_map.mp hb
    apply hkl
    rw [← h.placed k x hx, ← h.placed l y hy, hab]
  have hservices := h.unique .service
  have hmethods := h.unique .method
  have hendpoints := h.unique .endpoint
  unfold entries
  rw [List.map_append, List.map_append, List.nodup_append, List.nodup_append]
  refine ⟨⟨hservices, hmethods, apart (k := .service) (l := .method) (by decide)⟩, hendpoints, ?_⟩
  intro a ha b hb
  rcases List.mem_append.mp ha with ha | ha
  · exact apart (k := .service) (l := .endpoint) (by decide) a ha b hb
  · exact apart (k := .method) (l := .endpoint) (by decide) a ha b hb

/-- Entries of different resources are as many as their resources. -/
theorem length_eq_card {es : List CacheEntry} {rs : Finset Resource}
    (hnodup : (es.map fun e => e.resource).Nodup)
    (hmem : ∀ r, r ∈ rs ↔ ∃ e ∈ es, e.resource = r) : es.length = rs.card := by
  have hsame : rs = (es.map fun e => e.resource).toFinset := by
    ext r
    rw [hmem, List.mem_toFinset, List.mem_map]
  rw [hsame, List.toFinset_card_of_nodup hnodup, List.length_map]

theorem size_eq_length (c : CircuitCache) : c.size = c.entries.length := by
  unfold size entries
  rw [List.length_append, List.length_append]

theorem tracked_eq (c : CircuitCache) :
    c.tracked = (c.entries.filterMap CacheEntry.life?).map Prod.snd := by
  unfold tracked
  rw [List.map_filterMap]
  refine List.filterMap_congr fun e _ => ?_
  unfold CacheEntry.life?
  cases e.slot <;> rfl

theorem serialsOf_touch (h : c.IsPlaced) (r : Resource) (now : Nat) :
    serialsOf (c.touch r now).entries = serialsOf c.entries := by
  have hlives (es : List CacheEntry) :
      es.filterMap CacheEntry.life? = (es.map fun e => e.slot).filterMap Slot.life? := by
    rw [List.filterMap_map]
    rfl
  unfold serialsOf
  rw [hlives, hlives, slots_touch h]

end Counting

/-! ## The relation -/

/-- **A cache represents a map** if what is found for a resource is what the map holds of it, in a cache
    whose circuits are told apart by their numbers. -/
structure Represents (m : ResourceMap) (c : CircuitCache) : Prop where
  isPlaced : c.IsPlaced
  value : ∀ r, m.value? r = (c.find? r).map CacheEntry.held
  built : m.built = c.built
  serials : (serialsOf c.entries).Nodup
  /-- The next number is a new one. -/
  fresh : ∀ n ∈ serialsOf c.entries, n < c.built

theorem represents_empty : Represents .empty {} where
  isPlaced := isTidy_empty.isPlaced
  value r := by cases r <;> rfl
  built := rfl
  serials := List.nodup_nil
  fresh n hn := by cases hn

namespace Represents

variable {m : ResourceMap} {c : CircuitCache} {r : Resource} {now : Nat}

theorem slot?_eq (h : Represents m c) (r : Resource) : c.slot? r = (m.value? r).map Held.slot := by
  rw [h.value, Option.map_map]
  rfl

/-! ## What is read off a cache -/

theorem mem_keys (h : Represents m c) : r ∈ m.keys ↔ ∃ e ∈ c.entries, e.resource = r := by
  rw [m.mem_keys, h.value, Option.isSome_map, Option.isSome_iff_exists]
  exact exists_congr fun e => find?_eq_some_iff h.isPlaced

/-- An entry says what the map holds of its resource. -/
theorem value_of_mem (h : Represents m c) {e : CacheEntry} (he : e ∈ c.entries) :
    m.value? e.resource = some e.held := by
  rw [h.value, (find?_eq_some_iff h.isPlaced).mpr ⟨he, rfl⟩]
  rfl

/-- **The size is the number of resources.** -/
theorem size_eq (h : Represents m c) : c.size = m.keys.card := by
  rw [size_eq_length]
  exact length_eq_card h.isPlaced.nodup_resources fun r => h.mem_keys

/-- The table of a level holds the resources of the level. -/
theorem length_level (h : Represents m c) (l : Level) :
    (c.level l).length = (m.keys.filter fun r => r.level = l).card := by
  refine length_eq_card (h.isPlaced.unique l) fun r => ?_
  rw [Finset.mem_filter, h.mem_keys]
  constructor
  · rintro ⟨⟨e, he, rfl⟩, rfl⟩
    exact ⟨e, h.isPlaced.mem_level he, rfl⟩
  · rintro ⟨e, he, rfl⟩
    exact ⟨⟨e, mem_entries_iff.mpr ⟨l, he⟩, rfl⟩, h.isPlaced.placed l e he⟩

/-- **The circuits in use are listed once each.** -/
theorem listsOnce (h : Represents m c) : m.ListsOnce c.tracked := by
  refine ⟨c.entries.filterMap CacheEntry.life?, tracked_eq c, h.serials, fun l => ?_⟩
  rw [List.mem_filterMap]
  constructor
  · rintro ⟨e, he, hl⟩
    exact ⟨e.resource, e.held, h.value_of_mem he, hl⟩
  · rintro ⟨r, held, hr, hl⟩
    rw [h.value] at hr
    obtain ⟨e, hfind, rfl⟩ := Option.map_eq_some_iff.mp hr
    exact ⟨e, (mem_of_find? hfind).1, hl⟩

/-! ## What keeps the relation -/

/-- **A resource that is known** is held with the later of the two times. -/
theorem touch (h : Represents m c) {e : CacheEntry} (hfind : c.find? r = some e) (now : Nat) :
    Represents (m.set r { e.held with lastAccess := max e.lastAccess now }) (c.touch r now) where
  isPlaced := isPlaced_update h.isPlaced fun _ _ _ => rfl
  value s := by
    rw [find?_touch h.isPlaced]
    show Function.update m.value? r _ s = _
    by_cases hs : s = r
    · subst hs
      rw [Function.update_self, if_pos rfl, hfind]
      rfl
    · rw [Function.update_of_ne hs, if_neg hs, h.value]
  built := h.built.trans (c.built_touch r now).symm
  serials := by
    rw [serialsOf_touch h.isPlaced]
    exact h.serials
  fresh n hn := by
    rw [serialsOf_touch h.isPlaced] at hn
    rw [built_touch]
    exact h.fresh n hn

/-- **A resource that is new** is held with what was made for it, under the next number. -/
theorem insert (h : Represents m c) (habsent : c.find? r = none) (now : Nat)
    (made : Option Circuit) :
    Represents
      { m.set r { slot := .ofCircuit? m.built made, lastAccess := now } with
        built := m.built + made.toList.length }
      (c.insert r now made) where
  isPlaced := isPlaced_insert h.isPlaced habsent
  value s := by
    rw [find?_insert habsent]
    show Function.update m.value? r _ s = _
    by_cases hs : s = r
    · rw [hs, Function.update_self, if_pos rfl, h.built]
      rfl
    · rw [Function.update_of_ne hs, if_neg hs, h.value]
  built := by
    rw [built_insert, ← h.built]
  serials := by
    refine (serialsOf_perm (c.entries_insert_perm r now made)).nodup_iff.mpr ?_
    cases made with
    | none => exact h.serials
    | some x =>
        -- the number of the new circuit is larger than those in use
        show (c.built :: serialsOf c.entries).Nodup
        refine List.nodup_cons.mpr ⟨fun hmem => ?_, h.serials⟩
        exact absurd (h.fresh _ hmem) (Nat.lt_irrefl _)
  fresh n hn := by
    have hn := (serialsOf_perm (c.entries_insert_perm r now made)).mem_iff.mp hn
    rw [built_insert]
    cases made with
    | none => exact h.fresh n hn
    | some x =>
        rcases List.mem_cons.mp hn with rfl | hn
        · exact Nat.lt_succ_self _
        · exact Nat.lt_succ_of_lt (h.fresh n hn)

section Remove

variable {gone : CacheEntry → Bool} {left : Resource → Held → Bool}

/-- **What leaves the cache leaves the map**, where both look at resource, value and time only. -/
theorem removeWhere (h : Represents m c) (hleft : ∀ e, gone e = left e.resource e.held) :
    Represents (m.without left) (c.removeWhere gone).1 where
  isPlaced := isPlaced_removeWhere h.isPlaced gone
  value r := by
    rw [find?_removeWhere h.isPlaced]
    show (m.value? r).filter _ = _
    rw [h.value]
    cases hfind : c.find? r with
    | none => rfl
    | some e =>
        have hr : e.resource = r := (mem_of_find? hfind).2
        simp only [Option.map_some, Option.filter_some, hleft, hr]
        split <;> rfl
  built := h.built
  serials := by
    rw [entries_removeWhere]
    exact ((List.filter_sublist.filterMap _).map _).nodup h.serials
  fresh n hn := by
    rw [entries_removeWhere] at hn
    exact h.fresh n (((List.filter_sublist.filterMap _).map _).subset hn)

/-- **What is counted as removed** is what is no longer there. -/
theorem count_removeWhere (h : Represents m c) (hleft : ∀ e, gone e = left e.resource e.held) :
    (c.removeWhere gone).2 = m.dropped left := by
  have hrest := h.removeWhere hleft
  have hnodup : ((c.entries.filter gone).map fun e => e.resource).Nodup :=
    (List.filter_sublist.map _).nodup h.isPlaced.nodup_resources
  show (c.entries.filter gone).length = _
  refine length_eq_card hnodup fun r => ?_
  rw [Finset.mem_sdiff, h.mem_keys, hrest.mem_keys]
  constructor
  · rintro ⟨⟨e, he, rfl⟩, hout⟩
    cases hgone : gone e with
    | true => exact ⟨e, List.mem_filter.mpr ⟨he, hgone⟩, rfl⟩
    | false => exact absurd ⟨e, mem_removeWhere.mpr ⟨he, hgone⟩, rfl⟩ hout
  · rintro ⟨e, he, rfl⟩
    obtain ⟨he, hgone⟩ := List.mem_filter.mp he
    refine ⟨⟨e, he, rfl⟩, ?_⟩
    rintro ⟨x, hx, hxe⟩
    obtain ⟨hx, hstay⟩ := mem_removeWhere.mp hx
    -- the resource has one entry only, which cannot both leave and stay
    rw [h.isPlaced.eq_of_resource_eq hx he hxe, hgone] at hstay
    cases hstay

end Remove

/-- An access time that is far enough back in unsigned arithmetic is so in the integers. -/
theorem isIdle_eq (now ttl : Nat) (e : CacheEntry) :
    decide (ttl < now - e.lastAccess) = ResourceMap.isIdle now ttl e.resource e.held := by
  refine decide_eq_decide.mpr ?_
  show ttl < now - e.lastAccess ↔ (now : Int) - e.lastAccess > ttl
  omega

end Represents

/-! ## Runs -/

section Runs

variable {σ : Type} {m : ResourceMap} {c : CircuitCache}

/-- A fetch does to the cache, and answers, what it does to the map and answers there. -/
theorem represents_fetch (h : Represents m c) (r : Resource) (now : Nat)
    (make : σ → Option Circuit × σ) (s : σ) :
    Represents (m.fetch r now make s).1 (c.step s (.fetch r now make)).1 ∧
      (c.step s (.fetch r now make)).2 = (m.fetch r now make s).2 := by
  have hvalue := h.value r
  cases hfind : c.find? r with
  | some e =>
      rw [hfind] at hvalue
      have hkeep := h.touch hfind now
      have hslot := hkeep.slot?_eq r
      simp only [step, CircuitCache.fetch, ResourceMap.fetch, hfind, hvalue, Option.map_some]
      refine ⟨hkeep, ?_⟩
      rw [hslot]
      simp [ResourceMap.set]
  | none =>
      rw [hfind] at hvalue
      have hkeep := h.insert hfind now (make s).1
      have hslot := hkeep.slot?_eq r
      simp only [step, CircuitCache.fetch, ResourceMap.fetch, hfind, hvalue, Option.map_none]
      refine ⟨hkeep, ?_⟩
      rw [hslot]
      simp [ResourceMap.set]

/-- **One operation**: the cache still represents the map, and both give the same answer. -/
theorem represents_step (h : Represents m c) (s : σ) (op : Op σ) :
    Represents (m.step s op).1 (c.step s op).1 ∧ (c.step s op).2 = (m.step s op).2 := by
  cases op with
  | fetch r now make => exact represents_fetch h r now make s
  | get r =>
      refine ⟨h, ?_⟩
      show (s, Answer.found (c.slot? r)) = _
      rw [h.slot?_eq]
      rfl
  | removeService service =>
      have hleft : ∀ e : CacheEntry, (e.resource.key == service) =
          ResourceMap.belongs service e.resource e.held := fun _ => rfl
      refine ⟨h.removeWhere hleft, ?_⟩
      show (s, Answer.removed (c.removeWhere _).2) = _
      rw [h.count_removeWhere hleft]
      rfl
  | expire now ttl =>
      have hleft := Represents.isIdle_eq now ttl
      refine ⟨h.removeWhere hleft, ?_⟩
      show (s, Answer.removed (c.removeWhere _).2) = _
      rw [h.count_removeWhere hleft]
      rfl
  | clear => exact ⟨h.removeWhere fun _ => rfl, rfl⟩

/-- **Every run**: the cache represents the map to the end, and all answers are the same. -/
theorem represents_run (h : Represents m c) (s : σ) (ops : List (Op σ)) :
    Represents (m.run s ops).1 (c.run s ops).1 ∧ (c.run s ops).2 = (m.run s ops).2 := by
  induction ops generalizing m c s with
  | nil => exact ⟨h, rfl⟩
  | cons op rest ih =>
      obtain ⟨hnext, hanswer⟩ := represents_step h s op
      obtain ⟨hend, hanswers⟩ := ih hnext (m.step s op).2.1
      simp only [run, ResourceMap.run, hanswer]
      refine ⟨hend, ?_⟩
      exact congrArg (fun t : σ × List Answer => (t.1, (m.step s op).2.2 :: t.2)) hanswers

/-- **The cache behaves as one finite map.** Whatever is done to an empty cache, at whatever times and
    with whatever makes the circuits: every operation answers as it does on the map, with the same
    circuits made, and what is found in the end is what the map holds. The size is the number of
    resources, and the sum over the tables, each of which holds the resources of its level; and the
    circuits in use are listed once each. -/
theorem behaves_as_one_map (ops : List (Op σ)) (s : σ) :
    let cache := ({} : CircuitCache).run s ops
    let map := ResourceMap.empty.run s ops
    cache.2 = map.2 ∧
      (∀ r, (cache.1.find? r).map CacheEntry.held = map.1.value? r) ∧
      cache.1.size = map.1.keys.card ∧
      cache.1.size = (cache.1.level .service).length + (cache.1.level .method).length +
        (cache.1.level .endpoint).length ∧
      (∀ l, (cache.1.level l).length = (map.1.keys.filter fun r => r.level = l).card) ∧
      map.1.ListsOnce cache.1.tracked := by
  intro cache map
  obtain ⟨hend, hanswers⟩ := represents_run represents_empty s ops
  exact ⟨hanswers, fun r => (hend.value r).symm, hend.size_eq, rfl, hend.length_level,
    hend.listsOnce⟩

end Runs

end CircuitCache

end CircuitBreaker
