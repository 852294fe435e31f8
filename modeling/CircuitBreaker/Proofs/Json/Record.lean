import Mathlib.Data.List.Forall2
import Mathlib.Data.List.Nodup
import CircuitBreaker.Json.Record

/-!
# `Proofs.Json.Record` — what may be written of a structure, and what is read of it

A structure is written as an object with a member for each field. Not all of them have to be there: a
field may be left out if it has its default value, and its value may be a structure again, of which the
same holds. The order of the members is of no importance either. So one structure has many written forms.
A `Field` says what may be written of one field, and `IsRecordOf` what may be written of all fields.

Reading a field finds one of the values that may be written, or it finds nothing, and nothing only where
the field may be left out (`fields?_of_isRecordOf`). What remains is one step for each field, and there are
three kinds of them: with a default (`orElse_bind`), without one (`need_bind`), and for optional values
(`maybe_bind`). Each of them asks that the value of the field is read from whatever may be written of it,
which is `Restores`.

## Contents
- `Field`, `Written`, `IsRecordOf`: written forms of fields and structures.
- `IsExactly`, `IsTaggedRecordOf`, `IsOptionOf`, `IsListOf`: those of single values, structures with a
  kind, options and lists.
- `fields?_of_isRecordOf`, `tagged?_of_isTaggedRecordOf`: what is read of structures.
- `Restores`: a thing is read from all its written forms; `restores_toStr?` and its like.
- `orElse_bind`, `need_bind`, `maybe_bind`: the steps.
-/

namespace CircuitBreaker.Json

section Forms

variable {α : Type}

/-- What may be written of a field. -/
structure Field where
  name : String
  /-- The values that may be written. -/
  Holds : Json → Prop
  /-- Whether the field may be left out. -/
  Spare : Prop

namespace Field

/-- A field that has to be there, given what may be written of its value. -/
def required (name : String) (form : α → Json → Prop) (a : α) : Field := ⟨name, form a, False⟩

/-- A field that may be left out if its value is the default. -/
def spare (name : String) (form : α → Json → Prop) (a default : α) : Field :=
  ⟨name, form a, a = default⟩

/-- What may be read of a field: one of its values, or nothing where it may be left out. -/
def Reads (f : Field) : Option Json → Prop
  | some j => f.Holds j
  | none => f.Spare

/-- Whether all values that may be written of some fields have a property. -/
def All (P : Json → Prop) : List Field → Prop
  | [] => True
  | f :: fs => (∀ j, f.Holds j → P j) ∧ All P fs

end Field

/-- The members that may be written of some fields, in the order of the fields. -/
inductive Written : List Field → List (String × Json) → Prop where
  | nil : Written [] []
  | keep {f : Field} {fs : List Field} {ms : List (String × Json)} {j : Json} :
      f.Holds j → Written fs ms → Written (f :: fs) ((f.name, j) :: ms)
  | skip {f : Field} {fs : List Field} {ms : List (String × Json)} :
      f.Spare → Written fs ms → Written (f :: fs) ms

/-- Whether a value may be written of a structure with the given fields. -/
def IsRecordOf (fs : List Field) (j : Json) : Prop :=
  ∃ ms written, Written fs written ∧ ms.Perm written ∧ j = .record ms

/-- Whether a value may be written of a thing that has one written form. -/
def IsExactly (encode : α → Json) (a : α) (j : Json) : Prop := j = encode a

/-- Whether a value may be written of a structure that names its kind. -/
def IsTaggedRecordOf (kind : String) (fs : List Field) (j : Json) : Prop :=
  j.IsRecordOf (.required "type" (IsExactly .str) kind :: fs)

/-- Whether a value may be written of an optional thing, given what may be written of the thing. -/
def IsOptionOf (form : α → Json → Prop) : Option α → Json → Prop
  | none, j => j = .null
  | some a, j => form a j

/-- Whether a value may be written of a list of things. -/
def IsListOf (form : α → Json → Prop) (as : List α) (j : Json) : Prop :=
  ∃ items, j = .array items ∧ List.Forall₂ form as items

variable {form : α → Json → Prop} {fs : List Field} {ms : List (String × Json)}

/-- The members of a structure, in the order of the fields. -/
theorem Written.isRecordOf (h : Written fs ms) : (Json.record ms).IsRecordOf fs :=
  ⟨ms, ms, h, List.Perm.refl ms, rfl⟩

theorem isListOf_map (encode : α → Json) (as : List α) (h : ∀ a ∈ as, form a (encode a)) :
    IsListOf form as (.array (as.map encode)) := by
  refine ⟨_, rfl, ?_⟩
  rw [List.forall₂_map_right_iff, List.forall₂_same]
  exact h

theorem isOptionOf_ofOption (encode : α → Json) (a : Option α) (h : ∀ c, form c (encode c)) :
    IsOptionOf form a (ofOption encode a) := by
  cases a with
  | none => rfl
  | some c => exact h c

end Forms

/-! ## Members -/

section Members

variable {f : Field} {fs : List Field} {ms written : List (String × Json)} {name : String} {j : Json}

/-- Members as a value has them. -/
def named (ms : List (String × Json)) : List (Option String × Json) :=
  ms.map fun m => (some m.1, m.2)

theorem member?_named_cons_self (name : String) (j : Json) (ms : List (String × Json)) :
    member? name (named ((name, j) :: ms)) = some j := by
  simp [member?, named]

theorem member?_named_cons_of_ne {m : String × Json} (h : m.1 ≠ name) (ms : List (String × Json)) :
    member? name (named (m :: ms)) = member? name (named ms) := by
  simp [member?, named, h]

/-- **A member is found under its name**, as long as there is no other of that name. -/
theorem member?_named_eq_some_iff (hn : (ms.map Prod.fst).Nodup) :
    member? name (named ms) = some j ↔ (name, j) ∈ ms := by
  induction ms with
  | nil => simp [member?, named]
  | cons m rest ih =>
      obtain ⟨other, value⟩ := m
      obtain ⟨hm, hrest⟩ := List.nodup_cons.mp hn
      by_cases hsame : other = name
      · subst hsame
        rw [member?_named_cons_self, List.mem_cons]
        constructor
        · rintro ⟨rfl⟩
          exact Or.inl rfl
        · rintro (heq | hmem)
          · cases heq
            rfl
          · exact absurd (List.mem_map_of_mem hmem) hm
      · rw [member?_named_cons_of_ne hsame, ih hrest, List.mem_cons]
        constructor
        · exact Or.inr
        · rintro (heq | hmem)
          · exact absurd (Prod.ext_iff.mp heq).1.symm hsame
          · exact hmem

/-- The order of members is of no importance. -/
theorem member?_named_perm (h : ms.Perm written) (hn : (written.map Prod.fst).Nodup) (name : String) :
    member? name (named ms) = member? name (named written) := by
  have hms : (ms.map Prod.fst).Nodup := (h.map Prod.fst).nodup_iff.mpr hn
  apply Option.ext
  intro j
  rw [member?_named_eq_some_iff hms, member?_named_eq_some_iff hn, h.mem_iff]

theorem isSingle_named (hn : (ms.map Prod.fst).Nodup) (name : String) :
    isSingle name (named ms) = true := by
  have hcount : (named ms).countP (fun m => m.1 == some name) = (ms.map Prod.fst).count name := by
    rw [named, List.count, List.countP_map, List.countP_map]
    rfl
  unfold isSingle
  rw [hcount]
  exact decide_eq_true (List.nodup_iff_count_le_one.mp hn name)

namespace Written

/-- What is written comes from the fields, in their order. -/
theorem names_sublist (h : Written fs ms) : (ms.map Prod.fst).Sublist (fs.map Field.name) := by
  induction h with
  | nil => exact List.Sublist.refl []
  | keep _ _ ih => exact ih.cons_cons _
  | skip _ _ ih => exact ih.cons _

/-- **Each field is read as it was written**, as long as no two have the same name. -/
theorem reads (h : Written fs ms) (hn : (fs.map Field.name).Nodup) :
    List.Forall₂ Field.Reads fs (fs.map fun f => member? f.name (named ms)) := by
  induction h with
  | nil => exact List.Forall₂.nil
  | @keep f fs ms j hj _ ih =>
      obtain ⟨hf, hfs⟩ := List.nodup_cons.mp hn
      have hrest : (fs.map fun g => member? g.name (named ((f.name, j) :: ms))) =
          fs.map fun g => member? g.name (named ms) := by
        refine List.map_congr_left fun g hg => member?_named_cons_of_ne ?_ ms
        intro hsame
        have hmem : g.name ∈ fs.map Field.name := List.mem_map_of_mem hg
        exact hf ((show f.name = g.name from hsame) ▸ hmem)
      rw [List.map_cons, member?_named_cons_self, hrest]
      exact List.Forall₂.cons hj (ih hfs)
  | @skip f fs ms hspare hms ih =>
      obtain ⟨hf, hfs⟩ := List.nodup_cons.mp hn
      have hnodup : (ms.map Prod.fst).Nodup := hfs.sublist hms.names_sublist
      have hnone : member? f.name (named ms) = none := by
        rw [Option.eq_none_iff_forall_not_mem]
        intro j hj
        have hmem : (f.name, j) ∈ ms := (member?_named_eq_some_iff hnodup).mp hj
        exact hf (hms.names_sublist.subset (List.mem_map_of_mem hmem))
      rw [List.map_cons, hnone]
      exact List.Forall₂.cons hspare (ih hfs)

/-- A property of all values that may be written holds of those that are. -/
theorem forall_of_all {P : Json → Prop} (h : Written fs ms) (hP : Field.All P fs) :
    ∀ m ∈ ms, P m.2 := by
  induction h with
  | nil =>
      intro m hm
      cases hm
  | keep hj _ ih =>
      intro m hm
      rcases List.mem_cons.mp hm with rfl | hm
      · exact hP.1 _ hj
      · exact ih hP.2 m hm
  | skip _ _ ih => exact ih hP.2

end Written

/-- **The fields of a structure are read as they were written.** -/
theorem fields?_of_isRecordOf (names : List String) (short : Bool) (h : j.IsRecordOf fs)
    (hnames : fs.map Field.name = names) (hn : names.Nodup) :
    ∃ vs, j.fields? short names = some vs ∧ List.Forall₂ Field.Reads fs vs := by
  subst hnames
  obtain ⟨ms, written, hwritten, hperm, rfl⟩ := h
  have hnodup : (written.map Prod.fst).Nodup := hn.sublist hwritten.names_sublist
  refine ⟨_, ?_, hwritten.reads hn⟩
  have hnamed : ((named ms).all fun m => m.1.isSome) = true := by
    simp [named]
  have hsingle : ((fs.map Field.name).all fun name => isSingle name (named ms)) = true := by
    rw [List.all_eq_true]
    intro name _
    exact isSingle_named ((hperm.map Prod.fst).nodup_iff.mpr hnodup) name
  show (if _ then some ((fs.map Field.name).map fun name => member? name (named ms)) else none) = _
  rw [← named, hnamed, hsingle, Bool.and_self, if_pos rfl, List.map_map]
  congr 1
  refine List.map_congr_left fun f _ => ?_
  exact member?_named_perm hperm hnodup f.name

/-! ## Structures that name their kind -/

/-- Whether all of a value can be used, and it nests no deeper than `n`. -/
def IsShallow (n : Nat) (j : Json) : Prop := j.isSound = true ∧ j.nesting ≤ n

theorem isShallow_str (s : String) : IsShallow 0 (.str s) := ⟨rfl, Nat.le_refl 0⟩

theorem isShallow_nat (n : Nat) : IsShallow 0 (.nat n) := ⟨rfl, Nat.le_refl 0⟩

theorem isShallow_float (x : Float) : IsShallow 0 (.float x) := by
  unfold float
  split
  · exact ⟨rfl, Nat.le_refl 0⟩
  · exact ⟨rfl, Nat.le_refl 0⟩

theorem IsShallow.mono {m n : Nat} (h : IsShallow m j) (hle : m ≤ n) : IsShallow n j :=
  ⟨h.1, Nat.le_trans h.2 hle⟩

theorem isShallow_record {n : Nat} (h : ∀ m ∈ ms, IsShallow n m.2) :
    IsShallow (n + 1) (.record ms) := by
  simp only [IsShallow, record, isSound, nesting, Nat.add_le_add_iff_right]
  induction ms with
  | nil => exact ⟨rfl, Nat.zero_le n⟩
  | cons m rest ih =>
      obtain ⟨hsound, hnesting⟩ := h m List.mem_cons_self
      obtain ⟨hsounds, hnestings⟩ := ih fun m hm => h m (List.mem_cons_of_mem _ hm)
      constructor
      · simp only [List.map_cons, isSoundMembers, hsound, hsounds, Option.isSome_some, Bool.and_self]
      · exact Nat.max_le.mpr ⟨hnesting, hnestings⟩

theorem IsRecordOf.isShallow {n : Nat} (h : j.IsRecordOf fs) (hs : Field.All (IsShallow n) fs) :
    IsShallow (n + 1) j := by
  obtain ⟨ms, written, hwritten, hperm, rfl⟩ := h
  refine isShallow_record fun m hm => ?_
  exact hwritten.forall_of_all hs m (hperm.mem_iff.mp hm)

/-- **The kind is read as it was written**, and what is left is the structure without it. -/
theorem tagged?_of_isTaggedRecordOf {kind : String} {n : Nat} (h : j.IsTaggedRecordOf kind fs)
    (hn : ("type" :: fs.map Field.name).Nodup) (hs : Field.All (IsShallow n) fs)
    (hdeep : n < kindNesting) : ∃ body, j.tagged? = some (kind, body) ∧ body.IsRecordOf fs := by
  have hshallow : IsShallow (n + 1) j := by
    refine IsRecordOf.isShallow h ⟨?_, hs⟩
    rintro _ rfl
    exact (isShallow_str kind).mono (Nat.zero_le n)
  obtain ⟨ms, written, hwritten, hperm, rfl⟩ := h
  have hnames : (written.map Prod.fst).Nodup := hn.sublist hwritten.names_sublist
  have hmsnames : (ms.map Prod.fst).Nodup := (hperm.map Prod.fst).nodup_iff.mpr hnames
  -- the kind is never left out, so it is the first of what was written
  cases hwritten with
  | skip hspare _ => exact absurd hspare id
  | @keep _ _ rest _ hkind hrest =>
      subst hkind
      have hmember : member? "type" (named ms) = some (.str kind) := by
        rw [member?_named_eq_some_iff hmsnames, hperm.mem_iff]
        exact List.mem_cons_self
      have hothers : (ms.filter fun m => m.1 != "type").Perm rest := by
        have hrestnames : "type" ∉ rest.map Prod.fst := (List.nodup_cons.mp hnames).1
        have hkept : ((("type", .str kind) :: rest).filter fun m => m.1 != "type") = rest := by
          rw [List.filter_cons_of_neg (by simp), List.filter_eq_self]
          intro m hm
          have hne : m.1 ≠ "type" := fun hsame => hrestnames (hsame ▸ List.mem_map_of_mem hm)
          exact bne_iff_ne.mpr hne
        have hfiltered := hperm.filter fun m => m.1 != "type"
        exact hkept ▸ hfiltered
      have hbody : (named ms).filter (fun m => m.1 != some "type") =
          named (ms.filter fun m => m.1 != "type") := by
        rw [named, named, List.filter_map]
        rfl
      refine ⟨_, ?_, _, rest, hrest, hothers, rfl⟩
      unfold tagged?
      rw [hshallow.1, decide_eq_true (Nat.le_trans hshallow.2 hdeep), Bool.and_self, if_pos rfl]
      show (if isSingle "type" (named ms) then _ else none) = _
      rw [isSingle_named hmsnames, if_pos rfl, ← named, hmember, hbody]
      rfl

/-- **The kind and the fields are read as they were written.** -/
theorem kindFields?_of_isTaggedRecordOf (names : List String) (short : Bool) {kind : String} {n : Nat}
    (h : j.IsTaggedRecordOf kind fs) (hnames : fs.map Field.name = names)
    (hn : ("type" :: names).Nodup) (hs : Field.All (IsShallow n) fs) (hdeep : n < kindNesting) :
    ∃ body vs, j.tagged? = some (kind, body) ∧ body.fields? short names = some vs ∧
      List.Forall₂ Field.Reads fs vs := by
  obtain ⟨body, htagged, hbody⟩ := tagged?_of_isTaggedRecordOf h (hnames ▸ hn) hs hdeep
  obtain ⟨vs, hread, hvs⟩ := fields?_of_isRecordOf names short hbody hnames (List.nodup_cons.mp hn).2
  exact ⟨body, vs, htagged, hread, hvs⟩

end Members

/-! ## Reading what was written -/

section Reading

variable {α β : Type} {decode : Json → Option α} {form : α → Json → Prop}

/-- Whether a thing is **restored**: it is read from whatever may be written of it. -/
def Restores (decode : Json → Option α) (form : α → Json → Prop) (a : α) : Prop :=
  ∀ j, form a j → decode j = some a

theorem restores_toStr? (s : String) : Restores toStr? (IsExactly .str) s := by
  rintro _ rfl
  rfl

theorem restores_toBool? (b : Bool) : Restores toBool? (IsExactly .bool) b := by
  rintro _ rfl
  rfl

theorem restores_toNat? {limit n : Nat} (h : n ≤ limit) :
    Restores (toNat? limit) (IsExactly .nat) n := by
  rintro _ rfl
  have hrange : (0 : Int) ≤ n ∧ (n : Int) ≤ limit := ⟨Int.natCast_nonneg n, Int.ofNat_le.mpr h⟩
  show (if _ then some (n : Int).toNat else none) = some n
  rw [if_pos hrange, Int.toNat_natCast]

theorem restores_toInt? {least greatest n : Int} (h : least ≤ n ∧ n ≤ greatest) :
    Restores (toInt? least greatest) (IsExactly .int) n := by
  rintro _ rfl
  exact if_pos h

/-- **The finite floats are restored, and no others**: these are written as null, which is no float. -/
theorem restores_toFloat?_iff {x : Float} :
    Restores toFloat? (IsExactly .float) x ↔ x.isFinite = true := by
  constructor
  · intro h
    have hread : toFloat? (.float x) = some x := h _ rfl
    unfold float at hread
    split at hread
    · assumption
    · cases hread
  · rintro h _ rfl
    rw [float, if_pos h]
    rfl

/-- A list is restored if all things in it are. -/
theorem restores_toList? {as : List α} (h : ∀ a ∈ as, Restores decode form a) :
    Restores (toList? decode) (IsListOf form) as := by
  rintro _ ⟨items, rfl, hitems⟩
  show items.mapM decode = some as
  induction hitems with
  | nil => rfl
  | @cons a j as items ha _ ih =>
      rw [List.mapM_cons, h a List.mem_cons_self j ha,
        ih fun a ha => h a (List.mem_cons_of_mem _ ha)]
      rfl

/-- An optional thing is restored if the thing is, as long as it is never written as null. -/
theorem restores_toOption? {a : Option α} (h : ∀ c, a = some c → Restores decode form c)
    (hnull : decode .null = none) : Restores (toOption? decode) (IsOptionOf form) a := by
  intro j hj
  cases a with
  | none =>
      rw [show j = .null from hj]
      rfl
  | some c =>
      have hdecode : decode j = some c := h c rfl j hj
      unfold toOption?
      split
      · rw [hnull] at hdecode
        cases hdecode
      · rw [hdecode]
        rfl

section Steps

variable {name : String} {v : Option Json} {a default : α} {next : α → Option β} {b : β}

/-- A field with a default gives what was written, also where nothing was. -/
theorem orElse_bind (h : (Field.spare name form a default).Reads v) (ha : Restores decode form a)
    (hnext : next a = some b) : (orElse default decode v >>= next) = some b := by
  have hread : orElse default decode v = some a := by
    cases v with
    | none => exact congrArg some (show a = default from h).symm
    | some j => exact ha j h
  rw [hread]
  exact hnext

/-- A default makes no difference to a field that was written. -/
theorem orElse_bind_required (h : (Field.required name form a).Reads v) (ha : Restores decode form a)
    (hnext : next a = some b) : (orElse default decode v >>= next) = some b := by
  cases v with
  | none => exact absurd h id
  | some j =>
      rw [show orElse default decode (some j) = some a from ha j h]
      exact hnext

/-- A field that has to be there gives what was written. -/
theorem need_eq (h : (Field.required name form a).Reads v) (ha : Restores decode form a) :
    need decode v = some a := by
  cases v with
  | none => exact absurd h id
  | some j => exact ha j h

theorem need_bind (h : (Field.required name form a).Reads v) (ha : Restores decode form a)
    (hnext : next a = some b) : (need decode v >>= next) = some b := by
  rw [need_eq h ha]
  exact hnext

/-- A field that may be absent or null gives what was written. -/
theorem maybe_bind {a : Option α} {next : Option α → Option β}
    (h : (Field.spare name (IsOptionOf form) a none).Reads v)
    (ha : ∀ c, a = some c → Restores decode form c) (hnull : decode .null = none)
    (hnext : next a = some b) : (maybe decode v >>= next) = some b :=
  orElse_bind h (restores_toOption? ha hnull) hnext

end Steps

end Reading

end CircuitBreaker.Json
