import Mathlib
import Taskbot.Tasks.PackageControls

/-!
# The featured package

Which package is featured is stored three times: as the name `featured`, as `'yes'` in the
field at index 4 of the package, and in the plans of a save.

* `isFeatured`, `FeaturedAtFour` — the field, and where it is.
* `Marks` — the name and the fields say the same.
* `marks_load`, `marks_step` — they do once the screen is loaded, and a step keeps it.
* `Agree`, `featured_package_agrees` — **in every run all three say the same.**
-/

namespace TaskPackages

open Js (Atom Value Obj)

variable {list : MultiSelect}

/-! ## The field -/

/-- Is the field at index 4 `'yes'`? -/
def Package.isFeatured (p : Package) : Bool :=
  p.fields[4]?.any fun f => f.field.value.eqWord "yes"

/-- Does an attribute feature its package? -/
def Attribute.isFeatured (a : Attribute) : Bool := a.featured_package.eqWord "yes"

/-- The types of the fields. -/
def Package.types (p : Package) : List FieldType := p.fields.map fun f => f.field.type

/-- The control `featured_package` is that of the field at index 4, and only that one. -/
def FeaturedAtFour (p : Package) : Prop :=
  ∀ i, p.types[i]? = some .featured_package ↔ i = 4

instance (p : Package) : Decidable (FeaturedAtFour p) :=
  decidable_of_iff (p.types[4]? = some .featured_package ∧
      ∀ i < p.types.length, p.types[i]? = some .featured_package → i = 4) <| by
    constructor
    · rintro ⟨htype, honly⟩ i
      refine ⟨fun hi => honly i ?_ hi, fun hi => hi ▸ htype⟩
      exact (List.getElem?_eq_some_iff.1 hi).1
    · exact fun h => ⟨(h 4).2 rfl, fun i _ => (h i).1⟩

/-- The names and types can be told from the shape. -/
theorem names_eq (p : Package) : p.fields.map Field.name = (shape p).2.1.map Prod.fst := by
  rw [shape, List.map_map]
  rfl

theorem types_eq (p : Package) : p.types = (shape p).2.1.map Prod.snd := by
  rw [shape, List.map_map]
  rfl

theorem FeaturedAtFour.length {p : Package} (h : FeaturedAtFour p) : 4 < p.fields.length := by
  have hlength := (List.getElem?_eq_some_iff.1 ((h 4).2 rfl)).1
  rwa [Package.types, List.length_map] at hlength

/-- A control of this type is at index 4. -/
theorem FeaturedAtFour.eq_four {p : Package} (h : FeaturedAtFour p) {i : ℕ} {f : Field}
    (hf : p.fields[i]? = some f) (htype : f.field.type = .featured_package) : i = 4 := by
  refine (h i).1 ?_
  rw [Package.types, List.getElem?_map, hf, Option.map_some, htype]

/-- The field at index 4 has this type. -/
theorem FeaturedAtFour.type_eq {p : Package} (h : FeaturedAtFour p) {f : Field}
    (hf : p.fields[4]? = some f) : f.field.type = .featured_package := by
  have htype := (h 4).2 rfl
  rw [Package.types, List.getElem?_map, hf, Option.map_some] at htype
  exact Option.some.inj htype

/-- What is written at index 4 says whether the package is featured. -/
theorem isFeatured_write {p : Package} (h : 4 < p.fields.length) (v : Value) :
    (p.write v .field 4).isFeatured = v.eqWord "yes" := by
  have hfield : (p.fields.modify 4 (·.withValue v))[4]? = some (p.fields[4].withValue v) := by
    rw [List.getElem?_modify_eq, List.getElem?_eq_getElem h]
    rfl
  rw [Package.isFeatured, Package.write, hfield]
  rfl

/-- What is written elsewhere does not. -/
theorem isFeatured_write_of_ne (p : Package) (v : Value) {level : Level} {i : ℕ}
    (h : level = .field → i ≠ 4) : (p.write v level i).isFeatured = p.isFeatured := by
  cases level with
  | subField => rfl
  | field =>
    rw [Package.isFeatured, Package.write, List.getElem?_modify_ne _ _ (h rfl)]
    rfl

/-- An attribute that has the name of a package says it too. -/
theorem isFeatured_fill {a : Attribute} {p : Package} (h : 4 < p.fields.length)
    (ha : a.key = p.name) : (p.fill a).isFeatured = a.isFeatured := by
  have hfield : (fillFields a p.fields)[4]? = some (p.fields[4].withValue a.featured_package) := by
    rw [getElem?_fillFields, List.getElem?_eq_getElem h]
    rfl
  rw [Package.isFeatured, Package.fill, if_pos ha, hfield]
  rfl

/-! ## The name and the fields -/

/-- The name and the mark of a package. -/
def mark (p : Package) : String × Bool := (p.name, p.isFeatured)

/-- **`featured` and the fields say the same**: a package is marked just when it has the
name, and a name is that of a package. -/
structure Marks (packages : List Package) (featured : String) : Prop where
  marked : ∀ p ∈ packages, p.isFeatured = true ↔ p.name = featured
  named : featured = "" ∨ featured ∈ packages.map Package.name

/-- It can be told from the names and marks. -/
theorem Marks.of_map_mark {packages packages' : List Package} {featured : String}
    (hm : Marks packages featured) (h : packages'.map mark = packages.map mark) :
    Marks packages' featured where
  marked := by
    intro p hp
    obtain ⟨p', hp', hmark⟩ := List.mem_map.1 (h ▸ List.mem_map_of_mem (f := mark) hp)
    obtain ⟨hname, hfeatured⟩ := Prod.mk.inj hmark
    rw [← hname, ← hfeatured]
    exact hm.marked p' hp'
  named := by
    have hnames := congrArg (List.map Prod.fst) h
    rw [List.map_map, List.map_map] at hnames
    exact (hm.named).imp_right fun hmem => hnames ▸ hmem

/-! ## Loading -/

/-- The inner loop sets the name when the attribute features a package it has the name of. -/
theorem foldl_featured (a : Attribute) (packages : List Package) (featured : String) :
    packages.foldl (fun featured p =>
        if a.key = p.name ∧ a.featured_package.eqWord "yes" then p.name else featured) featured =
      if a.isFeatured = true ∧ a.key ∈ packages.map Package.name then a.key else featured := by
  induction packages generalizing featured with
  | nil => simp
  | cons p packages ih =>
    rw [List.foldl_cons, ih]
    unfold Attribute.isFeatured
    by_cases hyes : a.featured_package.eqWord "yes" = true
    · by_cases hkey : a.key = p.name
      · simp [hyes, hkey]
      · simp [hyes, hkey]
    · simp [hyes]

/-- One more attribute. -/
theorem featuredOf_concat (attributes : List Attribute) (a : Attribute) (packages : List Package)
    (featured : String) :
    featuredOf (attributes ++ [a]) packages featured =
      if a.isFeatured = true ∧ a.key ∈ packages.map Package.name then a.key
      else featuredOf attributes packages featured := by
  rw [featuredOf, List.foldl_append, List.foldl_cons, List.foldl_nil, foldl_featured]
  rfl

/-- The name is the empty one, or the key of an attribute that features a package. -/
theorem featuredOf_cases (attributes : List Attribute) (packages : List Package) :
    featuredOf attributes packages "" = "" ∨ ∃ a ∈ attributes, a.isFeatured = true ∧
      a.key ∈ packages.map Package.name ∧ featuredOf attributes packages "" = a.key := by
  induction attributes using List.reverseRecOn with
  | nil => exact Or.inl rfl
  | append_singleton attributes a ih =>
    rw [featuredOf_concat]
    split
    · next ha => exact Or.inr ⟨a, List.mem_append_right _ List.mem_cons_self, ha.1, ha.2, rfl⟩
    · refine ih.imp_right ?_
      rintro ⟨b, hb, hfeatured⟩
      exact ⟨b, List.mem_append_left _ hb, hfeatured⟩

/-- At most one attribute features its package, and no later one has its key. -/
structure OneFeatured (attributes : List Attribute) : Prop where
  one : (attributes.filter Attribute.isFeatured).length ≤ 1
  last : attributes.Pairwise fun a b => a.isFeatured = true → b.key ≠ a.key

theorem OneFeatured.of_concat {attributes : List Attribute} {a : Attribute}
    (h : OneFeatured (attributes ++ [a])) : OneFeatured attributes where
  one := by
    have hone := h.one
    rw [List.filter_append, List.length_append] at hone
    omega
  last := (List.pairwise_append.1 h.last).1

/-- The last attribute features its package only when no other one does. -/
theorem OneFeatured.eq_false {attributes : List Attribute} {a : Attribute}
    (h : OneFeatured (attributes ++ [a])) (ha : a.isFeatured = true) :
    ∀ b ∈ attributes, ¬ b.isFeatured = true := by
  intro b hb hfeatured
  have hone := h.one
  have hpos := List.length_pos_of_mem (List.mem_filter.2 ⟨hb, hfeatured⟩)
  rw [List.filter_append, List.length_append, List.filter_cons_of_pos ha] at hone
  simp only [List.filter_nil, List.length_singleton] at hone
  omega

/-- The loops keep the name of a package and the number of its fields. -/
theorem foldl_fill_name (attributes : List Attribute) (p : Package) :
    (attributes.foldl (fun p a => p.fill a) p).name = p.name :=
  congrArg Prod.fst (shape_foldl_fill attributes p)

theorem foldl_fill_length (attributes : List Attribute) (p : Package) :
    (attributes.foldl (fun p a => p.fill a) p).fields.length = p.fields.length := by
  have htypes := congrArg (fun x => x.2.1.length) (shape_foldl_fill attributes p)
  simpa only [shape, List.length_map] using htypes

/-- **The loops** mark a package just when they set its name. -/
theorem foldl_fill_isFeatured_iff {attributes : List Attribute} {packages : List Package}
    (hone : OneFeatured attributes) {p : Package} (hp : p ∈ packages)
    (hdefault : p.isFeatured = false) (hname : p.name ≠ "") (hlength : 4 < p.fields.length) :
    (attributes.foldl (fun p a => p.fill a) p).isFeatured = true ↔
      p.name = featuredOf attributes packages "" := by
  induction attributes using List.reverseRecOn with
  | nil => exact iff_of_false (by simp [hdefault]) hname
  | append_singleton attributes a ih =>
    have hbefore := ih hone.of_concat
    rw [List.foldl_append, List.foldl_cons, List.foldl_nil, featuredOf_concat]
    by_cases hkey : a.key = p.name
    · have hmem : a.key ∈ packages.map Package.name := hkey ▸ List.mem_map_of_mem hp
      rw [isFeatured_fill (by rwa [foldl_fill_length]) (by rw [hkey, foldl_fill_name])]
      by_cases ha : a.isFeatured = true
      · rw [if_pos ⟨ha, hmem⟩]
        exact iff_of_true ha hkey.symm
      · rw [if_neg fun h => ha h.1]
        -- an attribute with this key before `a` would come before another one with its key
        refine iff_of_false ha fun hfeatured => ?_
        rcases featuredOf_cases attributes packages with hempty | ⟨b, hb, hyes, -, hbkey⟩
        · exact hname (hfeatured.trans hempty)
        · have hlast := (List.pairwise_append.1 hone.last).2.2 b hb a List.mem_cons_self hyes
          exact hlast (hkey.trans (hfeatured.trans hbkey))
    · have hfill : (attributes.foldl (fun p a => p.fill a) p).fill a =
          attributes.foldl (fun p a => p.fill a) p := if_neg (by rwa [foldl_fill_name])
      rw [hfill, hbefore]
      by_cases ha : a.isFeatured = true ∧ a.key ∈ packages.map Package.name
      · rw [if_pos ha]
        refine iff_of_false (fun hfeatured => ?_) fun h => hkey h.symm
        rcases featuredOf_cases attributes packages with hempty | ⟨b, hb, hyes, -⟩
        · exact hname (hfeatured.trans hempty)
        · exact hone.eq_false ha.1 b hb hyes
      · rw [if_neg ha]

/-- The name and the fields say the same after the loops. -/
theorem marks_load {attributes : List Attribute} {packages : List Package}
    (hone : OneFeatured attributes)
    (hpackages : ∀ p ∈ packages, p.isFeatured = false ∧ p.name ≠ "" ∧ 4 < p.fields.length) :
    Marks (fillAll attributes packages) (featuredOf attributes packages "") := by
  rw [fillAll_eq_map]
  refine ⟨fun q hq => ?_, ?_⟩
  · obtain ⟨p, hp, rfl⟩ := List.mem_map.1 hq
    obtain ⟨hdefault, hname, hlength⟩ := hpackages p hp
    rw [foldl_fill_name]
    exact foldl_fill_isFeatured_iff hone hp hdefault hname hlength
  · have hnames : packages.map (Package.name ∘ fun p => attributes.foldl (fun p a => p.fill a) p) =
        packages.map Package.name := List.map_congr_left fun p _ => foldl_fill_name attributes p
    rw [List.map_map, hnames]
    refine (featuredOf_cases attributes packages).imp_right ?_
    rintro ⟨a, -, -, hmem, hkey⟩
    exact hkey ▸ hmem

/-! ## Steps -/

/-- The loop does not throw when every package has the field. -/
theorem setAllNo_eq {index : ℕ} {packages : List Package}
    (h : ∀ p ∈ packages, index < p.fields.length) :
    setAllNo index packages =
      (packages.map fun p => p.write (.atom (.text "no")) .field index, false) := by
  induction packages with
  | nil => rfl
  | cons p packages ih =>
    rw [setAllNo, if_pos (h p List.mem_cons_self), ih fun q hq => h q (List.mem_cons_of_mem p hq)]
    rfl

/-- **What is assumed of a package**, its default apart: it has a name, its control is at
index 4, and no other field and no sub-field has the name of that one. -/
structure Placed (p : Package) : Prop where
  named : p.name ≠ ""
  place : FeaturedAtFour p
  fields : (p.fields.map Field.name).Nodup
  key : ∀ name ∈ (p.fields.map Field.name)[4]?, name ∉ p.subFields.map SubField.key

/-- It can be told from the shape. -/
theorem Placed.of_shape {p p' : Package} (hp : Placed p) (h : shape p' = shape p) : Placed p' := by
  have hname : p'.name = p.name := congrArg Prod.fst h
  have htypes : p'.types = p.types := by rw [types_eq, h, ← types_eq]
  have hkeys : p'.subFields.map SubField.key = p.subFields.map SubField.key :=
    congrArg (fun x => x.2.2) h
  have hfields : p'.fields.map Field.name = p.fields.map Field.name := by
    rw [names_eq, h, ← names_eq]
  refine ⟨hname ▸ hp.named, fun i => ?_, hfields ▸ hp.fields, ?_⟩
  · rw [htypes]
    exact hp.place i
  · rw [hfields, hkeys]
    exact hp.key

/-- The names of the packages differ, and this is assumed of each. -/
structure AllPlaced (packages : List Package) : Prop where
  names : (packages.map Package.name).Nodup
  placed : ∀ p ∈ packages, Placed p

theorem AllPlaced.of_map_shape {packages packages' : List Package} (hp : AllPlaced packages)
    (h : packages'.map shape = packages.map shape) : AllPlaced packages' where
  names := map_name_of_map_shape h ▸ hp.names
  placed := by
    intro p hpm
    obtain ⟨p', hp', hshape⟩ := List.mem_map.1 (h ▸ List.mem_map_of_mem (f := shape) hpm)
    exact (hp.placed p' hp').of_shape hshape.symm

/-- Packages of one name are one. -/
theorem AllPlaced.index_eq {packages : List Package} (h : AllPlaced packages) {j k : ℕ}
    {p q : Package} (hp : packages[j]? = some p) (hq : packages[k]? = some q)
    (hname : p.name = q.name) : j = k := by
  have hj : (packages.map Package.name)[j]? = some p.name := by
    rw [List.getElem?_map, hp, Option.map_some]
  have hk : (packages.map Package.name)[k]? = some p.name := by
    rw [List.getElem?_map, hq, Option.map_some, hname]
  exact (List.getElem?_inj (List.getElem?_eq_some_iff.1 hj).1 h.names).1 (hj.trans hk.symm)

/-- **A tap** marks its package, and no other one. -/
theorem marks_setFeaturedPackage {s : Screen} {package : ℕ} {mainItem : Package}
    (hplaced : AllPlaced s.packages) (hmain : s.packages[package]? = some mainItem) :
    Marks (setFeaturedPackage s package 4 mainItem).packages mainItem.name := by
  have hlength : ∀ p ∈ s.packages, 4 < p.fields.length :=
    fun p hp => (hplaced.placed p hp).place.length
  have hpackages : (setFeaturedPackage s package 4 mainItem).packages =
      write (s.packages.map fun p => p.write (.atom (.text "no")) .field 4) ⟨package, .field, 4⟩
        (.atom (.text "yes")) := by
    unfold setFeaturedPackage
    rw [setAllNo_eq hlength]
    rfl
  refine ⟨?_, Or.inr ?_⟩
  · rw [hpackages]
    intro q hq
    obtain ⟨j, hj⟩ := List.getElem?_of_mem hq
    by_cases hpackage : package = j
    · subst hpackage
      rw [write, List.getElem?_modify_eq, List.getElem?_map, hmain] at hj
      cases hj
      have hlength' : 4 < (mainItem.write (.atom (.text "no")) .field 4).fields.length := by
        simpa [Package.write] using hlength mainItem (List.mem_of_getElem? hmain)
      rw [isFeatured_write hlength']
      exact iff_of_true rfl rfl
    · rw [write, List.getElem?_modify_ne _ _ hpackage, List.getElem?_map] at hj
      obtain ⟨p, hp, rfl⟩ := Option.map_eq_some_iff.1 hj
      rw [isFeatured_write (hlength p (List.mem_of_getElem? hp))]
      refine iff_of_false Bool.false_ne_true fun hname => hpackage ?_
      exact hplaced.index_eq hmain hp hname.symm
  · rw [map_name_of_map_shape (map_shape_setFeaturedPackage s package 4 mainItem)]
    exact List.mem_map_of_mem (List.mem_of_getElem? hmain)

/-- The handlers leave the control alone. -/
theorem map_mark_write {packages : List Package} (hplaced : AllPlaced packages) {q : Place}
    {p : Package} {c : Control} {entry : Entry} {v : Value}
    (hp : packages[q.package]? = some p) (hcp : p.controlAt q.level q.index = some c)
    (heffect : effectAt list packages q c entry = some (.written v)) :
    (write packages q v).map mark = packages.map mark := by
  obtain ⟨j, level, i⟩ := q
  refine Js.map_modify_eq fun p' hp' => ?_
  cases hp.symm.trans hp'
  have hne : level = .field → i ≠ 4 := by
    rintro rfl rfl
    obtain ⟨f, hf, rfl⟩ := Option.map_eq_some_iff.1 hcp
    have htype := (hplaced.placed p (List.mem_of_getElem? hp)).place.type_eq hf
    have hhandle := handle_of_written heffect
    cases entry <;> simp [handle, Field.control, htype] at hhandle
  have hname : (p.write v level i).name = p.name := congrArg Prod.fst (shape_write p v level i)
  exact Prod.ext hname (isFeatured_write_of_ne p v hne)

/-- **A step** keeps the name and the fields the same. -/
theorem marks_step {s t : State} {e : Event} (hplaced : AllPlaced s.packages)
    (hs : Marks s.packages s.screen.featured) (h : step list s e = some t) :
    Marks t.packages t.screen.featured := by
  cases e with
  | form e =>
    cases h
    exact hs
  | edit q entry =>
    obtain ⟨p, c, effect, hp, hcp, heffect, rfl⟩ := step_edit h
    cases effect with
    | thrown => exact hs
    | written v => exact hs.of_map_mark (map_mark_write hplaced hp hcp heffect)
  | setFeaturedPackage package index =>
    obtain ⟨mainItem, f, hmain, hf, htype, rfl⟩ := step_setFeaturedPackage h
    obtain rfl := (hplaced.placed mainItem (List.mem_of_getElem? hmain)).place.eq_four hf htype
    exact marks_setFeaturedPackage hplaced hmain

/-! ## Runs -/

/-- **All three say the same.** -/
structure Agree (s : Screen) : Prop where
  one : ∀ (j k : ℕ) (p q : Package), s.packages[j]? = some p → s.packages[k]? = some q →
    p.isFeatured = true → q.isFeatured = true → j = k
  field : ∀ p ∈ s.packages, p.isFeatured = true ↔ p.name = s.featured
  none : s.featured = "" → ∀ p ∈ s.packages, p.isFeatured = false
  named : s.featured ≠ "" → ∃ p ∈ s.packages, p.name = s.featured
  posted : ∀ post, save s = .posted post → post.featured_package = s.featured ∧
    ∀ p ∈ s.packages, ∀ f ∈ p.fields[4]?, ∃ v,
      (post.plans.get p.name).bind (·.get f.name) = some v ∧
        (v.eqWord "yes" = true ↔ p.name = s.featured)

/-- The value that is saved for a field when nothing else in the package has its name. -/
theorem plan_get_of_not_mem {p : Package} (hfields : (p.fields.map Field.name).Nodup) {i : ℕ}
    {f : Field} (hf : p.fields[i]? = some f) (hkey : f.name ∉ p.subFields.map SubField.key) :
    p.plan.get f.name = some f.field.value := by
  have hsub : (p.subFields.map fun s => (s.key, s.value)).reverse.lookup f.name = none := by
    refine List.lookup_eq_none_iff.2 fun x hx => ?_
    obtain ⟨s, hs, rfl⟩ := List.mem_map.1 (List.mem_reverse.1 hx)
    exact bne_iff_ne.2 fun hname => hkey (List.mem_map.2 ⟨s, hs, hname.symm⟩)
  have hnodup : ((p.fields.map fun f => (f.name, f.field.value)).reverse.map Prod.fst).Nodup := by
    rw [List.map_reverse, List.nodup_reverse, List.map_map]
    exact hfields
  have hmem : (f.name, f.field.value) ∈
      (p.fields.map fun f => (f.name, f.field.value)).reverse :=
    List.mem_reverse.2 (List.mem_map_of_mem (List.mem_of_getElem? hf))
  rw [plan_get, Package.items, List.reverse_append, List.lookup_append, hsub, Option.none_or]
  exact Js.lookup_of_mem hnodup hmem

/-- A save posts only what is on the screen. -/
theorem post_of_save {s : Screen} {p : Post} (h : save s = .posted p) : p = post s := by
  unfold save at h
  split at h
  · cases h
  · split at h
    · cases h
      rfl
    · cases h

/-- The third one says it too. -/
theorem agree_of_marks {s : Screen} (hplaced : AllPlaced s.packages)
    (hmarks : Marks s.packages s.featured) : Agree s where
  one := by
    intro j k p q hp hq hpf hqf
    have hpname := (hmarks.marked p (List.mem_of_getElem? hp)).1 hpf
    have hqname := (hmarks.marked q (List.mem_of_getElem? hq)).1 hqf
    exact hplaced.index_eq hp hq (hpname.trans hqname.symm)
  field := hmarks.marked
  none := by
    intro hempty p hp
    refine Bool.eq_false_iff.2 fun hpf => (hplaced.placed p hp).named ?_
    exact ((hmarks.marked p hp).1 hpf).trans hempty
  named := by
    intro hne
    exact List.mem_map.1 ((hmarks.named).resolve_left hne)
  posted := by
    intro p' hsave
    obtain rfl := post_of_save hsave
    refine ⟨rfl, fun p hp f hf => ⟨f.field.value, ?_, ?_⟩⟩
    · have hname : f.name ∈ (p.fields.map Field.name)[4]? := by
        rw [List.getElem?_map, Option.mem_def.1 hf]
        rfl
      have hfit := hplaced.placed p hp
      show ((plans s.packages).get p.name).bind _ = _
      rw [plans_get hplaced.names hp, Option.bind_some]
      exact plan_get_of_not_mem hfit.fields hf (hfit.key f.name hname)
    · rw [← hmarks.marked p hp, Package.isFeatured, Option.mem_def.1 hf]
      rfl

/-- **What is assumed of the packages** of the schema: the control is at index 4 of each,
where it is not `'yes'`, no package has the empty name, and no sub-field has the name of the
field. -/
structure Featurable (packages : List Package) : Prop where
  place : ∀ p ∈ packages, FeaturedAtFour p
  default : ∀ p ∈ packages, p.isFeatured = false
  named : ∀ p ∈ packages, p.name ≠ ""
  keys : ∀ p ∈ packages, ∀ f ∈ p.fields[4]?, f.name ∉ p.subFields.map SubField.key

theorem Featurable.allPlaced {schema : Schema} {packages : List Package} (hf : Featurable packages)
    (h : getpackagesData schema = some packages) : AllPlaced packages where
  names := nodup_names h
  placed := by
    intro p hp
    refine ⟨hf.named p hp, hf.place p hp, ?_, fun name hname => ?_⟩
    · obtain ⟨subs, -, rfl⟩ := Option.map_eq_some_iff.1 h
      obtain ⟨plan, -, rfl⟩ := List.mem_map.1 hp
      rw [List.map_map]
      exact plan.2.nodup
    · rw [List.getElem?_map] at hname
      obtain ⟨f, hff, rfl⟩ := Option.map_eq_some_iff.1 hname
      exact hf.keys p hp f hff

/-- The screen, once it is loaded. -/
theorem marks_init {schema : Schema} {item : Option EditedTask} {packages : List Package}
    {screen : Screen} (hpackages : getpackagesData schema = some packages)
    (hf : Featurable packages) (hitem : ∀ t ∈ item, OneFeatured t.attributes)
    (hloaded : loaded schema item = some screen) : Marks screen.packages screen.featured := by
  have hdefault : ∀ p ∈ packages,
      p.isFeatured = false ∧ p.name ≠ "" ∧ 4 < p.fields.length :=
    fun p hp => ⟨hf.default p hp, hf.named p hp, (hf.place p hp).length⟩
  rw [loaded, hpackages, Option.bind_some] at hloaded
  cases item with
  | none =>
    cases hloaded
    have hnone : OneFeatured [] := ⟨by simp, List.Pairwise.nil⟩
    exact marks_load hnone hdefault
  | some t =>
    obtain ⟨-, ⟨⟩⟩ := Option.ite_none_right_eq_some.1 hloaded
    exact marks_load (hitem t rfl) hdefault

/-- **The featured package.**  Take a schema whose packages have their control at index 4,
not `'yes'`, names that are not empty, and no sub-field with the name of that field, and a
task of whose attributes at most one is featured, and no later one has its key.  Then in
every state of every run of taps and edits at most one package is marked, it is the one
named by `featured`, and a save posts this name, and `'yes'` in its plan alone. -/
theorem featured_package_agrees {schema : Schema} {item : Option EditedTask}
    {packages : List Package} {screen : Screen}
    (hpackages : getpackagesData schema = some packages) (hf : Featurable packages)
    (hitem : ∀ t ∈ item, OneFeatured t.attributes) (hloaded : loaded schema item = some screen)
    {es : List Event} {s : State} (h : (machine list screen).run es = some s) :
    Agree s.screen := by
  have hinit : AllPlaced screen.packages :=
    (hf.allPlaced hpackages).of_map_shape (map_shape_loaded hpackages hloaded)
  obtain ⟨hplaced, hmarks⟩ := (machine list screen).invariant_run
    (I := fun t => AllPlaced t.packages ∧ Marks t.packages t.screen.featured)
    ⟨hinit, marks_init hpackages hf hitem hloaded⟩
    (fun _ _ _ hs hst => ⟨hs.1.of_map_shape (map_shape_step hst), marks_step hs.1 hs.2 hst⟩) h
  exact agree_of_marks hplaced hmarks

/-- The screen of a task with one attribute, which features the plan `basic`. -/
def sampleScreen : Screen := (loaded sampleSchema (some (sampleTask []))).get rfl

/-- The other plan is featured, and then the title of the first one is edited. -/
theorem featured_package_agrees_sample :
    ∃ s, (machine .bundled sampleScreen).run [.setFeaturedPackage 1 4,
        .edit ⟨0, .field, 0⟩ (.onChangeText "Tiny")] = some s ∧
      Agree s.screen ∧ s.screen.featured = "premium" ∧
      s.packages.map Package.isFeatured = [false, true] := by
  have hpackages : getpackagesData sampleSchema = some _ := rfl
  have hloaded : loaded sampleSchema (some (sampleTask [])) = some sampleScreen := rfl
  have hitem : ∀ t ∈ some (sampleTask []), OneFeatured t.attributes := by
    rintro t ⟨⟩
    exact ⟨by decide, by decide⟩
  have hrun : (machine .bundled sampleScreen).run [.setFeaturedPackage 1 4,
    .edit ⟨0, .field, 0⟩ (.onChangeText "Tiny")] = some _ := rfl
  exact ⟨_, hrun, featured_package_agrees hpackages ⟨by decide, by decide, by decide, by decide⟩
    hitem hloaded hrun, by decide⟩

/-- The control is at index 4 of every package, not `'yes'`, and at most one attribute is
featured. -/
def AtFour (schema : Schema) (attributes : List Attribute) : Prop :=
  (∀ packages ∈ getpackagesData schema, ∀ p ∈ packages,
    FeaturedAtFour p ∧ p.isFeatured = false) ∧ (attributes.filter Attribute.isFeatured).length ≤ 1

instance (schema : Schema) (attributes : List Attribute) :
    Decidable (AtFour schema attributes) := inferInstanceAs (Decidable (_ ∧ _))

/-- A task with two attributes for the plan `basic`, of which the first one is featured. -/
def twiceTask : EditedTask :=
  { sampleTask [] with
    attributes := [sampleAttribute [],
      { sampleAttribute [] with featured_package := .atom (.text "no") }] }

/-- A schema whose plan has the empty name. -/
def namelessSchema : Schema where
  field_array := []
  service_plans := ⟨[("", fiveFields)], by decide⟩

/-- A schema whose sub-field has the name of a field. -/
def keySchema : Schema where
  field_array := [[⟨[⟨"featured_package", .text, true, .atom (.text "no"), none⟩]⟩]]
  service_plans := ⟨[("basic", fiveFields)], by decide⟩

/-- **They disagree** when a later attribute has the key of the featured one, when a package
with the empty name is tapped, and when a sub-field has the name of the field. -/
theorem featured_package_disagrees :
    (AtFour sampleSchema twiceTask.attributes ∧
      ∃ screen, loaded sampleSchema (some twiceTask) = some screen ∧ ¬ Agree screen) ∧
    (AtFour namelessSchema [] ∧ ∃ screen s, loaded namelessSchema none = some screen ∧
      (machine .bundled screen).run [.setFeaturedPackage 0 4] = some s ∧ ¬ Agree s.screen) ∧
    (AtFour keySchema (sampleTask []).attributes ∧
      ∃ screen, loaded keySchema (some (sampleTask [])) = some screen ∧ ¬ Agree screen) := by
  refine ⟨⟨by decide, _, rfl, fun h => ?_⟩, ⟨by decide, _, _, rfl, rfl, fun h => ?_⟩,
    by decide, _, rfl, fun h => ?_⟩
  · -- the name is set, and the field is overwritten
    have hfield := h.field _ List.mem_cons_self
    revert hfield
    decide
  · have hnone := h.none rfl _ List.mem_cons_self
    revert hnone
    decide
  · obtain ⟨-, hposted⟩ := h.posted _ rfl
    obtain ⟨v, hv, hyes⟩ := hposted _ List.mem_cons_self _ rfl
    cases hv
    revert hyes
    decide

end TaskPackages
