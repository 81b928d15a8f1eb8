import Mathlib
import Taskbot.Async.Machine
import Taskbot.Js.Pushes
import Taskbot.Js.Splice

/-!
# The tags of the first step

The first step of the task wizard keeps the tags of a task in two arrays: `tags`, which is
shown and submitted, and `selectedTags`, which the multi-select over the taxonomy of tags
is given.  Custom tags are pushed on both; what the multi-select reports replaces the
second, and the first is made anew from it.

* `Arrays`, `addTagText`, `selectAndAddTags`, `deleteTags`, `prefill` — the two arrays and
  their handlers.
* `Listed` — the tags there should be: those of the start and those added, without those
  deleted or taken back.
* `selectedTags_eq` — **the second array always lists these**, under what the handlers
  know of them: the id of a tag that was picked, the text of a custom one, and nothing of
  a tag of the start.
* `faithful_iff` — the tags submitted are those there should be, and the arrays are
  aligned, exactly when the multi-select is used only while the taxonomy has every tag
  listed.
-/

namespace PostTaskTags

/-- An entry of `tagsTaxonomy`. -/
structure TagTerm where
  id : ℕ
  name : String
  deriving DecidableEq

/-- The taxonomy of tags. -/
structure TagsTaxonomy where
  terms : List TagTerm
  /-- Every tag has an id of its own. -/
  nodup_id : (terms.map TagTerm.id).Nodup

/-- An entry of `tags`: a tag of the taxonomy or of the task, or `{name}`. -/
structure Tag where
  id : Option ℕ
  name : String
  deriving DecidableEq

/-- The object of the taxonomy as an entry of `tags`. -/
def TagTerm.tag (t : TagTerm) : Tag := ⟨some t.id, t.name⟩

/-- An entry of `selectedTags`. -/
inductive Entry where
  | undefined
  | text (tagText : String)
  | id (id : ℕ)
  deriving DecidableEq

/-- The two arrays. -/
structure Arrays where
  selectedTags : List Entry
  tags : List Tag
  deriving DecidableEq

/-! ## The handlers -/

/-- The effect on `isFocused`, as far as the tags go: for an edited task with these tags
`item.tags_arr.id`, which is `undefined`, is pushed for each. -/
def prefill : Option (List Tag) → Arrays
  | none => ⟨[], []⟩
  | some tags_arr => ⟨tags_arr.map fun _ => .undefined, tags_arr⟩

/-- `addTagText`. -/
def addTagText (s : Arrays) (tagText : String) : Arrays :=
  if tagText ≠ "" then
    { selectedTags := s.selectedTags ++ [.text tagText], tags := s.tags ++ [⟨none, tagText⟩] }
  else s

variable (toNumber : String → Option ℕ) (T : TagsTaxonomy)

/-- `value[i] == tagsTaxonomy[j].id`; a text is compared as the number it converts to. -/
def LooseEq : Entry → ℕ → Prop
  | .undefined, _ => False
  | .text tagText, n => toNumber tagText = some n
  | .id m, n => m = n

instance (e : Entry) : DecidablePred (LooseEq toNumber e) := fun n => by
  cases e <;> unfold LooseEq <;> infer_instance

/-- `selectAndAddTags(value)`, two nested loops. -/
def selectAndAddTags (value : List Entry) : Arrays where
  selectedTags := value
  tags := value.foldl (fun arr v =>
    T.terms.foldl (fun arr t => if LooseEq toNumber v t.id then arr ++ [t.tag] else arr) arr) []

/-- `deleteTags(index)`. -/
def deleteTags (s : Arrays) (index : ℕ) : Arrays :=
  { selectedTags := s.selectedTags.eraseIdx index, tags := s.tags.eraseIdx index }

/-- What the multi-select reports for a tap on an item: the items it was given, with one id
added or removed. -/
def reported (selectedTags : List Entry) (id : ℕ) : List Entry :=
  if .id id ∈ selectedTags then selectedTags.filter (· ≠ .id id) else selectedTags ++ [.id id]

/-- `tagFinalArray`, the tags that are submitted. -/
def tagFinalArray (s : Arrays) : List String := s.tags.map Tag.name

/-! ## The form and its history -/

/-- A tag there should be. -/
inductive Listed where
  | start (tag : Tag)
  | custom (tagText : String)
  | picked (t : TagTerm)
  deriving DecidableEq

/-- The name it should be submitted under. -/
def Listed.name : Listed → String
  | start tag => tag.name
  | custom tagText => tagText
  | picked t => t.name

/-- What `selectedTags` has for it. -/
def Listed.entry : Listed → Entry
  | start _ => .undefined
  | custom tagText => .text tagText
  | picked t => .id t.id

/-- The form; the second field is a history for the statements only. -/
structure State where
  arrays : Arrays
  listed : List Listed
  deriving DecidableEq

/-- What can happen. -/
inductive Event where
  /-- The text field is confirmed. -/
  | addTagText (tagText : String)
  /-- A tap on an item of the multi-select. -/
  | tap (t : TagTerm)
  /-- A tap on the cross of a tag that is shown. -/
  | deleteTags (index : ℕ)
  deriving DecidableEq

/-- The tags there should be after a tap in the multi-select, which picks the tag or takes
it back. -/
def tapped (listed : List Listed) (selectedTags : List Entry) (t : TagTerm) : List Listed :=
  if .id t.id ∈ selectedTags then listed.filter (·.entry ≠ .id t.id) else listed ++ [.picked t]

/-- One event. -/
def step (s : State) : Event → Option State
  | .addTagText tagText =>
    some ⟨addTagText s.arrays tagText,
      if tagText ≠ "" then s.listed ++ [.custom tagText] else s.listed⟩
  | .tap t =>
    if t ∈ T.terms then
      some ⟨selectAndAddTags toNumber T (reported s.arrays.selectedTags t.id),
        tapped s.listed s.arrays.selectedTags t⟩
    else none
  | .deleteTags index =>
    if index < s.arrays.tags.length then
      some ⟨deleteTags s.arrays index, s.listed.eraseIdx index⟩
    else none

/-- The form for a new task, or for a task with some tags. -/
def machine (tags_arr : Option (List Tag)) : Async.Machine State Event :=
  ⟨⟨prefill tags_arr, (tags_arr.getD []).map .start⟩, step toNumber T⟩

/-! ## The second array -/

variable {toNumber T}

/-- The second array lists the tags there should be, and the picked ones are of the
taxonomy. -/
structure Inv (T : TagsTaxonomy) (s : State) : Prop where
  selectedTags : s.arrays.selectedTags = s.listed.map Listed.entry
  picked : ∀ t, .picked t ∈ s.listed → t ∈ T.terms

theorem inv_init (tags_arr : Option (List Tag)) : Inv T (machine toNumber T tags_arr).init := by
  refine ⟨?_, fun t ht => ?_⟩
  · cases tags_arr with
    | none => rfl
    | some tags_arr => simp [machine, prefill, Function.comp_def, Listed.entry]
  · obtain ⟨tag, -, htag⟩ := List.mem_map.1 ht
    cases htag

/-- What the multi-select reports is what the tags there should be have in the second
array. -/
theorem reported_map (listed : List Listed) (t : TagTerm) :
    reported (listed.map Listed.entry) t.id =
      (tapped listed (listed.map Listed.entry) t).map Listed.entry := by
  unfold reported tapped
  split
  · rw [List.filter_map]
    rfl
  · rw [List.map_append]
    rfl

theorem inv_step {s t : State} {e : Event} (hs : Inv T s) (h : step toNumber T s e = some t) :
    Inv T t := by
  cases e with
  | addTagText tagText =>
    cases h
    by_cases htext : tagText = ""
    · simpa [addTagText, htext] using hs
    · refine ⟨by simp [addTagText, htext, hs.selectedTags, Listed.entry], fun u hu => ?_⟩
      exact hs.picked u (by simpa [htext] using hu)
  | tap u =>
    obtain ⟨hu, ⟨⟩⟩ := Option.ite_none_right_eq_some.1 h
    refine ⟨?_, fun v hv => ?_⟩
    · show reported s.arrays.selectedTags u.id = _
      rw [hs.selectedTags, reported_map]
    · have htapped : .picked v ∈ s.listed ∨ v = u := by
        revert hv
        unfold tapped
        split
        · exact fun hv => Or.inl (List.mem_of_mem_filter hv)
        · simp
      rcases htapped with hv | rfl
      · exact hs.picked v hv
      · exact hu
  | deleteTags index =>
    obtain ⟨-, ⟨⟩⟩ := Option.ite_none_right_eq_some.1 h
    refine ⟨?_, fun v hv => hs.picked v (List.mem_of_mem_eraseIdx hv)⟩
    show s.arrays.selectedTags.eraseIdx index = _
    rw [hs.selectedTags, List.eraseIdx_map]

/-- **What `selectedTags` lists.**  In every run it has one entry for each tag there should
be: the id of a tag that was picked, the text of a custom one, and `undefined` for a tag
of the start. -/
theorem selectedTags_eq {tags_arr : Option (List Tag)} {es : List Event} {s : State}
    (h : (machine toNumber T tags_arr).run es = some s) :
    s.arrays.selectedTags = s.listed.map Listed.entry :=
  ((machine toNumber T tags_arr).invariant_run (inv_init tags_arr) (fun _ _ _ => inv_step)
    h).selectedTags

/-! ## The first array -/

/-- The tags of the taxonomy an entry is found as. -/
def found (toNumber : String → Option ℕ) (T : TagsTaxonomy) (e : Entry) : List TagTerm :=
  T.terms.filter fun t => LooseEq toNumber e t.id

theorem selectAndAddTags_tags (value : List Entry) :
    (selectAndAddTags toNumber T value).tags =
      value.flatMap fun e => (found toNumber T e).map TagTerm.tag := by
  unfold selectAndAddTags
  simp only [Js.foldl_push_map]
  rw [Js.foldl_append_flatMap, List.nil_append]
  rfl

theorem mem_found {e : Entry} {t : TagTerm} :
    t ∈ found toNumber T e ↔ t ∈ T.terms ∧ LooseEq toNumber e t.id := by
  simp [found]

/-- An entry is equal to one number at most. -/
theorem LooseEq.unique {e : Entry} {m n : ℕ} (hm : LooseEq toNumber e m)
    (hn : LooseEq toNumber e n) : m = n := by
  cases e with
  | undefined => exact hm.elim
  | text tagText => exact Option.some.inj (hm.symm.trans hn)
  | id k => exact hm.symm.trans hn

/-- An entry that is found is found once. -/
theorem found_eq_singleton {e : Entry} {t : TagTerm} (ht : t ∈ T.terms)
    (he : LooseEq toNumber e t.id) : found toNumber T e = [t] := by
  have hnodup : (found toNumber T e).Nodup := (List.Nodup.of_map _ T.nodup_id).filter _
  have hall : ∀ u ∈ found toNumber T e, u = t := by
    intro u hu
    obtain ⟨hu, hue⟩ := mem_found.1 hu
    exact List.inj_on_of_nodup_map T.nodup_id hu ht (hue.unique he)
  have hperm : (found toNumber T e).Perm [t] := by
    refine (List.perm_ext_iff_of_nodup hnodup (List.nodup_singleton t)).2 fun u => ?_
    rw [List.mem_singleton]
    refine ⟨hall u, ?_⟩
    rintro rfl
    exact mem_found.2 ⟨ht, he⟩
  exact List.perm_singleton.1 hperm

theorem length_found_le (e : Entry) : (found toNumber T e).length ≤ 1 := by
  by_cases h : found toNumber T e = []
  · rw [h]
    exact Nat.zero_le 1
  · obtain ⟨t, ht⟩ := List.exists_mem_of_ne_nil _ h
    obtain ⟨hmem, he⟩ := mem_found.1 ht
    rw [found_eq_singleton hmem he, List.length_singleton]

/-- The taxonomy has the tag that an entry stands for: the tag was picked, or it is a
custom one whose text is both the name and the id of one tag. -/
def Known (toNumber : String → Option ℕ) (T : TagsTaxonomy) : Entry → Prop
  | .undefined => False
  | .text tagText => ∃ t ∈ T.terms, toNumber tagText = some t.id ∧ t.name = tagText
  | .id _ => True

instance (e : Entry) : Decidable (Known toNumber T e) := by
  cases e <;> unfold Known <;> infer_instance

/-- A tag that was picked is found. -/
theorem map_found_picked {t : TagTerm} (ht : t ∈ T.terms) :
    (found toNumber T (Listed.picked t).entry).map TagTerm.name = [(Listed.picked t).name] := by
  have he : LooseEq toNumber (Listed.picked t).entry t.id := rfl
  rw [found_eq_singleton ht he]
  rfl

/-- When what is found has the name of a tag there should be, it is one tag with that name,
which its entry is equal to. -/
theorem found_of_map {l : Listed}
    (h : (found toNumber T l.entry).map TagTerm.name = [l.name]) :
    ∃ t ∈ T.terms, found toNumber T l.entry = [t] ∧ LooseEq toNumber l.entry t.id ∧
      t.name = l.name := by
  obtain ⟨t, ht, hname⟩ := List.map_eq_singleton_iff.1 h
  obtain ⟨hmem, he⟩ := mem_found.1 (ht ▸ List.mem_singleton_self t)
  exact ⟨t, hmem, ht, he, hname⟩

/-- What is found for a tag there should be is the tag, under its name, exactly when the
taxonomy has it. -/
theorem map_found_iff {s : State} (hs : Inv T s) {l : Listed} (hl : l ∈ s.listed) :
    (found toNumber T l.entry).map TagTerm.name = [l.name] ↔ Known toNumber T l.entry := by
  constructor
  · intro h
    obtain ⟨t, hmem, -, he, hname⟩ := found_of_map h
    cases l with
    | start tag => exact he
    | custom tagText => exact ⟨t, hmem, he, hname⟩
    | picked u => trivial
  · intro h
    cases l with
    | start tag => exact h.elim
    | custom tagText =>
      obtain ⟨t, hmem, he, hname⟩ := h
      have he : LooseEq toNumber (Listed.custom tagText).entry t.id := he
      rw [found_eq_singleton hmem he, List.map_singleton, hname]
      rfl
    | picked u => exact map_found_picked (hs.picked u hl)

/-! ## The property -/

/-- The tag that an entry of `selectedTags` stands for. -/
def Denotes : Entry → Tag → Prop
  | .undefined, _ => True
  | .text tagText, tag => tag.name = tagText
  | .id id, tag => tag.id = some id

instance (e : Entry) (tag : Tag) : Decidable (Denotes e tag) := by
  cases e <;> unfold Denotes <;> infer_instance

/-- The tags submitted are those there should be, each under its name; and the arrays have
an entry for the same tag at every place. -/
structure Faithful (s : State) : Prop where
  submitted : tagFinalArray s.arrays = s.listed.map Listed.name
  aligned : List.Forall₂ Denotes s.arrays.selectedTags s.arrays.tags

/-- What a step must meet: the multi-select is used while the taxonomy has every tag
listed. -/
def StepOk (toNumber : String → Option ℕ) (T : TagsTaxonomy) (s : State) : Event → Prop
  | .tap _ => ∀ e ∈ s.arrays.selectedTags, Known toNumber T e
  | .addTagText _ | .deleteTags _ => True

instance (s : State) (e : Event) : Decidable (StepOk toNumber T s e) := by
  cases e <;> unfold StepOk <;> infer_instance

theorem faithful_init (tags_arr : Option (List Tag)) :
    Faithful (machine toNumber T tags_arr).init := by
  cases tags_arr with
  | none => exact ⟨rfl, .nil⟩
  | some tags_arr =>
    refine ⟨?_, ?_⟩
    · simp [machine, prefill, tagFinalArray, Function.comp_def, Listed.name]
    · show List.Forall₂ Denotes (tags_arr.map fun _ => .undefined) tags_arr
      rw [List.forall₂_map_left_iff, List.forall₂_same]
      exact fun _ _ => trivial

/-- What is found for a tag there should be, under its name, is what its entry stands
for. -/
theorem denotes_found {l : Listed}
    (h : (found toNumber T l.entry).map TagTerm.name = [l.name]) :
    ∃ tag, (found toNumber T l.entry).map TagTerm.tag = [tag] ∧ Denotes l.entry tag := by
  obtain ⟨t, -, ht, he, hname⟩ := found_of_map h
  refine ⟨t.tag, by rw [ht, List.map_singleton], ?_⟩
  cases l with
  | start tag => exact trivial
  | custom tagText => exact hname
  | picked u => exact congrArg some he.symm

/-- The arrays made anew from what was reported are aligned, and name the tags there should
be, exactly when the taxonomy has each of these. -/
theorem faithful_selectAndAddTags_iff {s : State} (hs : Inv T s) {listed : List Listed}
    (hlisted : ∀ l ∈ listed, l ∈ s.listed ∨ ∃ t ∈ T.terms, l = .picked t) :
    Faithful ⟨selectAndAddTags toNumber T (listed.map Listed.entry), listed⟩ ↔
      ∀ l ∈ listed, Known toNumber T l.entry := by
  have hname : ∀ l ∈ listed, ((found toNumber T l.entry).map TagTerm.name = [l.name] ↔
      Known toNumber T l.entry) := by
    intro l hl
    rcases hlisted l hl with hl | ⟨t, ht, rfl⟩
    · exact map_found_iff hs hl
    · exact iff_of_true (map_found_picked ht) trivial
  have htags : tagFinalArray (selectAndAddTags toNumber T (listed.map Listed.entry)) =
      listed.flatMap fun l => (found toNumber T l.entry).map TagTerm.name := by
    rw [tagFinalArray, selectAndAddTags_tags, List.flatMap_map, List.map_flatMap]
    simp [Function.comp_def, TagTerm.tag]
  have hsubmitted : tagFinalArray (selectAndAddTags toNumber T (listed.map Listed.entry)) =
      listed.map Listed.name ↔ ∀ l ∈ listed, Known toNumber T l.entry := by
    rw [htags, Js.flatMap_eq_map_iff fun l _ => by
      rw [List.length_map]
      exact length_found_le l.entry]
    exact forall₂_congr hname
  refine ⟨fun h => hsubmitted.1 h.submitted, fun h => ⟨hsubmitted.2 h, ?_⟩⟩
  show List.Forall₂ Denotes (listed.map Listed.entry)
    (selectAndAddTags toNumber T (listed.map Listed.entry)).tags
  rw [selectAndAddTags_tags, List.flatMap_map]
  exact Js.forall₂_map_flatMap fun l hl => denotes_found ((hname l hl).2 (h l hl))

/-- A tap in the multi-select keeps the property exactly when the taxonomy has every tag
listed before it. -/
theorem faithful_tap_iff {s : State} (hs : Inv T s) {t : TagTerm} (ht : t ∈ T.terms) :
    Faithful ⟨selectAndAddTags toNumber T (reported s.arrays.selectedTags t.id),
      tapped s.listed s.arrays.selectedTags t⟩ ↔
      ∀ e ∈ s.arrays.selectedTags, Known toNumber T e := by
  have hmem : ∀ l ∈ tapped s.listed s.arrays.selectedTags t,
      l ∈ s.listed ∨ ∃ u ∈ T.terms, l = .picked u := by
    intro l hl
    unfold tapped at hl
    split at hl
    · exact Or.inl (List.mem_of_mem_filter hl)
    · rcases List.mem_append.1 hl with hl | hl
      · exact Or.inl hl
      · exact Or.inr ⟨t, ht, List.mem_singleton.1 hl⟩
  have hreported : reported s.arrays.selectedTags t.id =
      (tapped s.listed s.arrays.selectedTags t).map Listed.entry := by
    rw [hs.selectedTags, reported_map]
  rw [hreported, faithful_selectAndAddTags_iff hs hmem, hs.selectedTags, List.forall_mem_map]
  -- what is picked or taken back has an id, so the taxonomy has it
  have hid : Known toNumber T (.id t.id) := trivial
  unfold tapped
  split
  · refine ⟨fun h l hl => ?_, fun h l hl => h l (List.mem_of_mem_filter hl)⟩
    by_cases hl' : l.entry = .id t.id
    · rw [hl']
      exact hid
    · exact h l (List.mem_filter.2 ⟨hl, by simpa using hl'⟩)
  · rw [List.forall_mem_append, List.forall_mem_singleton]
    exact and_iff_left hid

/-- A step keeps the property exactly when it meets the condition. -/
theorem stepOk_iff {s t : State} {e : Event} (hs : Inv T s) (hfaithful : Faithful s)
    (h : step toNumber T s e = some t) : StepOk toNumber T s e ↔ Faithful t := by
  cases e with
  | addTagText tagText =>
    cases h
    refine iff_of_true trivial ?_
    by_cases htext : tagText = ""
    · simpa [addTagText, htext] using hfaithful
    · simp only [addTagText, htext, ne_eq, not_false_eq_true, if_true]
      refine ⟨?_, List.rel_append hfaithful.aligned (.cons rfl .nil)⟩
      have hsubmitted := hfaithful.submitted
      rw [tagFinalArray] at hsubmitted ⊢
      rw [List.map_append, List.map_append, hsubmitted]
      rfl
  | tap u =>
    obtain ⟨hu, ⟨⟩⟩ := Option.ite_none_right_eq_some.1 h
    exact (faithful_tap_iff hs hu).symm
  | deleteTags index =>
    obtain ⟨-, ⟨⟩⟩ := Option.ite_none_right_eq_some.1 h
    refine iff_of_true trivial ⟨?_, Js.forall₂_eraseIdx hfaithful.aligned index⟩
    have hsubmitted := hfaithful.submitted
    rw [tagFinalArray] at hsubmitted
    show (s.arrays.tags.eraseIdx index).map Tag.name = _
    rw [← List.eraseIdx_map, hsubmitted, List.eraseIdx_map]

/-- **When the tags are those there should be.**  For a new task or a task with any tags,
in a run of custom tags added, tags of the taxonomy picked and taken back, and tags
deleted, the tags submitted are throughout those of the start and those added, without
those deleted or taken back, each under its name, and the two arrays are aligned, exactly
when the multi-select is used only while every tag listed was picked in it (or is a custom
one whose text is the name and the id of a tag of the taxonomy). -/
theorem tags_iff (toNumber : String → Option ℕ) (T : TagsTaxonomy)
    {tags_arr : Option (List Tag)} {es : List Event} {s : State}
    (h : (machine toNumber T tags_arr).run es = some s) :
    (machine toNumber T tags_arr).Meets (StepOk toNumber T) es ↔
      ∀ fs, fs <+: es → ∀ t, (machine toNumber T tags_arr).run fs = some t → Faithful t :=
  (machine toNumber T tags_arr).meets_iff_of_invariant (I := fun _ => Faithful)
    (faithful_init tags_arr) (inv_init tags_arr) (fun _ _ _ hs _ => inv_step hs)
    (fun _ _ _ _ _ hs hfaithful => stepOk_iff hs hfaithful) h

/-- Two tags. -/
def sampleTaxonomy : TagsTaxonomy := ⟨[⟨11, "logo"⟩, ⟨12, "flyer"⟩], by decide⟩

/-- No text below is a number. -/
def sampleNumber : String → Option ℕ := fun _ => none

/-- Two tags are picked, one of them is deleted, and a custom one is added. -/
theorem tags_iff_sample :
    ∃ s, (machine sampleNumber sampleTaxonomy none).run
        [.tap ⟨11, "logo"⟩, .tap ⟨12, "flyer"⟩, .deleteTags 0, .addTagText "poster"] = some s ∧
      tagFinalArray s.arrays = ["flyer", "poster"] := by
  have hok : (machine sampleNumber sampleTaxonomy none).Meets
      (StepOk sampleNumber sampleTaxonomy)
      [.tap ⟨11, "logo"⟩, .tap ⟨12, "flyer"⟩, .deleteTags 0, .addTagText "poster"] := by
    decide
  exact ⟨_, rfl, ((tags_iff _ _ rfl).1 hok _ List.prefix_rfl _ rfl).submitted⟩

/-- **A custom tag is lost.**  A custom tag is added, and then one of the taxonomy is
picked: only the second is submitted. -/
theorem custom_lost :
    ∃ s, (machine sampleNumber sampleTaxonomy none).run
        [.addTagText "poster", .tap ⟨11, "logo"⟩] = some s ∧
      tagFinalArray s.arrays = ["logo"] ∧ s.listed.map Listed.name = ["poster", "logo"] ∧
      s.arrays.selectedTags = [.text "poster", .id 11] := by
  refine ⟨_, rfl, ?_, rfl, rfl⟩
  decide

end PostTaskTags
