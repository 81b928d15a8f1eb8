import Mathlib
import Taskbot.Js.Heap

/-!
# The order of the properties of an object

`Object.entries` lists the properties of an object whose names are array indices first,
the smaller before the larger, and then the others, in the order they were made.  This
file is about objects that are filled by a loop, one property for each item.

* `arrayIndex?`, `ownEntries` — array indices, and the properties as they are listed.
* `ownEntries_eq_self_iff` — **the properties are listed as they were made exactly when
  the indices among their names come first, and in order.**
* `fill`, `fill_props` — the loop; names that differ are all there.
* `lookup_fill` — what is there under a name: the last item with it.
* `entries_fill_iff` — **the items are read back as they were, each in its place, exactly
  when moreover the names differ.**
-/

namespace Js

variable {V : Type*}

/-! ## Array indices -/

/-- The number a name is the text of, if it is an array index. -/
def arrayIndex? (name : String) : Option ℕ :=
  let n := name.toList.foldl (fun n c => 10 * n + (c.toNat - 48)) 0
  if n < 2 ^ 32 - 1 ∧ n.repr = name then some n else none

/-- The properties as `Object.entries` lists them. -/
def ownEntries (props : List (String × V)) : List (String × V) :=
  (props.filter fun p => (arrayIndex? p.1).isSome).insertionSort
      (fun p q => (arrayIndex? p.1).getD 0 ≤ (arrayIndex? q.1).getD 0) ++
    props.filter fun p => (arrayIndex? p.1).isNone

/-- A name may come before another one: only a smaller index comes before an index. -/
def MayPrecede (name name' : String) : Prop :=
  ∀ n ∈ arrayIndex? name', ∃ m ∈ arrayIndex? name, m ≤ n

instance (name name' : String) : Decidable (MayPrecede name name') := by
  unfold MayPrecede
  infer_instance

/-- No property is left out, and none comes twice. -/
theorem ownEntries_perm (props : List (String × V)) : (ownEntries props).Perm props := by
  have hsort := List.perm_insertionSort
    (fun p q : String × V => (arrayIndex? p.1).getD 0 ≤ (arrayIndex? q.1).getD 0)
    (props.filter fun p => (arrayIndex? p.1).isSome)
  have hrest : (props.filter fun p => (arrayIndex? p.1).isNone) =
      props.filter fun p => !(arrayIndex? p.1).isSome := by
    refine List.filter_congr fun p _ => ?_
    cases arrayIndex? p.1 <;> rfl
  rw [ownEntries, hrest]
  exact (hsort.append_right _).trans (List.filter_append_perm _ props)

/-- What is listed is in order. -/
theorem pairwise_ownEntries (props : List (String × V)) :
    (ownEntries props).Pairwise fun p q => MayPrecede p.1 q.1 := by
  rw [ownEntries, List.pairwise_append]
  refine ⟨?_, ?_, ?_⟩
  · have hsorted := List.pairwise_insertionSort
      (fun p q : String × V => (arrayIndex? p.1).getD 0 ≤ (arrayIndex? q.1).getD 0)
      (props.filter fun p => (arrayIndex? p.1).isSome)
    refine hsorted.imp_of_mem ?_
    intro p q hp _ hle n hn
    have hsome := (List.mem_filter.1 ((List.mem_insertionSort _).1 hp)).2
    obtain ⟨m, hm⟩ := Option.isSome_iff_exists.1 hsome
    rw [hm, Option.mem_def.1 hn] at hle
    exact ⟨m, hm, hle⟩
  · refine List.pairwise_of_forall_mem_list ?_
    intro p _ q hq n hn
    have hnone := (List.mem_filter.1 hq).2
    rw [Option.mem_def.1 hn] at hnone
    cases hnone
  · intro p _ q hq n hn
    have hnone := (List.mem_filter.1 hq).2
    rw [Option.mem_def.1 hn] at hnone
    cases hnone

/-- Properties that are in order are listed so. -/
theorem ownEntries_of_pairwise {props : List (String × V)}
    (h : props.Pairwise fun p q => MayPrecede p.1 q.1) : ownEntries props = props := by
  induction props with
  | nil => rfl
  | cons p props ih =>
    obtain ⟨hp, hprops⟩ := List.pairwise_cons.1 h
    have hih := ih hprops
    unfold ownEntries at hih ⊢
    cases hindex : arrayIndex? p.1 with
    | some m =>
      have hle : ∀ q ∈ props.filter fun p => (arrayIndex? p.1).isSome,
          (arrayIndex? p.1).getD 0 ≤ (arrayIndex? q.1).getD 0 := by
        intro q hq
        obtain ⟨hq, hsome⟩ := List.mem_filter.1 hq
        obtain ⟨n, hn⟩ := Option.isSome_iff_exists.1 hsome
        obtain ⟨m', hm', hle⟩ := hp q hq n hn
        rw [hm', hn]
        exact hle
      simp only [List.filter_cons, hindex, Option.isSome_some, if_true, Option.isNone_some,
        Bool.false_eq_true, if_false]
      rw [List.insertionSort_cons_of_forall_rel _ hle, List.cons_append, hih]
    | none =>
      -- nothing that comes after this one is an index
      have hnone : ∀ q ∈ props, arrayIndex? q.1 = none := by
        intro q hq
        by_contra hne
        obtain ⟨n, hn⟩ := Option.ne_none_iff_exists'.1 hne
        obtain ⟨m, hm, -⟩ := hp q hq n hn
        rw [hindex] at hm
        cases hm
      have hsome : (props.filter fun p => (arrayIndex? p.1).isSome) = [] := by
        rw [List.filter_eq_nil_iff]
        intro q hq
        simp [hnone q hq]
      rw [hsome, List.insertionSort_nil, List.nil_append] at hih
      simp only [List.filter_cons, hindex, Option.isSome_none, Bool.false_eq_true, if_false, hsome,
        List.insertionSort_nil, List.nil_append, Option.isNone_none, if_true, hih]

/-- **The order of the names.** -/
theorem ownEntries_eq_self_iff (props : List (String × V)) :
    ownEntries props = props ↔ (props.map Prod.fst).Pairwise MayPrecede := by
  rw [List.pairwise_map]
  constructor
  · intro h
    rw [← h]
    exact pairwise_ownEntries props
  · exact ownEntries_of_pairwise

/-! ## A loop that fills an object -/

/-- A property that is set for the first time comes last. -/
theorem setProp_of_notMem {props : List (String × V)} {p : String}
    (h : p ∉ props.map Prod.fst) (v : V) : setProp props p v = props ++ [(p, v)] := by
  induction props with
  | nil => rfl
  | cons x props ih =>
    obtain ⟨q, w⟩ := x
    rw [List.map_cons, List.mem_cons, not_or] at h
    rw [setProp, if_neg (Ne.symm h.1), ih h.2, List.cons_append]

/-- One that is there stays where it is. -/
theorem names_setProp_of_mem {props : List (String × V)} {p : String}
    (h : p ∈ props.map Prod.fst) (v : V) :
    (setProp props p v).map Prod.fst = props.map Prod.fst := by
  induction props with
  | nil => cases h
  | cons x props ih =>
    obtain ⟨q, w⟩ := x
    by_cases hq : q = p
    · simp [setProp, hq]
    · have hp : p ∈ props.map Prod.fst :=
        (List.mem_cons.1 h).resolve_left (Ne.symm hq)
      simp [setProp, hq, ih hp]

/-- The loop: a property for each item. -/
def fill (props : List (String × V)) (items : List (String × V)) : List (String × V) :=
  items.foldl (fun props p => setProp props p.1 p.2) props

/-- Names that differ are all there, in their order. -/
theorem fill_props {props items : List (String × V)}
    (h : ((props ++ items).map Prod.fst).Nodup) : fill props items = props ++ items := by
  induction items generalizing props with
  | nil => simp [fill]
  | cons p items ih =>
    have hassoc : props ++ p :: items = (props ++ [p]) ++ items := by simp
    have hp : p.1 ∉ props.map Prod.fst := by
      rw [List.map_append, List.map_cons] at h
      intro hmem
      exact (List.nodup_append.1 h).2.2 p.1 hmem p.1 List.mem_cons_self rfl
    rw [hassoc] at h
    show fill (setProp props p.1 p.2) items = _
    rw [setProp_of_notMem hp, ih h, hassoc]

/-- The same, of a new object. -/
theorem fill_nil {items : List (String × V)} (h : (items.map Prod.fst).Nodup) :
    fill [] items = items := by
  have hnil : (([] ++ items).map Prod.fst).Nodup := h
  exact fill_props hnil

theorem mem_setProp {props : List (String × V)} {p : String} {v : V} {x : String × V}
    (h : x ∈ setProp props p v) : x ∈ props ∨ x = (p, v) := by
  induction props with
  | nil => exact Or.inr (List.mem_singleton.1 h)
  | cons y props ih =>
    obtain ⟨q, w⟩ := y
    rw [setProp] at h
    split at h
    · rcases List.mem_cons.1 h with rfl | h
      · exact Or.inr rfl
      · exact Or.inl (List.mem_cons_of_mem _ h)
    · rcases List.mem_cons.1 h with rfl | h
      · exact Or.inl List.mem_cons_self
      · exact (ih h).imp_left (List.mem_cons_of_mem _)

/-- The loop makes up no property. -/
theorem mem_fill {props items : List (String × V)} {x : String × V} (h : x ∈ fill props items) :
    x ∈ props ∨ x ∈ items := by
  induction items generalizing props with
  | nil => exact Or.inl h
  | cons p items ih =>
    rcases ih h with h | h
    · rcases mem_setProp h with h | rfl
      · exact Or.inl h
      · exact Or.inr List.mem_cons_self
    · exact Or.inr (List.mem_cons_of_mem p h)

/-- A property is read by its name when names differ. -/
theorem lookup_of_mem {props : List (String × V)} (h : (props.map Prod.fst).Nodup) {p : String}
    {v : V} (hmem : (p, v) ∈ props) : props.lookup p = some v := by
  induction props with
  | nil => cases hmem
  | cons x props ih =>
    obtain ⟨q, w⟩ := x
    rw [List.map_cons, List.nodup_cons] at h
    rcases List.mem_cons.1 hmem with heq | hmem
    · cases heq
      exact List.lookup_cons_self
    · have hpq : (p == q) = false := by
        refine beq_eq_false_iff_ne.2 fun hpq => h.1 ?_
        rw [← hpq]
        exact List.mem_map.2 ⟨(p, v), hmem, rfl⟩
      rw [List.lookup_cons, hpq]
      exact ih h.2 hmem

/-- **What stays** under a name is the last item with it. -/
theorem lookup_fill (props items : List (String × V)) (p : String) :
    (fill props items).lookup p = (items.reverse.lookup p).or (props.lookup p) := by
  induction items generalizing props with
  | nil => simp [fill]
  | cons x items ih =>
    obtain ⟨q, v⟩ := x
    have hfill : fill props ((q, v) :: items) = fill (setProp props q v) items := rfl
    rw [hfill, ih, List.reverse_cons, List.lookup_append, Option.or_assoc]
    congr 1
    by_cases hq : p = q
    · subst hq
      simp [lookup_setProp_self]
    · have hpq : (p == q) = false := beq_eq_false_iff_ne.2 hq
      simp [lookup_setProp_of_ne _ hq, List.lookup_cons, hpq]

/-- The names that are there differ, and are those of the items. -/
theorem names_fill {props items : List (String × V)} (h : (props.map Prod.fst).Nodup) :
    ((fill props items).map Prod.fst).Nodup ∧
      (fill props items).map Prod.fst ⊆ props.map Prod.fst ++ items.map Prod.fst := by
  induction items generalizing props with
  | nil => simpa [fill] using h
  | cons p items ih =>
    by_cases hp : p.1 ∈ props.map Prod.fst
    · have hnames := names_setProp_of_mem hp p.2
      obtain ⟨hnodup, hsub⟩ := ih (hnames ▸ h)
      refine ⟨hnodup, fun q hq => ?_⟩
      have hq := hsub hq
      rw [hnames] at hq
      simp only [List.map_cons, List.mem_append, List.mem_cons] at hq ⊢
      tauto
    · have hset := setProp_of_notMem hp p.2
      have hnames : ((setProp props p.1 p.2).map Prod.fst).Nodup := by
        rw [hset, List.map_append]
        refine h.append (List.nodup_singleton _) ?_
        rintro q hq hmem
        obtain rfl := List.mem_singleton.1 hmem
        exact hp hq
      obtain ⟨hnodup, hsub⟩ := ih hnames
      refine ⟨hnodup, fun q hq => ?_⟩
      have hq := hsub hq
      rw [hset] at hq
      simp only [List.map_append, List.map_cons, List.map_nil, List.mem_append, List.mem_cons,
        List.not_mem_nil, or_false] at hq ⊢
      tauto

/-- When as many properties are there as items, the names of the items differ. -/
theorem nodup_of_length_fill {items : List (String × V)}
    (h : items.length ≤ (fill [] items).length) : (items.map Prod.fst).Nodup := by
  have hnil : (([] : List (String × V)).map Prod.fst).Nodup := List.nodup_nil
  obtain ⟨hnodup, hsub⟩ : ((fill [] items).map Prod.fst).Nodup ∧ _ := names_fill hnil
  rw [List.map_nil, List.nil_append] at hsub
  have hsubperm := List.subperm_of_subset hnodup hsub
  have hperm := hsubperm.perm_of_length_le (by simpa using h)
  exact hperm.nodup_iff.1 hnodup

/-- A permutation of a list is the list when its items are told apart by something that
both have in the same order. -/
theorem eq_of_perm_of_map_eq {α β : Type*} {f : α → β} {l m : List α} (hperm : l.Perm m)
    (hmap : l.map f = m.map f) (hnodup : (m.map f).Nodup) : l = m := by
  refine List.ext_getElem hperm.length_eq fun i hi hj => ?_
  have hf : f l[i] = f m[i] := by
    have h := List.getElem_of_eq hmap (i := i) (by simpa using hi)
    simpa using h
  exact List.inj_on_of_nodup_map hnodup (hperm.mem_iff.1 (List.getElem_mem hi))
    (List.getElem_mem hj) hf

/-- **A round trip.**  Items that can be told apart are read back as they were exactly when
their names differ, and the indices among these come first and in order. -/
theorem entries_fill_iff {items : List (String × V)} (h : (items.map Prod.snd).Nodup) :
    (ownEntries (fill [] items)).map Prod.snd = items.map Prod.snd ↔
      (items.map Prod.fst).Nodup ∧ (items.map Prod.fst).Pairwise MayPrecede := by
  constructor
  · intro hread
    have hlength : (ownEntries (fill [] items)).length = items.length := by
      simpa using congrArg List.length hread
    rw [(ownEntries_perm _).length_eq] at hlength
    have hnodup := nodup_of_length_fill hlength.ge
    have hfill : fill [] items = items := fill_props hnodup
    rw [hfill] at hread
    refine ⟨hnodup, (ownEntries_eq_self_iff items).1 ?_⟩
    exact eq_of_perm_of_map_eq (ownEntries_perm items) hread h
  · rintro ⟨hnodup, hordered⟩
    have hfill : fill [] items = items := fill_props hnodup
    rw [hfill, (ownEntries_eq_self_iff items).2 hordered]

end Js
