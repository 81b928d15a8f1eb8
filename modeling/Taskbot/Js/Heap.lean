import Mathlib

/-!
# Arrays that are shared

An array of JavaScript is held by reference: two variables with the same one see each
other's changes in place.  This file is about arrays by their addresses, and about the
objects in them.

* `Obj`, `Obj.get`, `Obj.set` — objects by their properties; `Obj.set_eq_self_iff`: **to
  set a property changes the object unless it has that value already.**
* `Heap`, `alloc`, `mutate` — the arrays; a new one has an address of its own.
* `get_mutate_eq_self_iff` — **a change in place leaves an array as it was exactly when
  it is another array, or the change makes none.**
* `eraseIdx_ne_self`, `append_singleton_ne_self`, `modify_eq_self_iff` — the changes that
  make one.
-/

namespace Js

/-! ## Objects -/

variable {V : Type*}

/-- An object: its properties, in the order they were made. -/
structure Obj (V : Type*) where
  props : List (String × V)
  deriving DecidableEq

/-- The properties after one is set: where it is, or at the end. -/
def setProp : List (String × V) → String → V → List (String × V)
  | [], p, v => [(p, v)]
  | (q, w) :: props, p, v =>
    if q = p then (p, v) :: props else (q, w) :: setProp props p v

theorem lookup_setProp_self (props : List (String × V)) (p : String) (v : V) :
    (setProp props p v).lookup p = some v := by
  induction props with
  | nil => simp [setProp]
  | cons x props ih =>
    obtain ⟨q, w⟩ := x
    by_cases hq : q = p
    · simp [setProp, hq]
    · have hp : (p == q) = false := beq_eq_false_iff_ne.2 (Ne.symm hq)
      simp [setProp, hq, hp, List.lookup_cons, ih]

theorem lookup_setProp_of_ne (props : List (String × V)) {p q : String} (h : q ≠ p) (v : V) :
    (setProp props p v).lookup q = props.lookup q := by
  have hqp : (q == p) = false := beq_eq_false_iff_ne.2 h
  induction props with
  | nil => simp [setProp, List.lookup_cons, hqp]
  | cons x props ih =>
    obtain ⟨r, w⟩ := x
    by_cases hr : r = p
    · subst hr
      simp [setProp, List.lookup_cons, hqp]
    · simp [setProp, hr, List.lookup_cons, ih]

theorem setProp_eq_self_iff (props : List (String × V)) (p : String) (v : V) :
    setProp props p v = props ↔ props.lookup p = some v := by
  induction props with
  | nil => simp [setProp]
  | cons x props ih =>
    obtain ⟨q, w⟩ := x
    by_cases hq : q = p
    · subst hq
      simp [setProp, eq_comm]
    · have hp : (p == q) = false := beq_eq_false_iff_ne.2 (Ne.symm hq)
      simp [setProp, hq, hp, List.lookup_cons, ih]

namespace Obj

/-- `{}`. -/
def empty : Obj V := ⟨[]⟩

/-- `o.p`, if it has the property. -/
def get (o : Obj V) (p : String) : Option V := o.props.lookup p

/-- `o.p = v`. -/
def set (o : Obj V) (p : String) (v : V) : Obj V := ⟨setProp o.props p v⟩

@[simp] theorem get_set_self (o : Obj V) (p : String) (v : V) : (o.set p v).get p = some v :=
  lookup_setProp_self o.props p v

theorem get_set_of_ne (o : Obj V) {p q : String} (h : q ≠ p) (v : V) :
    (o.set p v).get q = o.get q :=
  lookup_setProp_of_ne o.props h v

/-- **Setting a property changes an object**, unless it has that value already. -/
theorem set_eq_self_iff (o : Obj V) (p : String) (v : V) : o.set p v = o ↔ o.get p = some v := by
  obtain ⟨props⟩ := o
  rw [set, mk.injEq, get]
  exact setProp_eq_self_iff props p v

/-- Setting two properties. -/
theorem set_set_eq_self_iff (o : Obj V) {p q : String} (hpq : p ≠ q) (v w : V) :
    (o.set p v).set q w = o ↔ o.get p = some v ∧ o.get q = some w := by
  constructor
  · intro h
    refine ⟨?_, ?_⟩
    · rw [← h, get_set_of_ne _ hpq, get_set_self]
    · rw [← h, get_set_self]
  · rintro ⟨hp, hq⟩
    rw [(set_eq_self_iff o p v).2 hp, (set_eq_self_iff o q w).2 hq]

end Obj

/-! ## Arrays -/

variable {α : Type*}

/-- The arrays, by their addresses. -/
structure Heap (α : Type*) where
  arrays : List (List α)
  deriving DecidableEq

namespace Heap

/-- The array at an address. -/
def get (h : Heap α) (a : ℕ) : List α := (h.arrays[a]?).getD []

/-- How many arrays there are; the next one is at this address. -/
def size (h : Heap α) : ℕ := h.arrays.length

/-- A new array, at the address `h.size`. -/
def alloc (h : Heap α) (l : List α) : Heap α := ⟨h.arrays ++ [l]⟩

/-- The array at an address is changed in place. -/
def mutate (h : Heap α) (a : ℕ) (f : List α → List α) : Heap α := ⟨h.arrays.modify a f⟩

@[simp] theorem size_mutate (h : Heap α) (a : ℕ) (f : List α → List α) :
    (h.mutate a f).size = h.size :=
  List.length_modify f h.arrays a

@[simp] theorem size_alloc (h : Heap α) (l : List α) : (h.alloc l).size = h.size + 1 := by
  simp [alloc, size]

/-- A new array leaves the others alone. -/
theorem get_alloc_of_lt (h : Heap α) (l : List α) {a : ℕ} (ha : a < h.size) :
    (h.alloc l).get a = h.get a := by
  rw [get, alloc, List.getElem?_append_left ha, get]

/-- So does a change of another one. -/
theorem get_mutate_of_ne (h : Heap α) {a b : ℕ} (hab : a ≠ b) (f : List α → List α) :
    (h.mutate a f).get b = h.get b := by
  rw [get, mutate, List.getElem?_modify_ne f h.arrays hab, get]

theorem get_mutate_self (h : Heap α) {a : ℕ} (ha : a < h.size) (f : List α → List α) :
    (h.mutate a f).get a = f (h.get a) := by
  rw [get, mutate, List.getElem?_modify_eq, get, List.getElem?_eq_getElem ha]
  rfl

/-- **Sharing.**  After a change in place an array is as it was exactly when it is another
one, or the change makes none. -/
theorem get_mutate_eq_self_iff (h : Heap α) {a b : ℕ} (hb : b < h.size)
    (f : List α → List α) :
    (h.mutate a f).get b = h.get b ↔ (a = b → f (h.get b) = h.get b) := by
  by_cases hab : a = b
  · subst hab
    rw [get_mutate_self h hb]
    simp
  · simp [get_mutate_of_ne h hab, hab]

end Heap

/-! ## Changes in place -/

/-- To delete an item that is there is a change. -/
theorem eraseIdx_ne_self {l : List α} {i : ℕ} (hi : i < l.length) : l.eraseIdx i ≠ l := by
  intro h
  have hlength := congrArg List.length h
  rw [List.length_eraseIdx_of_lt hi] at hlength
  omega

/-- To push an item is one. -/
theorem append_singleton_ne_self (l : List α) (x : α) : l ++ [x] ≠ l := by
  intro h
  have hlength := congrArg List.length h
  rw [List.length_append, List.length_singleton] at hlength
  omega

/-- What the change of one item keeps of it is kept of all of them. -/
theorem map_modify_eq {β : Type*} {g : α → β} {f : α → α} {l : List α} {i : ℕ}
    (h : ∀ x ∈ l[i]?, g (f x) = g x) : (l.modify i f).map g = l.map g := by
  refine List.ext_getElem? fun j => ?_
  rw [List.getElem?_map, List.getElem?_map]
  by_cases hij : i = j
  · subst hij
    rw [List.getElem?_modify_eq]
    cases hx : l[i]? with
    | none => rfl
    | some x => exact congrArg some (h x hx)
  · rw [List.getElem?_modify_ne _ _ hij]

/-- A list around one of its items, and the list with that item changed. -/
theorem map_split {β : Type*} {l : List α} {i : ℕ} {x : α} (h : l[i]? = some x) (g : α → β)
    (f : α → α) :
    l.map g = (l.take i).map g ++ g x :: (l.drop (i + 1)).map g ∧
      (l.modify i f).map g = (l.take i).map g ++ g (f x) :: (l.drop (i + 1)).map g := by
  obtain ⟨hi, rfl⟩ := List.getElem?_eq_some_iff.1 h
  have hmodify : ∀ f : α → α, (l.modify i f).map g =
      (l.take i).map g ++ g (f l[i]) :: (l.drop (i + 1)).map g := by
    intro f
    rw [List.modify_eq_take_cons_drop hi, List.map_append, List.map_cons]
  have hid := hmodify id
  rw [List.modify_id] at hid
  exact ⟨hid, hmodify f⟩

/-- To change an item is one exactly when it changes that item. -/
theorem modify_eq_self_iff (l : List α) (i : ℕ) (f : α → α) :
    l.modify i f = l ↔ ∀ x ∈ l[i]?, f x = x := by
  constructor
  · intro h x hx
    have hi := List.getElem?_modify_eq f i l
    rw [h, Option.mem_def.1 hx] at hi
    exact (Option.some.inj hi).symm
  · intro h
    refine List.ext_getElem? fun j => ?_
    by_cases hij : i = j
    · subst hij
      rw [List.getElem?_modify_eq]
      cases hx : l[i]? with
      | none => rfl
      | some x => simp [h x hx]
    · rw [List.getElem?_modify_ne f l hij]

end Js
