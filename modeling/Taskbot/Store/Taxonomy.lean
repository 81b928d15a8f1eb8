import Mathlib

/-!
# The tree of categories

The taxonomy `product_cat` of the server, from which the forms pick categories,
sub-categories and the terms below these.  A form asks for the children of one term at a
time (`parent_cat`), and names a term to the server by its id or by its slug.

* `Term`, `CategoryTree` — the terms, each of which has an id and a slug of its own.
* `CategoryTree.children`, `CategoryTree.childIds` — the reply of the server.
* `CategoryTree.Child` — "is a child of", between slugs.
-/

namespace Taxonomy

/-- A term of the taxonomy. -/
structure Term where
  term_id : ℕ
  /-- The id of the term above, `0` for a category of the first level. -/
  parent : ℕ
  name : String
  slug : String
  deriving DecidableEq

/-- The terms of the taxonomy. -/
structure CategoryTree where
  terms : List Term
  /-- Every term has an id of its own. -/
  nodup_id : (terms.map Term.term_id).Nodup
  /-- Every term has a slug of its own. -/
  nodup_slug : (terms.map Term.slug).Nodup
  id_ne_zero : ∀ t ∈ terms, t.term_id ≠ 0
  slug_ne_empty : ∀ t ∈ terms, t.slug ≠ ""

namespace CategoryTree

variable (T : CategoryTree)

/-- The reply to `get_options` with `parent_cat=id`. -/
def children (id : ℕ) : List Term := T.terms.filter fun t => t.parent = id

@[simp] theorem mem_children {id : ℕ} {t : Term} :
    t ∈ T.children id ↔ t ∈ T.terms ∧ t.parent = id := by
  simp [children]

/-- The ids in that reply. -/
def childIds (id : ℕ) : List ℕ := (T.children id).map Term.term_id

theorem mem_childIds {id n : ℕ} :
    n ∈ T.childIds id ↔ ∃ t ∈ T.terms, t.parent = id ∧ t.term_id = n := by
  simp [childIds, and_assoc]

theorem term_id_mem_childIds {t : Term} (ht : t ∈ T.terms) : t.term_id ∈ T.childIds t.parent :=
  T.mem_childIds.2 ⟨t, ht, rfl, rfl⟩

variable {T}

theorem eq_of_term_id_eq {t u : Term} (ht : t ∈ T.terms) (hu : u ∈ T.terms)
    (h : t.term_id = u.term_id) : t = u :=
  List.inj_on_of_nodup_map T.nodup_id ht hu h

variable (T)

/-- The term with the second slug is a child of the one with the first. -/
def Child (slug sub : String) : Prop :=
  ∃ t ∈ T.terms, t.slug = slug ∧ ∃ u ∈ T.terms, u.slug = sub ∧ u.parent = t.term_id

instance (slug sub : String) : Decidable (T.Child slug sub) := by
  unfold Child
  infer_instance

variable {T}

/-- Nothing is a child of no term. -/
theorem not_child_empty (sub : String) : ¬ T.Child "" sub := by
  rintro ⟨t, ht, hslug, -⟩
  exact T.slug_ne_empty t ht hslug

end CategoryTree

/-- Two categories; two sub-categories of the first, and one of the second; one term
below these. -/
def sampleTree : CategoryTree where
  terms := [⟨1, 0, "Design", "design"⟩, ⟨2, 0, "Music", "music"⟩, ⟨3, 1, "Logos", "logos"⟩,
    ⟨4, 1, "Flyers", "flyers"⟩, ⟨5, 2, "Voices", "voices"⟩, ⟨6, 3, "Vectors", "vectors"⟩]
  nodup_id := by decide
  nodup_slug := by decide
  id_ne_zero := by decide
  slug_ne_empty := by decide

end Taxonomy
