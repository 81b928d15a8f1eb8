import Mathlib
import Taskbot.Search.Filters

/-!
# The filters chosen on every page

* `Shows`, `shows_run` — the fields of a form are the choice made on it, the slug of
  the category apart, which outlives "clear filters".
* `freelancerFilters_iff` — later pages of freelancers ask for the type and the level
  `undefined`, whatever was chosen.
* `projectFilters_iff` — all pages of projects ask for the minimum price `10`.
* `filters_on_every_page` — both.
-/

namespace Search

variable {ι : Type}

/-! ## A form shows a choice -/

/-- The fields of the form are the choice; the category is left out. -/
structure Shows (f : Form ι) (c : Choice ι) : Prop where
  text : f.text = c.text
  min : f.lowRange = c.min
  max : f.highRange = c.max
  bounds : (f.minPrice, f.maxPrice) = c.bounds
  location : ",".intercalate f.selectedCountry = c.location
  nodup : ∀ which, (f.ticked which).Nodup
  ticked : ∀ which, (f.ticked which).toFinset = c.ticked which

theorem shows_start : Shows (Form.start : Form ι) Choice.start :=
  ⟨rfl, rfl, rfl, rfl, String.intercalate_nil, fun _ => List.nodup_nil, fun _ => rfl⟩

theorem shows_step [DecidableEq ι] {f : Form ι} {c : Choice ι} (h : Shows f c) (e : Event ι) :
    Shows (f.handle e) (c.choose e) := by
  cases e with
  | setText text => exact { h with text := rfl }
  | getSettings minPrice maxPrice => exact { h with bounds := rfl }
  | onValueChanged low high => exact { h with min := rfl, max := rfl }
  | setSelectedCountry value => exact { h with location := rfl }
  | handelSelectedCategory value => exact { h with }
  | manage which item =>
    refine { h with nodup := ?_, ticked := ?_ }
    · intro i
      by_cases hi : i = which
      · subst hi
        simp only [Form.handle, Function.update_self]
        exact Js.toggle_nodup (h.nodup i) item
      · simp only [Form.handle, Function.update_of_ne hi]
        exact h.nodup i
    · intro i
      by_cases hi : i = which
      · subst hi
        simp only [Form.handle, Choice.choose, Function.update_self]
        rw [Js.toFinset_toggle (h.nodup i), h.ticked]
      · simp only [Form.handle, Choice.choose, Function.update_of_ne hi]
        exact h.ticked i
  | clearAllData =>
    have hbounds := Prod.ext_iff.1 h.bounds
    exact ⟨rfl, hbounds.1, hbounds.2, h.bounds, String.intercalate_nil,
      fun _ => List.nodup_nil, fun _ => rfl⟩

/-- **What is on the form is what was chosen.** -/
theorem shows_run [DecidableEq ι] (es : List (Event ι)) : Shows (form es) (choice es) := by
  induction es using List.reverseRecOn with
  | nil => exact shows_start
  | append_singleton es e ih =>
    rw [form, choice, List.foldl_concat, List.foldl_concat]
    exact shows_step ih e

/-- A request with the slugs of a check-list carries its ticks. -/
theorem carriesAll_slugs {f : Form ι} {c : Choice ι} (h : Shows f c) (which : ι)
    {request : List (String × String)} {name : String}
    (hname : request.lookup name = some (f.slugs which).toString) :
    CarriesAll request name (c.ticked which) :=
  ⟨f.ticked which, h.nodup which, h.ticked which, hname⟩

/-! ## The text `undefined` -/

/-- The slugs of some terms read `undefined` only if it is one term with that slug. -/
theorem intercalate_slugs_eq_undefined {l : List Term} :
    ",".intercalate (l.map Term.slug) = "undefined" ↔ ∃ t, l = [t] ∧ t.slug = "undefined" := by
  constructor
  · intro h
    match l with
    | [] => exact absurd h (by decide)
    | [t] =>
      rw [List.map_singleton, String.intercalate_singleton] at h
      exact ⟨t, rfl, h⟩
    | t :: u :: l =>
      rw [List.map_cons, List.map_cons, String.intercalate_cons_cons] at h
      have hcomma : ',' ∈ "undefined".toList := by
        rw [← h]
        simp
      exact absurd hcomma (by decide)
  · rintro ⟨t, rfl, h⟩
    rw [List.map_singleton, String.intercalate_singleton, h]

/-- A request with the text `undefined` carries no more than a single term of that
name. -/
theorem carriesAll_undefined {request : List (String × String)} {name : String}
    (hname : request.lookup name = some "undefined") {terms : Finset Term}
    (h : CarriesAll request name terms) : ∃ t, terms = {t} ∧ t.slug = "undefined" := by
  obtain ⟨l, -, rfl, hl⟩ := h
  obtain ⟨t, rfl, ht⟩ := intercalate_slugs_eq_undefined.1 (Option.some.inj (hl.symm.trans hname))
  exact ⟨t, rfl, ht⟩

/-- The slugs of a check-list with a single tick of that name read `undefined`. -/
theorem slugs_eq_undefined {f : Form ι} {c : Choice ι} (h : Shows f c) {which : ι} {t : Term}
    (ht : c.ticked which = {t}) (hslug : t.slug = "undefined") :
    (f.slugs which).toString = "undefined" := by
  refine intercalate_slugs_eq_undefined.2 ⟨t, ?_, hslug⟩
  have hset : (f.ticked which).toFinset = {t} := (h.ticked which).trans ht
  have hlength : (f.ticked which).length = 1 := by
    rw [← List.toFinset_card_of_nodup (h.nodup which), hset, Finset.card_singleton]
  obtain ⟨u, hu⟩ := List.length_eq_one_iff.1 hlength
  rw [hu] at hset ⊢
  have hmem : u ∈ ({t} : Finset Term) := hset ▸ List.mem_toFinset.2 (List.mem_singleton_self u)
  rw [Finset.mem_singleton.1 hmem]

/-! ## Two requests for one filter -/

theorem lookup_cons_of_ne {name key : String} (h : name ≠ key) (value : String)
    (l : List (String × String)) : ((key, value) :: l).lookup name = l.lookup name := by
  rw [List.lookup_cons, beq_eq_false_iff_ne.2 h]

/-- Filters are compared one by one. -/
theorem sameFilters_cons {l l' : List (String × String)} (h : SameFilters l l')
    (p : String × String) : SameFilters (p :: l) (p :: l') := by
  intro name hnumber hsize
  rw [List.lookup_cons, List.lookup_cons, h name hnumber hsize]

/-- The size of the page may be there or not. -/
theorem sameFilters_show_posts {l l' : List (String × String)} (h : SameFilters l l')
    (value : String) : SameFilters (("show_posts", value) :: l) l' := by
  intro name hnumber hsize
  rw [lookup_cons_of_ne hsize, h name hnumber hsize]

/-- So may its number. -/
theorem sameFilters_page_number (value : String) : SameFilters [] [("page_number", value)] := by
  intro name hnumber hsize
  rw [lookup_cons_of_ne hnumber]

/-- What is carried by one of them is carried by the other. -/
theorem CarriesAll.of_sameFilters {first more : List (String × String)}
    (h : SameFilters first more) {name : String} {terms : Finset Term}
    (hnumber : name ≠ "page_number") (hsize : name ≠ "show_posts")
    (hfirst : CarriesAll first name terms) : CarriesAll more name terms := by
  obtain ⟨l, hnodup, hl, hlookup⟩ := hfirst
  exact ⟨l, hnodup, hl, (h name hnumber hsize).symm.trans hlookup⟩

theorem CarriesText.of_sameFilters {first more : List (String × String)}
    (h : SameFilters first more) {c : Choice ι} (hfirst : CarriesText first c) :
    CarriesText more c where
  keyword := (h _ (by decide) (by decide)).symm.trans hfirst.keyword
  min_price := (h _ (by decide) (by decide)).symm.trans hfirst.min_price
  max_price := (h _ (by decide) (by decide)).symm.trans hfirst.max_price
  location := (h _ (by decide) (by decide)).symm.trans hfirst.location

theorem CarriesFreelancer.of_sameFilters {first more : List (String × String)}
    (h : SameFilters first more) {c : Choice FreelancerList}
    (hfirst : CarriesFreelancer first c) : CarriesFreelancer more c where
  toCarriesText := hfirst.toCarriesText.of_sameFilters h
  seller_type := hfirst.seller_type.of_sameFilters h (by decide) (by decide)
  english_level := hfirst.english_level.of_sameFilters h (by decide) (by decide)

theorem CarriesProject.of_sameFilters {first more : List (String × String)}
    (h : SameFilters first more) {c : Choice ProjectList}
    (hfirst : CarriesProject first c) : CarriesProject more c where
  toCarriesText := hfirst.toCarriesText.of_sameFilters h
  category := (h _ (by decide) (by decide)).symm.trans hfirst.category
  skills := hfirst.skills.of_sameFilters h (by decide) (by decide)
  languages := hfirst.languages.of_sameFilters h (by decide) (by decide)
  expertise_level := hfirst.expertise_level.of_sameFilters h (by decide) (by decide)

/-- The two requests for projects. -/
theorem sameFilters_projects (params : Params) (user_id : String) (page : ℕ) :
    SameFilters (texts (ProjectListing.getProjects params user_id))
      (texts (ProjectListing.loadMoreData params user_id page)) := by
  simp only [texts, ProjectListing.getProjects, ProjectListing.loadMoreData, List.map_cons,
    List.map_nil]
  iterate 11 refine sameFilters_cons ?_ _
  exact sameFilters_page_number _

/-- The two requests for freelancers, when the type and the level are `undefined` for the
first one as well. -/
theorem sameFilters_freelancers (params : Params) (page : ℕ)
    (htype : (params.get "sellerType").toString = (params.get "selectedSellerType").toString)
    (hlevel : (params.get "englishLevel").toString = (params.get "selectedSkills").toString) :
    SameFilters (texts (SearchResult.getFreelancers params))
      (SearchResult.loadMoreData params page) := by
  simp only [texts, SearchResult.getFreelancers, SearchResult.loadMoreData, List.map_cons,
    List.map_nil, htype, hlevel]
  refine sameFilters_cons (sameFilters_show_posts ?_ _) _
  iterate 6 refine sameFilters_cons ?_ _
  exact sameFilters_page_number _

/-! ## The two searches -/

/-- The first page of freelancers is asked for with the choice. -/
theorem carriesFreelancer_first (es : List (Event FreelancerList)) :
    CarriesFreelancer (texts (SearchResult.getFreelancers (searchFreelancer (form es))))
      (choice es) := by
  have hs := shows_run es
  refine ⟨⟨?_, ?_, ?_, ?_⟩, carriesAll_slugs hs _ rfl, carriesAll_slugs hs _ rfl⟩
  · exact congrArg some hs.text
  · exact congrArg some hs.min
  · exact congrArg some hs.max
  · exact congrArg some hs.location

/-- Freelancers: only a type and a level of the name `undefined` would reach the later
pages. -/
theorem freelancerFilters_iff (es : List (Event FreelancerList)) :
    FreelancerFilters es ↔
      (∃ t, (choice es).ticked .selectedSellerType = {t} ∧ t.slug = "undefined") ∧
        ∃ t, (choice es).ticked .selectedSkill = {t} ∧ t.slug = "undefined" := by
  constructor
  · rintro ⟨-, hmore⟩
    obtain ⟨hcarries, -⟩ := hmore 1
    exact ⟨carriesAll_undefined rfl hcarries.seller_type,
      carriesAll_undefined rfl hcarries.english_level⟩
  · rintro ⟨⟨t, ht, htslug⟩, u, hu, huslug⟩
    have hs := shows_run es
    have hfirst := carriesFreelancer_first es
    refine ⟨hfirst, ?_⟩
    intro page
    have hsame := sameFilters_freelancers (searchFreelancer (form es)) page
      (slugs_eq_undefined hs ht htslug) (slugs_eq_undefined hs hu huslug)
    exact ⟨hfirst.of_sameFilters hsame, hsame⟩

/-- Projects: the minimum price is `10` on all pages, and the category is the one
picked last, "clear filters" or not. -/
theorem projectFilters_iff (es : List (Event ProjectList)) (user_id : String) :
    ProjectFilters es user_id ↔
      (choice es).min = "10" ∧ (form es).selectedCategoriesSlug = (choice es).category := by
  constructor
  · rintro ⟨hfirst, -⟩
    exact ⟨(Option.some.inj hfirst.min_price).symm, Option.some.inj hfirst.category⟩
  · rintro ⟨hmin, hcategory⟩
    have hs := shows_run es
    have hfirst : CarriesProject
        (texts (ProjectListing.getProjects (searchProjects (form es)) user_id)) (choice es) := by
      refine ⟨⟨?_, ?_, ?_, ?_⟩, congrArg some hcategory, carriesAll_slugs hs _ rfl,
        carriesAll_slugs hs _ rfl, carriesAll_slugs hs _ rfl⟩
      · exact congrArg some hs.text
      · exact congrArg some hmin.symm
      · exact congrArg some hs.max
      · exact congrArg some hs.location
    refine ⟨hfirst, ?_⟩
    intro page
    have hsame := sameFilters_projects (searchProjects (form es)) user_id page
    exact ⟨hfirst.of_sameFilters hsame, hsame⟩

/-- **Filters on every page.**  The filters chosen reach every page exactly when, in a
search for freelancers, the only type and the only level ticked are called `undefined`;
and, in a search for projects, the minimum price is `10` and the slug in the form is
that of the category chosen. -/
theorem filters_on_every_page (es : List (Event FreelancerList))
    (fs : List (Event ProjectList)) (user_id : String) :
    (FreelancerFilters es ↔
      (∃ t, (choice es).ticked .selectedSellerType = {t} ∧ t.slug = "undefined") ∧
        ∃ t, (choice es).ticked .selectedSkill = {t} ∧ t.slug = "undefined") ∧
    (ProjectFilters fs user_id ↔
      (choice fs).min = "10" ∧ (form fs).selectedCategoriesSlug = (choice fs).category) :=
  ⟨freelancerFilters_iff es, projectFilters_iff fs user_id⟩

/-- A search for freelancers of one type asks for the type `undefined` on the second
page, and a search for projects from a price of 50 asks for projects from 10. -/
theorem filters_lost :
    (¬ FreelancerFilters [.manage .selectedSellerType ⟨1, "agency"⟩]) ∧
      ¬ ProjectFilters [.onValueChanged "50" "200"] "7" := by
  constructor
  · rintro ⟨-, hmore⟩
    obtain ⟨hcarries, -⟩ := hmore 2
    obtain ⟨t, hset, hslug⟩ := carriesAll_undefined rfl hcarries.seller_type
    have hticked : (choice [.manage .selectedSellerType ⟨1, "agency"⟩]).ticked
        FreelancerList.selectedSellerType = {⟨1, "agency"⟩} := by decide
    rw [hticked, Finset.singleton_inj] at hset
    rw [← hset] at hslug
    exact absurd hslug (by decide)
  · rintro ⟨hfirst, -⟩
    exact absurd hfirst.min_price (by decide)

end Search
