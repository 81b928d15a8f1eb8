import Mathlib
import Taskbot.Js.Query
import Taskbot.Search.Filters

/-!
# The addresses of the searches

Three screens put the text typed into the address as it is.

* `SearchResultTask.getTasks` and the four others — the addresses, piece by piece as in
  the source.
* `query_round_trip` — **what the server reads is what was chosen if and only if none
  of the values has a separator, a `+` or an escape in it**; the later pages of
  freelancers need besides that the type and the level chosen read `undefined`.
-/

namespace Search

open FormUrlencoded

/-! ## Addresses -/

/-- `CONSTANT.BaseUrl`. -/
def BaseUrl : String := "https://BASE URL/wp-json/api/v1/"

/-- The first page of tasks. -/
def SearchResultTask.getTasks (params : Params) : String :=
  BaseUrl ++ "get_tasks?type=search&show_posts=20&keyword=" ++ (params.get "text").toString ++
    "&min_price=" ++ (params.get "min").toString ++
    "&max_price=" ++ (params.get "max").toString ++
    "&location=" ++ (params.get "location").toString ++
    "&category=" ++ (params.get "category").toString ++
    "&sub_category=" ++ (params.get "sub_category").toString ++
    "&service=" ++ (params.get "services").toString

/-- A later page of tasks. -/
def SearchResultTask.loadMoreData (params : Params) (page : ℕ) : String :=
  BaseUrl ++ "get_tasks?type=search&show_posts=20&keyword=" ++ (params.get "text").toString ++
    "&min_price=" ++ (params.get "min").toString ++
    "&max_price=" ++ (params.get "max").toString ++
    "&location=" ++ (params.get "location").toString ++
    "&category=" ++ (params.get "category").toString ++
    "&sub_category=" ++ (params.get "sub_category").toString ++
    "&service=" ++ (params.get "services").toString ++
    "&page_number=" ++ page.repr

/-- The first page of templates. -/
def TemplateListing.getProjectTemplates (profile_id user_id search : String) : String :=
  BaseUrl ++ "get-projects?post_id=" ++ profile_id ++ "&user_id=" ++ user_id ++
    "&page_number=1" ++ "&type=search&keyword=" ++ search

/-- A later page of templates. -/
def TemplateListing.loadMoreProjectTemplates (profile_id user_id search : String)
    (pageNumber : ℕ) : String :=
  BaseUrl ++ "get-projects?post_id=" ++ profile_id ++ "&user_id=" ++ user_id ++
    "&page_number=" ++ pageNumber.repr ++ "&type=search&keyword=" ++ search

/-- A later page of freelancers, with the parameters of `SearchResult.loadMoreData`. -/
def SearchResult.loadMoreAddress (params : Params) (page : ℕ) : String :=
  BaseUrl ++ "sellers/get_sellers?type=search&keyword=" ++ (params.get "text").toString ++
    "&min_price=" ++ (params.get "min").toString ++
    "&max_price=" ++ (params.get "max").toString ++
    "&location=" ++ (params.get "location").toString ++
    "&seller_type=" ++ (params.get "selectedSellerType").toString ++
    "&english_level=" ++ (params.get "selectedSkills").toString ++
    "&page_number=" ++ page.repr

/-! ## What they should say -/

/-- The parameters of a search for tasks. -/
def tasksQuery (params : Params) : List (String × String) :=
  [("type", "search"), ("show_posts", "20"), ("keyword", (params.get "text").toString),
    ("min_price", (params.get "min").toString), ("max_price", (params.get "max").toString),
    ("location", (params.get "location").toString),
    ("category", (params.get "category").toString),
    ("sub_category", (params.get "sub_category").toString),
    ("service", (params.get "services").toString)]

/-- The parameters of a search for templates. -/
def templatesQuery (profile_id user_id page search : String) : List (String × String) :=
  [("post_id", profile_id), ("user_id", user_id), ("page_number", page), ("type", "search"),
    ("keyword", search)]

/-- The parameters of a search for freelancers. -/
def freelancersQuery (params : Params) (page : ℕ) : List (String × String) :=
  [("type", "search"), ("keyword", (params.get "text").toString),
    ("min_price", (params.get "min").toString), ("max_price", (params.get "max").toString),
    ("location", (params.get "location").toString),
    ("seller_type", (params.get "sellerType").toString),
    ("english_level", (params.get "englishLevel").toString), ("page_number", page.repr)]

/-! ## The addresses are queries -/

theorem getTasks_eq (params : Params) :
    SearchResultTask.getTasks params = address (BaseUrl ++ "get_tasks") (tasksQuery params) := by
  rw [← String.toList_inj]
  simp [SearchResultTask.getTasks, address, query, tasksQuery, String.intercalate_cons_cons]

theorem loadMoreTasks_eq (params : Params) (page : ℕ) :
    SearchResultTask.loadMoreData params page =
      address (BaseUrl ++ "get_tasks") (tasksQuery params ++ [("page_number", page.repr)]) := by
  have hmore : SearchResultTask.loadMoreData params page =
      SearchResultTask.getTasks params ++ "&page_number=" ++ page.repr := rfl
  have hne : tasksQuery params ≠ [] := List.cons_ne_nil _ _
  rw [hmore, getTasks_eq, address, address, query_concat hne]
  simp only [String.append_assoc]
  rfl

theorem getProjectTemplates_eq (profile_id user_id search : String) :
    TemplateListing.getProjectTemplates profile_id user_id search =
      address (BaseUrl ++ "get-projects") (templatesQuery profile_id user_id "1" search) := by
  rw [← String.toList_inj]
  simp [TemplateListing.getProjectTemplates, address, query, templatesQuery,
    String.intercalate_cons_cons]

theorem loadMoreProjectTemplates_eq (profile_id user_id search : String) (pageNumber : ℕ) :
    TemplateListing.loadMoreProjectTemplates profile_id user_id search pageNumber =
      address (BaseUrl ++ "get-projects")
        (templatesQuery profile_id user_id pageNumber.repr search) := by
  rw [← String.toList_inj]
  simp [TemplateListing.loadMoreProjectTemplates, address, query, templatesQuery,
    String.intercalate_cons_cons]

theorem loadMoreAddress_eq (params : Params) (page : ℕ) :
    SearchResult.loadMoreAddress params page =
      address (BaseUrl ++ "sellers/get_sellers") (SearchResult.loadMoreData params page) := by
  rw [← String.toList_inj]
  simp [SearchResult.loadMoreAddress, address, query, SearchResult.loadMoreData,
    String.intercalate_cons_cons]

/-! ## What is read -/

/-- The values of some parameters are clean. -/
def AllClean (pairs : List (String × String)) : Prop := ∀ p ∈ pairs, Clean p.2.toList

theorem isName_tasksQuery (params : Params) : ∀ p ∈ tasksQuery params, IsName p.1 := by
  have hnames : ∀ name ∈ ["type", "show_posts", "keyword", "min_price", "max_price", "location",
      "category", "sub_category", "service"], IsName name := by simp [IsName]
  exact isName_of_map hnames

theorem isName_templatesQuery (profile_id user_id page search : String) :
    ∀ p ∈ templatesQuery profile_id user_id page search, IsName p.1 := by
  have hnames : ∀ name ∈ ["post_id", "user_id", "page_number", "type", "keyword"],
      IsName name := by simp [IsName]
  exact isName_of_map hnames

theorem isName_loadMoreData (params : Params) (page : ℕ) :
    ∀ p ∈ SearchResult.loadMoreData params page, IsName p.1 := by
  have hnames : ∀ name ∈ ["type", "keyword", "min_price", "max_price", "location",
      "seller_type", "english_level", "page_number"], IsName name := by simp [IsName]
  exact isName_of_map hnames

/-- The services have neither a query nor a fragment of their own. -/
theorem notMem_services : ∀ service ∈ ["get_tasks", "get-projects", "sellers/get_sellers"],
    '#' ∉ (BaseUrl ++ service).toList ∧ '?' ∉ (BaseUrl ++ service).toList := by
  simp [BaseUrl]

theorem getTasks_read (params : Params) :
    decode (send (SearchResultTask.getTasks params)) = some (tasksQuery params) ↔
      AllClean (tasksQuery params) := by
  obtain ⟨hhash, hmark⟩ := notMem_services "get_tasks" (by decide)
  rw [getTasks_eq, decode_send_iff hhash hmark (isName_tasksQuery params), AllClean]

theorem loadMoreTasks_read (params : Params) (page : ℕ) :
    decode (send (SearchResultTask.loadMoreData params page)) =
        some (tasksQuery params ++ [("page_number", page.repr)]) ↔
      AllClean (tasksQuery params) := by
  have hnames : ∀ p ∈ tasksQuery params ++ [("page_number", page.repr)], IsName p.1 := by
    refine List.forall_mem_append.2 ⟨isName_tasksQuery params, ?_⟩
    have hpage : IsName "page_number" := by simp [IsName]
    exact List.forall_mem_singleton.2 hpage
  obtain ⟨hhash, hmark⟩ := notMem_services "get_tasks" (by decide)
  rw [loadMoreTasks_eq, decode_send_iff hhash hmark hnames, List.forall_mem_append,
    List.forall_mem_singleton]
  exact and_iff_left (clean_repr page)

/-- A search for templates, with the text of any page. -/
theorem templates_read (profile_id user_id search : String) {page : String}
    (hpage : Clean page.toList) :
    decode (send (address (BaseUrl ++ "get-projects")
        (templatesQuery profile_id user_id page search))) =
        some (templatesQuery profile_id user_id page search) ↔
      AllClean [("post_id", profile_id), ("user_id", user_id), ("keyword", search)] := by
  obtain ⟨hhash, hmark⟩ := notMem_services "get-projects" (by decide)
  have htype : Clean "search".toList := clean_name (by simp [IsName])
  rw [decode_send_iff hhash hmark (isName_templatesQuery profile_id user_id page search)]
  simp only [AllClean, templatesQuery, List.forall_mem_cons, hpage, htype, true_and]

/-- A search for freelancers, later pages. -/
theorem loadMoreFreelancers_read (f : Form FreelancerList) (page : ℕ) :
    decode (send (SearchResult.loadMoreAddress (searchFreelancer f) page)) =
        some (freelancersQuery (searchFreelancer f) page) ↔
      ((f.slugs .selectedSellerType).toString = "undefined" ∧
        (f.slugs .selectedSkill).toString = "undefined") ∧
      AllClean (freelancersQuery (searchFreelancer f) page) := by
  obtain ⟨hhash, hmark⟩ := notMem_services "sellers/get_sellers" (by decide)
  have hclean : Clean "undefined".toList := clean_name (by simp [IsName])
  have hvalues : List.Forall₂ (fun p q => p = q ∨ Clean p.2.toList)
      (SearchResult.loadMoreData (searchFreelancer f) page)
      (freelancersQuery (searchFreelancer f) page) :=
    .cons (Or.inl rfl) (.cons (Or.inl rfl) (.cons (Or.inl rfl) (.cons (Or.inl rfl)
      (.cons (Or.inl rfl) (.cons (Or.inr hclean) (.cons (Or.inr hclean)
        (.cons (Or.inl rfl) .nil)))))))
  rw [loadMoreAddress_eq, decode_send hhash hmark,
    decodeQuery_sentQuery_eq_iff (isName_loadMoreData (searchFreelancer f) page) hvalues]
  have hsame : SearchResult.loadMoreData (searchFreelancer f) page =
      freelancersQuery (searchFreelancer f) page ↔
      (f.slugs .selectedSellerType).toString = "undefined" ∧
        (f.slugs .selectedSkill).toString = "undefined" := by
    constructor
    · intro heq
      have htype := congrArg (fun l => l.lookup "seller_type") heq
      have hlevel := congrArg (fun l => l.lookup "english_level") heq
      exact ⟨(Option.some.inj htype).symm, (Option.some.inj hlevel).symm⟩
    · rintro ⟨htype, hlevel⟩
      have hget : ((searchFreelancer f).get "sellerType").toString = "undefined" := htype
      have hget' : ((searchFreelancer f).get "englishLevel").toString = "undefined" := hlevel
      rw [freelancersQuery, hget, hget']
      rfl
  rw [← hsame]
  refine and_congr_right ?_
  intro heq
  rw [heq, AllClean]

/-- **The round trip of the five addresses.** -/
theorem query_round_trip (params : Params) (f : Form FreelancerList) (page : ℕ)
    (profile_id user_id search : String) :
    (decode (send (SearchResultTask.getTasks params)) = some (tasksQuery params) ↔
      AllClean (tasksQuery params)) ∧
    (decode (send (SearchResultTask.loadMoreData params page)) =
        some (tasksQuery params ++ [("page_number", page.repr)]) ↔
      AllClean (tasksQuery params)) ∧
    (decode (send (TemplateListing.getProjectTemplates profile_id user_id search)) =
        some (templatesQuery profile_id user_id "1" search) ↔
      AllClean [("post_id", profile_id), ("user_id", user_id), ("keyword", search)]) ∧
    (decode (send (TemplateListing.loadMoreProjectTemplates profile_id user_id search page)) =
        some (templatesQuery profile_id user_id page.repr search) ↔
      AllClean [("post_id", profile_id), ("user_id", user_id), ("keyword", search)]) ∧
    (decode (send (SearchResult.loadMoreAddress (searchFreelancer f) page)) =
        some (freelancersQuery (searchFreelancer f) page) ↔
      ((f.slugs .selectedSellerType).toString = "undefined" ∧
        (f.slugs .selectedSkill).toString = "undefined") ∧
      AllClean (freelancersQuery (searchFreelancer f) page)) := by
  refine ⟨getTasks_read params, loadMoreTasks_read params page, ?_, ?_,
    loadMoreFreelancers_read f page⟩
  · rw [getProjectTemplates_eq]
    exact templates_read profile_id user_id search (clean_name (by simp [IsName]))
  · rw [loadMoreProjectTemplates_eq]
    exact templates_read profile_id user_id search (clean_repr page)

/-- The keyword `R&D` is read as the keyword `R` and a parameter `D`. -/
theorem keyword_cut :
    decode (send (TemplateListing.getProjectTemplates "5" "7" "R&D")) =
        some [("post_id", "5"), ("user_id", "7"), ("page_number", "1"), ("type", "search"),
          ("keyword", "R"), ("D", "")] ∧
      decode (send (TemplateListing.getProjectTemplates "5" "7" "R&D")) ≠
        some (templatesQuery "5" "7" "1" "R&D") := by
  have hread : decode (send (TemplateListing.getProjectTemplates "5" "7" "R&D")) =
      some [("post_id", "5"), ("user_id", "7"), ("page_number", "1"), ("type", "search"),
        ("keyword", "R"), ("D", "")] := by decide +kernel
  refine ⟨hread, ?_⟩
  rw [hread]
  decide

end Search
