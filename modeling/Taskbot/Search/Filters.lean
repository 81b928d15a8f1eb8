import Mathlib
import Taskbot.Js.Toggle

/-!
# From the search forms to the requests

A search goes through three hands: the form, the parameters of the route, and the
requests of the screen of results, which are written twice, for the first page and
for the later ones.

* `Form`, `Form.handle` — the state of the forms `NarrowSearch` and `SearchProjects`,
  which have the same fields and the same handlers but for their check-lists.
* `searchFreelancer`, `searchProjects` — the parameters of the route.
* `SearchResult.getFreelancers`, `SearchResult.loadMoreData`, and the two of
  `ProjectListing` — the parameters of the requests.
* `Choice`, `choose` — what the user has chosen: the statement of what the forms are
  for, which is not in the source.
-/

namespace Search

/-! ## Values -/

/-- A value among the parameters of a route or of a request, numbers by their text. -/
inductive Value where
  | undefined
  | text (s : String)
  | list (l : List String)
  deriving DecidableEq

/-- The text of a value, as appended to another text. -/
def Value.toString : Value → String
  | .undefined => "undefined"
  | .text s => s
  | .list l => ",".intercalate l

/-- Named values. -/
abbrev Params := List (String × Value)

/-- `params.name`. -/
def Params.get (params : Params) (name : String) : Value := (params.lookup name).getD .undefined

/-! ## The forms -/

/-- An entry of a taxonomy. -/
structure Term where
  term_id : ℕ
  slug : String
  deriving DecidableEq

/-- The fields of a form that a search reads, with the check-lists `ι`. -/
structure Form (ι : Type) where
  text : String
  lowRange : String
  highRange : String
  minPrice : String
  maxPrice : String
  /-- The keys picked; before any, a text that is empty as this list is. -/
  selectedCountry : List String
  selectedCategoriesSlug : String
  ticked : ι → List Term

/-- What can happen on a form. -/
inductive Event (ι : Type) where
  | setText (text : String)
  /-- The reply to `getSettings`: the bounds of the slider. -/
  | getSettings (minPrice maxPrice : String)
  | onValueChanged (low high : String)
  | setSelectedCountry (value : List String)
  | handelSelectedCategory (value : Term)
  /-- A tap on an item of a check-list. -/
  | manage (which : ι) (item : Term)
  | clearAllData
  deriving DecidableEq

variable {ι : Type} [DecidableEq ι]

/-- The form when it is opened. -/
def Form.start : Form ι where
  text := ""
  lowRange := ""
  highRange := ""
  minPrice := "0"
  maxPrice := "0"
  selectedCountry := []
  selectedCategoriesSlug := ""
  ticked _ := []

/-- The handlers.  `clearAllData` empties the name of the category on the screen but
not its slug. -/
def Form.handle (f : Form ι) : Event ι → Form ι
  | .setText text => { f with text := text }
  | .getSettings minPrice maxPrice => { f with minPrice := minPrice, maxPrice := maxPrice }
  | .onValueChanged low high => { f with lowRange := low, highRange := high }
  | .setSelectedCountry value => { f with selectedCountry := value }
  | .handelSelectedCategory value => { f with selectedCategoriesSlug := value.slug }
  | .manage which item =>
    { f with ticked := Function.update f.ticked which (Js.toggle (f.ticked which) item) }
  | .clearAllData =>
    { f with
      text := ""
      selectedCountry := []
      lowRange := f.minPrice
      highRange := f.maxPrice
      ticked := fun _ => [] }

/-- The form after some events. -/
def form (es : List (Event ι)) : Form ι := es.foldl Form.handle Form.start

/-- The slugs of the items ticked in a check-list. -/
def Form.slugs (f : Form ι) (which : ι) : Value := .list ((f.ticked which).map Term.slug)

/-! ## The parameters of the routes -/

/-- The check-lists of `NarrowSearch` in freelancer mode, with the handlers
`manageSelectedType` and `manageEnglishSkill`. -/
inductive FreelancerList where
  | selectedSellerType
  | selectedSkill
  deriving DecidableEq

/-- The check-lists of `SearchProjects`, with the handlers `manageSelectedSkills`,
`manageExpertise` and `manageLanguages`. -/
inductive ProjectList where
  | selectedSkillsType
  | selectedExperties
  | selectedLang
  deriving DecidableEq

/-- The route to `SearchResult`. -/
def searchFreelancer (f : Form FreelancerList) : Params :=
  [("text", .text f.text), ("min", .text f.lowRange), ("max", .text f.highRange),
    ("location", .text (",".intercalate f.selectedCountry)),
    ("sellerType", f.slugs .selectedSellerType), ("englishLevel", f.slugs .selectedSkill)]

/-- The route to `ProjectListing`, without the switches for its cards. -/
def searchProjects (f : Form ProjectList) : Params :=
  [("text", .text f.text), ("min", .text f.lowRange), ("max", .text f.highRange),
    ("location", .text (",".intercalate f.selectedCountry)),
    ("skills", f.slugs .selectedSkillsType), ("expert", f.slugs .selectedExperties),
    ("category", .text f.selectedCategoriesSlug), ("languages", f.slugs .selectedLang)]

/-! ## The parameters of the requests -/

/-- The request for the first page of freelancers, the parameters of which are encoded
by the library that sends it. -/
def SearchResult.getFreelancers (params : Params) : Params :=
  [("type", .text "search"), ("show_posts", .text "20"), ("keyword", params.get "text"),
    ("min_price", params.get "min"), ("max_price", params.get "max"),
    ("location", params.get "location"), ("seller_type", params.get "sellerType"),
    ("english_level", params.get "englishLevel")]

/-- The request for a later page, the parameters of which are appended to the address
as they are. -/
def SearchResult.loadMoreData (params : Params) (page : ℕ) : List (String × String) :=
  [("type", "search"), ("keyword", (params.get "text").toString),
    ("min_price", (params.get "min").toString), ("max_price", (params.get "max").toString),
    ("location", (params.get "location").toString),
    ("seller_type", (params.get "selectedSellerType").toString),
    ("english_level", (params.get "selectedSkills").toString),
    ("page_number", page.repr)]

/-- The request for the first page of projects. -/
def ProjectListing.getProjects (params : Params) (user_id : String) : Params :=
  [("type", .text "search"), ("show_posts", .text "10"), ("keyword", params.get "text"),
    ("min_price", .text "10"), ("max_price", params.get "max"),
    ("location", params.get "location"), ("category", params.get "category"),
    ("skills", params.get "skills"), ("languages", params.get "languages"),
    ("expertise_level", params.get "expert"), ("user_id", .text user_id)]

/-- The request for a later page. -/
def ProjectListing.loadMoreData (params : Params) (user_id : String) (page : ℕ) : Params :=
  [("type", .text "search"), ("show_posts", .text "10"), ("keyword", params.get "text"),
    ("min_price", .text "10"), ("max_price", params.get "max"),
    ("location", params.get "location"), ("category", params.get "category"),
    ("skills", params.get "skills"), ("languages", params.get "languages"),
    ("expertise_level", params.get "expert"), ("user_id", .text user_id),
    ("page_number", .text page.repr)]

/-- The parameters of a request by their texts. -/
def texts (params : Params) : List (String × String) := params.map fun p => (p.1, p.2.toString)

/-! ## What was chosen -/

/-- The choice a user makes on a form: a tick is a set, and there is nothing behind
the screen. -/
structure Choice (ι : Type) where
  text : String
  min : String
  max : String
  location : String
  category : String
  ticked : ι → Finset Term
  /-- The bounds of the slider. -/
  bounds : String × String

/-- Nothing is chosen. -/
def Choice.start : Choice ι where
  text := ""
  min := ""
  max := ""
  location := ""
  category := ""
  ticked _ := ∅
  bounds := ("0", "0")

/-- A choice is made, changed or taken back; "clear filters" takes back everything. -/
def Choice.choose (c : Choice ι) : Event ι → Choice ι
  | .setText text => { c with text := text }
  | .getSettings minPrice maxPrice => { c with bounds := (minPrice, maxPrice) }
  | .onValueChanged low high => { c with min := low, max := high }
  | .setSelectedCountry value => { c with location := ",".intercalate value }
  | .handelSelectedCategory value => { c with category := value.slug }
  | .manage which item =>
    { c with ticked := Function.update c.ticked which (symmDiff (c.ticked which) {item}) }
  | .clearAllData => { Choice.start with min := c.bounds.1, max := c.bounds.2, bounds := c.bounds }

/-- The choice after some events. -/
def choice (es : List (Event ι)) : Choice ι := es.foldl Choice.choose Choice.start

/-! ## What a request should carry -/

/-- A parameter with the slugs of some terms, each once. -/
def CarriesAll (request : List (String × String)) (name : String) (terms : Finset Term) : Prop :=
  ∃ l : List Term, l.Nodup ∧ l.toFinset = terms ∧
    request.lookup name = some (",".intercalate (l.map Term.slug))

/-- What both searches send. -/
structure CarriesText (request : List (String × String)) (c : Choice ι) : Prop where
  keyword : request.lookup "keyword" = some c.text
  min_price : request.lookup "min_price" = some c.min
  max_price : request.lookup "max_price" = some c.max
  location : request.lookup "location" = some c.location

/-- A request for freelancers carries a choice. -/
structure CarriesFreelancer (request : List (String × String)) (c : Choice FreelancerList) : Prop
    extends CarriesText request c where
  seller_type : CarriesAll request "seller_type" (c.ticked .selectedSellerType)
  english_level : CarriesAll request "english_level" (c.ticked .selectedSkill)

/-- A request for projects carries a choice. -/
structure CarriesProject (request : List (String × String)) (c : Choice ProjectList) : Prop
    extends CarriesText request c where
  category : request.lookup "category" = some c.category
  skills : CarriesAll request "skills" (c.ticked .selectedSkillsType)
  languages : CarriesAll request "languages" (c.ticked .selectedLang)
  expertise_level : CarriesAll request "expertise_level" (c.ticked .selectedExperties)

/-- Two requests differ only in the number and the size of the page. -/
def SameFilters (first more : List (String × String)) : Prop :=
  ∀ name, name ≠ "page_number" → name ≠ "show_posts" → first.lookup name = more.lookup name

/-- The filters chosen reach every page of freelancers. -/
def FreelancerFilters (es : List (Event FreelancerList)) : Prop :=
  let params := searchFreelancer (form es)
  CarriesFreelancer (texts (SearchResult.getFreelancers params)) (choice es) ∧
    ∀ page, CarriesFreelancer (SearchResult.loadMoreData params page) (choice es) ∧
      SameFilters (texts (SearchResult.getFreelancers params))
        (SearchResult.loadMoreData params page)

/-- The filters chosen reach every page of projects. -/
def ProjectFilters (es : List (Event ProjectList)) (user_id : String) : Prop :=
  let params := searchProjects (form es)
  CarriesProject (texts (ProjectListing.getProjects params user_id)) (choice es) ∧
    ∀ page, CarriesProject (texts (ProjectListing.loadMoreData params user_id page))
        (choice es) ∧
      SameFilters (texts (ProjectListing.getProjects params user_id))
        (texts (ProjectListing.loadMoreData params user_id page))

end Search
