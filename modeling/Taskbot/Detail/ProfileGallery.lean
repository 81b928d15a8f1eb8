import Mathlib
import Taskbot.Async.Machine
import Taskbot.Js.Pushes

/-!
# The gallery of a profile

The page of a seller collects the images of all tasks in an array that it keeps from one
rendering to the next, by two nested loops in the body of the component.  A task that is
tapped is opened with this array.

* `pushImages` — the loops; `pushImages_eq`: **they push all images once more.**
* `State`, `step` — the page: it is rendered again whenever one of its states changes, and
  tasks are opened.
* `imagesArray_eq` — the array has the images as often as the page was rendered.
* `gallery_iff` — every task is opened with the images of the profile exactly when the page
  has been rendered once by then, or the profile has no images.
-/

namespace ProfileDetail

/-! ## The page -/

/-- A task of the profile. -/
structure Task where
  task_id : ℕ
  gallery : List String
  deriving DecidableEq

/-- An entry of `imagesArray`. -/
structure Image where
  url : String
  deriving DecidableEq

/-- The two loops, which are run when there are tasks. -/
def pushImages (tasks : List Task) (imagesArray : List Image) : List Image :=
  if tasks.length ≠ 0 then
    tasks.foldl (fun imagesArray task =>
      task.gallery.foldl (fun imagesArray url => imagesArray ++ [⟨url⟩]) imagesArray) imagesArray
  else imagesArray

/-- What a task is opened with.  Its `gallery` is what the array has at the tap; the page
passes the array itself, and its later renderings push onto it. -/
structure Params where
  data : Task
  gallery : List Image
  deriving DecidableEq

/-- The page.  `opened`, the parameters of the tasks that were opened, and `renders`, how
often it was rendered, are for the statements only. -/
structure State where
  imagesArray : List Image
  opened : List Params
  renders : ℕ
  deriving DecidableEq

/-- What can happen: a state of the page or of the store changes, so that it is rendered
again, and the task at an index is tapped. -/
inductive Event where
  | render
  | taskDetail (index : ℕ)
  deriving DecidableEq

/-- The body of the component. -/
def render (tasks : List Task) (s : State) : State :=
  { s with imagesArray := pushImages tasks s.imagesArray, renders := s.renders + 1 }

/-- One event, on the page of a profile with these tasks. -/
def step (tasks : List Task) (s : State) : Event → Option State
  | .render => some (render tasks s)
  | .taskDetail index =>
    tasks[index]?.map fun item => { s with opened := s.opened ++ [⟨item, s.imagesArray⟩] }

/-- The page rendered for the first time. -/
def machine (tasks : List Task) : Async.Machine State Event :=
  ⟨render tasks ⟨[], [], 0⟩, step tasks⟩

/-- The images of the profile: those of its tasks, in order. -/
def images (tasks : List Task) : List Image := tasks.flatMap fun task => task.gallery.map Image.mk

/-! ## What the array has -/

/-- **All images once more.** -/
theorem pushImages_eq (tasks : List Task) (imagesArray : List Image) :
    pushImages tasks imagesArray = imagesArray ++ images tasks := by
  unfold pushImages
  split
  · simp only [Js.foldl_push]
    exact Js.foldl_append_flatMap _ tasks imagesArray
  · next hnone =>
    have hnil : tasks = [] := List.length_eq_zero_iff.1 (not_not.1 hnone)
    rw [hnil, images, List.flatMap_nil, List.append_nil]

/-- The images, as often as the page was rendered. -/
def Inv (tasks : List Task) (s : State) : Prop :=
  s.imagesArray = (List.replicate s.renders (images tasks)).flatten

theorem inv_render {tasks : List Task} {s : State} (hs : Inv tasks s) :
    Inv tasks (render tasks s) := by
  show pushImages tasks s.imagesArray = (List.replicate (s.renders + 1) (images tasks)).flatten
  rw [pushImages_eq, Js.flatten_replicate_succ, hs]

theorem inv_init (tasks : List Task) : Inv tasks (machine tasks).init := inv_render rfl

theorem inv_step {tasks : List Task} {s t : State} {e : Event} (hs : Inv tasks s)
    (h : step tasks s e = some t) : Inv tasks t := by
  cases e with
  | render =>
    cases h
    exact inv_render hs
  | taskDetail index =>
    obtain ⟨item, -, rfl⟩ := Option.map_eq_some_iff.1 h
    exact hs

/-- **As often as the page was rendered.** -/
theorem imagesArray_eq {tasks : List Task} {es : List Event} {s : State}
    (h : (machine tasks).run es = some s) :
    s.imagesArray = (List.replicate s.renders (images tasks)).flatten :=
  (machine tasks).invariant_run (I := Inv tasks) (inv_init tasks) (fun _ _ _ => inv_step) h

/-! ## When the gallery is right -/

/-- The property: every task was opened with the images of the profile. -/
def Right (tasks : List Task) (s : State) : Prop := ∀ p ∈ s.opened, p.gallery = images tasks

/-- What a step must meet: a task is tapped while the page has been rendered once, or no task
has an image. -/
def OpenOk (tasks : List Task) (s : State) : Event → Prop
  | .render => True
  | .taskDetail _ => s.renders = 1 ∨ ∀ task ∈ tasks, task.gallery = []

instance (tasks : List Task) (s : State) : (e : Event) → Decidable (OpenOk tasks s e)
  | .render => isTrue trivial
  | .taskDetail _ => inferInstanceAs (Decidable (s.renders = 1 ∨ ∀ task ∈ tasks, task.gallery = []))

theorem images_eq_nil_iff (tasks : List Task) :
    images tasks = [] ↔ ∀ task ∈ tasks, task.gallery = [] := by
  simp [images]

/-- **One step.** -/
theorem openOk_iff {tasks : List Task} {s t : State} {e : Event} (hs : Inv tasks s)
    (hright : Right tasks s) (h : step tasks s e = some t) :
    OpenOk tasks s e ↔ Right tasks t := by
  cases e with
  | render =>
    cases h
    exact iff_of_true trivial hright
  | taskDetail index =>
    obtain ⟨item, -, rfl⟩ := Option.map_eq_some_iff.1 h
    have hopened : Right tasks { s with opened := s.opened ++ [⟨item, s.imagesArray⟩] } ↔
        s.imagesArray = images tasks := by
      constructor
      · intro hall
        exact hall ⟨item, s.imagesArray⟩ (List.mem_append_right _ List.mem_cons_self)
      · intro himages p hp
        rcases List.mem_append.1 hp with hp | hp
        · exact hright p hp
        · obtain rfl := List.mem_singleton.1 hp
          exact himages
    rw [hopened, hs, Js.flatten_replicate_eq_iff, images_eq_nil_iff, or_comm]
    rfl

/-- **When the gallery is that of the profile.**  For every profile, in a run of any number
of renderings and of tasks that are opened, each task is opened with the images of all
tasks, in order and each once, exactly when the page has been rendered once each time, or
there are no images. -/
theorem gallery_iff {tasks : List Task} {es : List Event} {s : State}
    (h : (machine tasks).run es = some s) :
    (machine tasks).Meets (OpenOk tasks) es ↔
      ∀ fs, fs <+: es → ∀ t, (machine tasks).run fs = some t → Right tasks t := by
  have hinit : Right tasks (machine tasks).init := fun _ hp => absurd hp List.not_mem_nil
  exact (machine tasks).meets_iff_of_invariant (I := fun _ => Right tasks) hinit (inv_init tasks)
    (fun _ _ _ hs _ => inv_step hs) (fun _ _ _ _ _ hs hright => openOk_iff hs hright) h

/-- A profile with two tasks. -/
def sampleTasks : List Task := [⟨1, ["a.png", "b.png"]⟩, ⟨2, ["c.png"]⟩]

/-- A task is opened before the page is rendered again. -/
theorem gallery_iff_sample :
    ∃ s, (machine sampleTasks).run [.taskDetail 1] = some s ∧ Right sampleTasks s := by
  have hok : (machine sampleTasks).Meets (OpenOk sampleTasks) [.taskDetail 1] := by decide
  exact ⟨_, rfl, (gallery_iff rfl).1 hok _ List.prefix_rfl _ rfl⟩

/-- **Each image twice.**  The page is rendered once more before a task is opened. -/
theorem gallery_twice :
    ∃ s, (machine sampleTasks).run [.render, .taskDetail 1] = some s ∧
      s.opened.map (fun p => p.gallery.map Image.url) =
        [["a.png", "b.png", "c.png", "a.png", "b.png", "c.png"]] ∧
      (images sampleTasks).map Image.url = ["a.png", "b.png", "c.png"] :=
  ⟨_, rfl, rfl, rfl⟩

end ProfileDetail
