import Mathlib
import Taskbot.Async.Machine
import Taskbot.Js.Heap
import Taskbot.Js.Value
import Taskbot.Tasks.StepOneTags

/-!
# The record of the task that is edited

`editTask` gives the wizard the record of the listing itself, and the steps one, three and
four take its arrays `tags_arr`, `galleries`, `downloads` and `faqs` as their own.  So what
is pushed, deleted or written on a form is pushed, deleted or written in the record.

* `Field`, `Record` — the four arrays, and the heap they are in.
* `StepOne`, `StepThree`, `StepFour` — the steps by the addresses of their arrays, and
  their handlers.
* `Effect`, `handle_effect` — **what an edit does to the record**: it leaves the other
  fields alone, and its own exactly when it is harmless.
-/

namespace TaskRecord

open Js (Atom Obj Heap)
open PostTaskTags (Entry Tag TagsTaxonomy)

/-! ## The record -/

/-- The fields of the record that hold arrays. -/
inductive Field where
  | tags_arr
  | galleries
  | downloads
  | faqs
  deriving DecidableEq

/-- The address of the array in a field. -/
def Field.addr : Field → ℕ
  | tags_arr => 0
  | galleries => 1
  | downloads => 2
  | faqs => 3

theorem Field.addr_lt (f : Field) : f.addr < 4 := by cases f <;> decide

theorem Field.addr_injective : Function.Injective Field.addr := by
  intro f g h
  cases f <;> cases g <;> first | rfl | cases h

/-- The steps of the wizard. -/
inductive Step where
  | one
  | two
  | three
  | four
  deriving DecidableEq

/-- The step that edits a field. -/
def Field.step : Field → Step
  | tags_arr => .one
  | galleries | downloads => .three
  | faqs => .four

/-- The record as the listing was answered. -/
structure Record where
  tags_arr : List (Obj Atom)
  galleries : List (Obj Atom)
  downloads : List (Obj Atom)
  faqs : List (Obj Atom)
  deriving DecidableEq

/-- The heap with the arrays of the record. -/
def Record.heap (r : Record) : Heap (Obj Atom) :=
  ⟨[r.tags_arr, r.galleries, r.downloads, r.faqs]⟩

/-! ## Step one -/

variable (toNumber : String → Option ℕ) (T : TagsTaxonomy)

/-- `PostTaskStepOne`, as far as its tags go; `selectedTags` is always its own. -/
structure StepOne where
  tags : ℕ
  deriving DecidableEq

/-- What can happen on it; `focus` is the effect that fills it again. -/
inductive EditOne where
  | addTagText (tagText : String)
  | selectAndAddTags (value : List Entry)
  | deleteTags (index : ℕ)
  | focus
  deriving DecidableEq

/-- `tags.push({name: tagText})`, of a text that is not empty. -/
def addTagText (tagText : String) (tags : List (Obj Atom)) : List (Obj Atom) :=
  if tagText ≠ "" then tags ++ [⟨[("name", .text tagText)]⟩] else tags

/-- A tag as an object. -/
def tagObj (t : Tag) : Obj Atom :=
  match t.id with
  | none => ⟨[("name", .text t.name)]⟩
  | some id => ⟨[("id", .number id), ("name", .text t.name)]⟩

/-- The handlers of step one: the multi-select makes a new array. -/
def StepOne.handle (s : StepOne) (h : Heap (Obj Atom)) :
    EditOne → Option (StepOne × Heap (Obj Atom))
  | .addTagText tagText => some (s, h.mutate s.tags (addTagText tagText))
  | .selectAndAddTags value =>
    some (⟨h.size⟩, h.alloc ((PostTaskTags.selectAndAddTags toNumber T value).tags.map tagObj))
  | .deleteTags index =>
    if index < (h.get s.tags).length then some (s, h.mutate s.tags (·.eraseIdx index)) else none
  | .focus => some (⟨Field.tags_arr.addr⟩, h)

/-! ## Step three -/

/-- `PostTaskStepThree`, as far as its pictures and files go. -/
structure StepThree where
  gallery : ℕ
  files : ℕ
  fileIndex : Option ℕ
  selectedFile : Obj Atom
  downloadableTitle : Atom
  downloadableURL : Atom
  deriving DecidableEq

/-- A picture of the image picker. -/
structure Picture where
  filename : Atom
  mime : Atom
  path : Atom
  size : Atom
  sourceURL : Atom
  deriving DecidableEq

/-- The object that is put in the gallery for it. -/
def Picture.obj (img : Picture) : Obj Atom :=
  ⟨[("filename", img.filename), ("mime", img.mime), ("path", img.path), ("size", img.size),
    ("sourceURL", img.sourceURL)]⟩

/-- A file of the document picker. -/
structure Document where
  name : Atom
  uri : Atom
  type : Atom
  deriving DecidableEq

/-- What can happen on step three. -/
inductive EditThree where
  | chooseMultiplePictures (img : List Picture)
  | deleteGalleryImage (index : ℕ)
  | pickDocumentfromDevice (res : Document)
  | setDownloadableTitle (text : String)
  | setDownloadableURL (text : String)
  | addToList
  | editFileInArray (index : ℕ)
  | deleteFile (index : ℕ)
  deriving DecidableEq

/-- The loop of `unshift`, which ends when there are three pictures. -/
def unshiftAll : List (Obj Atom) → List Picture → List (Obj Atom)
  | gallery, [] => gallery
  | gallery, img :: imgs =>
    if (img.obj :: gallery).length = 3 then img.obj :: gallery
    else unshiftAll (img.obj :: gallery) imgs

/-- `chooseMultiplePictures`, once the pictures are picked. -/
def chooseMultiplePictures (img : List Picture) (gallery : List (Obj Atom)) : List (Obj Atom) :=
  if img.length < 4 then unshiftAll gallery img else gallery

namespace StepThree

/-- Is there a title and an address? -/
def Filled (s : StepThree) : Prop :=
  s.downloadableTitle ≠ .text "" ∧ s.downloadableURL ≠ .text ""

instance (s : StepThree) : Decidable s.Filled := inferInstanceAs (Decidable (_ ∧ _))

/-- `selectedFile` with its type, title and address. -/
def pushed (s : StepThree) : Obj Atom :=
  let type : Atom :=
    if s.selectedFile.props ≠ [] then (s.selectedFile.get "type").getD .undefined
    else .text "url"
  ((s.selectedFile.set "type" type).set "name" s.downloadableTitle).set "uri" s.downloadableURL

/-- `addToList` on the files: the file at `fileIndex` is written, or `selectedFile` is
pushed.  An index where there is no file throws, which changes nothing. -/
def addToList (s : StepThree) (files : List (Obj Atom)) : List (Obj Atom) :=
  if s.Filled then
    match s.fileIndex with
    | some i =>
      files.modify i fun f => (f.set "name" s.downloadableTitle).set "uri" s.downloadableURL
    | none => files ++ [s.pushed]
  else files

/-- The variables after `addToList`. -/
def added (s : StepThree) (files : List (Obj Atom)) : StepThree :=
  if s.Filled then
    match s.fileIndex with
    | some i => if i < files.length then { s with fileIndex := none } else s
    | none =>
      { s with
        selectedFile := .empty
        downloadableTitle := .text ""
        downloadableURL := .text "" }
  else s

/-- `editFileInArray(item, index)`; the copy by `JSON` has no `undefined` properties. -/
def editFileInArray (s : StepThree) (item : Obj Atom) (index : ℕ) : StepThree :=
  { s with
    fileIndex := some index
    selectedFile := ⟨item.props.filter fun p => p.2 ≠ .undefined⟩
    downloadableTitle := (item.get "name").getD .undefined
    downloadableURL :=
      (item.get (if (item.get "download_id").isSome then "file" else "uri")).getD .undefined }

/-- The handlers of step three.  The picker is offered while fewer than three pictures are
drawn; when it answers there may be more. -/
def handle (s : StepThree) (h : Heap (Obj Atom)) :
    EditThree → Option (StepThree × Heap (Obj Atom))
  | .chooseMultiplePictures img => some (s, h.mutate s.gallery (chooseMultiplePictures img))
  | .deleteGalleryImage index =>
    if index < (h.get s.gallery).length then some (s, h.mutate s.gallery (·.eraseIdx index))
    else none
  | .pickDocumentfromDevice res =>
    some ({ s with
      selectedFile := ⟨[("name", res.name), ("uri", res.uri), ("type", res.type)]⟩
      downloadableTitle := res.name
      downloadableURL := res.uri
      fileIndex := none }, h)
  | .setDownloadableTitle text => some ({ s with downloadableTitle := .text text }, h)
  | .setDownloadableURL text => some ({ s with downloadableURL := .text text }, h)
  | .addToList => some (s.added (h.get s.files), h.mutate s.files s.addToList)
  | .editFileInArray index =>
    (h.get s.files)[index]?.map fun item => (s.editFileInArray item index, h)
  | .deleteFile index =>
    if index < (h.get s.files).length then some (s, h.mutate s.files (·.eraseIdx index)) else none

end StepThree

/-! ## Step four -/

/-- `PostTaskStepFour`. -/
structure StepFour where
  faqs : ℕ
  faqTitle : String
  faqDesc : String
  deriving DecidableEq

/-- What can happen on it. -/
inductive EditFour where
  | setFaqTitle (text : String)
  | setFaqDesc (body : String)
  | addFaqs
  /-- `item.question = text`, of the question at an index. -/
  | setQuestion (index : ℕ) (text : String)
  /-- `item.answer = body`. -/
  | setAnswer (index : ℕ) (body : String)
  | deleteFaq (index : ℕ)
  deriving DecidableEq

/-- `addFaqs` on the questions. -/
def StepFour.addFaqs (s : StepFour) (faqs : List (Obj Atom)) : List (Obj Atom) :=
  if s.faqTitle ≠ "" ∧ s.faqDesc ≠ "" then
    faqs ++ [⟨[("question", .text s.faqTitle), ("answer", .text s.faqDesc)]⟩]
  else faqs

/-- A property of the question at an index is written. -/
def setAt (p : String) (index : ℕ) (text : String) (faqs : List (Obj Atom)) : List (Obj Atom) :=
  faqs.modify index fun f => f.set p (.text text)

/-- The handlers of step four. -/
def StepFour.handle (s : StepFour) (h : Heap (Obj Atom)) :
    EditFour → Option (StepFour × Heap (Obj Atom))
  | .setFaqTitle text => some ({ s with faqTitle := text }, h)
  | .setFaqDesc body => some ({ s with faqDesc := body }, h)
  | .addFaqs =>
    some (if s.faqTitle ≠ "" ∧ s.faqDesc ≠ "" then { s with faqTitle := "", faqDesc := "" } else s,
      h.mutate s.faqs s.addFaqs)
  | .setQuestion index text =>
    if index < (h.get s.faqs).length then some (s, h.mutate s.faqs (setAt "question" index text))
    else none
  | .setAnswer index body =>
    if index < (h.get s.faqs).length then some (s, h.mutate s.faqs (setAt "answer" index body))
    else none
  | .deleteFaq index =>
    if index < (h.get s.faqs).length then some (s, h.mutate s.faqs (·.eraseIdx index)) else none

/-! ## The wizard -/

/-- The step that is shown. -/
inductive View where
  | one (s : StepOne)
  | two
  | three (s : StepThree)
  | four (s : StepFour)
  deriving DecidableEq

/-- A step as its effect leaves it when it is mounted: it has the arrays of the record. -/
def mount : Step → View
  | .one => .one ⟨Field.tags_arr.addr⟩
  | .two => .two
  | .three =>
    .three ⟨Field.galleries.addr, Field.downloads.addr, none, .empty, .text "", .text ""⟩
  | .four => .four ⟨Field.faqs.addr, "", ""⟩

/-- The step of a view. -/
def View.step : View → Step
  | one _ => .one
  | two => .two
  | three _ => .three
  | four _ => .four

/-- What can happen on a step. -/
inductive Edit where
  | one (e : EditOne)
  | three (e : EditThree)
  | four (e : EditFour)
  deriving DecidableEq

/-- The handlers of the step that is shown. -/
def View.handle (h : Heap (Obj Atom)) : View → Edit → Option (View × Heap (Obj Atom))
  | .one s, .one e => (s.handle toNumber T h e).map fun p => (.one p.1, p.2)
  | .three s, .three e => (s.handle h e).map fun p => (.three p.1, p.2)
  | .four s, .four e => (s.handle h e).map fun p => (.four p.1, p.2)
  | _, _ => none

/-- The field of the record an edit is about. -/
def Edit.field : Edit → Field
  | one _ => .tags_arr
  | three (.chooseMultiplePictures _) | three (.deleteGalleryImage _) => .galleries
  | three _ => .downloads
  | four _ => .faqs

/-! ## What an edit does to the record -/

/-- The record after an edit of a field: the other fields are as they were, and this one is
exactly when `harmless` holds. -/
structure Effect (h k : Heap (Obj Atom)) (field : Field) (harmless : Prop) : Prop where
  size : 4 ≤ k.size
  frame : ∀ g, g ≠ field → k.get g.addr = h.get g.addr
  target : k.get field.addr = h.get field.addr ↔ harmless

/-- Nothing is changed. -/
theorem Effect.refl {h : Heap (Obj Atom)} (hsize : 4 ≤ h.size) (field : Field) :
    Effect h h field True :=
  ⟨hsize, fun _ _ => rfl, iff_of_true rfl trivial⟩

/-- A new array is made. -/
theorem Effect.alloc {h : Heap (Obj Atom)} (hsize : 4 ≤ h.size) (l : List (Obj Atom))
    (field : Field) : Effect h (h.alloc l) field True := by
  have hget : ∀ g : Field, (h.alloc l).get g.addr = h.get g.addr :=
    fun g => h.get_alloc_of_lt l (g.addr_lt.trans_le hsize)
  refine ⟨?_, fun g _ => hget g, iff_of_true (hget field) trivial⟩
  rw [Heap.size_alloc]
  omega

/-- The array of a field, or one that is not the record's, is changed in place. -/
theorem Effect.mutate {h : Heap (Obj Atom)} (hsize : 4 ≤ h.size) {a : ℕ} {field : Field}
    (ha : a = field.addr ∨ 4 ≤ a) {f : List (Obj Atom) → List (Obj Atom)} {harmless : Prop}
    (hf : (a = field.addr → f (h.get field.addr) = h.get field.addr) ↔ harmless) :
    Effect h (h.mutate a f) field harmless := by
  refine ⟨by rwa [Heap.size_mutate], fun g hg => h.get_mutate_of_ne ?_ f, ?_⟩
  · rintro rfl
    rcases ha with ha | ha
    · exact hg (Field.addr_injective ha)
    · exact absurd g.addr_lt (not_lt.2 ha)
  · rw [h.get_mutate_eq_self_iff (field.addr_lt.trans_le hsize), hf]

/-- The array of a field is changed in place. -/
theorem Effect.mutate_addr {h : Heap (Obj Atom)} (hsize : 4 ≤ h.size) {field : Field}
    {f : List (Obj Atom) → List (Obj Atom)} {harmless : Prop}
    (hf : f (h.get field.addr) = h.get field.addr ↔ harmless) :
    Effect h (h.mutate field.addr f) field harmless :=
  Effect.mutate hsize (Or.inl rfl) (by rwa [forall_prop_of_true rfl])

/-- When an edit of step one leaves the tags of the record alone. -/
def StepOne.Harmless (s : StepOne) : EditOne → Prop
  | .addTagText tagText => s.tags = Field.tags_arr.addr → tagText = ""
  | .deleteTags _ => s.tags ≠ Field.tags_arr.addr
  | .selectAndAddTags _ | .focus => True

/-- When one of step three leaves the pictures and the files alone. -/
def StepThree.Harmless (s : StepThree) (h : Heap (Obj Atom)) : EditThree → Prop
  | .chooseMultiplePictures img => img = [] ∨ 4 ≤ img.length
  | .deleteGalleryImage _ | .deleteFile _ => False
  | .addToList => s.Filled → ∃ i ∈ s.fileIndex, ∀ f ∈ (h.get s.files)[i]?,
    f.get "name" = some s.downloadableTitle ∧ f.get "uri" = some s.downloadableURL
  | .pickDocumentfromDevice _ | .setDownloadableTitle _ | .setDownloadableURL _
  | .editFileInArray _ => True

/-- When one of step four leaves the questions alone. -/
def StepFour.Harmless (s : StepFour) (h : Heap (Obj Atom)) : EditFour → Prop
  | .addFaqs => s.faqTitle = "" ∨ s.faqDesc = ""
  | .setQuestion index text =>
    ∀ f ∈ (h.get s.faqs)[index]?, f.get "question" = some (.text text)
  | .setAnswer index body => ∀ f ∈ (h.get s.faqs)[index]?, f.get "answer" = some (.text body)
  | .deleteFaq _ => False
  | .setFaqTitle _ | .setFaqDesc _ => True

instance (s : StepOne) (e : EditOne) : Decidable (s.Harmless e) := by
  cases e <;> unfold StepOne.Harmless <;> infer_instance

instance (s : StepThree) (h : Heap (Obj Atom)) (e : EditThree) : Decidable (s.Harmless h e) := by
  cases e <;> unfold StepThree.Harmless <;> infer_instance

instance (s : StepFour) (h : Heap (Obj Atom)) (e : EditFour) : Decidable (s.Harmless h e) := by
  cases e <;> unfold StepFour.Harmless <;> infer_instance

/-- When an edit leaves the record alone. -/
def View.Harmless (h : Heap (Obj Atom)) : View → Edit → Prop
  | .one s, .one e => s.Harmless e
  | .three s, .three e => s.Harmless h e
  | .four s, .four e => s.Harmless h e
  | _, _ => True

instance (h : Heap (Obj Atom)) (v : View) (e : Edit) : Decidable (v.Harmless h e) := by
  unfold View.Harmless
  split <;> infer_instance

/-- The arrays of a view are those of the record, but for tags that were picked. -/
def View.Ok : View → Prop
  | one s => s.tags = Field.tags_arr.addr ∨ 4 ≤ s.tags
  | two => True
  | three s => s.gallery = Field.galleries.addr ∧ s.files = Field.downloads.addr
  | four s => s.faqs = Field.faqs.addr

theorem mount_ok (k : Step) : (mount k).Ok := by
  cases k with
  | one => exact Or.inl rfl
  | two => trivial
  | three => exact ⟨rfl, rfl⟩
  | four => exact rfl

variable {toNumber T}

theorem addTagText_eq_self_iff (tagText : String) (tags : List (Obj Atom)) :
    addTagText tagText tags = tags ↔ tagText = "" := by
  unfold addTagText
  by_cases htext : tagText = "" <;> simp [htext]

theorem stepOne_effect {s t : StepOne} {h k : Heap (Obj Atom)} {e : EditOne} (hsize : 4 ≤ h.size)
    (hs : (View.one s).Ok) (hst : s.handle toNumber T h e = some (t, k)) :
    (View.one t).Ok ∧ Effect h k .tags_arr (s.Harmless e) := by
  cases e with
  | addTagText tagText =>
    cases hst
    exact ⟨hs, .mutate hsize hs (forall_congr' fun _ => addTagText_eq_self_iff _ _)⟩
  | selectAndAddTags value =>
    cases hst
    exact ⟨Or.inr hsize, .alloc hsize _ _⟩
  | deleteTags index =>
    obtain ⟨hindex, ⟨⟩⟩ := Option.ite_none_right_eq_some.1 hst
    refine ⟨hs, .mutate hsize hs (forall_congr' fun htags => ?_)⟩
    rw [htags] at hindex
    exact iff_of_false (Js.eraseIdx_ne_self hindex) id
  | focus =>
    cases hst
    exact ⟨Or.inl rfl, .refl hsize _⟩

/-- The loop makes the gallery longer for every picture it takes. -/
theorem length_le_unshiftAll (gallery : List (Obj Atom)) (imgs : List Picture) :
    gallery.length ≤ (unshiftAll gallery imgs).length := by
  induction imgs generalizing gallery with
  | nil => exact le_rfl
  | cons img imgs ih =>
    rw [unshiftAll]
    split
    · simp
    · exact (Nat.le_succ _).trans (ih (img.obj :: gallery))

theorem chooseMultiplePictures_eq_self_iff (img : List Picture) (gallery : List (Obj Atom)) :
    chooseMultiplePictures img gallery = gallery ↔ img = [] ∨ 4 ≤ img.length := by
  unfold chooseMultiplePictures
  by_cases hlength : img.length < 4
  · rw [if_pos hlength, or_iff_left (not_le.2 hlength)]
    refine ⟨fun h => ?_, fun h => by rw [h]; rfl⟩
    cases img with
    | nil => rfl
    | cons img imgs =>
      have hlonger : gallery.length < (unshiftAll gallery (img :: imgs)).length := by
        rw [unshiftAll]
        split
        · simp
        · exact (Nat.lt_succ_self _).trans_le (length_le_unshiftAll (img.obj :: gallery) imgs)
      rw [h] at hlonger
      exact absurd hlonger (lt_irrefl _)
  · rw [if_neg hlength]
    exact iff_of_true rfl (Or.inr (not_lt.1 hlength))

theorem addToList_eq_self_iff (s : StepThree) (files : List (Obj Atom)) :
    s.addToList files = files ↔ (s.Filled → ∃ i ∈ s.fileIndex, ∀ f ∈ files[i]?,
      f.get "name" = some s.downloadableTitle ∧ f.get "uri" = some s.downloadableURL) := by
  unfold StepThree.addToList
  by_cases hfilled : s.Filled
  · simp only [hfilled, if_true, forall_true_left]
    cases hindex : s.fileIndex with
    | none =>
      refine iff_of_false (Js.append_singleton_ne_self files s.pushed) ?_
      rintro ⟨i, hi, -⟩
      cases hi
    | some i =>
      have hne : "name" ≠ "uri" := by decide
      simp [Js.modify_eq_self_iff, Obj.set_set_eq_self_iff _ hne]
  · simp [hfilled]

theorem stepThree_effect {s t : StepThree} {h k : Heap (Obj Atom)} {e : EditThree}
    (hsize : 4 ≤ h.size) (hs : (View.three s).Ok) (hst : s.handle h e = some (t, k)) :
    (View.three t).Ok ∧ Effect h k (Edit.three e).field (s.Harmless h e) := by
  obtain ⟨hgallery, hfiles⟩ := hs
  have hs : (View.three s).Ok := ⟨hgallery, hfiles⟩
  unfold StepThree.Harmless
  cases e with
  | chooseMultiplePictures img =>
    cases hst
    rw [hgallery]
    exact ⟨hs, .mutate_addr hsize (chooseMultiplePictures_eq_self_iff img _)⟩
  | deleteGalleryImage index =>
    obtain ⟨hindex, ⟨⟩⟩ := Option.ite_none_right_eq_some.1 hst
    rw [hgallery] at hindex ⊢
    exact ⟨hs, .mutate_addr hsize (iff_of_false (Js.eraseIdx_ne_self hindex) id)⟩
  | pickDocumentfromDevice _ | setDownloadableTitle _ | setDownloadableURL _ =>
    cases hst
    exact ⟨hs, .refl hsize _⟩
  | addToList =>
    cases hst
    refine ⟨?_, ?_⟩
    · unfold StepThree.added
      split
      · split
        · split <;> exact hs
        · exact hs
      · exact hs
    · rw [hfiles]
      exact .mutate_addr hsize (addToList_eq_self_iff s _)
  | editFileInArray index =>
    obtain ⟨item, -, ⟨⟩⟩ := Option.map_eq_some_iff.1 hst
    exact ⟨hs, .refl hsize _⟩
  | deleteFile index =>
    obtain ⟨hindex, ⟨⟩⟩ := Option.ite_none_right_eq_some.1 hst
    rw [hfiles] at hindex ⊢
    exact ⟨hs, .mutate_addr hsize (iff_of_false (Js.eraseIdx_ne_self hindex) id)⟩

theorem addFaqs_eq_self_iff (s : StepFour) (faqs : List (Obj Atom)) :
    s.addFaqs faqs = faqs ↔ s.faqTitle = "" ∨ s.faqDesc = "" := by
  unfold StepFour.addFaqs
  by_cases htitle : s.faqTitle = "" <;> by_cases hdesc : s.faqDesc = "" <;> simp [htitle, hdesc]

theorem setAt_eq_self_iff (p : String) (index : ℕ) (text : String) (faqs : List (Obj Atom)) :
    setAt p index text faqs = faqs ↔ ∀ f ∈ faqs[index]?, f.get p = some (.text text) := by
  rw [setAt, Js.modify_eq_self_iff]
  simp only [Obj.set_eq_self_iff]

theorem stepFour_effect {s t : StepFour} {h k : Heap (Obj Atom)} {e : EditFour}
    (hsize : 4 ≤ h.size) (hs : (View.four s).Ok) (hst : s.handle h e = some (t, k)) :
    (View.four t).Ok ∧ Effect h k .faqs (s.Harmless h e) := by
  have hfaqs : s.faqs = Field.faqs.addr := hs
  unfold StepFour.Harmless
  cases e with
  | setFaqTitle _ | setFaqDesc _ =>
    cases hst
    exact ⟨hs, .refl hsize _⟩
  | addFaqs =>
    cases hst
    refine ⟨?_, ?_⟩
    · split <;> exact hs
    · rw [hfaqs]
      exact .mutate_addr hsize (addFaqs_eq_self_iff s _)
  | setQuestion index text =>
    obtain ⟨-, ⟨⟩⟩ := Option.ite_none_right_eq_some.1 hst
    rw [hfaqs]
    exact ⟨hs, .mutate_addr hsize (setAt_eq_self_iff _ index text _)⟩
  | setAnswer index body =>
    obtain ⟨-, ⟨⟩⟩ := Option.ite_none_right_eq_some.1 hst
    rw [hfaqs]
    exact ⟨hs, .mutate_addr hsize (setAt_eq_self_iff _ index body _)⟩
  | deleteFaq index =>
    obtain ⟨hindex, ⟨⟩⟩ := Option.ite_none_right_eq_some.1 hst
    rw [hfaqs] at hindex ⊢
    exact ⟨hs, .mutate_addr hsize (iff_of_false (Js.eraseIdx_ne_self hindex) id)⟩

/-- **What an edit does to the record.**  It changes no field but its own, and that one
exactly when it is not harmless. -/
theorem handle_effect {v w : View} {h k : Heap (Obj Atom)} {e : Edit} (hsize : 4 ≤ h.size)
    (hv : v.Ok) (hvw : v.handle toNumber T h e = some (w, k)) :
    w.Ok ∧ Effect h k e.field (v.Harmless h e) := by
  cases v with
  | two => cases e <;> cases hvw
  | one s =>
    cases e with
    | three _ | four _ => cases hvw
    | one e =>
      obtain ⟨⟨t, k⟩, ht, ⟨⟩⟩ := Option.map_eq_some_iff.1 hvw
      exact stepOne_effect hsize hv ht
  | three s =>
    cases e with
    | one _ | four _ => cases hvw
    | three e =>
      obtain ⟨⟨t, k⟩, ht, ⟨⟩⟩ := Option.map_eq_some_iff.1 hvw
      exact stepThree_effect hsize hv ht
  | four s =>
    cases e with
    | one _ | three _ => cases hvw
    | four e =>
      obtain ⟨⟨t, k⟩, ht, ⟨⟩⟩ := Option.map_eq_some_iff.1 hvw
      exact stepFour_effect hsize hv ht

end TaskRecord
