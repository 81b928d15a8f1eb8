import Mathlib
import Taskbot.Async.Machine
import Taskbot.Js.Pushes

/-!
# The attachments of a project

The first step of the project wizard has a list of documents.  Those with a `download_id`
are on the server and are to be listed in the request, the others are uploaded with it.
After a success the store keeps the documents as they are in the form, and they come back
from it when the step is shown again.  The list of those on the server is appended to the
form data as an array, of which `FormData` makes a part with nothing in it.

* `Document`, `State`, `step` — the documents, the form and the store.  The picks are
  numbered, for the statements only.
* `Value.part` — what `FormData` makes of what is appended; `images_eq`, `not_listed` — the
  documents a request uploads, and that it lists none.
* `Right` — each pick is uploaded in one success, the size is right, and what is on the
  server is listed and not uploaded.
* `uploads_iff` — **this is so exactly when no document comes back from the store to a
  save.**
-/

namespace PostProject.Attachments

/-! ## Documents -/

/-- A file as `pickMultiple` returns it. -/
structure File where
  uri : String
  type : String
  name : String
  deriving DecidableEq

/-- An entry of the list.  Its `pick` says when it was picked on the device, if it was; no
handler reads it. -/
structure Document where
  file : File
  download_id : Option ℕ
  pick : Option ℕ
  deriving DecidableEq

/-- An entry of `finalDcouments`, with the pick it comes from. -/
structure Image where
  file : File
  pick : Option ℕ
  deriving DecidableEq

/-- What is appended to the form data, as far as it is about documents. -/
inductive Value where
  /-- An object with `uri`, `type` and `name`. -/
  | file (item : Image)
  | number (n : ℕ)
  /-- An array, as it is. -/
  | array (oldAttachments : List Document)

/-- A part of the body: the text that is sent, or else the file at its `uri`. -/
structure Part where
  fieldName : String
  string : Option String
  file : Option Image
  deriving DecidableEq

/-- `getParts` of `FormData` in index.android.bundle: an object gives the part its own
fields, anything else is sent as a text. -/
def Value.part (fieldName : String) : Value → Part
  | .file item => ⟨fieldName, none, some item⟩
  | .number n => ⟨fieldName, some n.repr, none⟩
  -- an array is an object too: its fields are its places, no `string` and no `uri` among them
  | .array _ => ⟨fieldName, none, none⟩

/-- A request that has succeeded, and the list it was made from. -/
structure Request where
  documents : List Document
  attachments : Part
  /-- `project_image_0`, `project_image_1`, … -/
  images : List Part
  attachment_size : Option Part
  deriving DecidableEq

/-- The two arrays of the loop. -/
structure Arrays where
  finalDcouments : List Image
  oldAttachments : List Document
  deriving DecidableEq

/-- What is pushed of a document that is uploaded. -/
def Document.image (d : Document) : Image := ⟨d.file, d.pick⟩

/-- The body of the loop. -/
def place (a : Arrays) (d : Document) : Arrays :=
  if d.download_id.isSome then { a with oldAttachments := a.oldAttachments ++ [d] }
  else { a with finalDcouments := a.finalDcouments ++ [d.image] }

/-- The loop over `documents`. -/
def divide (documents : List Document) : Arrays := documents.foldl place ⟨[], []⟩

/-- `formData` in `saveAndContinue`, as far as it is about documents. -/
def request (documents : List Document) : Request :=
  let a := divide documents
  { documents := documents
    attachments := (Value.array a.oldAttachments).part "attachments"
    images := a.finalDcouments.zipIdx.map fun u =>
      (Value.file u.1).part ("project_image_" ++ u.2.repr)
    attachment_size :=
      if a.finalDcouments.length ≠ 0 then
        some ((Value.number a.finalDcouments.length).part "attachment_size")
      else none }

/-! ## The step -/

/-- The form, the store, and the saves that have succeeded. -/
structure State where
  documents : List Document
  /-- Is the first step shown? -/
  shown : Bool
  /-- `postedItemOne.attachments`, when there is an item. -/
  attachments : Option (List Document)
  /-- How many documents were picked. -/
  picked : ℕ
  requests : List Request
  deriving DecidableEq

/-- What can happen. -/
inductive Event where
  /-- `pickDocumentfromDevice`. -/
  | pickDocumentfromDevice (res : List File)
  | deleteAttachment (index : ℕ)
  /-- `saveAndContinue`, with success. -/
  | saveAndContinue
  /-- Back to the first step. -/
  | goBack
  deriving DecidableEq

/-- The documents of a pick, numbered from `n`. -/
def fromDevice (res : List File) (n : ℕ) : List Document :=
  (res.zipIdx n).map fun f => ⟨f.1, none, some f.2⟩

/-- One event. -/
def step (s : State) : Event → Option State
  | .pickDocumentfromDevice res =>
    if s.shown then
      some { s with
        documents := s.documents ++ fromDevice res s.picked
        picked := s.picked + res.length }
    else none
  | .deleteAttachment index =>
    if s.shown then some { s with documents := s.documents.eraseIdx index } else none
  | .saveAndContinue =>
    if s.shown then
      some { s with
        shown := false
        attachments := some s.documents
        requests := s.requests ++ [request s.documents] }
    else none
  | .goBack =>
    if s.shown then none
    else some { s with shown := true, documents := s.attachments.getD [] }

/-- A document of the server. -/
structure Download where
  file : File
  download_id : ℕ
  deriving DecidableEq

/-- Its entry. -/
def Download.document (d : Download) : Document := ⟨d.file, some d.download_id, none⟩

/-- The first step just shown, with the documents of a template, if it is used. -/
def machine (downloadable_docs : List Download) : Async.Machine State Event where
  init :=
    { documents := downloadable_docs.map Download.document
      shown := true
      attachments := some (downloadable_docs.map Download.document)
      picked := 0
      requests := [] }
  step := step

/-! ## What a request has -/

/-- Is it uploaded? -/
def Document.IsNew (d : Document) : Prop := d.download_id = none

instance (d : Document) : Decidable d.IsNew := inferInstanceAs (Decidable (_ = _))

theorem foldl_place (documents : List Document) (a : Arrays) :
    documents.foldl place a =
      ⟨a.finalDcouments ++ (documents.filter Document.IsNew).map Document.image,
        a.oldAttachments ++ documents.filter fun d => ¬ d.IsNew⟩ := by
  induction documents generalizing a with
  | nil => simp
  | cons d documents ih =>
    rw [List.foldl_cons, ih, place]
    cases hd : d.download_id with
    | none => simp [Document.IsNew, hd]
    | some i => simp [Document.IsNew, hd]

/-- The files that a request uploads. -/
def Request.files (r : Request) : List Image := r.images.filterMap Part.file

theorem finalDcouments_eq (documents : List Document) :
    (divide documents).finalDcouments =
      (documents.filter Document.IsNew).map Document.image := by
  rw [divide, foldl_place, List.nil_append]

/-- **What is uploaded**: the documents without a `download_id`. -/
theorem images_eq (documents : List Document) :
    (request documents).files = (documents.filter Document.IsNew).map Document.image := by
  have hfile : Part.file ∘ (fun u : Image × ℕ =>
      (Value.file u.1).part ("project_image_" ++ u.2.repr)) = some ∘ Prod.fst := rfl
  rw [← finalDcouments_eq, Request.files, request, List.filterMap_map, hfile,
    List.filterMap_eq_map, List.zipIdx_map_fst]

/-- The names of the files are numbered. -/
theorem images_fieldName (documents : List Document) :
    (request documents).images.map Part.fieldName =
      (List.range (request documents).files.length).map fun i => "project_image_" ++ i.repr := by
  rw [images_eq, ← finalDcouments_eq, request, List.map_map]
  exact Js.map_name_zipIdx (fun i => "project_image_" ++ i.repr) (divide documents).finalDcouments

/-- The size is the number of the files, when there are any. -/
theorem attachment_size_eq (documents : List Document) :
    (request documents).attachment_size.bind Part.string =
      if (request documents).files.length = 0 then none
      else some (request documents).files.length.repr := by
  rw [images_eq, ← finalDcouments_eq, request]
  by_cases hlength : (divide documents).finalDcouments.length = 0
  · rw [if_pos hlength, if_neg (not_not.2 hlength), Option.bind_none]
  · rw [if_neg hlength, if_pos hlength]
    rfl

/-- Is a document listed by the text of the part for the old attachments?  What a text lists
is for the server to say. -/
def Request.Lists (lists : String → Document → Prop) (r : Request) (d : Document) : Prop :=
  ∃ text ∈ r.attachments.string, lists text d

/-- **What is listed**: nothing. -/
theorem not_listed (lists : String → Document → Prop) (documents : List Document)
    (d : Document) : ¬ (request documents).Lists lists d := by
  rintro ⟨text, htext, -⟩
  exact absurd htext (Option.not_mem_none text)

/-! ## Picks -/

/-- The picks of a list of documents. -/
def picks (documents : List Document) : List ℕ := documents.filterMap Document.pick

/-- The picks that a request uploads. -/
def Request.uploaded (r : Request) : List ℕ := r.files.filterMap Image.pick

/-- The picks that some requests upload. -/
def uploaded (rs : List Request) : List ℕ := rs.flatMap Request.uploaded

/-- A list of documents of which those that are picked have no `download_id`, and of which
each is picked once, before the pick `n`. -/
structure Wf (n : ℕ) (documents : List Document) : Prop where
  pick_iff : ∀ d ∈ documents, d.IsNew ↔ d.pick.isSome
  nodup : (picks documents).Nodup
  lt : ∀ k ∈ picks documents, k < n

theorem Wf.mono {m n : ℕ} {documents : List Document} (h : Wf m documents) (hmn : m ≤ n) :
    Wf n documents :=
  ⟨h.pick_iff, h.nodup, fun k hk => (h.lt k hk).trans_le hmn⟩

theorem Wf.eraseIdx {n : ℕ} {documents : List Document} (h : Wf n documents) (i : ℕ) :
    Wf n (documents.eraseIdx i) := by
  have hsub := documents.eraseIdx_sublist i
  exact ⟨fun d hd => h.pick_iff d (hsub.subset hd), h.nodup.sublist (hsub.filterMap _),
    fun k hk => h.lt k ((hsub.filterMap _).subset hk)⟩

theorem picks_fromDevice (res : List File) (n : ℕ) :
    picks (fromDevice res n) = List.range' n res.length := by
  have hpick : Document.pick ∘ (fun f : File × ℕ => (⟨f.1, none, some f.2⟩ : Document)) =
      some ∘ Prod.snd := rfl
  rw [picks, fromDevice, List.filterMap_map, hpick, List.filterMap_eq_map, List.zipIdx_map_snd]

theorem Wf.append_fromDevice {n : ℕ} {documents : List Document} (h : Wf n documents)
    (res : List File) : Wf (n + res.length) (documents ++ fromDevice res n) := by
  have hpicks : picks (documents ++ fromDevice res n) =
      picks documents ++ List.range' n res.length := by
    rw [picks, List.filterMap_append, ← picks_fromDevice res n]
    rfl
  refine ⟨fun d hd => ?_, ?_, fun k hk => ?_⟩
  · rcases List.mem_append.1 hd with hd | hd
    · exact h.pick_iff d hd
    · obtain ⟨f, -, rfl⟩ := List.mem_map.1 hd
      exact iff_of_true rfl rfl
  · rw [hpicks]
    refine h.nodup.append (List.nodup_range' ..) fun k hk hk' => ?_
    have hlow := (List.mem_range'_1.1 hk').1
    exact absurd (h.lt k hk) (not_lt.2 hlow)
  · rw [hpicks] at hk
    rcases List.mem_append.1 hk with hk | hk
    · exact (h.lt k hk).trans_le (Nat.le_add_right ..)
    · exact (List.mem_range'_1.1 hk).2

/-- A request uploads the picks of its documents. -/
theorem uploaded_request {n : ℕ} {documents : List Document} (h : Wf n documents) :
    (request documents).uploaded = picks documents := by
  rw [Request.uploaded, images_eq, List.filterMap_map, List.filterMap_filter]
  refine List.filterMap_congr fun d hd => ?_
  by_cases hnew : d.IsNew
  · simp [hnew, Document.image]
  · have hpick := (h.pick_iff d hd).not.1 hnew
    simp [hnew, Option.not_isSome_iff_eq_none.1 hpick]

/-- Is a document on the server, when some requests have succeeded? -/
def OnServer (rs : List Request) (d : Document) : Prop :=
  d.download_id.isSome ∨ ∃ k ∈ d.pick, k ∈ uploaded rs

theorem uploaded_concat {n : ℕ} {documents : List Document} (h : Wf n documents)
    (rs : List Request) : uploaded (rs ++ [request documents]) = uploaded rs ++ picks documents := by
  rw [uploaded, List.flatMap_append, List.flatMap_singleton, uploaded_request h]
  rfl

/-- What holds throughout: a document of the store is on the server, and one of the list that
is on the server is in the store. -/
structure Inv (s : State) : Prop where
  documents : Wf s.picked s.documents
  attachments : Wf s.picked (s.attachments.getD [])
  requests : ∀ r ∈ s.requests, r = request r.documents ∧ Wf s.picked r.documents
  onServer : ∀ d ∈ s.attachments.getD [], OnServer s.requests d
  stored : ∀ d ∈ s.documents, OnServer s.requests d → d ∈ s.attachments.getD []

theorem uploaded_lt {s : State} (hs : Inv s) {k : ℕ} (h : k ∈ uploaded s.requests) :
    k < s.picked := by
  obtain ⟨r, hr, hk⟩ := List.mem_flatMap.1 h
  obtain ⟨hrequest, hwf⟩ := hs.requests r hr
  rw [hrequest, uploaded_request hwf] at hk
  exact hwf.lt k hk

theorem inv_init (docs : List Download) : Inv (machine docs).init := by
  have hpicks : picks (docs.map Download.document) = [] := by
    rw [picks, List.filterMap_map, List.filterMap_eq_nil_iff]
    exact fun _ _ => rfl
  have hwf : Wf 0 (docs.map Download.document) := by
    refine ⟨fun d hd => ?_, ?_, fun k hk => ?_⟩
    · obtain ⟨e, -, rfl⟩ := List.mem_map.1 hd
      exact iff_of_false (Option.some_ne_none _) Bool.false_ne_true
    · rw [hpicks]
      exact List.nodup_nil
    · rw [hpicks] at hk
      exact absurd hk List.not_mem_nil
  refine ⟨hwf, hwf, fun _ hr => absurd hr List.not_mem_nil, fun d hd => ?_, fun d hd _ => hd⟩
  obtain ⟨e, -, rfl⟩ := List.mem_map.1 hd
  exact Or.inl rfl

theorem inv_step {s t : State} {e : Event} (hs : Inv s) (h : step s e = some t) : Inv t := by
  cases e with
  | pickDocumentfromDevice res =>
    obtain ⟨-, ⟨⟩⟩ := Option.ite_none_right_eq_some.1 h
    have hle : s.picked ≤ s.picked + res.length := Nat.le_add_right ..
    refine ⟨hs.documents.append_fromDevice res, hs.attachments.mono hle,
      fun r hr => ⟨(hs.requests r hr).1, (hs.requests r hr).2.mono hle⟩, hs.onServer,
      fun d hd hserver => ?_⟩
    rcases List.mem_append.1 hd with hd | hd
    · exact hs.stored d hd hserver
    · -- a document that has just been picked is not on the server
      rcases hserver with hid | ⟨k, hk, hmem⟩
      · obtain ⟨f, -, rfl⟩ := List.mem_map.1 hd
        exact absurd hid Bool.false_ne_true
      · have hpick : k ∈ picks (fromDevice res s.picked) := List.mem_filterMap.2 ⟨d, hd, hk⟩
        rw [picks_fromDevice] at hpick
        exact absurd (uploaded_lt hs hmem) (not_lt.2 (List.mem_range'_1.1 hpick).1)
  | deleteAttachment index =>
    obtain ⟨-, ⟨⟩⟩ := Option.ite_none_right_eq_some.1 h
    exact ⟨hs.documents.eraseIdx index, hs.attachments, hs.requests, hs.onServer,
      fun d hd => hs.stored d (List.mem_of_mem_eraseIdx hd)⟩
  | saveAndContinue =>
    obtain ⟨-, ⟨⟩⟩ := Option.ite_none_right_eq_some.1 h
    refine ⟨hs.documents, hs.documents, fun r hr => ?_, fun d hd => ?_, fun d hd _ => hd⟩
    · rcases List.mem_append.1 hr with hr | hr
      · exact hs.requests r hr
      · obtain rfl := List.mem_singleton.1 hr
        exact ⟨rfl, hs.documents⟩
    · by_cases hnew : d.IsNew
      · obtain ⟨k, hk⟩ := Option.isSome_iff_exists.1 ((hs.documents.pick_iff d hd).1 hnew)
        refine Or.inr ⟨k, hk, ?_⟩
        show k ∈ uploaded (s.requests ++ [request s.documents])
        rw [uploaded_concat hs.documents]
        exact List.mem_append_right _ (List.mem_filterMap.2 ⟨d, hd, hk⟩)
      · exact Or.inl (Option.isSome_iff_ne_none.2 hnew)
  | goBack =>
    obtain ⟨-, ⟨⟩⟩ := Option.ite_none_left_eq_some.1 h
    exact ⟨hs.attachments, hs.attachments, hs.requests, hs.onServer, fun d hd _ => hd⟩

/-! ## What is right -/

variable (lists : String → Document → Prop)

/-- What should be so of the requests that have succeeded. -/
structure Right (rs : List Request) : Prop where
  /-- A pick that was in the list at a save is uploaded once, any other never. -/
  once : ∀ k, (uploaded rs).count k = if ∃ r ∈ rs, k ∈ picks r.documents then 1 else 0
  /-- What is uploaded is the file of a document, under its number. -/
  files : ∀ r ∈ rs, (∀ item ∈ r.files, ∃ d ∈ r.documents, d.image = item) ∧
    r.images.map Part.fieldName =
      (List.range r.files.length).map fun i => "project_image_" ++ i.repr
  /-- The size is the number of the files, when there are any. -/
  size : ∀ r ∈ rs, r.attachment_size.bind Part.string =
    if r.files.length = 0 then none else some r.files.length.repr
  /-- What is on the server already is listed, and not uploaded. -/
  old : ∀ before r, before ++ [r] <+: rs → ∀ d ∈ r.documents, OnServer before d →
    r.Lists lists d ∧ d.image ∉ r.files

theorem right_nil : Right lists [] := by
  refine ⟨fun _ => rfl, fun _ hr => absurd hr List.not_mem_nil,
    fun _ hr => absurd hr List.not_mem_nil, fun before r h => ?_⟩
  exact absurd (List.prefix_nil.1 h) (by simp)

/-- Each pick is uploaded once exactly when none is uploaded twice. -/
theorem once_iff {n : ℕ} {rs : List Request}
    (h : ∀ r ∈ rs, r = request r.documents ∧ Wf n r.documents) :
    (∀ k, (uploaded rs).count k = if ∃ r ∈ rs, k ∈ picks r.documents then 1 else 0) ↔
      (uploaded rs).Nodup := by
  have hmem : ∀ k, (∃ r ∈ rs, k ∈ picks r.documents) ↔ k ∈ uploaded rs := by
    intro k
    rw [uploaded, List.mem_flatMap]
    refine exists_congr fun r => and_congr_right fun hr => ?_
    obtain ⟨hrequest, hwf⟩ := h r hr
    rw [hrequest, uploaded_request hwf]
    rfl
  simp only [hmem]
  constructor
  · intro hcount
    refine List.nodup_iff_count_le_one.2 fun k => ?_
    rw [hcount k]
    split <;> omega
  · intro hnodup k
    exact hnodup.count

/-- When no document of a list is on the server. -/
def Fresh (rs : List Request) (documents : List Document) : Prop :=
  ∀ d ∈ documents, ¬ OnServer rs d

/-- Then none has been uploaded before. -/
theorem Fresh.disjoint {rs : List Request} {documents : List Document} (h : Fresh rs documents) :
    (uploaded rs).Disjoint (picks documents) := by
  intro k hk hpick
  obtain ⟨d, hd, hdk⟩ := List.mem_filterMap.1 hpick
  exact h d hd (Or.inr ⟨k, hdk, hk⟩)

/-- **One more request.** -/
theorem right_concat_iff {n : ℕ} {rs : List Request} {documents : List Document}
    (hrs : ∀ r ∈ rs, r = request r.documents ∧ Wf n r.documents) (hwf : Wf n documents)
    (hright : Right lists rs) :
    Right lists (rs ++ [request documents]) ↔ Fresh rs documents := by
  have hrs' : ∀ r ∈ rs ++ [request documents], r = request r.documents ∧ Wf n r.documents := by
    intro r hr
    rcases List.mem_append.1 hr with hr | hr
    · exact hrs r hr
    · obtain rfl := List.mem_singleton.1 hr
      exact ⟨rfl, hwf⟩
  constructor
  · -- a document of the server would have to be listed
    intro h d hd hserver
    exact not_listed lists documents d (h.old rs (request documents) List.prefix_rfl d hd hserver).1
  · intro hfresh
    refine ⟨?_, fun r hr => ?_, fun r hr => ?_, fun before r hprefix d hd hserver => ?_⟩
    · refine (once_iff hrs').2 ?_
      rw [uploaded_concat hwf rs, List.nodup_append']
      exact ⟨(once_iff hrs).1 hright.once, hwf.nodup, hfresh.disjoint⟩
    · obtain ⟨hrequest, -⟩ := hrs' r hr
      rw [hrequest]
      refine ⟨fun item hitem => ?_, images_fieldName r.documents⟩
      rw [images_eq] at hitem
      obtain ⟨d, hd, himage⟩ := List.mem_map.1 hitem
      exact ⟨d, List.mem_of_mem_filter hd, himage⟩
    · obtain ⟨hrequest, -⟩ := hrs' r hr
      rw [hrequest]
      exact attachment_size_eq r.documents
    · rcases List.prefix_concat_iff.1 hprefix with heq | hprefix
      · obtain ⟨rfl, hr⟩ := List.append_inj' heq rfl
        obtain rfl := List.singleton_inj.1 hr
        exact absurd hserver (hfresh d hd)
      · exact hright.old before r hprefix d hd hserver

/-! ## When it is so -/

/-- What a step must meet: with a save, no document of the list is one of those the store
has. -/
def UploadOk (s : State) : Event → Prop
  | .saveAndContinue => ∀ d ∈ s.documents, d ∉ s.attachments.getD []
  | .pickDocumentfromDevice _ | .deleteAttachment _ | .goBack => True

instance (s : State) : (e : Event) → Decidable (UploadOk s e)
  | .saveAndContinue => inferInstanceAs (Decidable (∀ d ∈ s.documents, d ∉ s.attachments.getD []))
  | .pickDocumentfromDevice _ | .deleteAttachment _ | .goBack => isTrue trivial

/-- These are the documents that are on the server. -/
theorem uploadOk_saveAndContinue_iff {s : State} (hs : Inv s) :
    UploadOk s .saveAndContinue ↔ Fresh s.requests s.documents :=
  ⟨fun h d hd hserver => h d hd (hs.stored d hd hserver),
    fun h d hd hstored => h d hd (hs.onServer d hstored)⟩

theorem uploadOk_iff {s t : State} {e : Event} (hs : Inv s) (hright : Right lists s.requests)
    (h : step s e = some t) : UploadOk s e ↔ Right lists t.requests := by
  cases e with
  | pickDocumentfromDevice res =>
    obtain ⟨-, ⟨⟩⟩ := Option.ite_none_right_eq_some.1 h
    exact iff_of_true trivial hright
  | deleteAttachment index =>
    obtain ⟨-, ⟨⟩⟩ := Option.ite_none_right_eq_some.1 h
    exact iff_of_true trivial hright
  | saveAndContinue =>
    obtain ⟨-, ⟨⟩⟩ := Option.ite_none_right_eq_some.1 h
    rw [uploadOk_saveAndContinue_iff hs]
    exact (right_concat_iff lists hs.requests hs.documents hright).symm
  | goBack =>
    obtain ⟨-, ⟨⟩⟩ := Option.ite_none_left_eq_some.1 h
    exact iff_of_true trivial hright

/-- **When documents are uploaded once, and listed then.**  In a run of picks, deletions,
successful saves and returns to the first step, with or without the documents of a template:
throughout, every document picked is uploaded in exactly one success if it was in the list
at one and in none otherwise, the size sent is the number of files, and what is on the
server is listed and not uploaded, exactly when at each save no document of the list is one
of those the store has.  This is so whatever the server takes a text to list. -/
theorem uploads_iff {docs : List Download} {es : List Event} {s : State}
    (h : (machine docs).run es = some s) :
    (machine docs).Meets UploadOk es ↔
      ∀ fs, fs <+: es → ∀ t, (machine docs).run fs = some t → Right lists t.requests :=
  (machine docs).meets_iff_of_invariant (I := fun _ s => Right lists s.requests)
    (right_nil lists) (inv_init docs) (fun _ _ _ hs _ => inv_step hs)
    (fun _ _ _ _ _ hs hright => uploadOk_iff lists hs hright) h

/-- A file. -/
def brief : File := ⟨"file:///brief.pdf", "application/pdf", "brief.pdf"⟩

/-- The template's document is deleted, and one that is picked is saved; this is deleted when
the step is shown again, and the step is saved once more. -/
theorem uploads_iff_sample :
    ∃ s, (machine [⟨brief, 5⟩]).run [.deleteAttachment 0, .pickDocumentfromDevice [brief],
        .saveAndContinue, .goBack, .deleteAttachment 0, .saveAndContinue] = some s ∧
      Right (fun text d => text = d.file.name) s.requests := by
  have hok : (machine [⟨brief, 5⟩]).Meets UploadOk [.deleteAttachment 0,
      .pickDocumentfromDevice [brief], .saveAndContinue, .goBack, .deleteAttachment 0,
      .saveAndContinue] := by decide
  exact ⟨_, rfl, (uploads_iff _ rfl).1 hok _ List.prefix_rfl _ rfl⟩

/-- **Uploaded again, and listed never.**  A document is picked and saved; the step is shown
again and saved with nothing changed: both requests upload the document.  With the document
of a template that is saved as it is, the part for the old attachments has no text. -/
theorem uploaded_again :
    (∃ s, (machine []).run [.pickDocumentfromDevice [brief], .saveAndContinue, .goBack,
        .saveAndContinue] = some s ∧ s.requests.map Request.uploaded = [[0], [0]]) ∧
    ∃ s, (machine [⟨brief, 5⟩]).run [.saveAndContinue] = some s ∧
      s.requests.map Request.documents = [[⟨brief, some 5, none⟩]] ∧
      s.requests.map Request.attachments = [⟨"attachments", none, none⟩] :=
  ⟨⟨_, rfl, rfl⟩, _, rfl, rfl, rfl⟩

end PostProject.Attachments
