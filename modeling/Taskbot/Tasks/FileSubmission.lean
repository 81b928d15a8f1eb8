import Mathlib
import Taskbot.Js.Pushes
import Taskbot.Tasks.FileList

/-!
# How the files of step three are sent

`saveUpdateThirdStep` tells three kinds of files apart by their fields: a typed URL by its
`type`, a stored download by its `download_id`, and what is left is an upload.

* `place`, `partition`, `formData` — the loop over the files, and what is appended of it.
* `sentAs`, `sent_perm` — **the loop sends every file once, as its fields tell.**
* `Listed`, `State` — the files by what the user knows of them: where they come from, and
  the title and the location they were given last.
* `sends_iff` — **each of them is sent as what it is exactly when no document or download
  has the type `url`, no copy of another file is added, and no URL is typed over the location
  of a document or a stored download.**
-/

namespace FileEdits

open Js (Atom Obj)
open TaskRecord (Record StepThree EditThree Document)

/-! ## Saving -/

/-- `f.p`. -/
def prop (f : Obj Atom) (p : String) : Atom := (f.get p).getD .undefined

/-- An item of `urlArray`. -/
structure UrlEntry where
  title : Atom
  file : Atom
  deriving DecidableEq

/-- An item of `finalDownloadable`. -/
structure Upload where
  uri : Atom
  type : Atom
  name : Atom
  deriving DecidableEq

/-- The three arrays of the loop. -/
structure Partition where
  urlArray : List UrlEntry
  preDownloadable : List (Obj Atom)
  finalDownloadable : List Upload
  deriving DecidableEq

/-- The body of the loop. -/
def place (p : Partition) (f : Obj Atom) : Partition :=
  if prop f "type" = .text "url" then
    { p with urlArray := p.urlArray ++ [⟨prop f "name", prop f "uri"⟩] }
  else if (f.get "download_id").isSome then
    { p with preDownloadable := p.preDownloadable ++ [f] }
  else
    { p with
      finalDownloadable := p.finalDownloadable ++ [⟨prop f "uri", prop f "type", prop f "name"⟩] }

/-- The loop over `files`. -/
def partition (files : List (Obj Atom)) : Partition := files.foldl place ⟨[], [], []⟩

/-- What is appended of the files; nothing but the option when downloads are off. -/
structure FormData where
  downloadable_option : String
  downloadable_urls : Option (List UrlEntry)
  downloadable_old_attachments : Option (List (Obj Atom))
  /-- `downloadable_0`, `downloadable_1`, … -/
  downloadable : List (String × Upload)
  downloadable_attachments_size : Option ℕ
  deriving DecidableEq

/-- The files in the form data of `saveUpdateThirdStep`. -/
def formData (downloadables : Bool) (files : List (Obj Atom)) : FormData :=
  let p := partition files
  if downloadables then
    { downloadable_option := "yes"
      downloadable_urls := some p.urlArray
      downloadable_old_attachments := some p.preDownloadable
      downloadable := p.finalDownloadable.zipIdx.map fun u => ("downloadable_" ++ u.2.repr, u.1)
      downloadable_attachments_size :=
        if p.finalDownloadable ≠ [] then some p.finalDownloadable.length else none }
  else ⟨"no", none, none, [], none⟩

/-- A file as it is sent: the channel, and the title and the location in it. -/
inductive Sent where
  | url (title file : Atom)
  | old (download_id name file : Atom)
  | upload (uri type name : Atom)
  deriving DecidableEq

/-- A stored download, as it is sent. -/
def sentOld (f : Obj Atom) : Sent := .old (prop f "download_id") (prop f "name") (prop f "file")

/-- All that is sent in the three channels of a form. -/
def FormData.sent (d : FormData) : List Sent :=
  (d.downloadable_urls.getD []).map (fun u => .url u.title u.file) ++
    ((d.downloadable_old_attachments.getD []).map sentOld ++
      d.downloadable.map fun u => .upload u.2.uri u.2.type u.2.name)

/-- How the fields of a file tell what it is. -/
def sentAs (f : Obj Atom) : Sent :=
  if prop f "type" = .text "url" then .url (prop f "name") (prop f "uri")
  else if (f.get "download_id").isSome then sentOld f
  else .upload (prop f "uri") (prop f "type") (prop f "name")

/-- All that is in the three arrays. -/
def Partition.sent (p : Partition) : List Sent :=
  p.urlArray.map (fun u => .url u.title u.file) ++
    (p.preDownloadable.map sentOld ++
      p.finalDownloadable.map fun u => .upload u.uri u.type u.name)

/-- One turn of the loop. -/
theorem place_sent_perm (p : Partition) (f : Obj Atom) :
    (place p f).sent.Perm (sentAs f :: p.sent) := by
  unfold place sentAs
  split
  · simp only [Partition.sent, List.map_append, List.map_singleton, List.append_assoc]
    exact List.perm_middle
  · split
    · simp only [Partition.sent, List.map_append, List.map_singleton, List.append_assoc]
      exact (List.perm_middle.append_left _).trans List.perm_middle
    · simp only [Partition.sent, List.map_append, List.map_singleton, ← List.append_assoc]
      exact List.perm_append_singleton _ _

/-- The whole loop. -/
theorem foldl_place_sent_perm (files : List (Obj Atom)) (p : Partition) :
    (files.foldl place p).sent.Perm (files.map sentAs ++ p.sent) := by
  induction files generalizing p with
  | nil => exact .refl _
  | cons f files ih =>
    refine (ih (place p f)).trans ?_
    exact ((place_sent_perm p f).append_left _).trans List.perm_middle

/-- **Every file is sent once**, as its fields tell what it is. -/
theorem sent_perm (files : List (Obj Atom)) :
    (formData true files).sent.Perm (files.map sentAs) := by
  have hsent : (formData true files).sent = (partition files).sent := by
    -- the names of the uploads are by their places, and are not looked at
    have huploads : (formData true files).downloadable.map Prod.snd =
        (partition files).finalDownloadable :=
      Js.map_snd_zipIdx (fun i => "downloadable_" ++ i.repr) (partition files).finalDownloadable
    rw [Partition.sent, ← huploads, List.map_map]
    rfl
  have hempty : (⟨[], [], []⟩ : Partition).sent = [] := rfl
  have hperm := foldl_place_sent_perm files ⟨[], [], []⟩
  rw [hempty, List.append_nil] at hperm
  rw [hsent]
  exact hperm

/-! ## The files by what they are -/

/-- A stored download, as it comes with the task. -/
structure Download where
  download_id : Atom
  name : Atom
  file : Atom
  type : Option Atom
  deriving DecidableEq

/-- Its object. -/
def Download.obj (d : Download) : Obj Atom :=
  ⟨[("download_id", d.download_id), ("name", d.name), ("file", d.file)] ++
    d.type.toList.map fun type => ("type", type)⟩

/-- Where a file comes from. -/
inductive Origin where
  | typed
  | stored (download_id : Atom)
  | picked (type : Atom)
  deriving DecidableEq

/-- A file of the list, by what the user knows of it. -/
structure Listed where
  origin : Origin
  title : Atom
  location : Atom
  deriving DecidableEq

/-- What a file is when a URL is typed for it: a document that was picked is no more what is
listed, a stored download still is, and has moved. -/
def Origin.typedOver : Origin → Origin
  | .typed | .picked _ => .typed
  | .stored download_id => .stored download_id

/-- **How it should be sent.** -/
def Listed.sent (l : Listed) : Sent :=
  match l.origin with
  | .typed => .url l.title l.location
  | .stored download_id => .old download_id l.title l.location
  | .picked type => .upload l.location type l.title

/-- The screen, and a history for the statements only. -/
structure State where
  list : FileList
  /-- The document that was picked for the inputs, if one was. -/
  document : Option Document
  /-- The files of the list. -/
  listed : List Listed
  deriving DecidableEq

/-- The document that was picked for the inputs, after an event. -/
def documentAfter (s : State) : EditThree → Option Document
  | .pickDocumentfromDevice res => some res
  | .editFileInArray _ => none
  | .addToList =>
    if s.list.form.Filled ∧ s.list.form.fileIndex = none then none else s.document
  | _ => s.document

/-- The inputs give a file its title and location.  A location that is not the one it has was
typed. -/
def retitled (form : StepThree) (l : Listed) : Listed where
  origin := if form.downloadableURL = l.location then l.origin else l.origin.typedOver
  title := form.downloadableTitle
  location := form.downloadableURL

/-- The file that "Add to list" adds: the document that was picked, unless a URL was typed
over it, or a typed URL. -/
def added (s : State) : Listed :=
  match s.document with
  | some d => retitled s.list.form ⟨.picked d.type, d.name, d.uri⟩
  | none => ⟨.typed, s.list.form.downloadableTitle, s.list.form.downloadableURL⟩

/-- The files after an event. -/
def listedAfter (s : State) : EditThree → List Listed
  | .addToList =>
    if s.list.form.Filled then
      match s.list.form.fileIndex with
      | some i => s.listed.modify i (retitled s.list.form)
      | none => s.listed ++ [added s]
    else s.listed
  | .deleteFile index => s.listed.eraseIdx index
  | _ => s.listed

/-- One event. -/
def submissionStep (s : State) (e : EditThree) : Option State :=
  (step s.list e).map fun list => ⟨list, documentAfter s e, listedAfter s e⟩

/-- The screen for a task with stored downloads. -/
def submission (r : Record) (downloads : List Download) : Async.Machine State EditThree where
  init :=
    { list := (machine { r with downloads := downloads.map Download.obj }).init
      document := none
      listed := downloads.map fun d => ⟨.stored d.download_id, d.name, d.file⟩ }
  step := submissionStep

/-- **What saving should send**: every file of the list, once, as what it is. -/
def Sends (s : State) : Prop := (formData true s.list.files).sent.Perm (s.listed.map Listed.sent)

/-- The fields of the files tell what they are. -/
def Tells (s : State) : Prop := s.list.files.map sentAs = s.listed.map Listed.sent

theorem sends_iff_perm (s : State) :
    Sends s ↔ (s.list.files.map sentAs).Perm (s.listed.map Listed.sent) :=
  ⟨(sent_perm _).symm.trans, (sent_perm _).trans⟩

theorem Tells.sends {s : State} (h : Tells s) : Sends s :=
  (sends_iff_perm s).2 (List.Perm.of_eq h)

/-! ## The inputs -/

/-- The document that is picked is in `selectedFile`. -/
def Holds (s : State) : Prop :=
  ∀ d ∈ s.document, s.list.form.selectedFile.props ≠ [] ∧
    prop s.list.form.selectedFile "type" = d.type ∧
    s.list.form.selectedFile.get "download_id" = none

/-- When a file is added as what it is: a document whose location is in the inputs has not the
type `url`, one over which a URL was typed has it; without one, `selectedFile` is empty, or
what is left in it has that type. -/
def AddsOk (s : State) : Prop :=
  match s.document with
  | some d => d.type = .text "url" ↔ s.list.form.downloadableURL ≠ d.uri
  | none => s.list.form.selectedFile.props = [] ∨
    prop s.list.form.selectedFile "type" = .text "url"

/-- A stored download or a document is not moved: the URL of the inputs is where it is. -/
def NotMoved (form : StepThree) (f : Obj Atom) : Prop :=
  prop f "type" ≠ .text "url" →
    prop f (if (f.get "download_id").isSome then "file" else "uri") = form.downloadableURL

/-- When an event leaves the files such that they tell what they are. -/
def SubmissionOk (s : State) : EditThree → Prop
  | .addToList => s.list.form.Filled →
    (s.list.form.fileIndex = none → AddsOk s) ∧
      ∀ i ∈ s.list.form.fileIndex, ∀ f ∈ s.list.files[i]?, NotMoved s.list.form f
  | _ => True

instance (s : State) : Decidable (AddsOk s) := by
  unfold AddsOk
  split <;> infer_instance

instance (form : StepThree) (f : Obj Atom) : Decidable (NotMoved form f) :=
  inferInstanceAs (Decidable (_ → _))

instance (s : State) : (e : EditThree) → Decidable (SubmissionOk s e)
  | .addToList => inferInstanceAs (Decidable (_ → _ ∧ ∀ i ∈ s.list.form.fileIndex, _))
  | .chooseMultiplePictures _ | .deleteGalleryImage _ | .pickDocumentfromDevice _
  | .setDownloadableTitle _ | .setDownloadableURL _ | .editFileInArray _ | .deleteFile _ =>
    isTrue trivial

@[simp] theorem prop_set_self (f : Obj Atom) (p : String) (v : Atom) :
    prop (f.set p v) p = v := by
  rw [prop, Obj.get_set_self, Option.getD_some]

theorem prop_set_of_ne (f : Obj Atom) {p q : String} (h : q ≠ p) (v : Atom) :
    prop (f.set p v) q = prop f q := by
  rw [prop, Obj.get_set_of_ne f h, prop]

/-- The fields of the file that is pushed. -/
theorem type_pushed (form : StepThree) :
    prop form.pushed "type" =
      if form.selectedFile.props ≠ [] then prop form.selectedFile "type" else .text "url" := by
  rw [StepThree.pushed, prop_set_of_ne _ (by decide), prop_set_of_ne _ (by decide),
    prop_set_self]
  rfl

theorem inputs_pushed (form : StepThree) :
    prop form.pushed "name" = form.downloadableTitle ∧
      prop form.pushed "uri" = form.downloadableURL := by
  constructor
  · rw [StepThree.pushed, prop_set_of_ne _ (by decide), prop_set_self]
  · rw [StepThree.pushed, prop_set_self]

theorem download_id_pushed (form : StepThree) :
    form.pushed.get "download_id" = form.selectedFile.get "download_id" := by
  rw [StepThree.pushed, Obj.get_set_of_ne _ (by decide), Obj.get_set_of_ne _ (by decide),
    Obj.get_set_of_ne _ (by decide)]

/-- The file that is pushed. -/
theorem sentAs_pushed {s : State} (hs : Holds s) :
    sentAs s.list.form.pushed = (added s).sent ↔ AddsOk s := by
  obtain ⟨list, document, listed⟩ := s
  obtain ⟨form, heap, rows, opened⟩ := list
  have htype := type_pushed form
  obtain ⟨hname, huri⟩ := inputs_pushed form
  cases document with
  | some d =>
    obtain ⟨hprops, hdocument, hnone⟩ := hs d rfl
    have hpushed : prop form.pushed "type" = d.type := by
      rw [htype, if_pos hprops]
      exact hdocument
    have hnone' : form.pushed.get "download_id" = none := (download_id_pushed form).trans hnone
    have hsentAs : sentAs form.pushed = if d.type = .text "url" then
        .url form.downloadableTitle form.downloadableURL
        else .upload form.downloadableURL d.type form.downloadableTitle := by
      simp [sentAs, hpushed, hnone', hname, huri]
    show sentAs form.pushed = (retitled form ⟨.picked d.type, d.name, d.uri⟩).sent ↔
      (d.type = .text "url" ↔ form.downloadableURL ≠ d.uri)
    rw [hsentAs]
    by_cases hmoved : form.downloadableURL = d.uri
    · -- the document: its own type tells
      by_cases hurl : d.type = .text "url"
      · simp [retitled, Listed.sent, hmoved, hurl]
      · simp [retitled, Listed.sent, hmoved, hurl]
    · -- a URL typed over it: its type has to be that of a URL
      by_cases hurl : d.type = .text "url"
      · simp [retitled, Origin.typedOver, Listed.sent, hmoved, hurl]
      · simp [retitled, Origin.typedOver, Listed.sent, hmoved, hurl]
  | none =>
    have hsent : (added ⟨⟨form, heap, rows, opened⟩, none, listed⟩).sent =
        .url form.downloadableTitle form.downloadableURL := rfl
    rw [hsent]
    by_cases hurl : prop form.pushed "type" = .text "url"
    · refine iff_of_true ?_ ?_
      · rw [sentAs, if_pos hurl, hname, huri]
      · rw [htype] at hurl
        by_cases hprops : form.selectedFile.props = []
        · exact Or.inl hprops
        · rw [if_pos hprops] at hurl
          exact Or.inr hurl
    · refine iff_of_false ?_ ?_
      · rw [sentAs, if_neg hurl]
        split <;> rintro ⟨⟩
      · rw [htype] at hurl
        rintro (hprops | htypeUrl)
        · exact hurl (if_neg (not_not.2 hprops))
        · refine hurl ?_
          split
          · exact htypeUrl
          · rfl

/-- The fields of the file that is written. -/
theorem inputs_confirmed (form : StepThree) (f : Obj Atom) :
    prop (confirmed form f) "name" = form.downloadableTitle ∧
      prop (confirmed form f) "uri" = form.downloadableURL := by
  constructor
  · rw [confirmed, prop_set_of_ne _ (by decide), prop_set_self]
  · rw [confirmed, prop_set_self]

theorem get_confirmed (form : StepThree) (f : Obj Atom) {p : String} (huri : p ≠ "uri")
    (hname : p ≠ "name") : (confirmed form f).get p = f.get p := by
  rw [confirmed, Obj.get_set_of_ne _ huri, Obj.get_set_of_ne _ hname]

theorem prop_confirmed (form : StepThree) (f : Obj Atom) {p : String} (huri : p ≠ "uri")
    (hname : p ≠ "name") : prop (confirmed form f) p = prop f p := by
  rw [prop, get_confirmed form f huri hname, prop]

/-- The file that is written. -/
theorem sentAs_confirmed {form : StepThree} {f : Obj Atom} {l : Listed}
    (h : sentAs f = l.sent) :
    sentAs (confirmed form f) = (retitled form l).sent ↔ NotMoved form f := by
  obtain ⟨hname, huri⟩ := inputs_confirmed form f
  have htype := prop_confirmed form f (by decide : "type" ≠ "uri") (by decide)
  have hfile := prop_confirmed form f (by decide : "file" ≠ "uri") (by decide)
  have hdownload := prop_confirmed form f (by decide : "download_id" ≠ "uri") (by decide)
  have hid := get_confirmed form f (by decide : "download_id" ≠ "uri") (by decide)
  obtain ⟨origin, title, location⟩ := l
  unfold NotMoved
  by_cases hurl : prop f "type" = .text "url"
  · rw [sentAs, if_pos hurl] at h
    rw [sentAs, htype, if_pos hurl, hname, huri]
    cases origin with
    | typed => simp [retitled, Origin.typedOver, Listed.sent, hurl]
    | stored _ | picked _ => cases h
  · rw [sentAs, if_neg hurl] at h
    rw [sentAs, htype, if_neg hurl, hid]
    by_cases hstored : (f.get "download_id").isSome
    · rw [if_pos hstored] at h
      rw [if_pos hstored]
      cases origin with
      | stored download_id =>
        obtain ⟨rfl, -, -⟩ := Sent.old.inj h
        simp [sentOld, retitled, Origin.typedOver, Listed.sent, hname, hfile, hdownload, hurl,
          hstored]
      | typed | picked _ => cases h
    · rw [if_neg hstored] at h
      rw [if_neg hstored, hname, huri]
      cases origin with
      | picked type =>
        obtain ⟨rfl, rfl, -⟩ := Sent.upload.inj h
        by_cases hmoved : form.downloadableURL = prop f "uri"
        · simp [retitled, Listed.sent, hstored, hmoved]
        · simp [retitled, Origin.typedOver, Listed.sent, hstored, hurl, hmoved, eq_comm]
      | typed | stored _ => cases h

/-! ## Runs -/

/-- What is kept by the steps that are as they should. -/
structure Kept (s : State) : Prop where
  inv : Inv s.list
  holds : Holds s
  tells : Tells s

/-- The document in the inputs stays in `selectedFile`. -/
theorem holds_step {s t : State} {e : EditThree} (hs : Holds s)
    (hst : submissionStep s e = some t) : Holds t := by
  obtain ⟨list, hlist, rfl⟩ := Option.map_eq_some_iff.1 hst
  obtain ⟨⟨form, heap⟩, hform, rfl⟩ := Option.map_eq_some_iff.1 hlist
  intro d hd
  cases e with
  | deleteGalleryImage _ | deleteFile _ =>
    obtain ⟨-, ⟨⟩⟩ := Option.ite_none_right_eq_some.1 hform
    exact hs d hd
  | pickDocumentfromDevice res =>
    cases hform
    cases hd
    exact ⟨List.cons_ne_nil _ _, rfl, rfl⟩
  | chooseMultiplePictures _ | setDownloadableTitle _ | setDownloadableURL _ =>
    cases hform
    exact hs d hd
  | editFileInArray _ => cases hd
  | addToList =>
    cases hform
    unfold documentAfter at hd
    by_cases hadd : s.list.form.Filled ∧ s.list.form.fileIndex = none
    · rw [if_pos hadd] at hd
      cases hd
    · rw [if_neg hadd] at hd
      have hselected : (s.list.form.added (s.list.heap.get s.list.form.files)).selectedFile =
          s.list.form.selectedFile := by
        unfold StepThree.added
        split
        · next hfilled =>
          split
          · split <;> rfl
          · next hindex => exact absurd ⟨hfilled, hindex⟩ hadd
        · rfl
      show (s.list.form.added _).selectedFile.props ≠ [] ∧ _
      rw [hselected]
      exact hs d hd

/-- Two lists that differ at one place at most. -/
theorem perm_place_iff {α : Type} {l₁ l₂ : List α} {a b : α} :
    (l₁ ++ a :: l₂).Perm (l₁ ++ b :: l₂) ↔ a = b := by
  have hsingle : ([a] ++ l₂).Perm ([b] ++ l₂) ↔ [a].Perm [b] := List.perm_append_right_iff l₂
  rw [List.singleton_append, List.singleton_append] at hsingle
  rw [List.perm_append_left_iff, hsingle, List.singleton_perm_singleton]

theorem place_inj {α : Type} {l₁ l₂ : List α} {a b : α} :
    l₁ ++ a :: l₂ = l₁ ++ b :: l₂ ↔ a = b := by simp

/-- **What a step can do** to files that tell what they are: they still do, or the one that
was added or written may not. -/
theorem tells_cases {s t : State} {e : EditThree} (hs : Kept s)
    (hst : submissionStep s e = some t) :
    (SubmissionOk s e ∧ Tells t) ∨
      ∃ l₁ l₂ a b, t.list.files.map sentAs = l₁ ++ a :: l₂ ∧
        t.listed.map Listed.sent = l₁ ++ b :: l₂ ∧ (SubmissionOk s e ↔ a = b) := by
  obtain ⟨list, hlist, rfl⟩ := Option.map_eq_some_iff.1 hst
  have hfiles := step_files hs.inv hlist
  have htells : s.list.files.map sentAs = s.listed.map Listed.sent := hs.tells
  have hlength : s.list.files.length = s.listed.length := by
    simpa using congrArg List.length htells
  unfold Tells
  simp only [hfiles]
  cases e with
  | addToList =>
    unfold filesAfter listedAfter
    by_cases hfilled : s.list.form.Filled
    · simp only [SubmissionOk, hfilled, if_true, forall_true_left]
      cases hindex : s.list.form.fileIndex with
      | none =>
        refine Or.inr ⟨s.listed.map Listed.sent, [], sentAs s.list.form.pushed,
          (added s).sent, ?_, by simp, ?_⟩
        · rw [addToList_of_none hfilled hindex, List.map_append, htells]
          rfl
        · rw [sentAs_pushed hs.holds]
          simp
      | some i =>
        simp only [addToList_of_some hfilled hindex]
        by_cases hi : i < s.list.files.length
        · have hi' : i < s.listed.length := hlength ▸ hi
          have hitem : sentAs s.list.files[i] = s.listed[i].sent := by
            have hget := congrArg (·[i]?) htells
            simpa [hi, hi'] using hget
          refine Or.inr ⟨(s.listed.map Listed.sent).take i, (s.listed.map Listed.sent).drop (i + 1),
            sentAs (confirmed s.list.form s.list.files[i]),
            (retitled s.list.form s.listed[i]).sent, ?_, ?_, ?_⟩
          · rw [List.modify_eq_take_cons_drop hi, List.map_append, List.map_cons, List.map_take,
              List.map_drop, htells]
          · rw [List.modify_eq_take_cons_drop hi', List.map_append, List.map_cons, List.map_take,
              List.map_drop]
          · rw [sentAs_confirmed hitem]
            simp [List.getElem?_eq_getElem hi]
        · have hi' : s.listed.length ≤ i := hlength ▸ not_lt.1 hi
          refine Or.inl ⟨?_, ?_⟩
          · simp [List.getElem?_eq_none (not_lt.1 hi)]
          · rw [List.modify_eq_self (not_lt.1 hi), List.modify_eq_self hi', htells]
    · refine Or.inl ⟨fun h => absurd h hfilled, ?_⟩
      rw [addToList_of_not_filled hfilled, if_neg hfilled, htells]
  | deleteFile index =>
    refine Or.inl ⟨trivial, ?_⟩
    show (s.list.files.eraseIdx index).map sentAs = (s.listed.eraseIdx index).map Listed.sent
    rw [← List.eraseIdx_map, ← List.eraseIdx_map, htells]
  | _ => exact Or.inl ⟨trivial, htells⟩

/-- A step keeps the files as they should be exactly when it meets the condition. -/
theorem submissionOk_iff_tells {s t : State} {e : EditThree} (hs : Kept s)
    (hst : submissionStep s e = some t) : SubmissionOk s e ↔ Tells t := by
  rcases tells_cases hs hst with ⟨hok, htells⟩ | ⟨l₁, l₂, a, b, hfiles, hlisted, hok⟩
  · exact iff_of_true hok htells
  · rw [hok, Tells, hfiles, hlisted, place_inj]

/-- And what is sent. -/
theorem submissionOk_iff_sends {s t : State} {e : EditThree} (hs : Kept s)
    (hst : submissionStep s e = some t) : SubmissionOk s e ↔ Sends t := by
  rcases tells_cases hs hst with ⟨hok, htells⟩ | ⟨l₁, l₂, a, b, hfiles, hlisted, hok⟩
  · exact iff_of_true hok htells.sends
  · rw [hok, sends_iff_perm, hfiles, hlisted, perm_place_iff]

theorem kept_step {s t : State} {e : EditThree} (hs : Kept s) (hok : SubmissionOk s e)
    (hst : submissionStep s e = some t) : Kept t where
  inv := by
    obtain ⟨list, hlist, rfl⟩ := Option.map_eq_some_iff.1 hst
    exact inv_step hs.inv hlist
  holds := holds_step hs.holds hst
  tells := (submissionOk_iff_tells hs hst).1 hok

/-- A stored download, as its fields tell. -/
theorem sentAs_obj (d : Download) :
    sentAs d.obj =
      if d.type = some (.text "url") then .url d.name .undefined
      else .old d.download_id d.name d.file := by
  obtain ⟨download_id, name, file, type⟩ := d
  cases type with
  | none => rfl
  | some type =>
    by_cases hurl : type = .text "url"
    · subst hurl
      rfl
    · have htype : prop (Download.obj ⟨download_id, name, file, some type⟩) "type" = type := rfl
      have hne : some type ≠ some (.text "url") := mt Option.some.inj hurl
      rw [sentAs, htype, if_neg hurl]
      exact (if_neg hne).symm

/-- The downloads a task comes with. -/
theorem tells_init_iff {r : Record} {downloads : List Download} :
    Tells (submission r downloads).init ↔ ∀ d ∈ downloads, d.type ≠ some (.text "url") := by
  show (downloads.map Download.obj).map sentAs =
    (downloads.map fun d => (⟨.stored d.download_id, d.name, d.file⟩ : Listed)).map Listed.sent ↔ _
  rw [List.map_map, List.map_map, List.map_inj_left]
  refine forall₂_congr fun d _ => ?_
  show sentAs d.obj = .old d.download_id d.name d.file ↔ _
  rw [sentAs_obj]
  split
  · next hurl => simp [hurl]
  · next hurl => simp [hurl]

theorem kept_init {r : Record} {downloads : List Download}
    (h : ∀ d ∈ downloads, d.type ≠ some (.text "url")) : Kept (submission r downloads).init where
  inv := inv_init _
  holds := fun _ htype => by cases htype
  tells := tells_init_iff.2 h

/-- A download with the type `url` is not sent as what it is, even before any event. -/
theorem type_of_sends_init {r : Record} {downloads : List Download}
    (h : Sends (submission r downloads).init) : ∀ d ∈ downloads, d.type ≠ some (.text "url") := by
  intro d hd hurl
  rw [sends_iff_perm] at h
  have hsent : sentAs d.obj ∈ (downloads.map Download.obj).map sentAs :=
    List.mem_map_of_mem (List.mem_map_of_mem hd)
  obtain ⟨l, hl, heq⟩ := List.mem_map.1 (h.mem_iff.1 hsent)
  obtain ⟨d', -, rfl⟩ := List.mem_map.1 hl
  rw [sentAs_obj, if_pos hurl] at heq
  cases heq

/-- **What is sent.**  For every task with stored downloads, in a run of additions, edits,
picks and deletions, saving with downloads on sends every file of the list exactly once, as
what it is, with its title and location, in every state of the run, exactly when no download
has the type `url`; a document that is added has not, or has it and a URL was typed over its
location, and without one what is left in `selectedFile` is empty or has it; and a stored
download or a document that is written stays where it is. -/
theorem sends_iff (r : Record) (downloads : List Download) {es : List EditThree} {s : State}
    (h : (submission r downloads).run es = some s) :
    ((∀ d ∈ downloads, d.type ≠ some (.text "url")) ∧
        (submission r downloads).Meets SubmissionOk es) ↔
      ∀ fs, fs <+: es → ∀ t, (submission r downloads).run fs = some t → Sends t := by
  by_cases hinit : ∀ d ∈ downloads, d.type ≠ some (.text "url")
  · rw [and_iff_right hinit]
    exact (submission r downloads).meets_iff_of_invariant (I := fun _ => Sends)
      (kept_init hinit).tells.sends (kept_init hinit) (fun _ _ _ => kept_step)
      (fun _ _ _ _ _ hs _ => submissionOk_iff_sends hs) h
  · refine iff_of_false (fun hok => hinit hok.1) fun hall => hinit ?_
    exact type_of_sends_init (hall [] List.nil_prefix _ rfl)

/-- A stored plan. -/
def plan : Download := ⟨.number 4, .text "plan", .text "/4.pdf", none⟩

/-- A record without files. -/
def emptyRecord : Record := ⟨[], [], [], []⟩

/-- The plan is given a new title, and a document is added. -/
theorem sends_iff_sample :
    ∃ t, (submission emptyRecord [plan]).run
        [.editFileInArray 0, .setDownloadableTitle "draft", .addToList,
          .pickDocumentfromDevice ⟨.text "logo", .text "/tmp/logo", .text "image/png"⟩,
          .addToList] = some t ∧ Sends t := by
  have htypes : ∀ d ∈ [plan], d.type ≠ some (.text "url") := by decide
  have hok : (submission emptyRecord [plan]).Meets SubmissionOk
      [.editFileInArray 0, .setDownloadableTitle "draft", .addToList,
        .pickDocumentfromDevice ⟨.text "logo", .text "/tmp/logo", .text "image/png"⟩,
        .addToList] := by decide
  exact ⟨_, rfl, (sends_iff emptyRecord [plan] rfl).1 ⟨htypes, hok⟩ _ List.prefix_rfl _ rfl⟩

/-- **A URL is sent as a download.**  The plan is edited, and a URL typed and added then: it
is sent under the number of the plan, with no location.  A URL typed for the plan itself is not
sent: its file is the old one.  And a URL typed over the document that was picked is sent as an
upload. -/
theorem url_sent_as_download :
    (∃ t, (submission emptyRecord [plan]).run
        [.editFileInArray 0, .addToList, .setDownloadableTitle "site",
          .setDownloadableURL "https://a.b", .addToList] = some t ∧
      t.listed = [⟨.stored (.number 4), .text "plan", .text "/4.pdf"⟩,
        ⟨.typed, .text "site", .text "https://a.b"⟩] ∧
      (formData true t.list.files).sent = [.old (.number 4) (.text "plan") (.text "/4.pdf"),
        .old (.number 4) (.text "site") (.text "/4.pdf")] ∧ ¬ Sends t) ∧
    (∃ t, (submission emptyRecord [plan]).run
        [.editFileInArray 0, .setDownloadableURL "https://a.b", .addToList] = some t ∧
      t.listed = [⟨.stored (.number 4), .text "plan", .text "https://a.b"⟩] ∧
      (formData true t.list.files).sent = [.old (.number 4) (.text "plan") (.text "/4.pdf")] ∧
      ¬ Sends t) ∧
    ∃ t, (submission emptyRecord []).run
        [.pickDocumentfromDevice ⟨.text "a.pdf", .text "/tmp/a.pdf", .text "application/pdf"⟩,
          .setDownloadableURL "https://a.b", .addToList] = some t ∧
      t.listed = [⟨.typed, .text "a.pdf", .text "https://a.b"⟩] ∧
      (formData true t.list.files).sent =
        [.upload (.text "https://a.b") (.text "application/pdf") (.text "a.pdf")] ∧
      ¬ Sends t := by
  refine ⟨⟨_, rfl, rfl, rfl, ?_⟩, ⟨_, rfl, rfl, rfl, ?_⟩, _, rfl, rfl, rfl, ?_⟩
  · rw [Sends]
    decide
  · rw [Sends]
    decide
  · rw [Sends]
    decide

end FileEdits
