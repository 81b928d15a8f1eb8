import Mathlib
import Taskbot.Async.Machine
import Taskbot.Js.Remembered
import Taskbot.Tasks.RecordSharing

/-!
# The file that is edited on step three

`editFileInArray` puts a file in the two inputs and remembers its index.  "Add to list"
then writes the inputs to the file at that index, whichever it has become: `deleteFile` does
not look at `fileIndex`.

* `FileList`, `step` — step three, with a number for each file and the one opened last.
* `step_files` — what an event does to the files.
* `Confirms` — what an edit should do: the file that was opened is written, and no other,
  and nothing is thrown.
* `confirms_iff` — **every edit is confirmed so exactly when there is a file at the index,
  and it is the one that was opened or nothing is left to write.**
-/

namespace FileEdits

open Js (Atom Obj Heap RowIds EditsOnly Keeps)
open TaskRecord (Record Field StepThree EditThree)

/-! ## The screen -/

/-- `PostTaskStepThree` as its effect leaves it. -/
def mounted : StepThree :=
  ⟨Field.galleries.addr, Field.downloads.addr, none, .empty, .text "", .text ""⟩

theorem mount_three : TaskRecord.mount .three = .three mounted := rfl

/-- The screen, and the arrays of the record.  The last two fields are a history for the
statements only. -/
structure FileList where
  form : StepThree
  heap : Heap (Obj Atom)
  /-- A number for each file. -/
  rows : RowIds
  /-- The number of the file that was opened last. -/
  opened : ℕ
  deriving DecidableEq

/-- `files`. -/
def FileList.files (s : FileList) : List (Obj Atom) := s.heap.get s.form.files

/-- The title and the URL of the inputs, written to a file. -/
def confirmed (form : StepThree) (f : Obj Atom) : Obj Atom :=
  (f.set "name" form.downloadableTitle).set "uri" form.downloadableURL

/-- `addToList` would write to a file that is not there, a `TypeError`. -/
def Throws (s : FileList) : Prop :=
  s.form.Filled ∧ ∃ i ∈ s.form.fileIndex, s.files.length ≤ i

/-- The numbers after an event. -/
def rowsAfter (s : FileList) : EditThree → RowIds
  | .addToList => if s.form.Filled ∧ s.form.fileIndex = none then s.rows.push else s.rows
  | .deleteFile index => s.rows.erase index
  | _ => s.rows

/-- The file that was opened last. -/
def openedAfter (s : FileList) : EditThree → ℕ
  | .editFileInArray index => (s.rows.ids[index]?).getD s.opened
  | _ => s.opened

/-- One event. -/
def step (s : FileList) (e : EditThree) : Option FileList :=
  (s.form.handle s.heap e).map fun p => ⟨p.1, p.2, rowsAfter s e, openedAfter s e⟩

/-- The screen, once it is mounted with a record. -/
def machine (r : Record) : Async.Machine FileList EditThree where
  init := ⟨mounted, r.heap, .start r.downloads.length, 0⟩
  step := step

/-! ## What an event does to the files -/

/-- The files after an event. -/
def filesAfter (s : FileList) : EditThree → List (Obj Atom)
  | .addToList => s.form.addToList s.files
  | .deleteFile index => s.files.eraseIdx index
  | _ => s.files

/-- The arrays are those of the record, and the numbers tell the files apart. -/
structure Inv (s : FileList) : Prop where
  ok : (TaskRecord.View.three s.form).Ok
  size : 4 ≤ s.heap.size
  rows : s.rows.Numbers s.files

/-- **One event.**  The files are changed in place, whatever else is. -/
theorem step_files {s t : FileList} {e : EditThree} (hs : Inv s) (hst : step s e = some t) :
    t.files = filesAfter s e := by
  obtain ⟨⟨form, heap⟩, hform, rfl⟩ := Option.map_eq_some_iff.1 hst
  have haddr : s.form.files = Field.downloads.addr := hs.ok.2
  have hlt : s.form.files < s.heap.size := haddr ▸ Field.downloads.addr_lt.trans_le hs.size
  obtain ⟨hok, heffect⟩ := TaskRecord.stepThree_effect hs.size hs.ok hform
  show heap.get form.files = filesAfter s e
  have haddr' : form.files = s.form.files := hok.2.trans haddr.symm
  rw [haddr']
  cases e with
  | chooseMultiplePictures _ | deleteGalleryImage _ =>
    have hframe := heffect.frame .downloads (by rintro ⟨⟩)
    rwa [← haddr] at hframe
  | pickDocumentfromDevice _ | setDownloadableTitle _ | setDownloadableURL _ =>
    cases hform
    rfl
  | editFileInArray index =>
    obtain ⟨item, -, ⟨⟩⟩ := Option.map_eq_some_iff.1 hform
    rfl
  | addToList =>
    cases hform
    exact s.heap.get_mutate_self hlt _
  | deleteFile index =>
    obtain ⟨-, ⟨⟩⟩ := Option.ite_none_right_eq_some.1 hform
    exact s.heap.get_mutate_self hlt _

theorem addToList_of_none {form : StepThree} {files : List (Obj Atom)} (hfilled : form.Filled)
    (hindex : form.fileIndex = none) : form.addToList files = files ++ [form.pushed] := by
  rw [StepThree.addToList, if_pos hfilled, hindex]

theorem addToList_of_some {form : StepThree} {files : List (Obj Atom)} {i : ℕ}
    (hfilled : form.Filled) (hindex : form.fileIndex = some i) :
    form.addToList files = files.modify i (confirmed form) := by
  rw [StepThree.addToList, if_pos hfilled, hindex]
  rfl

theorem addToList_of_not_filled {form : StepThree} {files : List (Obj Atom)}
    (hfilled : ¬ form.Filled) : form.addToList files = files := by
  rw [StepThree.addToList, if_neg hfilled]

theorem numbers_after {s : FileList} (hs : Inv s) (e : EditThree) :
    (rowsAfter s e).Numbers (filesAfter s e) := by
  cases e with
  | addToList =>
    by_cases hfilled : s.form.Filled
    · cases hindex : s.form.fileIndex with
      | none =>
        rw [rowsAfter, if_pos ⟨hfilled, hindex⟩, filesAfter, addToList_of_none hfilled hindex]
        exact hs.rows.push _
      | some i =>
        rw [rowsAfter, if_neg (by simp [hindex]), filesAfter, addToList_of_some hfilled hindex]
        exact hs.rows.modify i _
    · rw [rowsAfter, if_neg fun h => hfilled h.1, filesAfter, addToList_of_not_filled hfilled]
      exact hs.rows
  | deleteFile index => exact hs.rows.erase index
  | _ => exact hs.rows

theorem inv_init (r : Record) : Inv (machine r).init where
  ok := ⟨rfl, rfl⟩
  size := le_rfl
  rows := RowIds.numbers_start r.downloads

theorem inv_step {s t : FileList} {e : EditThree} (hs : Inv s) (hst : step s e = some t) :
    Inv t := by
  have hfiles := step_files hs hst
  obtain ⟨⟨form, heap⟩, hform, rfl⟩ := Option.map_eq_some_iff.1 hst
  obtain ⟨hok, heffect⟩ := TaskRecord.stepThree_effect hs.size hs.ok hform
  exact ⟨hok, heffect.size, hfiles ▸ numbers_after hs e⟩

/-! ## Edits -/

/-- **What an edit should do** when it is confirmed: nothing is thrown, and the file that
was opened is written, if it is still listed, and no other. -/
def Confirms (s t : FileList) : Prop :=
  s.form.Filled → s.form.fileIndex ≠ none →
    ¬ Throws s ∧ EditsOnly s.rows.ids s.opened (confirmed s.form) s.files t.files

/-- A file has the title and the URL of the inputs. -/
def Written (form : StepThree) (f : Obj Atom) : Prop :=
  f.get "name" = some form.downloadableTitle ∧ f.get "uri" = some form.downloadableURL

instance (form : StepThree) (f : Obj Atom) : Decidable (Written form f) :=
  inferInstanceAs (Decidable (_ ∧ _))

/-- When an edit is confirmed as it should: there is a file at the index, and it is the one
that was opened, or it and the one that was opened have what is to be written. -/
def StepOk (s : FileList) : EditThree → Prop
  | .addToList => s.form.Filled → ∀ i ∈ s.form.fileIndex, i < s.files.length ∧
    (s.rows.ids[i]? = some s.opened ∨
      (∀ f ∈ s.files[i]?, Written s.form f) ∧
        ∀ p ∈ s.rows.ids.zip s.files, p.1 = s.opened → Written s.form p.2)
  | _ => True

instance (s : FileList) : (e : EditThree) → Decidable (StepOk s e)
  | .addToList => inferInstanceAs (Decidable (_ → ∀ i ∈ s.form.fileIndex, _ ∧ _))
  | .chooseMultiplePictures _ | .deleteGalleryImage _ | .pickDocumentfromDevice _
  | .setDownloadableTitle _ | .setDownloadableURL _ | .editFileInArray _ | .deleteFile _ =>
    isTrue trivial

theorem confirmed_eq_self_iff (form : StepThree) (f : Obj Atom) :
    confirmed form f = f ↔ Written form f :=
  Obj.set_set_eq_self_iff f (by decide) _ _

/-- One edit. -/
theorem stepOk_iff {s t : FileList} (hs : Inv s) (hst : step s .addToList = some t) :
    StepOk s .addToList ↔ Confirms s t := by
  have hfiles : t.files = s.form.addToList s.files := step_files hs hst
  unfold StepOk Confirms Throws
  refine imp_congr_right fun hfilled => ?_
  cases hindex : s.form.fileIndex with
  | none => simp
  | some i =>
    have hwritten : t.files = s.files.modify i (confirmed s.form) := by
      rw [hfiles, addToList_of_some hfilled hindex]
    rw [hwritten, Js.editsOnly_modify_iff hs.rows]
    simp [hfilled, Keeps, confirmed_eq_self_iff]

/-- **Edits.**  In every run of the screen, whatever the record, each edit is confirmed as
it should exactly when the file at the index is the one that was opened, or nothing is left
to write. -/
theorem confirms_iff (r : Record) {es : List EditThree} {s : FileList}
    (h : (machine r).run es = some s) :
    (machine r).Meets StepOk es ↔ ∀ fs, fs ++ [.addToList] <+: es → ∀ t u,
      (machine r).run fs = some t → (machine r).run (fs ++ [.addToList]) = some u →
        Confirms t u := by
  have hother : ∀ s e, (∀ k : Unit, e ≠ EditThree.addToList) → StepOk s e := by
    intro s e he
    cases e with
    | addToList => exact absurd rfl (he ())
    | _ => trivial
  rw [(machine r).meets_iff_of_events (fun _ : Unit => EditThree.addToList)
    (P := fun _ t u => Confirms t u) (inv_init r) (fun _ _ _ hs hst => inv_step hs hst)
    (fun _ _ _ hs hst => stepOk_iff hs hst) hother h]
  exact ⟨fun hP fs => hP fs (), fun hP fs _ => hP fs⟩

theorem inv_run {r : Record} {es : List EditThree} {s : FileList}
    (h : (machine r).run es = some s) : Inv s :=
  (machine r).invariant_run (inv_init r) (fun _ _ _ => inv_step) h

/-- A file that was uploaded before. -/
def stored (id : ℕ) (name file : String) : Obj Atom :=
  ⟨[("download_id", .number id), ("name", .text name), ("file", .text file)]⟩

/-- A record with two of them. -/
def sampleRecord : Record where
  tags_arr := []
  galleries := []
  downloads := [stored 4 "plan" "/4.pdf", stored 5 "logo" "/5.png"]
  faqs := []

/-- The last file is deleted while the first one is opened; its new title is confirmed. -/
theorem confirms_iff_sample :
    ∃ t u, (machine sampleRecord).run
        [.editFileInArray 0, .deleteFile 1, .setDownloadableTitle "draft"] = some t ∧
      (machine sampleRecord).run ([.editFileInArray 0, .deleteFile 1,
        .setDownloadableTitle "draft"] ++ [.addToList]) = some u ∧ Confirms t u := by
  have hok : (machine sampleRecord).Meets StepOk
      [.editFileInArray 0, .deleteFile 1, .setDownloadableTitle "draft", .addToList] := by decide
  refine ⟨_, _, rfl, rfl, ?_⟩
  have hprefix : ([.editFileInArray 0, .deleteFile 1, .setDownloadableTitle "draft"] :
      List EditThree) ++ [.addToList] <+:
      [.editFileInArray 0, .deleteFile 1, .setDownloadableTitle "draft", .addToList] :=
    ⟨[], rfl⟩
  exact (confirms_iff sampleRecord rfl).1 hok _ hprefix _ _ rfl rfl

/-- **Another file is written.**  The second file is opened and the first one deleted: the
second one is first now, and there is no file at its index, so that "Add to list" throws.
With the first file opened and deleted, the second one gets its title and URL. -/
theorem other_file_written :
    (∃ t, (machine sampleRecord).run [.editFileInArray 1, .deleteFile 0] = some t ∧
      t.files = [stored 5 "logo" "/5.png"] ∧ Throws t) ∧
    ∃ t u, (machine sampleRecord).run [.editFileInArray 0, .deleteFile 0] = some t ∧
      (machine sampleRecord).run [.editFileInArray 0, .deleteFile 0, .addToList] = some u ∧
      t.files = [stored 5 "logo" "/5.png"] ∧
      u.files = [⟨[("download_id", .number 5), ("name", .text "plan"),
        ("file", .text "/5.png"), ("uri", .text "/4.pdf")]⟩] ∧ ¬ Confirms t u := by
  refine ⟨⟨_, rfl, rfl, by decide, 1, rfl, by decide⟩, _, _, rfl, rfl, rfl, rfl, ?_⟩
  have hrun : (machine sampleRecord).run [.editFileInArray 0, .deleteFile 0] = some _ := rfl
  rw [← stepOk_iff (inv_run hrun) rfl]
  decide

end FileEdits
