import Mathlib
import Taskbot.Async.Machine
import Taskbot.Tasks.FileSubmission

/-!
# The gallery of a task

The third step of the task wizard has a gallery of three images at most.  The button for the
picker is shown below three, a pick of more than three is refused, and the loop that puts
images in front stops when there are three.  The button is the one of the last drawing, and
the handler of a pick sets `refreshList` to what it was not when the picker was opened.

* `State`, `step` — the array, what is drawn of it, and the picker.
* `unshiftAll_eq` — **what the loop puts in front.**
* `formData`, `divided` — how saving divides the gallery.
* `gallery_run` — **there are never more than three images, and the button is shown only
  below three, exactly when a pick that fills the gallery finds `refreshList` as it was**; a
  pick does what it should, and saving divides the images without loss.
* `six_images` — an image is deleted while the picker is open.
-/

namespace TaskGallery

open Js (Atom Obj)
open TaskRecord (Picture unshiftAll chooseMultiplePictures)
open FileEdits (prop Upload)

/-! ## The step -/

/-- The gallery, as the screen has it. -/
structure State where
  /-- The array, which the handlers change in place. -/
  gallery : List (Obj Atom)
  /-- The images, as they were when the screen was last drawn. -/
  rendered : List (Obj Atom)
  refreshList : Bool
  selectedGalleryImage : Option ℕ
  /-- While the picker is open: the hook `refreshList` of the drawing it was opened in. -/
  picker : Option Bool
  deriving DecidableEq

/-- What can happen. -/
inductive Event where
  /-- The button for the picker. -/
  | openPicker
  /-- `chooseMultiplePictures`, once the pictures are picked. -/
  | pick (img : List Picture)
  /-- The picker is left with no picture. -/
  | closePicker
  /-- A tap on an image, which marks it or not. -/
  | setSelectedGalleryImage (index : ℕ)
  /-- The button on the image that is marked. -/
  | deleteGalleryImage (index : ℕ)
  /-- `deleteFile`, or a change of the address of the video: the other handlers that set
  `refreshList`. -/
  | refresh
  /-- Another setter, with a new value. -/
  | render
  deriving DecidableEq

/-- The setter of `refreshList`: the screen is drawn again when the hook gets a new value,
and only then. -/
def setRefreshList (s : State) (value : Bool) : State :=
  if value = s.refreshList then s else { s with refreshList := value, rendered := s.gallery }

/-- One event.  The button for the picker is drawn below three images; the handler of a pick
has the hooks of the drawing the picker was opened in. -/
def step (s : State) : Event → Option State
  | .openPicker =>
    if s.rendered.length < 3 ∧ s.picker = none then some { s with picker := some s.refreshList }
    else none
  | .pick img =>
    s.picker.map fun refreshList =>
      setRefreshList { s with
        gallery := chooseMultiplePictures img s.gallery
        picker := none } (!refreshList)
  | .closePicker => if s.picker.isSome then some { s with picker := none } else none
  | .setSelectedGalleryImage index =>
    if index < s.rendered.length then
      some { s with
        selectedGalleryImage :=
          if s.selectedGalleryImage = some index then none else some index
        rendered := s.gallery }
    else none
  | .deleteGalleryImage index =>
    if index < s.rendered.length ∧ s.selectedGalleryImage = some index then
      some (setRefreshList { s with
        gallery := s.gallery.eraseIdx index
        selectedGalleryImage := none } (!s.refreshList))
    else none
  | .refresh => some (setRefreshList s (!s.refreshList))
  | .render => some { s with rendered := s.gallery }

/-- The step with the images of a task, when there is one, as its first effect leaves it. -/
def machine (galleries : Option (List (Obj Atom))) : Async.Machine State Event where
  init :=
    { gallery := galleries.getD []
      rendered := galleries.getD []
      refreshList := galleries.isSome
      selectedGalleryImage := none
      picker := none }
  step := step

/-! ## Saving -/

/-- An item of `preGallery`. -/
structure OldImage where
  url : Atom
  attachment_id : Atom
  name : Atom
  deriving DecidableEq

/-- The two arrays of the loop. -/
structure Parts where
  preGallery : List OldImage
  finalGallery : List Upload
  deriving DecidableEq

/-- Is an image stored with the task? -/
def IsStored (f : Obj Atom) : Prop := (f.get "attachment_id").isSome

instance (f : Obj Atom) : Decidable (IsStored f) := inferInstanceAs (Decidable (_ = true))

/-- What is pushed of an image that is stored. -/
def oldImage (f : Obj Atom) : OldImage := ⟨prop f "url", prop f "attachment_id", prop f "name"⟩

/-- What is pushed of a new one, on iOS or not. -/
def newImage (ios : Bool) (f : Obj Atom) : Upload where
  uri := if ios then prop f "sourceURL" else prop f "path"
  type := prop f "mime"
  name := if ios then prop f "filename" else .text "profileImage"

/-- The body of the loop. -/
def place (ios : Bool) (p : Parts) (f : Obj Atom) : Parts :=
  if IsStored f then { p with preGallery := p.preGallery ++ [oldImage f] }
  else { p with finalGallery := p.finalGallery ++ [newImage ios f] }

/-- The loop over `gallery`. -/
def divide (ios : Bool) (gallery : List (Obj Atom)) : Parts := gallery.foldl (place ios) ⟨[], []⟩

/-- The gallery in the form data of `saveUpdateThirdStep`. -/
structure FormData where
  old_gallery_images : List OldImage
  /-- `gallery_image0`, `gallery_image1`, … -/
  gallery_image : List (String × Upload)
  new_gallery_images : Option ℕ
  deriving DecidableEq

/-- What is appended of it. -/
def formData (ios : Bool) (gallery : List (Obj Atom)) : FormData :=
  let p := divide ios gallery
  { old_gallery_images := p.preGallery
    gallery_image := p.finalGallery.zipIdx.map fun u => ("gallery_image" ++ u.2.repr, u.1)
    new_gallery_images :=
      if p.finalGallery.length ≠ 0 then some p.finalGallery.length else none }

/-- An item of `preGallery` has what is known of the stored image. -/
structure Keeps (f : Obj Atom) (o : OldImage) : Prop where
  url : o.url = prop f "url"
  attachment_id : o.attachment_id = prop f "attachment_id"
  name : o.name = prop f "name"

/-- An item of `finalGallery` has the file of the new image. -/
structure Sends (ios : Bool) (f : Obj Atom) (u : Upload) : Prop where
  uri : u.uri = prop f (if ios then "sourceURL" else "path")
  type : u.type = prop f "mime"
  name : u.name = if ios then prop f "filename" else .text "profileImage"

/-- What saving should make of a gallery: the stored images in their order, and the new ones
in theirs under their numbers, which together are all of them. -/
structure Divided (ios : Bool) (gallery : List (Obj Atom)) (d : FormData) : Prop where
  old : List.Forall₂ Keeps (gallery.filter IsStored) d.old_gallery_images
  new : List.Forall₂ (Sends ios) (gallery.filter fun f => ¬ IsStored f)
    (d.gallery_image.map Prod.snd)
  names : d.gallery_image.map Prod.fst =
    (List.range d.gallery_image.length).map fun i => "gallery_image" ++ i.repr
  all : (gallery.filter IsStored ++ gallery.filter fun f => ¬ IsStored f).Perm gallery
  size : d.new_gallery_images =
    if d.gallery_image.length = 0 then none else some d.gallery_image.length

theorem keeps_oldImage (f : Obj Atom) : Keeps f (oldImage f) := ⟨rfl, rfl, rfl⟩

theorem sends_newImage (ios : Bool) (f : Obj Atom) : Sends ios f (newImage ios f) := by
  cases ios with
  | true => exact ⟨rfl, rfl, rfl⟩
  | false => exact ⟨rfl, rfl, rfl⟩

theorem foldl_place (ios : Bool) (gallery : List (Obj Atom)) (p : Parts) :
    gallery.foldl (place ios) p =
      ⟨p.preGallery ++ (gallery.filter IsStored).map oldImage,
        p.finalGallery ++ (gallery.filter fun f => ¬ IsStored f).map (newImage ios)⟩ := by
  induction gallery generalizing p with
  | nil => simp
  | cons f gallery ih =>
    rw [List.foldl_cons, ih, place]
    by_cases hf : IsStored f
    · simp [hf]
    · simp [hf]

/-- **Without loss.** -/
theorem divided (ios : Bool) (gallery : List (Obj Atom)) :
    Divided ios gallery (formData ios gallery) := by
  have hparts := foldl_place ios gallery ⟨[], []⟩
  have hold : (divide ios gallery).preGallery = (gallery.filter IsStored).map oldImage :=
    congrArg Parts.preGallery hparts
  have hnew : (divide ios gallery).finalGallery =
      (gallery.filter fun f => ¬ IsStored f).map (newImage ios) :=
    congrArg Parts.finalGallery hparts
  have himages : (formData ios gallery).gallery_image.map Prod.snd =
      (divide ios gallery).finalGallery :=
    Js.map_snd_zipIdx (fun i => "gallery_image" ++ i.repr) (divide ios gallery).finalGallery
  have hlength : (formData ios gallery).gallery_image.length =
      (divide ios gallery).finalGallery.length := by
    rw [← himages, List.length_map]
  refine ⟨?_, ?_, ?_, ?_, ?_⟩
  · show List.Forall₂ Keeps _ (divide ios gallery).preGallery
    rw [hold, List.forall₂_map_right_iff]
    exact List.forall₂_same.2 fun f _ => keeps_oldImage f
  · rw [himages, hnew, List.forall₂_map_right_iff]
    exact List.forall₂_same.2 fun f _ => sends_newImage ios f
  · rw [hlength, formData, List.map_map]
    exact Js.map_name_zipIdx (fun i => "gallery_image" ++ i.repr) (divide ios gallery).finalGallery
  · simpa using List.filter_append_perm (fun f => decide (IsStored f)) gallery
  · rw [hlength, formData]
    by_cases hnone : (divide ios gallery).finalGallery.length = 0
    · rw [if_pos hnone, if_neg (not_not.2 hnone)]
    · rw [if_neg hnone, if_pos hnone]

/-! ## What a pick does -/

/-- **The loop** puts as many pictures in front as there is room for, the last of them
first. -/
theorem unshiftAll_eq {gallery : List (Obj Atom)} (h : gallery.length < 3)
    (imgs : List Picture) : unshiftAll gallery imgs =
      ((imgs.take (3 - gallery.length)).map Picture.obj).reverse ++ gallery := by
  induction imgs generalizing gallery with
  | nil => simp [unshiftAll]
  | cons img imgs ih =>
    obtain ⟨room, hroom⟩ : ∃ room, 3 - gallery.length = room + 1 :=
      ⟨2 - gallery.length, by omega⟩
    rw [unshiftAll, hroom, List.take_succ_cons, List.map_cons, List.reverse_cons,
      List.append_assoc, List.singleton_append]
    split
    · next hfull =>
      have hnone : room = 0 := by
        rw [List.length_cons] at hfull
        omega
      rw [hnone, List.take_zero, List.map_nil, List.reverse_nil, List.nil_append]
    · next hfull =>
      rw [List.length_cons] at hfull
      have hlength : (img.obj :: gallery).length < 3 := by
        rw [List.length_cons]
        omega
      have hrest : 3 - (img.obj :: gallery).length = room := by
        rw [List.length_cons]
        omega
      rw [ih hlength, hrest]

theorem chooseMultiplePictures_of_le {gallery : List (Obj Atom)} (h : gallery.length < 3)
    {img : List Picture} (himg : img.length ≤ 3) : chooseMultiplePictures img gallery =
      ((img.take (min img.length (3 - gallery.length))).map Picture.obj).reverse ++ gallery := by
  have htake : img.take (min img.length (3 - gallery.length)) =
      img.take (3 - gallery.length) := by
    rw [min_comm]
    exact List.take_eq_take_min.symm
  rw [chooseMultiplePictures, if_pos (Nat.lt_succ_of_le himg), unshiftAll_eq h, htake]

theorem chooseMultiplePictures_of_lt {img : List Picture} (himg : 4 ≤ img.length)
    (gallery : List (Obj Atom)) : chooseMultiplePictures img gallery = gallery :=
  (TaskRecord.chooseMultiplePictures_eq_self_iff img gallery).2 (Or.inr himg)

/-- How many there are then. -/
theorem length_chooseMultiplePictures {gallery : List (Obj Atom)} (h : gallery.length < 3)
    {img : List Picture} (himg : img.length ≤ 3) :
    (chooseMultiplePictures img gallery).length = min (gallery.length + img.length) 3 := by
  rw [chooseMultiplePictures_of_le h himg, List.length_append, List.length_reverse,
    List.length_map, List.length_take]
  omega

/-- There is still room for three at most. -/
theorem length_chooseMultiplePictures_le {gallery : List (Obj Atom)} (h : gallery.length < 3)
    (img : List Picture) : (chooseMultiplePictures img gallery).length ≤ 3 := by
  by_cases himg : img.length ≤ 3
  · rw [length_chooseMultiplePictures h himg]
    exact min_le_right _ _
  · rw [chooseMultiplePictures_of_lt (by omega)]
    omega

/-- The image that is put in front for a picture: all that is known of the picture, and it
does not count as stored. -/
structure Added (img : Picture) (f : Obj Atom) : Prop where
  filename : f.get "filename" = some img.filename
  mime : f.get "mime" = some img.mime
  path : f.get "path" = some img.path
  size : f.get "size" = some img.size
  sourceURL : f.get "sourceURL" = some img.sourceURL
  new : ¬ IsStored f

theorem added_obj (img : Picture) : Added img img.obj :=
  ⟨rfl, rfl, rfl, rfl, rfl, Bool.false_ne_true⟩

/-- What a pick should make of a gallery. -/
structure Picked (img : List Picture) (before after : List (Obj Atom)) : Prop where
  /-- As many of the first pictures as there is room for are put in front, in reverse order,
  and the images that are there stay as they are. -/
  front : img.length ≤ 3 → ∃ added, after = added ++ before ∧
    List.Forall₂ Added (img.take (min img.length (3 - before.length))).reverse added
  refused : 4 ≤ img.length → after = before

theorem picked {gallery : List (Obj Atom)} (h : gallery.length < 3) (img : List Picture) :
    Picked img gallery (chooseMultiplePictures img gallery) := by
  refine ⟨fun himg => ⟨_, chooseMultiplePictures_of_le h himg, ?_⟩,
    fun himg => chooseMultiplePictures_of_lt himg gallery⟩
  rw [← List.map_reverse, List.forall₂_map_right_iff]
  exact List.forall₂_same.2 fun f _ => added_obj f

/-! ## Runs -/

/-- What should be so of the gallery and its button. -/
structure Bounded (s : State) : Prop where
  length_le : s.gallery.length ≤ 3
  /-- The button is shown only while there is room. -/
  button : s.rendered.length < 3 → s.gallery.length < 3

/-- What a step must meet: a pick that fills the gallery finds `refreshList` as it was when
the picker was opened. -/
def PickOk (s : State) : Event → Prop
  | .pick img =>
    4 ≤ img.length ∨ s.gallery.length + img.length < 3 ∨ s.picker = some s.refreshList
  | _ => True

instance (s : State) (e : Event) : Decidable (PickOk s e) := by
  unfold PickOk
  split <;> infer_instance

theorem bounded_of_drawn {s : State} (hlength : s.gallery.length ≤ 3)
    (hdrawn : s.rendered = s.gallery) : Bounded s :=
  ⟨hlength, fun h => hdrawn ▸ h⟩

/-- The hook gets a new value: the gallery is drawn. -/
theorem setRefreshList_not (s : State) :
    setRefreshList s (!s.refreshList) =
      { s with refreshList := !s.refreshList, rendered := s.gallery } :=
  if_neg (Bool.not_ne_self _)

/-- It is given the value it has: nothing is drawn. -/
theorem setRefreshList_self (s : State) : setRefreshList s s.refreshList = s := if_pos rfl

theorem setRefreshList_gallery (s : State) (value : Bool) :
    (setRefreshList s value).gallery = s.gallery := by
  unfold setRefreshList
  split <;> rfl

theorem setRefreshList_picker (s : State) (value : Bool) :
    (setRefreshList s value).picker = s.picker := by
  unfold setRefreshList
  split <;> rfl

/-- What holds as long as the steps meet their condition. -/
structure Inv (s : State) : Prop extends Bounded s where
  /-- While the picker is open, its button is there. -/
  opened : s.picker.isSome → s.rendered.length < 3

theorem inv_of_drawn {s : State} (hlength : s.gallery.length ≤ 3)
    (hdrawn : s.rendered = s.gallery) (hopened : s.picker.isSome → s.gallery.length < 3) :
    Inv s :=
  ⟨bounded_of_drawn hlength hdrawn, fun h => hdrawn ▸ hopened h⟩

/-- **One pick** leaves a gallery and a button that are right exactly when it meets its
condition. -/
theorem bounded_pick_iff {s t : State} {img : List Picture} (hs : Inv s)
    (h : step s (.pick img) = some t) : PickOk s (.pick img) ↔ Bounded t := by
  obtain ⟨refreshList, hpicker, ht⟩ := Option.map_eq_some_iff.1 h
  have hdrawn : s.rendered.length < 3 := hs.opened (by rw [hpicker]; rfl)
  have hroom : s.gallery.length < 3 := hs.button hdrawn
  have hle := length_chooseMultiplePictures_le hroom img
  by_cases hrefresh : refreshList = s.refreshList
  · -- the hook gets a new value
    rw [hrefresh] at ht hpicker
    refine iff_of_true (Or.inr (Or.inr hpicker)) ?_
    rw [← ht]
    exact (setRefreshList_not _).symm ▸ bounded_of_drawn hle rfl
  · -- the button stays, and there must be room
    have hsame : (!refreshList) = s.refreshList := Bool.not_eq.2 hrefresh
    rw [hsame] at ht
    have ht' := (setRefreshList_self { s with
      gallery := chooseMultiplePictures img s.gallery
      picker := none }).symm.trans ht
    have hbounded : Bounded t ↔ (chooseMultiplePictures img s.gallery).length < 3 := by
      rw [← ht']
      exact ⟨fun hb => hb.button hdrawn, fun hlt => ⟨hle, fun _ => hlt⟩⟩
    rw [hbounded, PickOk, hpicker]
    by_cases himg : img.length ≤ 3
    · rw [length_chooseMultiplePictures hroom himg]
      have hpick : some refreshList ≠ some s.refreshList := fun h => hrefresh (Option.some.inj h)
      simp only [hpick, or_false]
      omega
    · rw [chooseMultiplePictures_of_lt (by omega)]
      exact iff_of_true (Or.inl (by omega)) hroom

/-- The loop does not stop where there are three images already. -/
theorem length_unshiftAll_of_le {gallery : List (Obj Atom)} (h : 3 ≤ gallery.length)
    (imgs : List Picture) : (unshiftAll gallery imgs).length = gallery.length + imgs.length := by
  induction imgs generalizing gallery with
  | nil => rfl
  | cons img imgs ih =>
    have hmore : (img.obj :: gallery).length ≠ 3 := by
      rw [List.length_cons]
      omega
    rw [unshiftAll, if_neg hmore, ih (by rw [List.length_cons]; omega), List.length_cons,
      List.length_cons]
    omega

/-- **What the button is there for.**  Where it is shown with three images, the next pick of
three pictures or less adds all of them. -/
theorem length_of_button {s : State} (hfull : s.gallery.length = 3)
    (hbutton : s.rendered.length < 3) (hclosed : s.picker = none) {img : List Picture}
    (himg : img.length ≤ 3) : ∃ t u, step s .openPicker = some t ∧
      step t (.pick img) = some u ∧ u.gallery.length = 3 + img.length := by
  refine ⟨_, _, if_pos ⟨hbutton, hclosed⟩, rfl, ?_⟩
  rw [setRefreshList_gallery, chooseMultiplePictures, if_pos (Nat.lt_succ_of_le himg),
    length_unshiftAll_of_le hfull.ge, hfull]

/-- A deletion leaves no more images than there were. -/
theorem length_eraseIdx_le (gallery : List (Obj Atom)) (index : ℕ) :
    (gallery.eraseIdx index).length ≤ gallery.length :=
  (gallery.eraseIdx_sublist index).length_le

theorem inv_step {s t : State} {e : Event} (hs : Inv s) (hok : PickOk s e)
    (h : step s e = some t) : Inv t := by
  have hroom : s.picker.isSome → s.gallery.length < 3 := fun ho => hs.button (hs.opened ho)
  cases e with
  | openPicker =>
    obtain ⟨⟨hdrawn, -⟩, ⟨⟩⟩ := Option.ite_none_right_eq_some.1 h
    exact ⟨⟨hs.length_le, hs.button⟩, fun _ => hdrawn⟩
  | pick img =>
    refine ⟨(bounded_pick_iff hs h).1 hok, fun hopen => ?_⟩
    obtain ⟨refreshList, -, rfl⟩ := Option.map_eq_some_iff.1 h
    rw [setRefreshList_picker] at hopen
    exact absurd hopen Bool.false_ne_true
  | closePicker =>
    obtain ⟨-, ⟨⟩⟩ := Option.ite_none_right_eq_some.1 h
    exact ⟨⟨hs.length_le, hs.button⟩, fun hopen => absurd hopen Bool.false_ne_true⟩
  | setSelectedGalleryImage index =>
    obtain ⟨-, ⟨⟩⟩ := Option.ite_none_right_eq_some.1 h
    exact inv_of_drawn hs.length_le rfl hroom
  | deleteGalleryImage index =>
    obtain ⟨-, ht⟩ := Option.ite_none_right_eq_some.1 h
    have hle := length_eraseIdx_le s.gallery index
    have ht' := Option.some.inj ht
    rw [← ht']
    exact (setRefreshList_not _).symm ▸
      inv_of_drawn (hle.trans hs.length_le) rfl fun hopen => hle.trans_lt (hroom hopen)
  | refresh =>
    obtain ⟨⟩ := h
    rw [setRefreshList_not]
    exact inv_of_drawn hs.length_le rfl hroom
  | render =>
    obtain ⟨⟩ := h
    exact inv_of_drawn hs.length_le rfl hroom

theorem pickOk_iff {s t : State} {e : Event} (hs : Inv s) (h : step s e = some t) :
    PickOk s e ↔ Bounded t := by
  by_cases hpick : ∃ img, e = .pick img
  · obtain ⟨img, rfl⟩ := hpick
    exact bounded_pick_iff hs h
  · have hok : PickOk s e := by
      cases e with
      | pick img => exact absurd ⟨img, rfl⟩ hpick
      | _ => trivial
    exact iff_of_true hok (inv_step hs hok h).toBounded

/-- **The gallery.**  From any gallery of three images at most, in every run of picks and
deletions, and of the other taps that draw the screen again: there are never more than three
images, and the button for the picker is shown only below three, exactly when every pick of
three pictures or less that fills the gallery finds `refreshList` as it was when the picker
was opened.  Into a gallery below three a pick puts as many of its first pictures in front as
there is room for, in reverse order, and one of four or more changes nothing; and saving
divides the gallery into stored and new images, each in their order and all of them. -/
theorem gallery_run {galleries : Option (List (Obj Atom))}
    (hthree : (galleries.getD []).length ≤ 3) {es : List Event} {s : State}
    (h : (machine galleries).run es = some s) :
    ((machine galleries).Meets PickOk es ↔
      ∀ fs, fs <+: es → ∀ t, (machine galleries).run fs = some t → Bounded t) ∧
    (s.gallery.length < 3 → ∀ img t, step s (.pick img) = some t →
      Picked img s.gallery t.gallery) ∧
    ∀ ios, Divided ios s.gallery (formData ios s.gallery) := by
  have hinit : Inv (machine galleries).init :=
    inv_of_drawn hthree rfl fun hopen => absurd hopen Bool.false_ne_true
  refine ⟨?_, fun hroom img t hpick => ?_, fun ios => divided ios s.gallery⟩
  · exact (machine galleries).meets_iff_of_invariant (I := fun _ s => Bounded s)
      hinit.toBounded hinit (fun _ _ _ => inv_step) (fun _ _ _ _ _ hs _ => pickOk_iff hs) h
  · obtain ⟨refreshList, -, rfl⟩ := Option.map_eq_some_iff.1 hpick
    rw [setRefreshList_gallery]
    exact picked hroom img

/-- An image that is stored. -/
def storedImage : Obj Atom := ⟨[("url", .text "a.png"), ("attachment_id", .number 4)]⟩

/-- A picture with a name. -/
def picture (name : String) : Picture :=
  ⟨.text name, .text "image/png", .text name, .number 1, .undefined⟩

/-- Two images are stored, and three are picked, of which there is room for one. -/
theorem gallery_run_sample :
    ∃ s t, (machine (some [storedImage, storedImage])).run [.openPicker] = some s ∧
      step s (.pick [picture "b", picture "c", picture "d"]) = some t ∧ Bounded t ∧
      Picked [picture "b", picture "c", picture "d"] s.gallery t.gallery := by
  have hrun : (machine (some [storedImage, storedImage])).run [.openPicker] =
      some ⟨[storedImage, storedImage], [storedImage, storedImage], true, none, some true⟩ := rfl
  have hok : (machine (some [storedImage, storedImage])).Meets PickOk
      [.openPicker, .pick [picture "b", picture "c", picture "d"]] := by decide
  refine ⟨_, _, hrun, rfl, ?_, (gallery_run (by decide) hrun).2.1 (by decide) _ _ rfl⟩
  exact (gallery_run (by decide) rfl).1.1 hok _ List.prefix_rfl _ rfl

/-- **Six images.**  With two images the picker is opened, and before the pictures come one
of the images is deleted.  The two pictures that are picked fill the gallery, but the button
stays: three more can be picked. -/
theorem six_images :
    ∃ s, (machine (some [storedImage, storedImage])).run
        [.openPicker, .setSelectedGalleryImage 0, .deleteGalleryImage 0,
          .pick [picture "b", picture "c"], .openPicker,
          .pick [picture "d", picture "e", picture "f"]] = some s ∧ s.gallery.length = 6 :=
  ⟨_, rfl, rfl⟩

end TaskGallery
