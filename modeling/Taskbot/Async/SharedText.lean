import Mathlib
import Taskbot.Async.Machine

/-!
# One text behind several forms

A screen keeps one text, and several forms write into it and send it.  Each form has a
draft of its own all the same: what was last written through it.

* `Entry` — what happens to the text: it is written through a form, or a form sends it.
* `current`, `own` — the text, and the draft of a form.
* `Isolated` — every form has sent its own draft.
* `undisturbed_iff` — **the text is the draft of a form exactly when** the form was the
  last to write it, or the last to write wrote the same.
* `sentBy_eq_of_view_eq` — in isolated histories that look alike to a form, it sends the
  same.
* `SharedText` — the text kept with its history, and what is done to it.
* `Shares.isolated_iff`, `Shares.sentBy_eq` — the same for runs of a machine that keeps
  such a text: **noninterference**.
-/

namespace Async

/-- What happens to the text: `o` is the form. -/
inductive Entry (ω β : Type*) where
  | wrote (o : ω) (b : β)
  | sent (o : ω) (b : β)
  deriving DecidableEq

namespace SharedText

variable {ω β : Type*} (b₀ : β)

/-! ## The text and the drafts -/

/-- The writes of a history. -/
def writes (l : List (Entry ω β)) : List (ω × β) :=
  l.filterMap fun e =>
    match e with
    | .wrote o b => some (o, b)
    | .sent _ _ => none

/-- The text: what was written last. -/
def current (l : List (Entry ω β)) : β := ((writes l).getLast?.map Prod.snd).getD b₀

@[simp] theorem writes_concat_wrote (l : List (Entry ω β)) (o : ω) (b : β) :
    writes (l ++ [.wrote o b]) = writes l ++ [(o, b)] := by
  simp [writes]

@[simp] theorem writes_concat_sent (l : List (Entry ω β)) (o : ω) (b : β) :
    writes (l ++ [.sent o b]) = writes l := by
  simp [writes]

@[simp] theorem current_nil : current b₀ ([] : List (Entry ω β)) = b₀ := rfl

@[simp] theorem current_concat_wrote (l : List (Entry ω β)) (o : ω) (b : β) :
    current b₀ (l ++ [.wrote o b]) = b := by
  simp [current]

@[simp] theorem current_concat_sent (l : List (Entry ω β)) (o : ω) (b : β) :
    current b₀ (l ++ [.sent o b]) = current b₀ l := by
  simp [current]

variable [DecidableEq ω]

/-- The draft of a form: what was last written through it. -/
def own (o : ω) (l : List (Entry ω β)) : β :=
  (((writes l).filter fun w => w.1 = o).getLast?.map Prod.snd).getD b₀

theorem own_concat_wrote (l : List (Entry ω β)) (o o' : ω) (b : β) :
    own b₀ o (l ++ [.wrote o' b]) = if o' = o then b else own b₀ o l := by
  unfold own
  rw [writes_concat_wrote, List.filter_append]
  by_cases h : o' = o <;> simp [h]

@[simp] theorem own_concat_sent (l : List (Entry ω β)) (o o' : ω) (b : β) :
    own b₀ o (l ++ [.sent o' b]) = own b₀ o l := by
  simp [own]

/-- The last write went through the form, or wrote what the form has anyway. -/
def Undisturbed (o : ω) (l : List (Entry ω β)) : Prop :=
  ∀ w ∈ (writes l).getLast?, w.1 = o ∨ w.2 = own b₀ o l

instance [DecidableEq β] (o : ω) (l : List (Entry ω β)) : Decidable (Undisturbed b₀ o l) := by
  unfold Undisturbed
  infer_instance

/-- **The text is the draft of the form** exactly when nothing else disturbed it. -/
theorem undisturbed_iff (o : ω) (l : List (Entry ω β)) :
    Undisturbed b₀ o l ↔ current b₀ l = own b₀ o l := by
  unfold Undisturbed
  rcases List.eq_nil_or_concat (writes l) with hnil | ⟨ws, w, hws⟩
  · simp [current, own, hnil]
  · have hcurrent : current b₀ l = w.2 := by simp [current, hws]
    rw [hcurrent, hws, List.concat_eq_append, List.getLast?_concat]
    simp only [Option.mem_def, Option.some.injEq, forall_eq']
    refine or_iff_right_of_imp fun hw => ?_
    simp [own, hws, hw]

/-! ## Isolated histories -/

/-- Whatever a form has sent was its draft. -/
def Isolated (l : List (Entry ω β)) : Prop :=
  ∀ pre o b, pre ++ [.sent o b] <+: l → b = own b₀ o pre

theorem isolated_nil : Isolated b₀ ([] : List (Entry ω β)) := by
  intro pre o b h
  simp at h

theorem isolated_concat_wrote {l : List (Entry ω β)} {o : ω} {b : β} :
    Isolated b₀ (l ++ [.wrote o b]) ↔ Isolated b₀ l := by
  constructor
  · intro h pre o' b' hpre
    exact h pre o' b' (hpre.trans (List.prefix_append _ _))
  · intro h pre o' b' hpre
    rcases List.prefix_concat_iff.1 hpre with hlast | hpre
    · cases (List.append_singleton_inj.1 hlast).2
    · exact h pre o' b' hpre

theorem isolated_concat_sent {l : List (Entry ω β)} {o : ω} {b : β} :
    Isolated b₀ (l ++ [.sent o b]) ↔ Isolated b₀ l ∧ b = own b₀ o l := by
  constructor
  · intro h
    refine ⟨fun pre o' b' hpre => h pre o' b' (hpre.trans (List.prefix_append _ _)), ?_⟩
    exact h l o b List.prefix_rfl
  · rintro ⟨h, hb⟩ pre o' b' hpre
    rcases List.prefix_concat_iff.1 hpre with hlast | hpre
    · obtain ⟨rfl, hsame⟩ := List.append_singleton_inj.1 hlast
      cases hsame
      exact hb
    · exact h pre o' b' hpre

/-! ## What a form sees -/

/-- What a form sees of a history: what was written through it, and when it has sent. -/
def view (o : ω) (l : List (Entry ω β)) : List (Option β) :=
  l.filterMap fun e =>
    match e with
    | .wrote o' b => if o' = o then some (some b) else none
    | .sent o' _ => if o' = o then some none else none

/-- The texts a form has sent, in order. -/
def sentBy (o : ω) (l : List (Entry ω β)) : List β :=
  l.filterMap fun e =>
    match e with
    | .wrote _ _ => none
    | .sent o' b => if o' = o then some b else none

/-- A form on its own: its draft, and the texts it sends. -/
def replay (v : List (Option β)) : β × List β :=
  v.foldl
    (fun p e =>
      match e with
      | some b => (b, p.2)
      | none => (p.1, p.2 ++ [p.1]))
    (b₀, [])

/-- **A form in an isolated history** is as it would be on its own. -/
theorem replay_view {l : List (Entry ω β)} (h : Isolated b₀ l) (o : ω) :
    replay b₀ (view o l) = (own b₀ o l, sentBy o l) := by
  induction l using List.reverseRecOn with
  | nil => rfl
  | append_singleton l e ih =>
    cases e with
    | wrote o' b =>
      have ih := ih ((isolated_concat_wrote b₀).1 h)
      rw [own_concat_wrote]
      by_cases ho : o' = o
      · simp only [replay, view, sentBy] at ih ⊢
        simp [ho, List.filterMap_append, List.foldl_append, ih]
      · simp only [replay, view, sentBy] at ih ⊢
        simp [ho, List.filterMap_append, ih]
    | sent o' b =>
      obtain ⟨hl, hb⟩ := (isolated_concat_sent b₀).1 h
      have ih := ih hl
      rw [own_concat_sent]
      by_cases ho : o' = o
      · subst ho
        simp only [replay, view, sentBy] at ih ⊢
        simp [List.filterMap_append, List.foldl_append, ih, hb]
      · simp only [replay, view, sentBy] at ih ⊢
        simp [ho, List.filterMap_append, ih]

/-- **Noninterference.**  What looks alike to a form makes it send the same. -/
theorem sentBy_eq_of_view_eq {l l' : List (Entry ω β)} (h : Isolated b₀ l)
    (h' : Isolated b₀ l') {o : ω} (hview : view o l = view o l') : sentBy o l = sentBy o l' := by
  have hreplay := congrArg Prod.snd (replay_view b₀ h o)
  rw [hview, replay_view b₀ h' o] at hreplay
  exact hreplay.symm

end SharedText

/-! ## The text and its history -/

/-- A text kept with its history. -/
structure SharedText (ω β : Type*) where
  text : β
  log : List (Entry ω β)
  deriving DecidableEq

namespace SharedText

variable {ω β : Type*} (c : SharedText ω β)

/-- The text is written through a form. -/
def write (o : ω) (b : β) : SharedText ω β := ⟨b, c.log ++ [.wrote o b]⟩

/-- A form sends the text. -/
def send (o : ω) : SharedText ω β := { c with log := c.log ++ [.sent o c.text] }

/-- What is done to the text. -/
inductive Action (ω β : Type*) where
  | write (o : ω) (b : β)
  | send (o : ω)

/-- The text after something, or nothing, is done to it. -/
def perform : Option (Action ω β) → SharedText ω β
  | none => c
  | some (.write o b) => c.write o b
  | some (.send o) => c.send o

/-- The text is what was written last. -/
def Sound (b₀ : β) : Prop := c.text = current b₀ c.log

variable {c} {b₀ : β}

theorem sound_perform (hc : c.Sound b₀) (a : Option (Action ω β)) : (c.perform a).Sound b₀ := by
  match a with
  | none => exact hc
  | some (.write o b) => exact (current_concat_wrote b₀ c.log o b).symm
  | some (.send o) => exact hc.trans (current_concat_sent b₀ c.log o c.text).symm

variable [DecidableEq ω]

instance [DecidableEq β] (a : Option (Action ω β)) :
    Decidable (∀ o, a = some (.send o) → Undisturbed b₀ o c.log) :=
  match a with
  | none | some (.write _ _) => isTrue (by simp)
  | some (.send o) => decidable_of_iff (Undisturbed b₀ o c.log) (by simp)

/-- A form may send when nothing has disturbed it; nothing else sends. -/
theorem isolated_perform_iff (hc : c.Sound b₀) (a : Option (Action ω β)) :
    Isolated b₀ (c.perform a).log ↔
      Isolated b₀ c.log ∧ ∀ o, a = some (.send o) → Undisturbed b₀ o c.log := by
  match a with
  | none => simp [perform]
  | some (.write o b) =>
    have hwrote := isolated_concat_wrote b₀ (l := c.log) (o := o) (b := b)
    simp [perform, write, hwrote]
  | some (.send o) =>
    have hsent := isolated_concat_sent b₀ (l := c.log) (o := o) (b := c.text)
    simp only [perform, send, hsent, Option.some.injEq, Action.send.injEq, forall_eq']
    rw [undisturbed_iff, ← hc]

/-- A form sees nothing of what is written through another one. -/
theorem view_perform_write_of_ne {o o' : ω} (h : o' ≠ o) (b : β) :
    view o (c.perform (some (.write o' b))).log = view o c.log := by
  simp [view, perform, write, h]

/-- What a form sees of an action depends on what it has seen before. -/
theorem view_perform_congr {c' : SharedText ω β} {o : ω} (h : view o c.log = view o c'.log)
    (a : Option (Action ω β)) :
    view o (c.perform a).log = view o (c'.perform a).log := by
  match a with
  | none => exact h
  | some (.write o' b) =>
    simp only [view, perform, write, List.filterMap_append] at h ⊢
    rw [h]
  | some (.send o') =>
    simp only [view, perform, send, List.filterMap_append] at h ⊢
    rw [h]
    by_cases ho : o' = o <;> simp [ho]

/-! ## Machines that share a text -/

variable {σ ε κ : Type*}

/-- A machine that keeps a shared text; what is done to it, and everything else, depends on
a part `κ` of the state that does not have the text. -/
structure Shares (m : Machine σ ε) (text : σ → SharedText ω β) (rest : σ → κ)
    (act : κ → ε → Option (Action ω β)) (next : κ → ε → Option κ) (b₀ : β) : Prop where
  init : text m.init = ⟨b₀, []⟩
  step : ∀ {s e t}, m.step s e = some t →
    next (rest s) e = some (rest t) ∧ text t = (text s).perform (act (rest s) e)
  enabled : ∀ {s e}, m.step s e = none → next (rest s) e = none

namespace Shares

variable {m : Machine σ ε} {text : σ → SharedText ω β} {rest : σ → κ}
  {act : κ → ε → Option (Action ω β)} {next : κ → ε → Option κ}

/-- **Each form sends its draft** exactly when nothing has disturbed it. -/
theorem isolated_iff (h : Shares m text rest act next b₀) {es : List ε} {s : σ}
    (hrun : m.run es = some s) :
    m.Meets
      (fun s e => ∀ o, act (rest s) e = some (.send o) → Undisturbed b₀ o (text s).log) es ↔
      Isolated b₀ (text s).log := by
  refine m.meets_iff_last (I := fun s => Isolated b₀ (text s).log)
    (J := fun s => (text s).Sound b₀) ?_ ?_ ?_ ?_ hrun
  · rw [h.init]
    exact isolated_nil b₀
  · rw [h.init]
    rfl
  · intro s e t hs hstep
    rw [(h.step hstep).2]
    exact sound_perform hs _
  · intro s e t hs hstep
    rw [(h.step hstep).2, isolated_perform_iff hs]

/-- **Noninterference.**  Isolated runs that differ only in events that write through
other forms, and do nothing else, send the same through this one. -/
theorem sentBy_eq (h : Shares m text rest act next b₀) {o : ω} {keep : ε → Bool}
    (hkeep : ∀ {r r' e}, keep e = false → next r e = some r' →
      r' = r ∧ ∃ o' b, o' ≠ o ∧ act r e = some (.write o' b))
    {es es' : List ε} {s s' : σ} (hrun : m.run es = some s) (hrun' : m.run es' = some s')
    (hsame : es.filter keep = es'.filter keep) (hs : Isolated b₀ (text s).log)
    (hs' : Isolated b₀ (text s').log) : sentBy o (text s).log = sentBy o (text s').log := by
  -- each run is like the run of the events they have in common
  have hcommon : ∀ {fs : List ε} {t : σ}, m.run fs = some t → ∃ t', m.run (fs.filter keep) = some t' ∧
      rest t = rest t' ∧ view o (text t).log = view o (text t').log := by
    intro fs t ht
    refine m.run_filter
      (R := fun t t' => rest t = rest t' ∧ view o (text t).log = view o (text t').log)
      ⟨rfl, rfl⟩ ?_ ?_ ht
    · rintro u u' e t ⟨hrest, hview⟩ - hstep
      obtain ⟨hnext, htext⟩ := h.step hstep
      cases hstep' : m.step u' e with
      | none =>
        have hstuck := h.enabled hstep'
        rw [← hrest, hnext] at hstuck
        cases hstuck
      | some t' =>
        obtain ⟨hnext', htext'⟩ := h.step hstep'
        rw [hrest, hnext', Option.some.injEq] at hnext
        refine ⟨t', rfl, hnext.symm, ?_⟩
        rw [htext, htext', hrest]
        exact view_perform_congr hview _
    · rintro u u' e t ⟨hrest, hview⟩ hdrop hstep
      obtain ⟨hnext, htext⟩ := h.step hstep
      obtain ⟨hsame, o', b, hne, hact⟩ := hkeep hdrop hnext
      refine ⟨hsame.trans hrest, ?_⟩
      rw [htext, hact, view_perform_write_of_ne hne]
      exact hview
  obtain ⟨t, ht, -, hview⟩ := hcommon hrun
  obtain ⟨t', ht', -, hview'⟩ := hcommon hrun'
  rw [hsame] at ht
  obtain rfl : t = t' := Option.some.inj (ht.symm.trans ht')
  exact sentBy_eq_of_view_eq b₀ hs hs' (hview.trans hview'.symm)

end Shares

end SharedText

end Async
