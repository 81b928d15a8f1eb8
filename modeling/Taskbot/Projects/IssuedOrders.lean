import Mathlib
import Taskbot.Projects.ProposalActivity

/-!
# The orders a buyer can place

Which pairs of a proposal and a key the screen `ProposalActivity` lets a buyer
order, over all runs of taps and replies, against the pairs that make sense for
the proposal it was opened with.

* `Offered` — the keys that have a button.
* `dialog_step`, `dialog_run` — the dialog is only ever open for an offered key,
  and only offered keys are sent, in every run.
* `mem_issued_iff` — **the orders are exactly the offered ones**: each offered key
  can really be ordered.
* `issued_eq_intended_iff` — these are the right ones exactly when the first
  proposal of the project has the milestone keys of the opened one, or none for a
  proposal without type; for a fixed-price proposal they never are.
-/

namespace ProposalActivity

variable {t : Opened}

/-! ## What the buttons offer -/

/-- The keys that have a button: those of the milestones drawn, and no key at all
when the hire button is drawn. -/
def Offered (t : Opened) (key : Option String) : Prop :=
  (∃ item ∈ t.drawnRows, key = some item.key) ∨
    (t.sellerDetails.proposal_type = .empty ∧ key = none)

/-- The dialog is open for an offered key, and only offered keys were sent. -/
structure DialogOk (t : Opened) (s : State) : Prop where
  dialog : s.walletDialoge = true → Offered t s.selectedKey
  sent : ∀ o, Entry.sent o ∈ s.history →
    o.1 = t.sellerDetails.proposal_id ∧ Offered t o.2

theorem dialog_initial : DialogOk t initial :=
  ⟨nofun, fun _ h => absurd h List.not_mem_nil⟩

theorem dialog_step {s u : State} {e : Event} (hs : DialogOk t s) (h : step t s e = some u) :
    DialogOk t u := by
  cases step_effect h with
  | payMilestone hitem => exact ⟨fun _ => Or.inl ⟨_, List.mem_of_getElem? hitem, rfl⟩, hs.sent⟩
  | hire hty => exact ⟨fun _ => Or.inr ⟨hty, rfl⟩, hs.sent⟩
  | hireAndPay hdialog =>
    refine ⟨hs.dialog, fun o ho => ?_⟩
    rcases List.mem_append.1 ho with ho | ho
    · exact hs.sent o ho
    · obtain rfl : o = (t.sellerDetails.proposal_id, s.selectedKey) := by simpa using ho
      exact ⟨rfl, hs.dialog hdialog⟩
  | declineProposal => exact ⟨hs.dialog, hs.sent⟩
  | @reply i r q hq =>
    obtain ⟨hdialog, hkey, -⟩ :=
      replied_fields { s with inFlight := s.inFlight.eraseIdx i } q r
    refine ⟨fun hd => ?_, fun o ho => ?_⟩
    · rw [hkey]
      exact hs.dialog (hdialog ▸ hd)
    · rcases replied_history { s with inFlight := s.inFlight.eraseIdx i } q r with
        hhist | ⟨⟨p, -, hhist⟩, -⟩
      · exact hs.sent o (hhist ▸ ho)
      · rw [hhist] at ho
        exact hs.sent o (by simpa using ho)
  | other _ hkey hdialog _ _ hhistory =>
    refine ⟨fun hd => ?_, fun o ho => hs.sent o (hhistory ▸ ho)⟩
    rw [hkey]
    exact hs.dialog (hdialog hd)

/-- In every run the dialog is open for an offered key, and only offered keys are
sent. -/
theorem dialog_run {es : List Event} {s : State} (h : (machine t).run es = some s) :
    DialogOk t s :=
  (machine t).invariant_run dialog_initial (fun _ _ _ => dialog_step) h

/-! ## The orders of all runs -/

/-- The orders the screen lets the buyer place, over all runs. -/
def issued (t : Opened) : Set (ℕ × Option String) :=
  {o | ∃ es s, (machine t).run es = some s ∧ Entry.sent o ∈ s.history}

/-- An event that opens the dialog on a fresh screen leads to an order: continue
with the wallet. -/
theorem mem_issued_of_open {e : Event} {s : State} (h : step t initial e = some s)
    (hgone : s.gone = false) (hdialog : s.walletDialoge = true) :
    (t.sellerDetails.proposal_id, s.selectedKey) ∈ issued t := by
  have hpay : (machine t).step s (.hireAndPay true) = some (hireAndPay t s true) := by
    simp [machine, step, tap, hgone, hdialog]
  have hrun : (machine t).run [e, .hireAndPay true] = some (hireAndPay t s true) :=
    ((machine t).runFrom_cons_of_step h _).trans ((machine t).runFrom_cons_of_step hpay [])
  exact ⟨_, _, hrun, by simp [hireAndPay]⟩

/-- **The orders are the offered ones**, each with the proposal the screen was
opened with. -/
theorem mem_issued_iff (o : ℕ × Option String) :
    o ∈ issued t ↔ o.1 = t.sellerDetails.proposal_id ∧ Offered t o.2 := by
  constructor
  · rintro ⟨es, s, hrun, hsent⟩
    exact (dialog_run hrun).sent o hsent
  · obtain ⟨pid, key⟩ := o
    rintro ⟨rfl, ⟨item, hitem, rfl⟩ | ⟨hty, rfl⟩⟩
    · obtain ⟨row, hrow⟩ := List.mem_iff_getElem?.1 hitem
      have hopen : step t initial (.payMilestone row) =
          some { initial with selectedKey := some item.key, walletDialoge := true } := by
        simp [step, tap, initial, hrow]
      exact mem_issued_of_open hopen rfl rfl
    · have hopen : step t initial .hire =
          some { initial with selectedKey := none, walletDialoge := true } := by
        simp [step, tap, initial, hty, hireButton_eq_iff]
      exact mem_issued_of_open hopen rfl rfl

/-! ## The orders that make sense -/

/-- The orders meant for the opened proposal: one for each of its own milestones,
or one for the whole. -/
def intended (t : Opened) : Set (ℕ × Option String) :=
  match t.sellerDetails.proposal_type with
  | .milestone => {o | o.1 = t.sellerDetails.proposal_id ∧
      ∃ k ∈ t.sellerDetails.keys, o.2 = some k}
  | .fixed | .empty => {(t.sellerDetails.proposal_id, none)}

/-- The first proposal of the project has the milestones of the opened one, which
must not be a fixed-price one, and none when the opened one has no type. -/
def RightMilestones (t : Opened) : Prop :=
  match t.sellerDetails.proposal_type with
  | .milestone => ∀ k, k ∈ t.firstProposal.keys ↔ k ∈ t.sellerDetails.keys
  | .fixed => False
  | .empty => t.firstProposal.keys = []

/-- The keys of the milestones drawn are those of the first proposal. -/
theorem exists_drawnRows_iff (h : t.mainItem.is_milestone = true) (key : Option String) :
    (∃ item ∈ t.drawnRows, key = some item.key) ↔ ∃ k ∈ t.firstProposal.keys, key = some k := by
  rw [Opened.drawnRows, if_pos h, Opened.mileStoneData, ← Proposal.rows_keys]
  simp

theorem mem_issued_iff_keys (h : t.mainItem.is_milestone = true) (o : ℕ × Option String) :
    o ∈ issued t ↔ o.1 = t.sellerDetails.proposal_id ∧
      ((∃ k ∈ t.firstProposal.keys, o.2 = some k) ∨
        (t.sellerDetails.proposal_type = .empty ∧ o.2 = none)) := by
  rw [mem_issued_iff, Offered, exists_drawnRows_iff h]

/-- **When the orders are the right ones.**  For a project with milestones the
screen lets the buyer place exactly the orders that make sense when the first
proposal of the project happens to have the right keys, and never for a
fixed-price proposal. -/
theorem issued_eq_intended_iff (t : Opened) (h : t.mainItem.is_milestone = true) :
    issued t = intended t ↔ RightMilestones t := by
  have key := mem_issued_iff_keys h
  set pid := t.sellerDetails.proposal_id
  unfold RightMilestones intended
  cases hty : t.sellerDetails.proposal_type with
  | milestone =>
    simp only [hty, reduceCtorEq, false_and, or_false] at key ⊢
    constructor
    · intro heq k
      have hk := key (pid, some k)
      rw [heq] at hk
      simpa [pid, eq_comm] using hk.symm
    · intro hkeys
      ext o
      rw [key o]
      simp [hkeys, pid]
  | fixed =>
    simp only [hty, reduceCtorEq, false_and, or_false, iff_false] at key ⊢
    intro heq
    have hk := key (pid, none)
    rw [heq] at hk
    simpa using hk.1 rfl
  | empty =>
    simp only [hty, true_and] at key ⊢
    constructor
    · intro heq
      refine List.eq_nil_iff_forall_not_mem.2 fun k hk => ?_
      have hmem := (key (pid, some k)).2 ⟨rfl, Or.inl ⟨k, hk, rfl⟩⟩
      rw [heq] at hmem
      simp at hmem
    · intro hnil
      ext o
      rw [key o, hnil, Set.mem_singleton_iff, Prod.ext_iff]
      simp [pid]

/-! ## Two freelancers -/

/-- The first proposal of the list gets its own orders. -/
theorem issued_eq_intended_first : issued (twoProposals false) = intended (twoProposals false) :=
  (issued_eq_intended_iff (twoProposals false) rfl).2 fun _ => Iff.rfl

/-- **A milestone of another freelancer is ordered.**  Opened at the second
proposal, the screen orders the first one's milestone `"a"` for it, which is not
meant, and it cannot order the milestone `"b"`. -/
theorem issued_ne_intended_second :
    (12, some "a") ∈ issued (twoProposals true) ∧ (12, some "a") ∉ intended (twoProposals true) ∧
      issued (twoProposals true) ≠ intended (twoProposals true) := by
  have hmem : (12, some "a") ∈ issued (twoProposals true) :=
    (mem_issued_iff_keys rfl _).2 ⟨rfl, Or.inl ⟨"a", by decide, rfl⟩⟩
  have hnot : (12, some "a") ∉ intended (twoProposals true) := by
    rintro ⟨-, k, hk, hak⟩
    obtain rfl : "a" = k := Option.some.inj hak
    exact absurd hk (by decide)
  exact ⟨hmem, hnot, fun heq => hnot (heq ▸ hmem)⟩

end ProposalActivity
