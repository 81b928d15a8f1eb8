import Mathlib
import Taskbot.Async.Machine

/-!
# The fee of a proposal

The screen `SendProposal`: while a freelancer types the rate of a proposal, the server is
asked what it takes of it, once for every change of the rate.

* `Server` — what the server computes for a rate, and the decoder of texts, neither of
  which is part of the app.
* `State`, `Event`, `step` — the rate, the two texts that are shown and the flag of the
  placeholder, and the requests in flight.
* `drawn` — what is drawn: the placeholder, or a text.
* `Tracks` — the request sent last is the one for the rate typed last.
* `honest_iff` — **the fee shown is that of the rate shown if and only if the replies come
  one at a time.**
-/

namespace SendProposal

open Async

/-! ## The server -/

/-- The texts of the fee and of what is left for the freelancer. -/
structure Shares where
  admin_shares : String
  user_shares : String
  deriving DecidableEq

/-- What the screen relies on: the reply of the server to `proposal-price-shares`, which
depends on the price only and is `none` when the price is not accepted, and the decoder
of HTML entities. -/
structure Server where
  shares : String → Option Shares
  decode : String → String

/-- What the screen reads of a proposal that is edited. -/
structure Proposal where
  price : String
  admin_shares_formate : String
  seller_shares_formate : String
  deriving DecidableEq

/-! ## The screen -/

/-- The requests of the screen. -/
inductive Request where
  /-- `proposal-price-shares`. -/
  | adminShare (price : String)
  /-- `get-proposal`. -/
  | getProposal
  deriving DecidableEq

/-- The price a request asks about. -/
def Request.price? : Request → Option String
  | adminShare price => some price
  | getProposal => none

/-- What comes back for a request. -/
inductive Reply where
  /-- The server's answer to `proposal-price-shares`. -/
  | answered
  /-- `type == 'success'` for `get-proposal`. -/
  | proposal (p : Proposal)
  /-- Any other `type` for `get-proposal`. -/
  | other
  /-- The `catch` branch. -/
  | failure
  deriving DecidableEq

/-- The state of the screen.  The text, the milestones and the way of payment of the
proposal have no part in the fee and are left out. -/
structure State where
  rate : String
  serviceFee : String
  totalAmount : String
  showLoading : Bool
  /-- The requests sent and not yet answered. -/
  inFlight : List Request
  deriving DecidableEq

/-- What can happen to the screen. -/
inductive Event where
  /-- Another text in the field of the rate. -/
  | setRate (rate : String)
  /-- The request at place `i` of those in flight is answered. -/
  | reply (i : ℕ) (r : Reply)
  deriving DecidableEq

/-- `getAdminShare()`. -/
def getAdminShare (s : State) : State :=
  { s with showLoading := true, inFlight := s.inFlight ++ [.adminShare s.rate] }

/-- The setter of `rate`, and the effect that depends on it. -/
def setRate (s : State) (rate : String) : State :=
  if rate = s.rate then s else getAdminShare { s with rate := rate }

variable (v : Server)

/-- The handlers of the reply to `proposal-price-shares`. -/
def adminShareReplied (s : State) (price : String) : State :=
  match v.shares price with
  | some f =>
    { s with serviceFee := f.admin_shares, totalAmount := f.user_shares, showLoading := false }
  | none => { s with showLoading := false }

/-- The handler of the reply to `get-proposal`. -/
def proposalReplied (s : State) (p : Proposal) : State :=
  setRate { s with serviceFee := p.admin_shares_formate, totalAmount := p.seller_shares_formate }
    p.price

/-- The handlers of the replies. -/
def replied (s : State) : Request → Reply → Option State
  | .adminShare price, .answered => some (adminShareReplied v s price)
  | .adminShare _, .failure => some { s with showLoading := false }
  | .getProposal, .proposal p => some (proposalReplied s p)
  | .getProposal, .other | .getProposal, .failure => some s
  | .adminShare _, .proposal _ | .adminShare _, .other | .getProposal, .answered => none

/-- One event. -/
def step (s : State) : Event → Option State
  | .setRate rate => some (setRate s rate)
  | .reply i r =>
    s.inFlight[i]?.bind fun q => replied v { s with inFlight := s.inFlight.eraseIdx i } q r

/-- The screen just opened, for a new proposal or for one that is edited. -/
def initial (edit : Bool) : State :=
  getAdminShare
    { rate := ""
      serviceFee := "0.00"
      totalAmount := "0.00"
      showLoading := false
      inFlight := if edit then [.getProposal] else [] }

/-- The screen. -/
def machine (edit : Bool) : Machine State Event := ⟨initial edit, step v⟩

/-! ## What is drawn -/

/-- A text of the state, as it reads for a rate. -/
def reading (rate text : String) : String := if rate ≠ "" then v.decode text else "0.00"

/-- What is drawn for a text: nothing is the placeholder. -/
def drawn (s : State) (text : String) : Option String :=
  if s.showLoading then none else some (reading v s.rate text)

/-- The prices asked about and not yet answered. -/
def State.asked (s : State) : List String := s.inFlight.filterMap Request.price?

/-- The texts of a fee and of a total read as the server has computed them for a rate it
accepts. -/
def Fits (rate fee total : String) : Prop :=
  ∀ f ∈ v.shares rate,
    reading v rate fee = v.decode f.admin_shares ∧ reading v rate total = v.decode f.user_shares

/-- The screen is honest: with nothing in flight it draws the fee and the total of the
rate, and while a fee is asked for it draws the placeholder. -/
structure Honest (s : State) : Prop where
  shown : s.inFlight = [] → ∀ f ∈ v.shares s.rate,
    drawn v s s.serviceFee = some (v.decode f.admin_shares) ∧
      drawn v s s.totalAmount = some (v.decode f.user_shares)
  placeholder : s.asked ≠ [] → drawn v s s.serviceFee = none ∧ drawn v s s.totalAmount = none

/-- What the last reply must leave behind: the texts of the rate. -/
def TextsFit (s : State) : Reply → Prop
  | .answered => s.rate = "" → Fits v "" "" ""
  | .proposal p => p.price = s.rate → Fits v s.rate p.admin_shares_formate p.seller_shares_formate
  | .other | .failure => Fits v s.rate s.serviceFee s.totalAmount

/-- What a step must meet: the replies about fees come one at a time, and when nothing is
left in flight the texts are those of the rate. -/
def StepOk (s : State) : Event → Prop
  | .setRate _ => True
  | .reply i r =>
    ∀ q ∈ s.inFlight[i]?, (q.price?.isSome = true → s.asked.length = 1) ∧
      (s.inFlight.length = 1 → TextsFit v s r)

instance (rate fee total : String) : Decidable (Fits v rate fee total) := by
  unfold Fits
  infer_instance

instance (s : State) (r : Reply) : Decidable (TextsFit v s r) := by
  cases r <;> unfold TextsFit <;> infer_instance

instance (s : State) (e : Event) : Decidable (StepOk v s e) := by
  cases e <;> unfold StepOk <;> infer_instance

/-! ## The request sent last -/

/-- The fee asked for last is the one of the rate, and the placeholder goes with the last
of these requests. -/
structure Tracks (s : State) : Prop where
  last : ∀ price ∈ s.asked.getLast?, price = s.rate
  idle : s.asked = [] → s.showLoading = false

theorem asked_getAdminShare (s : State) : (getAdminShare s).asked = s.asked ++ [s.rate] := by
  simp [State.asked, getAdminShare, Request.price?]

theorem tracks_getAdminShare (s : State) : Tracks (getAdminShare s) := by
  refine ⟨?_, ?_⟩
  · rw [asked_getAdminShare]
    intro price hprice
    simp only [List.getLast?_append, List.getLast?_singleton, Option.some_or, Option.mem_def,
      Option.some.injEq] at hprice
    exact hprice.symm
  · rw [asked_getAdminShare]
    simp

theorem tracks_setRate {s : State} (hs : Tracks s) (rate : String) : Tracks (setRate s rate) := by
  unfold setRate
  split
  · exact hs
  · exact tracks_getAdminShare _

/-- With one fee asked for, its reply leaves none. -/
theorem asked_eraseIdx {s : State} {i : ℕ} {price : String}
    (hq : s.inFlight[i]? = some (.adminShare price)) (hone : s.asked.length = 1) :
    s.asked = [price] ∧ (s.inFlight.eraseIdx i).filterMap Request.price? = [] := by
  have hlen := length_filterMap_eraseIdx (f := Request.price?) hq rfl
  have hmem : price ∈ s.asked := List.mem_filterMap.2 ⟨_, List.mem_of_getElem? hq, rfl⟩
  obtain ⟨a, ha⟩ := List.length_eq_one_iff.1 hone
  rw [ha] at hmem
  rw [State.asked] at hone
  refine ⟨by rw [ha, List.mem_singleton.1 hmem], List.length_eq_zero_iff.1 (by omega)⟩

/-- The reply to `get-proposal` answers no request about a fee. -/
theorem asked_eraseIdx_getProposal {s : State} {i : ℕ} (hq : s.inFlight[i]? = some .getProposal) :
    (s.inFlight.eraseIdx i).filterMap Request.price? = s.asked :=
  filterMap_eraseIdx_of_eq_none hq rfl

/-- The reply to `get-proposal` leaves the placeholder as it is. -/
theorem tracks_getProposal {s : State} {i : ℕ} (hs : Tracks s)
    (hq : s.inFlight[i]? = some .getProposal) (fee total : String) :
    Tracks { s with
      inFlight := s.inFlight.eraseIdx i, serviceFee := fee, totalAmount := total } := by
  have hasked := asked_eraseIdx_getProposal hq
  refine ⟨?_, ?_⟩
  · intro price hprice
    rw [State.asked, hasked] at hprice
    exact hs.last price hprice
  · intro hnone
    rw [State.asked, hasked] at hnone
    exact hs.idle hnone

/-- The reply to a lone request about a fee leaves nothing to wait for. -/
theorem tracks_of_asked_eq_nil {s : State} (hasked : s.asked = []) (hshow : s.showLoading = false) :
    Tracks s :=
  ⟨by simp [hasked], fun _ => hshow⟩

@[simp] theorem adminShareReplied_inFlight (s : State) (price : String) :
    (adminShareReplied v s price).inFlight = s.inFlight := by
  unfold adminShareReplied
  split <;> rfl

@[simp] theorem adminShareReplied_showLoading (s : State) (price : String) :
    (adminShareReplied v s price).showLoading = false := by
  unfold adminShareReplied
  split <;> rfl

@[simp] theorem adminShareReplied_rate (s : State) (price : String) :
    (adminShareReplied v s price).rate = s.rate := by
  unfold adminShareReplied
  split <;> rfl

theorem adminShareReplied_asked (s : State) (price : String) :
    (adminShareReplied v s price).asked = s.asked := by
  rw [State.asked, adminShareReplied_inFlight]
  rfl

variable {v}

/-- What the request sent last asks about is kept by every step that is as it must be. -/
theorem tracks_step {s t : State} {e : Event} (hs : Tracks s) (hok : StepOk v s e)
    (h : step v s e = some t) : Tracks t := by
  cases e with
  | setRate rate =>
    cases h
    exact tracks_setRate hs rate
  | reply i r =>
    obtain ⟨q, hq, hu⟩ := Option.bind_eq_some_iff.1 h
    obtain ⟨hlone, -⟩ := hok q hq
    cases q with
    | adminShare price =>
      have hnone := (asked_eraseIdx hq (hlone rfl)).2
      cases r with
      | answered =>
        cases hu
        exact tracks_of_asked_eq_nil (by rw [adminShareReplied_asked]; exact hnone)
          (adminShareReplied_showLoading v _ _)
      | failure =>
        cases hu
        exact tracks_of_asked_eq_nil hnone rfl
      | proposal p => cases hu
      | other => cases hu
    | getProposal =>
      cases r with
      | answered => cases hu
      | proposal p =>
        cases hu
        exact tracks_setRate (tracks_getProposal hs hq _ _) p.price
      | other =>
        cases hu
        exact tracks_getProposal hs hq _ _
      | failure =>
        cases hu
        exact tracks_getProposal hs hq _ _

/-! ## Honest screens -/

/-- What is drawn is the placeholder exactly when the flag is set. -/
@[simp] theorem drawn_eq_none_iff (s : State) (text : String) :
    drawn v s text = none ↔ s.showLoading = true := by
  simp [drawn]

theorem drawn_of_not_showLoading {s : State} (h : s.showLoading = false) (text : String) :
    drawn v s text = some (reading v s.rate text) := by
  simp [drawn, h]

/-- While anything is in flight only the placeholder matters. -/
theorem honest_iff_of_inFlight_ne_nil {s : State} (h : s.inFlight ≠ []) :
    Honest v s ↔ (s.asked ≠ [] → s.showLoading = true) := by
  constructor
  · intro hs hasked
    exact (drawn_eq_none_iff s _).1 (hs.placeholder hasked).1
  · intro hs
    refine ⟨fun hnil => absurd hnil h, fun hasked => ?_⟩
    rw [drawn_eq_none_iff, drawn_eq_none_iff]
    exact ⟨hs hasked, hs hasked⟩

/-- With nothing in flight only the texts matter. -/
theorem honest_iff_of_inFlight_eq_nil {s : State} (h : s.inFlight = [])
    (hshow : s.showLoading = false) : Honest v s ↔ Fits v s.rate s.serviceFee s.totalAmount := by
  have hasked : s.asked = [] := by simp [State.asked, h]
  constructor
  · intro hs f hf
    have hdrawn := hs.shown h f hf
    simpa [drawn_of_not_showLoading hshow] using hdrawn
  · intro hfits
    refine ⟨fun _ f hf => ?_, fun hne => absurd hasked hne⟩
    simpa [drawn_of_not_showLoading hshow] using hfits f hf

theorem honest_getAdminShare (s : State) : Honest v (getAdminShare s) := by
  rw [honest_iff_of_inFlight_ne_nil (by simp [getAdminShare])]
  exact fun _ => rfl

theorem honest_setRate {s : State} (hs : Honest v s) (rate : String) :
    Honest v (setRate s rate) := by
  unfold setRate
  split
  · exact hs
  · exact honest_getAdminShare _

/-- The texts after the answer about the rate. -/
theorem fits_adminShareReplied (s : State) :
    Fits v s.rate (adminShareReplied v s s.rate).serviceFee
        (adminShareReplied v s s.rate).totalAmount ↔
      (s.rate = "" → Fits v "" "" "") := by
  unfold adminShareReplied
  cases hf : v.shares s.rate with
  | none =>
    refine iff_of_true (fun f hf' => ?_) (fun hrate f hf' => ?_)
    · simp [hf] at hf'
    · simp [← hrate, hf] at hf'
  | some f =>
    by_cases hrate : s.rate = ""
    · simp only [hrate] at hf
      simp [Fits, hrate, reading, hf]
    · simp [Fits, hrate, reading, hf]

/-! ## One step -/

theorem stepOk_reply_iff {s : State} {i : ℕ} {q : Request} {r : Reply}
    (hq : s.inFlight[i]? = some q) : StepOk v s (.reply i r) ↔
      (q.price?.isSome = true → s.asked.length = 1) ∧ (s.inFlight.length = 1 → TextsFit v s r) := by
  simp [StepOk, hq]

/-- A reply about a fee: it has to be the only one, and when nothing else is awaited the
texts have to be those of the rate. -/
theorem honest_adminShare_iff {s t : State} {i : ℕ} {price : String}
    (hq : s.inFlight[i]? = some (.adminShare price)) (hin : t.inFlight = s.inFlight.eraseIdx i)
    (hshow : t.showLoading = false) :
    Honest v t ↔
      s.asked.length = 1 ∧ (s.inFlight.length = 1 → Fits v t.rate t.serviceFee t.totalAmount) := by
  have hlen : t.asked.length + 1 = s.asked.length := by
    rw [State.asked, State.asked, hin]
    exact length_filterMap_eraseIdx hq rfl
  by_cases hnil : s.inFlight.length = 1
  · have hleft : t.inFlight = [] := hin.trans ((eraseIdx_eq_nil_iff hq).2 hnil)
    have hnone : t.asked.length = 0 := by simp [State.asked, hleft]
    rw [honest_iff_of_inFlight_eq_nil hleft hshow]
    simp [hnil, ← hlen, hnone]
  · have hleft : t.inFlight ≠ [] := by
      rw [hin, Ne, eraseIdx_eq_nil_iff hq]
      exact hnil
    rw [honest_iff_of_inFlight_ne_nil hleft, hshow]
    simp only [Bool.false_eq_true, imp_false, not_not, hnil, IsEmpty.forall_iff, and_true]
    rw [← List.length_eq_zero_iff]
    omega

/-- A reply about the proposal: when nothing else is awaited the texts it leaves have to be
those of the rate. -/
theorem honest_getProposal_iff {s : State} (htracks : Tracks s) (hs : Honest v s) {i : ℕ}
    (hq : s.inFlight[i]? = some .getProposal) (fee total : String) :
    Honest v { s with
        inFlight := s.inFlight.eraseIdx i, serviceFee := fee, totalAmount := total } ↔
      (s.inFlight.length = 1 → Fits v s.rate fee total) := by
  have hasked := asked_eraseIdx_getProposal hq
  set t : State := { s with
    inFlight := s.inFlight.eraseIdx i, serviceFee := fee, totalAmount := total }
  have htasked : t.asked = s.asked := hasked
  by_cases hnil : s.inFlight.length = 1
  · have hleft : t.inFlight = [] := (eraseIdx_eq_nil_iff hq).2 hnil
    have hnone : s.asked = [] := by
      rw [← htasked, State.asked, hleft]
      rfl
    rw [honest_iff_of_inFlight_eq_nil hleft (htracks.idle hnone)]
    simp [hnil, t]
  · have hleft : t.inFlight ≠ [] := fun h => hnil ((eraseIdx_eq_nil_iff hq).1 h)
    have hne : s.inFlight ≠ [] := by
      intro hempty
      simp [hempty] at hq
    rw [honest_iff_of_inFlight_ne_nil hleft, htasked]
    exact iff_of_true ((honest_iff_of_inFlight_ne_nil hne).1 hs) fun h => absurd h hnil

/-- **One step.**  An honest screen stays honest exactly when the step is as it must be. -/
theorem honest_step_iff {s t : State} {e : Event} (htracks : Tracks s) (hs : Honest v s)
    (h : step v s e = some t) : StepOk v s e ↔ Honest v t := by
  cases e with
  | setRate rate =>
    cases h
    exact iff_of_true trivial (honest_setRate hs rate)
  | reply i r =>
    obtain ⟨q, hq, hu⟩ := Option.bind_eq_some_iff.1 h
    rw [stepOk_reply_iff hq]
    cases q with
    | adminShare price =>
      cases r with
      | answered =>
        cases hu
        rw [honest_adminShare_iff hq (adminShareReplied_inFlight v _ _)
          (adminShareReplied_showLoading v _ _)]
        have htail : s.asked.length = 1 →
            (TextsFit v s .answered ↔ Fits v s.rate
              (adminShareReplied v { s with inFlight := s.inFlight.eraseIdx i } price).serviceFee
              (adminShareReplied v { s with inFlight := s.inFlight.eraseIdx i } price).totalAmount)
            := by
          intro hone
          obtain rfl : price = s.rate :=
            htracks.last price (by simp [(asked_eraseIdx hq hone).1])
          exact (fits_adminShareReplied { s with inFlight := s.inFlight.eraseIdx i }).symm
        rw [adminShareReplied_rate]
        simp only [Request.price?, Option.isSome_some, true_imp_iff]
        exact and_congr_right fun hone => imp_congr_right fun _ => htail hone
      | failure =>
        cases hu
        rw [honest_adminShare_iff hq rfl rfl]
        exact and_congr (forall_prop_of_true rfl) Iff.rfl
      | proposal p => cases hu
      | other => cases hu
    | getProposal =>
      have hnot : ((Request.getProposal).price?.isSome = true → s.asked.length = 1) := by
        simp [Request.price?]
      cases r with
      | answered => cases hu
      | proposal p =>
        cases hu
        have hiff := honest_getProposal_iff htracks hs hq p.admin_shares_formate
          p.seller_shares_formate
        unfold proposalReplied setRate
        split
        · rename_i hrate
          have hrate' : p.price = s.rate := hrate
          rw [hiff, and_iff_right hnot]
          simp [TextsFit, hrate']
        · rename_i hrate
          refine iff_of_true ⟨hnot, fun _ hrate' => absurd hrate' hrate⟩ (honest_getAdminShare _)
      | other =>
        cases hu
        rw [honest_getProposal_iff htracks hs hq]
        exact and_iff_right hnot
      | failure =>
        cases hu
        rw [honest_getProposal_iff htracks hs hq]
        exact and_iff_right hnot

/-! ## Runs -/

/-- **The fee of a proposal.**  All along a run the screen is honest if and only if the
replies about fees come one at a time, and the texts left by the last reply are those of
the rate. -/
theorem honest_iff {edit : Bool} {es : List Event} {s : State}
    (h : (machine v edit).run es = some s) :
    (machine v edit).Meets (StepOk v) es ↔
      ∀ fs, fs <+: es → ∀ t, (machine v edit).run fs = some t → Honest v t := by
  have hhonest : Honest v (initial edit) := honest_getAdminShare _
  have htracks : Tracks (initial edit) := tracks_getAdminShare _
  refine (machine v edit).meets_iff_of_invariant (I := fun _ => Honest v) (J := Tracks)
    hhonest htracks ?_ ?_ h
  · intro s e t hs hok hstep
    exact tracks_step hs hok hstep
  · intro _ s e t _ hs hI hstep
    exact honest_step_iff hs hI hstep

/-- A server that takes a tenth. -/
def tenth : Server where
  shares
    | "1" => some ⟨"0.10", "0.90"⟩
    | "12" => some ⟨"1.20", "10.80"⟩
    | _ => none
  decode := id

/-- A rate typed slowly. -/
theorem honest_sample :
    ∃ s, (machine tenth false).run [.reply 0 .answered, .setRate "1", .reply 0 .answered,
        .setRate "12", .reply 0 .answered] = some s ∧ Honest tenth s := by
  have hok : (machine tenth false).Meets (StepOk tenth) [.reply 0 .answered, .setRate "1",
      .reply 0 .answered, .setRate "12", .reply 0 .answered] := by decide
  exact ⟨_, rfl, (honest_iff rfl).1 hok _ List.prefix_rfl _ rfl⟩

/-- **The fee of another rate.**  The rate is typed fast, and the reply about `1` comes
after the one about `12`: before it the fee is drawn although a request is in flight, and
after it the fee drawn for the rate `12` is the one of `1`. -/
theorem fee_of_another_rate :
    (∃ s, (machine tenth false).run
        [.setRate "1", .setRate "12", .reply 0 .answered, .reply 1 .answered] = some s ∧
      s.asked = ["1"] ∧ drawn tenth s s.serviceFee = some "1.20") ∧
    ∃ s, (machine tenth false).run [.setRate "1", .setRate "12", .reply 0 .answered,
        .reply 1 .answered, .reply 0 .answered] = some s ∧
      s.inFlight = [] ∧ tenth.shares s.rate = some ⟨"1.20", "10.80"⟩ ∧
      drawn tenth s s.serviceFee = some "0.10" ∧ ¬ Honest tenth s := by
  refine ⟨⟨_, rfl, by decide, by decide⟩, _, rfl, rfl, by decide, by decide, fun hs => ?_⟩
  have hshown := (hs.shown rfl ⟨"1.20", "10.80"⟩ (by decide)).1
  exact absurd hshown (by decide)

end SendProposal
