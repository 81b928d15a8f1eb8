import Mathlib
import Taskbot.Async.Machine

/-!
# Reading again after a write

A client draws what it last read of a server.  It writes, and when the answer to a write
comes in it reads again.  In between others may write too, messages may be lost, and what
was read first may arrive last.

* `Api` — what the server does with a write, and which answers make the client read again.
* `Message`, `Client`, `Event`, `step` — the two and what is in flight between them.
* `Steps` — the server's value after some writes of a kind.
* `held_run` — **what the client holds the server has had**, in every run.
* `InOrder`, `current_run`, `current_of_rest` — **at rest the client lacks only writes that
  it does not read again for**, when values arrive in order and nothing that matters is lost.
* `exists_rest` — whatever is in flight can be answered, so that a client can come to rest.
-/

namespace Async

namespace Rereads

/-- A server with one value. -/
structure Api (ω α : Type*) where
  /-- The value after a write, `none` when it is refused. -/
  apply : α → ω → Option α
  /-- Does the client read again when it is told whether a write was accepted? -/
  rereads : ω → Bool → Bool

/-- What is in flight. -/
inductive Message (ω α : Type*) where
  /-- A write on its way to the server. -/
  | write (w : ω)
  /-- The answer to a write. -/
  | answer (w : ω) (accepted : Bool)
  /-- A request for the value. -/
  | read
  /-- The value, as it was when the request was served. -/
  | value (a : α)
  deriving DecidableEq

/-- The value of a message. -/
def Message.value? {ω α : Type*} : Message ω α → Option α
  | .value a => some a
  | .write _ | .answer _ _ | .read => none

/-- The server, what the client has read last, and what is in flight. -/
structure Client (ω α : Type*) where
  server : α
  cache : Option α
  inFlight : List (Message ω α)
  deriving DecidableEq

/-- What can happen. -/
inductive Event (ω : Type*) where
  | write (w : ω)
  /-- Somebody else writes. -/
  | foreign (w : ω)
  /-- The request at place `i` is served. -/
  | serve (i : ℕ)
  /-- The answer at place `i` arrives. -/
  | deliver (i : ℕ)
  /-- The message at place `i` is lost. -/
  | lose (i : ℕ)
  deriving DecidableEq

variable {ω α : Type*} (api : Api ω α)

/-- The server is served a request: what it becomes, and what it answers. -/
def served (a : α) : Message ω α → Option (α × Message ω α)
  | .write w =>
    match api.apply a w with
    | some b => some (b, .answer w true)
    | none => some (a, .answer w false)
  | .read => some (a, .value a)
  | .answer _ _ | .value _ => none

/-- An answer arrives: what the client holds, and what it asks for. -/
def delivered (cache : Option α) : Message ω α → Option (Option α × List (Message ω α))
  | .answer w accepted => some (cache, if api.rereads w accepted then [.read] else [])
  | .value a => some (some a, [])
  | .write _ | .read => none

/-- One event. -/
def step (s : Client ω α) : Event ω → Option (Client ω α)
  | .write w => some { s with inFlight := s.inFlight ++ [.write w] }
  | .foreign w => (api.apply s.server w).map fun b => { s with server := b }
  | .serve i =>
    (s.inFlight[i]?.bind (served api s.server)).map fun p =>
      { s with server := p.1, inFlight := s.inFlight.eraseIdx i ++ [p.2] }
  | .deliver i =>
    (s.inFlight[i]?.bind (delivered api s.cache)).map fun p =>
      { s with cache := p.1, inFlight := s.inFlight.eraseIdx i ++ p.2 }
  | .lose i => s.inFlight[i]?.map fun _ => { s with inFlight := s.inFlight.eraseIdx i }

/-- A client from some state on. -/
def machine (s₀ : Client ω α) : Machine (Client ω α) (Event ω) := ⟨s₀, step api⟩

/-- A client that has just asked for the value. -/
def asking (a : α) : Client ω α := ⟨a, none, [.read]⟩

/-! ## What can happen to a message -/

variable {api}

theorem step_serve {s t : Client ω α} {i : ℕ} (h : step api s (.serve i) = some t) :
    (s.inFlight[i]? = some .read ∧
      t = { s with inFlight := s.inFlight.eraseIdx i ++ [.value s.server] }) ∨
    (∃ w b, s.inFlight[i]? = some (.write w) ∧ api.apply s.server w = some b ∧
      t = { s with server := b, inFlight := s.inFlight.eraseIdx i ++ [.answer w true] }) ∨
    ∃ w, s.inFlight[i]? = some (.write w) ∧ api.apply s.server w = none ∧
      t = { s with inFlight := s.inFlight.eraseIdx i ++ [.answer w false] } := by
  obtain ⟨p, hp, rfl⟩ := Option.map_eq_some_iff.1 h
  obtain ⟨m, hm, hp⟩ := Option.bind_eq_some_iff.1 hp
  cases m with
  | write w =>
    cases happly : api.apply s.server w with
    | some b =>
      simp only [served, happly, Option.some.injEq] at hp
      subst hp
      exact .inr (.inl ⟨w, b, hm, happly, rfl⟩)
    | none =>
      simp only [served, happly, Option.some.injEq] at hp
      subst hp
      exact .inr (.inr ⟨w, hm, happly, rfl⟩)
  | read =>
    cases hp
    exact .inl ⟨hm, rfl⟩
  | answer w accepted | value a => cases hp

theorem step_deliver {s t : Client ω α} {i : ℕ} (h : step api s (.deliver i) = some t) :
    (∃ a, s.inFlight[i]? = some (.value a) ∧
      t = { s with cache := some a, inFlight := s.inFlight.eraseIdx i }) ∨
    ∃ w accepted, s.inFlight[i]? = some (.answer w accepted) ∧
      t = { s with
        inFlight := s.inFlight.eraseIdx i ++ if api.rereads w accepted then [.read] else [] } := by
  obtain ⟨p, hp, rfl⟩ := Option.map_eq_some_iff.1 h
  obtain ⟨m, hm, hp⟩ := Option.bind_eq_some_iff.1 hp
  cases m with
  | answer w accepted =>
    cases hp
    exact .inr ⟨w, accepted, hm, rfl⟩
  | value a =>
    cases hp
    exact .inl ⟨a, hm, by rw [List.append_nil]⟩
  | write w | read => cases hp

/-! ## What the client holds -/

variable (api) in
/-- One value comes from another by writes of a kind that were accepted. -/
def Steps (P : ω → Prop) : α → α → Prop :=
  Relation.ReflTransGen fun a b => ∃ w, P w ∧ api.apply a w = some b

/-- The values the client holds, or will. -/
def Held (s : Client ω α) (a : α) : Prop := s.cache = some a ∨ .value a ∈ s.inFlight

/-- A new value of the server, one write further. -/
theorem held_write {s : Client ω α} {w : ω} {b : α} (happly : api.apply s.server w = some b)
    {a : α} (hs : Steps api (fun _ => True) a s.server) : Steps api (fun _ => True) a b :=
  hs.tail ⟨w, trivial, happly⟩

theorem held_step {s t : Client ω α} {e : Event ω}
    (hs : ∀ a, Held s a → Steps api (fun _ => True) a s.server) (h : step api s e = some t) :
    ∀ a, Held t a → Steps api (fun _ => True) a t.server := by
  have hkept : ∀ {i l a}, Held { s with inFlight := s.inFlight.eraseIdx i ++ l } a →
      .value a ∉ l → Held s a := by
    rintro i l a (hcache | hmem) hl
    · exact .inl hcache
    · rcases List.mem_append.1 hmem with hmem | hmem
      · exact .inr (mem_of_eraseIdx hmem)
      · exact absurd hmem hl
  cases e with
  | write w =>
    cases h
    intro a ha
    refine hs a (ha.imp_right fun hmem => ?_)
    simpa using hmem
  | foreign w =>
    obtain ⟨b, hb, rfl⟩ := Option.map_eq_some_iff.1 h
    exact fun a ha => held_write hb (hs a ha)
  | serve i =>
    obtain ⟨-, rfl⟩ | ⟨w, b, -, hb, rfl⟩ | ⟨w, -, -, rfl⟩ := step_serve h
    · intro a ha
      by_cases hnew : a = s.server
      · rw [hnew]
        exact .refl
      · exact hs a (hkept ha (by simpa using hnew))
    · exact fun a ha => held_write hb (hs a (hkept ha (by simp)))
    · exact fun a ha => hs a (hkept ha (by simp))
  | deliver i =>
    obtain ⟨b, hb, rfl⟩ | ⟨w, accepted, -, rfl⟩ := step_deliver h
    · rintro a (hcache | hmem)
      · cases hcache
        exact hs b (.inr (List.mem_of_getElem? hb))
      · exact hs a (.inr (mem_of_eraseIdx hmem))
    · refine fun a ha => hs a (hkept ha ?_)
      split <;> simp
  | lose i =>
    obtain ⟨m, -, rfl⟩ := Option.map_eq_some_iff.1 h
    exact fun a ha => hs a (ha.imp_right mem_of_eraseIdx)

/-- **What the client holds the server has had**, if this is so at the start. -/
theorem held_run {s₀ : Client ω α} (h0 : ∀ a, Held s₀ a → Steps api (fun _ => True) a s₀.server)
    {es : List (Event ω)} {s : Client ω α} (h : (machine api s₀).run es = some s) :
    ∀ a, Held s a → Steps api (fun _ => True) a s.server :=
  (machine api s₀).invariant_run
    (I := fun s => ∀ a, Held s a → Steps api (fun _ => True) a s.server) h0
    (fun _ _ _ => held_step) h

theorem not_held_asking (a b : α) : ¬ Held (asking a : Client ω α) b := by
  simp [Held, asking]

/-! ## What the client lacks -/

variable (P : ω → Prop)

/-- Is losing the message nothing that matters?  The write was not made, or its answer would
make the client read nothing new. -/
def Message.Harmless (api : Api ω α) : Message ω α → Prop
  | .write _ => True
  | .answer w accepted => accepted = true → api.rereads w true = false
  | .read | .value _ => False

instance (m : Message ω α) : Decidable (m.Harmless api) := by
  cases m <;> unfold Message.Harmless <;> infer_instance

variable (api) in
/-- What a step must meet: no value overtakes another one, what is lost does not matter, and
others write only what is of the kind. -/
def InOrder (s : Client ω α) : Event ω → Prop
  | .deliver i => (s.inFlight[i]?.bind Message.value?).isSome →
      (s.inFlight.take i).filterMap Message.value? = []
  | .lose i => ∀ m ∈ s.inFlight[i]?, m.Harmless api
  | .foreign w => P w
  | .write _ | .serve _ => True

instance [DecidablePred P] (s : Client ω α) (e : Event ω) : Decidable (InOrder api P s e) := by
  cases e <;> unfold InOrder <;> infer_instance

/-- Will the client read what the server has now? -/
def Message.Owes (api : Api ω α) : Message ω α → Prop
  | .read => True
  | .answer w accepted => accepted = true ∧ api.rereads w true = true
  | .write _ | .value _ => False

/-- The value the client has when all that are in flight have arrived in order. -/
def Client.newest (s : Client ω α) : Option α :=
  (s.inFlight.filterMap Message.value?).getLast?.or s.cache

variable (api) in
/-- The client will read again, or lacks only writes of the kind. -/
def Current (s : Client ω α) : Prop :=
  (∃ m ∈ s.inFlight, m.Owes api) ∨ ∃ a, s.newest = some a ∧ Steps api P a s.server

variable {P}

/-- A message that brings no value is in flight no more. -/
theorem newest_eraseIdx {s : Client ω α} {i : ℕ} {m : Message ω α} (hm : s.inFlight[i]? = some m)
    (hvalue : m.value? = none) {l : List (Message ω α)} (hl : l.filterMap Message.value? = []) :
    Client.newest { s with inFlight := s.inFlight.eraseIdx i ++ l } = s.newest := by
  simp only [Client.newest, List.filterMap_append, hl, List.append_nil,
    filterMap_eraseIdx_of_eq_none hm hvalue]

/-- The first value in flight arrives. -/
theorem newest_deliver {s : Client ω α} {i : ℕ} {a : α} (hm : s.inFlight[i]? = some (.value a))
    (htake : (s.inFlight.take i).filterMap Message.value? = []) :
    Client.newest { s with cache := some a, inFlight := s.inFlight.eraseIdx i } = s.newest := by
  obtain ⟨hi, hget⟩ := List.getElem?_eq_some_iff.1 hm
  have hall : s.inFlight.filterMap Message.value? =
      a :: (s.inFlight.drop (i + 1)).filterMap Message.value? := by
    conv_lhs => rw [← List.take_append_drop i s.inFlight, List.drop_eq_getElem_cons hi, hget]
    rw [List.filterMap_append, htake, List.nil_append]
    rfl
  have hrest : (s.inFlight.eraseIdx i).filterMap Message.value? =
      (s.inFlight.drop (i + 1)).filterMap Message.value? := by
    rw [List.eraseIdx_eq_take_drop_succ, List.filterMap_append, htake, List.nil_append]
  simp only [Client.newest, hall, hrest]
  cases (s.inFlight.drop (i + 1)).filterMap Message.value? with
  | nil => rfl
  | cons b bs =>
    rw [List.getLast?_cons_cons, List.getLast?_cons]
    rfl

theorem current_step (hP : ∀ w, api.rereads w true = false → P w) {s t : Client ω α} {e : Event ω}
    (hs : Current api P s) (hok : InOrder api P s e) (h : step api s e = some t) :
    Current api P t := by
  -- what is owed still is, unless it is what was answered
  have howed : ∀ {i m l}, s.inFlight[i]? = some m → ¬ m.Owes api →
      (∃ m ∈ s.inFlight, m.Owes api) → ∃ m ∈ s.inFlight.eraseIdx i ++ l, m.Owes api := by
    rintro i m l hm hnot ⟨m', hmem, howes⟩
    obtain rfl | hmem := mem_eraseIdx_or_eq hmem hm
    · exact absurd howes hnot
    · exact ⟨m', List.mem_append_left _ hmem, howes⟩
  cases e with
  | write w =>
    cases h
    obtain ⟨m, hmem, howes⟩ | ⟨a, ha, hsteps⟩ := hs
    · exact .inl ⟨m, List.mem_append_left _ hmem, howes⟩
    · refine .inr ⟨a, ?_, hsteps⟩
      rw [← ha]
      simp [Client.newest, List.filterMap_append, Message.value?]
  | foreign w =>
    obtain ⟨b, hb, rfl⟩ := Option.map_eq_some_iff.1 h
    obtain howes | ⟨a, ha, hsteps⟩ := hs
    · exact .inl howes
    · exact .inr ⟨a, ha, hsteps.tail ⟨w, hok, hb⟩⟩
  | serve i =>
    obtain ⟨-, rfl⟩ | ⟨w, b, hw, hb, rfl⟩ | ⟨w, hw, -, rfl⟩ := step_serve h
    · refine .inr ⟨s.server, ?_, .refl⟩
      simp [Client.newest, List.filterMap_append, Message.value?]
    · cases hread : api.rereads w true with
      | true => exact .inl ⟨_, List.mem_append_right _ List.mem_cons_self, rfl, hread⟩
      | false =>
        obtain howes | ⟨a, ha, hsteps⟩ := hs
        · exact .inl (howed hw id howes)
        · refine .inr ⟨a, ?_, hsteps.tail ⟨w, hP w hread, hb⟩⟩
          rw [← ha]
          exact newest_eraseIdx hw rfl rfl
    · obtain howes | ⟨a, ha, hsteps⟩ := hs
      · exact .inl (howed hw id howes)
      · refine .inr ⟨a, ?_, hsteps⟩
        rw [← ha]
        exact newest_eraseIdx hw rfl rfl
  | deliver i =>
    obtain ⟨a, ha, rfl⟩ | ⟨w, accepted, hw, rfl⟩ := step_deliver h
    · obtain howes | ⟨b, hb, hsteps⟩ := hs
      · left
        simpa using howed (l := []) ha id howes
      · exact .inr ⟨b, by rw [← hb]; exact newest_deliver ha (hok (by rw [ha]; rfl)), hsteps⟩
    · cases hread : api.rereads w accepted with
      | true => exact .inl ⟨.read, by simp, trivial⟩
      | false =>
        rw [if_neg Bool.false_ne_true]
        obtain howes | ⟨b, hb, hsteps⟩ := hs
        · refine .inl (howed hw ?_ howes)
          rintro ⟨rfl, htrue⟩
          exact Bool.false_ne_true (hread.symm.trans htrue)
        · exact .inr ⟨b, by rw [← hb]; exact newest_eraseIdx hw rfl rfl, hsteps⟩
  | lose i =>
    obtain ⟨m, hm, rfl⟩ := Option.map_eq_some_iff.1 h
    have hharmless := hok m hm
    rw [← List.append_nil (s.inFlight.eraseIdx i)]
    obtain howes | ⟨b, hb, hsteps⟩ := hs
    · refine .inl (howed hm ?_ howes)
      cases m with
      | answer w accepted =>
        rintro ⟨haccepted, htrue⟩
        exact Bool.false_ne_true ((hharmless haccepted).symm.trans htrue)
      | write w => exact id
      | read | value a => exact hharmless.elim
    · refine .inr ⟨b, ?_, hsteps⟩
      rw [← hb]
      cases m with
      | write w | answer w accepted => exact newest_eraseIdx hm rfl rfl
      | read | value a => exact hharmless.elim

theorem current_run (hP : ∀ w, api.rereads w true = false → P w) {s₀ : Client ω α}
    (h0 : Current api P s₀) {es : List (Event ω)} {s : Client ω α}
    (hok : (machine api s₀).Meets (InOrder api P) es) (h : (machine api s₀).run es = some s) :
    Current api P s :=
  (machine api s₀).invariant (I := Current api P) h0 (fun _ _ _ => current_step hP) hok h

theorem current_asking (a : α) : Current api P (asking a) :=
  .inl ⟨.read, List.mem_cons_self, trivial⟩

/-- **At rest** the client lacks only writes that it does not read again for, and those of
others. -/
theorem current_of_rest {s : Client ω α} (hs : Current api P s) (hrest : s.inFlight = []) :
    ∃ a, s.cache = some a ∧ Steps api P a s.server := by
  obtain ⟨m, hmem, -⟩ | ⟨a, ha, hsteps⟩ := hs
  · rw [hrest] at hmem
    cases hmem
  · refine ⟨a, ?_, hsteps⟩
    simpa [Client.newest, hrest] using ha

/-- When it reads again for all of them it lacks nothing. -/
theorem eq_of_steps {a b : α} (h : Steps api (fun _ => False) a b) : a = b := by
  induction h with
  | refl => rfl
  | tail _ hw =>
    obtain ⟨w, hw, -⟩ := hw
    exact hw.elim

/-! ## Coming to rest -/

/-- How many steps a message takes yet. -/
def Message.toGo : Message ω α → ℕ
  | .write _ => 4
  | .answer _ _ => 3
  | .read => 2
  | .value _ => 1

/-- How many steps all messages take. -/
def Client.toGo (s : Client ω α) : ℕ := (s.inFlight.map Message.toGo).sum

/-- Answers that take fewer steps than what they answer. -/
theorem toGo_lt {s t : Client ω α} {m : Message ω α} (hm : s.inFlight[0]? = some m)
    {l : List (Message ω α)} (ht : t.inFlight = s.inFlight.eraseIdx 0 ++ l)
    (hl : (l.map Message.toGo).sum < m.toGo) : t.toGo < s.toGo := by
  have hperm := ((perm_cons_eraseIdx hm).map Message.toGo).sum_nat
  rw [List.map_cons, List.sum_cons] at hperm
  rw [Client.toGo, ht, List.map_append, List.sum_append, Client.toGo, ← hperm]
  omega

/-- The first message in flight is served or arrives. -/
theorem exists_step (api : Api ω α) {s : Client ω α} {m : Message ω α}
    (hm : s.inFlight[0]? = some m) :
    ∃ e t, (e = .serve 0 ∨ e = .deliver 0) ∧ step api s e = some t ∧ t.toGo < s.toGo := by
  have hserve : ∀ p, served api s.server m = some p → step api s (.serve 0) =
      some { s with server := p.1, inFlight := s.inFlight.eraseIdx 0 ++ [p.2] } := by
    intro p hp
    simp only [step, hm, Option.bind_some, hp, Option.map_some]
  have hdeliver : ∀ p, delivered api s.cache m = some p → step api s (.deliver 0) =
      some { s with cache := p.1, inFlight := s.inFlight.eraseIdx 0 ++ p.2 } := by
    intro p hp
    simp only [step, hm, Option.bind_some, hp, Option.map_some]
  cases m with
  | write w =>
    cases happly : api.apply s.server w with
    | some b =>
      exact ⟨_, _, .inl rfl, hserve (b, .answer w true) (by simp only [served, happly]),
        toGo_lt hm rfl (by simp [Message.toGo])⟩
    | none =>
      exact ⟨_, _, .inl rfl, hserve (s.server, .answer w false) (by simp only [served, happly]),
        toGo_lt hm rfl (by simp [Message.toGo])⟩
  | answer w accepted =>
    refine ⟨_, _, .inr rfl, hdeliver _ rfl, toGo_lt hm rfl ?_⟩
    cases api.rereads w accepted <;> simp [Message.toGo]
  | read => exact ⟨_, _, .inl rfl, hserve _ rfl, toGo_lt hm rfl (by simp [Message.toGo])⟩
  | value a => exact ⟨_, _, .inr rfl, hdeliver _ rfl, toGo_lt hm rfl (by simp [Message.toGo])⟩

/-- **Coming to rest.**  The messages in flight can be served and arrive one after another,
always the first of them, until none is left. -/
theorem exists_rest (api : Api ω α) (s₀ s : Client ω α) :
    ∃ fs t, (machine api s₀).runFrom s fs = some t ∧ t.inFlight = [] ∧
      ∀ e ∈ fs, e = .serve 0 ∨ e = .deliver 0 := by
  induction hgo : s.toGo using Nat.strongRecOn generalizing s with
  | _ n ih =>
    cases hs : s.inFlight with
    | nil => exact ⟨[], s, rfl, hs, by simp⟩
    | cons m rest =>
      obtain ⟨e, t, he, ht, hlt⟩ := exists_step api (s := s) (m := m) (by rw [hs]; rfl)
      obtain ⟨fs, u, hu, hrest, hfs⟩ := ih t.toGo (hgo ▸ hlt) t rfl
      refine ⟨e :: fs, u, ?_, hrest, List.forall_mem_cons.2 ⟨he, hfs⟩⟩
      rw [(machine api s₀).runFrom_cons_of_step ht]
      exact hu

end Rereads

end Async
