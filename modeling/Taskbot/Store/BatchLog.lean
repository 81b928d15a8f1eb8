import Mathlib

/-!
# Append-only logs of batches

A store that is only ever added to: batches of items, one after another, each under a
topic, after what each topic held to begin with.

* `place_kept` — a batch keeps its place.
* `stored` — what is stored under a topic.
* `mem_stored_take` — an item is in a snapshot made when `m` batches were stored, if and
  only if it was there to begin with or is in one of the first `m` batches of the topic.
* `place_eq_of_key_eq`, `nodup_stored` — when no two items of the log have the same key, a
  key tells the place of its batch, and no key is stored twice.
-/

namespace BatchLog

variable {τ α κ : Type*}

/-- What is at a place of a log stays there when the log grows. -/
theorem place_kept {log log' : List α} (h : log <+: log') {n : ℕ}
    (hn : n < log.length) : log'[n]? = log[n]? := by
  obtain ⟨new, rfl⟩ := h
  exact List.getElem?_append_left hn

section Stored

variable [DecidableEq τ]

/-- What is stored under a topic. -/
def stored (base : τ → List α) (log : List (τ × List α)) (t : τ) : List α :=
  base t ++ (log.filter fun b => b.1 = t).flatMap Prod.snd

variable {base : τ → List α} {log : List (τ × List α)} {t : τ} {a : α}

theorem mem_stored : a ∈ stored base log t ↔
    a ∈ base t ∨ ∃ (n : ℕ) (items : List α), log[n]? = some (t, items) ∧ a ∈ items := by
  rw [stored, List.mem_append, List.mem_flatMap]
  refine or_congr_right ⟨?_, ?_⟩
  · rintro ⟨⟨t', items⟩, hfilter, ha⟩
    obtain ⟨hb, htopic⟩ := List.mem_filter.1 hfilter
    obtain rfl : t' = t := by simpa using htopic
    obtain ⟨n, hn⟩ := List.mem_iff_getElem?.1 hb
    exact ⟨n, items, hn, ha⟩
  · rintro ⟨n, items, hn, ha⟩
    refine ⟨(t, items), List.mem_filter.2 ⟨List.mem_of_getElem? hn, ?_⟩, ha⟩
    simp

/-- What a snapshot holds. -/
theorem mem_stored_take {m : ℕ} : a ∈ stored base (log.take m) t ↔
    a ∈ base t ∨
      ∃ (n : ℕ) (items : List α), n < m ∧ log[n]? = some (t, items) ∧ a ∈ items := by
  rw [mem_stored]
  refine or_congr_right (exists_congr fun n => exists_congr fun items => ?_)
  rw [List.getElem?_take]
  split
  next hn => simp [hn]
  next hn => simp [hn]

end Stored

/-! ## Keys -/

section Keys

variable {base : τ → List α} {log : List (τ × List α)} {t : τ} (key : α → κ)

/-- The keys of a batch. -/
def batchKeys (b : τ × List α) : List κ := b.2.map key

variable {key}

theorem key_mem_batchKeys {a : α} {items : List α} (h : a ∈ items) : key a ∈ batchKeys key (t, items) :=
  List.mem_map_of_mem h

/-- A key tells the place of its batch. -/
theorem place_eq_of_key_eq (hlog : (log.flatMap (batchKeys key)).Nodup) {n m : ℕ}
    {b c : τ × List α} {k : κ} (hn : log[n]? = some b) (hm : log[m]? = some c)
    (hb : k ∈ batchKeys key b) (hc : k ∈ batchKeys key c) : n = m := by
  have hpair := List.pairwise_iff_getElem.1 (List.nodup_flatMap.1 hlog).2
  obtain ⟨hnl, rfl⟩ := List.getElem?_eq_some_iff.1 hn
  obtain ⟨hml, rfl⟩ := List.getElem?_eq_some_iff.1 hm
  rcases lt_trichotomy n m with hlt | heq | hgt
  · exact absurd hc (hpair n m hnl hml hlt hb)
  · exact heq
  · exact absurd hb (hpair m n hml hnl hgt hc)

/-- No key is stored twice. -/
theorem nodup_stored [DecidableEq τ] (hbase : ((base t).map key).Nodup)
    (hlog : (log.flatMap (batchKeys key)).Nodup)
    (hdisj : ∀ b ∈ log, ∀ k ∈ batchKeys key b, k ∉ (base t).map key) :
    ((stored base log t).map key).Nodup := by
  rw [stored, List.map_append, List.map_flatMap]
  refine hbase.append ?_ ?_
  · exact hlog.sublist (List.filter_sublist.flatMap _)
  · intro k hk hb
    obtain ⟨b, hb, hkb⟩ := List.mem_flatMap.1 hb
    exact hdisj b (List.mem_of_mem_filter hb) k hkb hk

end Keys

end BatchLog
