import Mathlib
import Taskbot.Js.FormUrlencoded

/-!
# Queries put together as they are

A query of names and values, each value appended as it is.

* `query`, `sentQuery` — the query, and what is sent of it.
* `clean_of_first` — a first value that is read back is clean: what comes before a
  separator in it is too short to be the whole.
* `decodeQuery_sentQuery_eq_iff`, `decode_send_iff` — **a query, and an address with one,
  is read back if and only if all its values are clean.**
-/

namespace FormUrlencoded

/-! ## Names -/

theorem nameChar_ne {c x : Char} (hc : (c.isAlphanum || c = '_') = true)
    (hx : (x.isAlphanum || x = '_') = false) : c ≠ x := by
  rintro rfl
  rw [hc] at hx
  cases hx

theorem notMem_name {name : String} (h : IsName name) {x : Char}
    (hx : (x.isAlphanum || x = '_') = false) : x ∉ name.toList :=
  fun hmem => nameChar_ne (h.2 x hmem) hx rfl

theorem legal_of_nameChar {c : Char} (hc : (c.isAlphanum || c = '_') = true) :
    legal c = true := by
  rcases Bool.or_eq_true_iff.1 hc with halnum | hmark
  · rw [legal, halnum, Bool.true_or]
  · rw [of_decide_eq_true hmark]
    decide

theorem sendText_of_legal {l : List Char} (h : ∀ c ∈ l, legal c = true) : sendText l = l := by
  induction l with
  | nil => rfl
  | cons c l ih =>
    rw [sendText_cons_of_legal (h c List.mem_cons_self),
      ih fun d hd => h d (List.mem_cons_of_mem c hd)]

theorem sendText_name {name : String} (h : IsName name) : sendText name.toList = name.toList :=
  sendText_of_legal fun c hc => legal_of_nameChar (h.2 c hc)

theorem noEscape_of_notMem {l : List Char} (h : '%' ∉ l) : NoEscape l := by
  intro c k hsub
  exact absurd (hsub.subset List.mem_cons_self) h

theorem decodeText_name {name : String} (h : IsName name) :
    decodeText name.toList = utf8 name.toList := by
  have hsent := sendText_name h
  rw [← decodeText_sendText_eq_iff.2 ⟨notMem_name h (by decide),
    noEscape_of_notMem (notMem_name h (by decide))⟩, hsent]

/-- A name and a value. -/
theorem decodePair_name {name : String} (h : IsName name) (l : List Char) :
    decodePair (name.toList ++ '=' :: l) =
      (fromUTF8 (decodeText l)).map fun value => (name, value) := by
  have hname : ∀ c ∈ name.toList, decide (c ≠ '=') = true := by
    intro c hc
    exact decide_eq_true (nameChar_ne (h.2 c hc) (by decide))
  rw [decodePair, List.takeWhile_append_of_pos hname, List.dropWhile_append_of_pos hname,
    List.takeWhile_cons_of_neg (by decide), List.dropWhile_cons_of_neg (by decide),
    List.append_nil, decodeText_name h, fromUTF8_utf8]
  cases hvalue : fromUTF8 (decodeText l) with
  | none => simp [hvalue]
  | some value => simp [hvalue]

theorem isName_of_map {pairs : List (String × String)}
    (h : ∀ name ∈ pairs.map Prod.fst, IsName name) : ∀ p ∈ pairs, IsName p.1 :=
  fun _ hp => h _ (List.mem_map_of_mem hp)

/-! ## Pieces -/

theorem decodeQuery_nil : decodeQuery [] = some [] := rfl

theorem decodeQuery_piece {piece : List Char} (hne : piece ≠ []) (hpiece : '&' ∉ piece) :
    decodeQuery piece = (decodePair piece).map fun p => [p] := by
  rw [decodeQuery, List.splitOn_eq_singleton hpiece,
    List.filter_cons_of_pos (by simpa using hne), List.filter_nil, List.mapM_cons]
  cases decodePair piece <;> rfl

theorem decodeQuery_append {piece : List Char} (hne : piece ≠ []) (hpiece : '&' ∉ piece)
    (q : List Char) :
    decodeQuery (piece ++ '&' :: q) =
      (decodePair piece).bind fun p => (decodeQuery q).map fun ps => p :: ps := by
  rw [decodeQuery, decodeQuery, List.splitOn_append_cons_self, List.splitOn_eq_singleton hpiece,
    List.singleton_append, List.filter_cons_of_pos (by simpa using hne), List.mapM_cons]
  generalize List.mapM decodePair _ = ps
  cases decodePair piece with
  | none => rfl
  | some p => cases ps <;> rfl

/-! ## Queries -/

/-- The query of some names and values, as they are. -/
def query (pairs : List (String × String)) : String :=
  "&".intercalate (pairs.map fun p => p.1 ++ "=" ++ p.2)

/-- What is sent of a query. -/
def sentQuery (pairs : List (String × String)) : List Char :=
  sendText ((query pairs).toList.takeWhile (· ≠ '#'))

/-- What follows the first value of a query. -/
def rest : List (String × String) → List Char
  | [] => []
  | p :: ps => '&' :: (query (p :: ps)).toList

theorem toList_query_cons (p : String × String) (ps : List (String × String)) :
    (query (p :: ps)).toList = p.1.toList ++ '=' :: (p.2.toList ++ rest ps) := by
  cases ps with
  | nil =>
    rw [query, List.map_singleton, String.intercalate_singleton]
    simp [rest]
  | cons q ps =>
    rw [query, List.map_cons, List.map_cons, String.intercalate_cons_cons, rest, query,
      List.map_cons]
    simp

/-- A query with one more name and value. -/
theorem query_concat {pairs : List (String × String)} (h : pairs ≠ []) (p : String × String) :
    query (pairs ++ [p]) = query pairs ++ "&" ++ p.1 ++ "=" ++ p.2 := by
  induction pairs with
  | nil => exact absurd rfl h
  | cons q pairs ih =>
    rw [← String.toList_inj]
    cases pairs with
    | nil => simp [toList_query_cons, rest]
    | cons r pairs =>
      have hrest := congrArg String.toList (ih (List.cons_ne_nil r pairs))
      rw [List.cons_append, List.cons_append] at *
      simp [toList_query_cons q, rest, hrest]

/-- What is sent of a query is its first name and what is sent of the remaining text. -/
theorem sentQuery_cons {p : String × String} (hp : IsName p.1) (ps : List (String × String)) :
    sentQuery (p :: ps) =
      p.1.toList ++ '=' :: sendText ((p.2.toList ++ rest ps).takeWhile (· ≠ '#')) := by
  have hname : ∀ c ∈ p.1.toList, decide (c ≠ '#') = true := by
    intro c hc
    exact decide_eq_true (nameChar_ne (hp.2 c hc) (by decide))
  rw [sentQuery, toList_query_cons, List.takeWhile_append_of_pos hname,
    List.takeWhile_cons_of_pos (by decide), sendText_append, sendText_name hp,
    sendText_cons_of_legal (by decide)]

/-- Is this no separator? -/
def inner (c : Char) : Bool := c ≠ '&' ∧ c ≠ '#'

/-- The first value that arrives ends at the first separator, one of its own or the one
that follows it. -/
theorem sendText_takeWhile (v : List Char) (ps : List (String × String)) :
    ∃ q, sendText ((v ++ rest ps).takeWhile (· ≠ '#')) = sendText (v.takeWhile inner) ∨
      sendText ((v ++ rest ps).takeWhile (· ≠ '#')) = sendText (v.takeWhile inner) ++ '&' :: q := by
  induction v with
  | nil =>
    cases ps with
    | nil => exact ⟨[], Or.inl rfl⟩
    | cons p ps =>
      refine ⟨sendText ((query (p :: ps)).toList.takeWhile (· ≠ '#')), Or.inr ?_⟩
      rw [rest, List.nil_append, List.takeWhile_cons_of_pos (by decide),
        sendText_cons_of_legal (by decide)]
      rfl
  | cons c v ih =>
    rw [List.cons_append]
    by_cases hhash : c = '#'
    · subst hhash
      exact ⟨[], Or.inl rfl⟩
    · rw [List.takeWhile_cons_of_pos (by simpa using hhash)]
      by_cases hamp : c = '&'
      · subst hamp
        refine ⟨sendText ((v ++ rest ps).takeWhile (· ≠ '#')), Or.inr ?_⟩
        rw [List.takeWhile_cons_of_neg (by decide), sendText_cons_of_legal (by decide)]
        rfl
      · have hinner : inner c = true := decide_eq_true ⟨hamp, hhash⟩
        rw [List.takeWhile_cons_of_pos hinner, sendText_cons, sendText_cons]
        obtain ⟨q, hq | hq⟩ := ih
        · exact ⟨q, Or.inl (by rw [hq])⟩
        · exact ⟨q, Or.inr (by rw [hq, List.append_assoc])⟩

/-! ## The first value -/

/-- A piece with a name is not empty, and has no separator if its value has none. -/
theorem piece_ok {name : String} (h : IsName name) {l : List Char} (hl : '&' ∉ l) :
    name.toList ++ '=' :: l ≠ [] ∧ '&' ∉ name.toList ++ '=' :: l := by
  refine ⟨by simp, ?_⟩
  intro hmem
  rcases List.mem_append.1 hmem with hmem | hmem
  · exact notMem_name h (by decide) hmem
  · rcases List.mem_cons.1 hmem with heq | hmem
    · exact absurd heq (by decide)
    · exact hl hmem

theorem notMem_sendText_takeWhile (v : List Char) : '&' ∉ sendText (v.takeWhile inner) := by
  intro hmem
  have hinner := List.mem_takeWhile_imp (mem_sendText (by decide) hmem)
  exact absurd hinner (by decide)

/-- The first value read of a query. -/
theorem first_value {p : String × String} (hp : IsName p.1) {ps qs : List (String × String)}
    {value : String} (h : decodeQuery (sentQuery (p :: ps)) = some ((p.1, value) :: qs)) :
    decodeText (sendText (p.2.toList.takeWhile inner)) = utf8 value.toList := by
  obtain ⟨hne, hpiece⟩ := piece_ok hp (notMem_sendText_takeWhile p.2.toList)
  rw [sentQuery_cons hp] at h
  refine fromUTF8_eq_some.1 ?_
  obtain ⟨q, hq | hq⟩ := sendText_takeWhile p.2.toList ps
  · rw [hq, decodeQuery_piece hne hpiece, decodePair_name hp] at h
    obtain ⟨pair, hpair, heq⟩ := Option.map_eq_some_iff.1 h
    obtain ⟨value', hvalue, rfl⟩ := Option.map_eq_some_iff.1 hpair
    cases heq
    exact hvalue
  · rw [hq, ← List.cons_append, ← List.append_assoc, decodeQuery_append hne hpiece,
      decodePair_name hp] at h
    obtain ⟨pair, hpair, hrest⟩ := Option.bind_eq_some_iff.1 h
    obtain ⟨value', hvalue, rfl⟩ := Option.map_eq_some_iff.1 hpair
    obtain ⟨qs', -, heq⟩ := Option.map_eq_some_iff.1 hrest
    cases heq
    exact hvalue

theorem utf8_ne_nil {c : Char} {l : List Char} : utf8 (c :: l) ≠ [] := by
  rw [utf8_cons]
  exact List.append_ne_nil_of_left_ne_nil String.utf8EncodeChar_ne_nil (utf8 l)

/-- **A first value that is read back is clean.**  Otherwise what is left of it in front
of a separator, or around an escape, is too short. -/
theorem clean_of_first {p : String × String} (hp : IsName p.1) {ps qs : List (String × String)}
    (h : decodeQuery (sentQuery (p :: ps)) = some (p :: qs)) : Clean p.2.toList := by
  have hfirst := first_value hp h
  have hsplit := List.takeWhile_append_dropWhile (p := inner) (l := p.2.toList)
  have hdrop : p.2.toList.dropWhile inner = [] := by
    have hle := (shrinks (p.2.toList.takeWhile inner)).1
    rw [hfirst] at hle
    nth_rewrite 1 [← hsplit] at hle
    rw [utf8_append, List.length_append] at hle
    have hnil : utf8 (p.2.toList.dropWhile inner) = [] := List.eq_nil_of_length_eq_zero (by omega)
    cases hd : p.2.toList.dropWhile inner with
    | nil => rfl
    | cons c l =>
      rw [hd] at hnil
      exact absurd hnil utf8_ne_nil
  rw [hdrop, List.append_nil] at hsplit
  have hinner : ∀ c ∈ p.2.toList, inner c = true := by
    intro c hc
    rw [← hsplit] at hc
    exact List.mem_takeWhile_imp hc
  rw [hsplit] at hfirst
  exact ⟨fun hc => absurd (hinner _ hc) (by decide), fun hc => absurd (hinner _ hc) (by decide),
    decodeText_sendText_eq_iff.1 hfirst⟩

/-! ## Clean values -/

/-- A clean value is sent whole, and then the remaining query. -/
theorem sentQuery_of_clean {p : String × String} (hp : IsName p.1) (hclean : Clean p.2.toList)
    (q : String × String) (ps : List (String × String)) :
    sentQuery (p :: q :: ps) =
      (p.1.toList ++ '=' :: sendText p.2.toList) ++ '&' :: sentQuery (q :: ps) := by
  have hvalue : ∀ c ∈ p.2.toList, decide (c ≠ '#') = true := by
    intro c hc
    refine decide_eq_true ?_
    rintro rfl
    exact hclean.2.1 hc
  rw [sentQuery_cons hp, List.takeWhile_append_of_pos hvalue, rest,
    List.takeWhile_cons_of_pos (by decide), sendText_append, sendText_cons_of_legal (by decide),
    List.append_assoc, List.cons_append]
  rfl

theorem sentQuery_singleton_of_clean {p : String × String} (hp : IsName p.1)
    (hclean : Clean p.2.toList) :
    sentQuery [p] = p.1.toList ++ '=' :: sendText p.2.toList := by
  have hvalue : p.2.toList.takeWhile (· ≠ '#') = p.2.toList := by
    rw [List.takeWhile_eq_self_iff]
    intro c hc
    refine decide_eq_true ?_
    rintro rfl
    exact hclean.2.1 hc
  rw [sentQuery_cons hp, rest, List.append_nil, hvalue]

/-- A clean value is read back. -/
theorem decodePair_of_clean {p : String × String} (hp : IsName p.1) (hclean : Clean p.2.toList) :
    decodePair (p.1.toList ++ '=' :: sendText p.2.toList) = some p := by
  rw [decodePair_name hp, decodeText_sendText_eq_iff.2 hclean.2.2, fromUTF8_utf8, Option.map_some]

theorem sentQuery_nil : sentQuery [] = [] := by
  rw [sentQuery, query, List.map_nil, String.intercalate_nil]
  rfl

theorem decodeQuery_sentQuery_nil : decodeQuery (sentQuery []) = some [] := by
  rw [sentQuery_nil, decodeQuery_nil]

/-- A query with a clean first value is read value by value. -/
theorem decodeQuery_of_clean {p : String × String} (hp : IsName p.1) (hclean : Clean p.2.toList)
    (ps : List (String × String)) :
    decodeQuery (sentQuery (p :: ps)) = (decodeQuery (sentQuery ps)).map fun qs => p :: qs := by
  obtain ⟨hne, hpiece⟩ := piece_ok hp fun hmem => hclean.1 (mem_sendText (by decide) hmem)
  cases ps with
  | nil =>
    rw [sentQuery_singleton_of_clean hp hclean, decodeQuery_piece hne hpiece,
      decodePair_of_clean hp hclean, decodeQuery_sentQuery_nil]
    rfl
  | cons q ps =>
    rw [sentQuery_of_clean hp hclean, decodeQuery_append hne hpiece,
      decodePair_of_clean hp hclean, Option.bind_some]

/-- **Queries.**  When every name comes with the value intended, or with a clean one
instead, a query is read as intended if and only if it is the one intended and all its
values are clean. -/
theorem decodeQuery_sentQuery_eq_iff {pairs intended : List (String × String)}
    (hnames : ∀ p ∈ pairs, IsName p.1)
    (h : List.Forall₂ (fun p q => p = q ∨ Clean p.2.toList) pairs intended) :
    decodeQuery (sentQuery pairs) = some intended ↔
      pairs = intended ∧ ∀ p ∈ pairs, Clean p.2.toList := by
  induction h with
  | nil => exact ⟨fun _ => ⟨rfl, nofun⟩, fun _ => decodeQuery_sentQuery_nil⟩
  | @cons p q ps qs hpq hrest ih =>
    obtain ⟨hp, hps⟩ := List.forall_mem_cons.1 hnames
    constructor
    · intro h
      have hclean : Clean p.2.toList := by
        rcases hpq with rfl | hclean
        · exact clean_of_first hp h
        · exact hclean
      rw [decodeQuery_of_clean hp hclean] at h
      obtain ⟨qs', hqs', heq⟩ := Option.map_eq_some_iff.1 h
      obtain ⟨rfl, rfl⟩ := List.cons.inj heq
      obtain ⟨rfl, hcleans⟩ := (ih hps).1 hqs'
      exact ⟨rfl, List.forall_mem_cons.2 ⟨hclean, hcleans⟩⟩
    · rintro ⟨heq, hcleans⟩
      obtain ⟨rfl, rfl⟩ := List.cons.inj heq
      obtain ⟨hclean, hcleans⟩ := List.forall_mem_cons.1 hcleans
      rw [decodeQuery_of_clean hp hclean, (ih hps).2 ⟨rfl, hcleans⟩]
      rfl

/-! ## Addresses -/

/-- The address of a service with a query. -/
def address (service : String) (pairs : List (String × String)) : String :=
  service ++ "?" ++ query pairs

/-- The query is what the decoder finds in an address that was sent. -/
theorem decode_send {service : String} (hhash : '#' ∉ service.toList)
    (hmark : '?' ∉ service.toList) (pairs : List (String × String)) :
    decode (send (address service pairs)) = decodeQuery (sentQuery pairs) := by
  have htake : ∀ c ∈ service.toList, decide (c ≠ '#') = true := by
    intro c hc
    refine decide_eq_true ?_
    rintro rfl
    exact hhash hc
  have hdrop : ∀ c ∈ sendText service.toList, decide (c ≠ '?') = true := by
    intro c hc
    refine decide_eq_true ?_
    rintro rfl
    exact hmark (mem_sendText (by decide) hc)
  have hsend : send (address service pairs) =
      sendText service.toList ++ '?' :: sentQuery pairs := by
    rw [send, address, String.toList_append, String.toList_append, List.append_assoc,
      List.takeWhile_append_of_pos htake, sendText_append]
    rfl
  rw [decode, hsend, List.dropWhile_append_of_pos hdrop, List.dropWhile_cons_of_neg (by decide)]
  rfl

/-- **Addresses.**  The query of an address is read back if and only if all its values
are clean. -/
theorem decode_send_iff {service : String} (hhash : '#' ∉ service.toList)
    (hmark : '?' ∉ service.toList) {pairs : List (String × String)}
    (hnames : ∀ p ∈ pairs, IsName p.1) :
    decode (send (address service pairs)) = some pairs ↔ ∀ p ∈ pairs, Clean p.2.toList := by
  have hsame : List.Forall₂ (fun p q => p = q ∨ Clean p.2.toList) pairs pairs :=
    List.forall₂_same.2 fun _ _ => Or.inl rfl
  rw [decode_send hhash hmark, decodeQuery_sentQuery_eq_iff hnames hsame]
  exact and_iff_right rfl

/-! ## Words and numbers -/

/-- A word is clean. -/
theorem clean_name {name : String} (h : IsName name) : Clean name.toList :=
  ⟨notMem_name h (by decide), notMem_name h (by decide), notMem_name h (by decide),
    noEscape_of_notMem (notMem_name h (by decide))⟩

/-- So is a number. -/
theorem clean_repr (n : ℕ) : Clean n.repr.toList := by
  refine clean_name ⟨Nat.repr_ne_empty, ?_⟩
  intro c hc
  rw [Nat.toList_repr] at hc
  have hdigit : c.isDigit = true := Nat.isDigit_of_mem_toDigits (by omega) (by omega) hc
  rw [Char.isAlphanum, hdigit, Bool.or_true, Bool.true_or]

end FormUrlencoded
