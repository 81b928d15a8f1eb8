import Mathlib

/-!
# Addresses with a query

An address is sent with its illegal characters percent-encoded and without its
fragment, and a server reads the query with the decoder of forms.  This file is about
the two in general: which texts survive when they are put into a query as they are.

* `send`, `decode` — what is sent of an address, and the decoder.
* `decodeText_sendText` — a text without escapes is read back, but for its `+`.
* `shrinks` — no text gets longer, and one with an escape in it gets shorter.
* `decodeText_sendText_eq_iff` — **a text is read back if and only if it has neither a
  `+` nor an escape.**
-/

namespace FormUrlencoded

/-! ## Percent-encoding -/

/-- The hexadecimal digit of a number below 16. -/
def hexDigit (n : ℕ) : Char := Char.ofNat (if n < 10 then 48 + n else 55 + n)

/-- The number of a hexadecimal digit. -/
def hexValue (c : Char) : Option ℕ :=
  if '0' ≤ c ∧ c ≤ '9' then some (c.toNat - 48)
  else if 'A' ≤ c ∧ c ≤ 'F' then some (c.toNat - 55)
  else if 'a' ≤ c ∧ c ≤ 'f' then some (c.toNat - 87)
  else none

/-- Is this a hexadecimal digit? -/
def IsHex (c : Char) : Prop := (hexValue c).isSome

instance (c : Char) : Decidable (IsHex c) := inferInstanceAs (Decidable (_ = true))

/-- An escaped byte. -/
def escape (b : UInt8) : List Char := ['%', hexDigit (b.toNat / 16), hexDigit (b.toNat % 16)]

/-- The UTF-8 bytes of a text. -/
def utf8 (l : List Char) : List UInt8 := l.flatMap String.utf8EncodeChar

/-- The characters that may stand in an address: letters, digits, the marks, the
delimiters, and the sign of an escape. -/
def legal (c : Char) : Bool := c.isAlphanum || "-._~:/?#[]@!$&'()*+,;=%".toList.contains c

/-- A character as it is sent. -/
def sendChar (c : Char) : List Char :=
  if legal c then [c] else (String.utf8EncodeChar c).flatMap escape

/-- A text as it is sent. -/
def sendText (l : List Char) : List Char := l.flatMap sendChar

/-- An address as it is sent: the fragment stays behind. -/
def send (url : String) : List Char := sendText (url.toList.takeWhile (· ≠ '#'))

/-! ## The decoder -/

/-- The bytes of a part of a query: a `+` is a space, an escape is its byte, and a sign
of an escape with no two digits behind it is itself. -/
def decodeText : List Char → List UInt8
  | [] => []
  | c :: l =>
    if c = '+' then 32 :: decodeText l
    else if c = '%' then
      match l with
      | h :: k :: rest =>
        match hexValue h, hexValue k with
        | some a, some b => UInt8.ofNat (16 * a + b) :: decodeText rest
        | _, _ => 37 :: decodeText (h :: k :: rest)
      | rest => 37 :: decodeText rest
    else String.utf8EncodeChar c ++ decodeText l

/-- A text from its bytes. -/
def fromUTF8 (bytes : List UInt8) : Option String := String.fromUTF8? bytes.toByteArray

/-- One `name=value`. -/
def decodePair (piece : List Char) : Option (String × String) := do
  let name ← fromUTF8 (decodeText (piece.takeWhile (· ≠ '=')))
  let value ← fromUTF8 (decodeText ((piece.dropWhile (· ≠ '=')).drop 1))
  return (name, value)

/-- The names and values of a query, empty pieces left out. -/
def decodeQuery (query : List Char) : Option (List (String × String)) :=
  ((query.splitOn '&').filter (· ≠ [])).mapM decodePair

/-- The names and values read from an address that was sent. -/
def decode (sent : List Char) : Option (List (String × String)) :=
  decodeQuery ((sent.dropWhile (· ≠ '?')).drop 1)

/-! ## Escapes -/

theorem hexValue_hexDigit : ∀ n < 16, hexValue (hexDigit n) = some n := by decide

theorem hexDigit_notin : ∀ n < 16, hexDigit n ∉ ['&', '=', '?'] := by decide

theorem decodeText_plus (l : List Char) : decodeText ('+' :: l) = 32 :: decodeText l := by
  rw [decodeText.eq_def]
  exact if_pos rfl

theorem decodeText_cons {c : Char} (hplus : c ≠ '+') (hsign : c ≠ '%') (l : List Char) :
    decodeText (c :: l) = String.utf8EncodeChar c ++ decodeText l := by
  rw [decodeText.eq_def]
  exact (if_neg hplus).trans (if_neg hsign)

theorem decodeText_digits {h k : Char} {a b : ℕ} (ha : hexValue h = some a)
    (hb : hexValue k = some b) (l : List Char) :
    decodeText ('%' :: h :: k :: l) = UInt8.ofNat (16 * a + b) :: decodeText l := by
  rw [decodeText.eq_def]
  refine (if_neg (by decide)).trans ((if_pos rfl).trans ?_)
  simp only [ha, hb]

/-- Two hexadecimal digits to begin with. -/
def StartsHex (l : List Char) : Prop := ∃ h k rest, l = h :: k :: rest ∧ IsHex h ∧ IsHex k

theorem decodeText_sign {l : List Char} (hl : ¬ StartsHex l) :
    decodeText ('%' :: l) = 37 :: decodeText l := by
  rw [decodeText.eq_def]
  refine (if_neg (by decide)).trans ((if_pos rfl).trans ?_)
  match l with
  | [] => rfl
  | [_] => rfl
  | h :: k :: rest =>
    cases ha : hexValue h with
    | none => simp only [ha]
    | some a =>
      cases hb : hexValue k with
      | none => simp only [ha, hb]
      | some b =>
        refine absurd ⟨h, k, rest, rfl, ?_, ?_⟩ hl
        · rw [IsHex, ha]
          rfl
        · rw [IsHex, hb]
          rfl

theorem decodeText_escape (b : UInt8) (l : List Char) :
    decodeText (escape b ++ l) = b :: decodeText l := by
  have hb : b.toNat < 256 := b.toNat_lt
  have hhigh := hexValue_hexDigit (b.toNat / 16) (by omega)
  have hlow := hexValue_hexDigit (b.toNat % 16) (by omega)
  have hsum : 16 * (b.toNat / 16) + b.toNat % 16 = b.toNat := Nat.div_add_mod b.toNat 16
  rw [escape, List.cons_append, List.cons_append, List.cons_append, List.nil_append,
    decodeText_digits hhigh hlow, hsum, UInt8.ofNat_toNat]

theorem decodeText_flatMap_escape (bytes : List UInt8) (l : List Char) :
    decodeText (bytes.flatMap escape ++ l) = bytes ++ decodeText l := by
  induction bytes with
  | nil => rfl
  | cons b bytes ih =>
    rw [List.flatMap_cons, List.append_assoc, decodeText_escape, ih, List.cons_append]

/-! ## What is sent -/

theorem sendChar_of_legal {c : Char} (h : legal c = true) : sendChar c = [c] := if_pos h

theorem sendChar_of_illegal {c : Char} (h : ¬ legal c = true) :
    sendChar c = (String.utf8EncodeChar c).flatMap escape := if_neg h

theorem sendText_cons (c : Char) (l : List Char) : sendText (c :: l) = sendChar c ++ sendText l :=
  List.flatMap_cons

theorem sendText_cons_of_legal {c : Char} (h : legal c = true) (l : List Char) :
    sendText (c :: l) = c :: sendText l := by
  rw [sendText_cons, sendChar_of_legal h, List.singleton_append]

theorem sendText_append (l l' : List Char) : sendText (l ++ l') = sendText l ++ sendText l' :=
  List.flatMap_append

/-- An illegal character is sent with the sign of an escape in front. -/
theorem exists_sendChar_of_illegal {c : Char} (h : ¬ legal c = true) :
    ∃ l, sendChar c = '%' :: l := by
  rw [sendChar_of_illegal h]
  obtain ⟨b, bytes, hbytes⟩ := List.exists_cons_of_ne_nil (String.utf8EncodeChar_ne_nil (c := c))
  rw [hbytes, List.flatMap_cons]
  exact ⟨_, rfl⟩

/-- Sending makes no separators. -/
theorem mem_sendChar {c x : Char} (hx : x ∈ ['&', '=', '?']) (h : x ∈ sendChar c) : x = c := by
  by_cases hc : legal c = true
  · rw [sendChar_of_legal hc] at h
    exact List.mem_singleton.1 h
  · rw [sendChar_of_illegal hc] at h
    obtain ⟨b, -, hb⟩ := List.mem_flatMap.1 h
    have hlt : b.toNat < 256 := b.toNat_lt
    have hhigh := hexDigit_notin (b.toNat / 16) (by omega)
    have hlow := hexDigit_notin (b.toNat % 16) (by omega)
    simp only [escape, List.mem_cons, List.not_mem_nil, or_false] at hb
    rcases hb with rfl | rfl | rfl
    · exact absurd hx (by decide)
    · exact absurd hx hhigh
    · exact absurd hx hlow

theorem mem_sendText {l : List Char} {x : Char} (hx : x ∈ ['&', '=', '?']) (h : x ∈ sendText l) :
    x ∈ l := by
  obtain ⟨c, hc, hxc⟩ := List.mem_flatMap.1 h
  rw [mem_sendChar hx hxc]
  exact hc

/-- A digit to begin with is one of the text itself. -/
theorem head_sendText {h : Char} {l rest : List Char} (hhex : IsHex h)
    (hl : sendText l = h :: rest) : ∃ l', l = h :: l' ∧ sendText l' = rest := by
  cases l with
  | nil => cases hl
  | cons c l =>
    by_cases hc : legal c = true
    · rw [sendText_cons_of_legal hc] at hl
      obtain ⟨rfl, hrest⟩ := List.cons.inj hl
      exact ⟨l, rfl, hrest⟩
    · obtain ⟨l', hl'⟩ := exists_sendChar_of_illegal hc
      rw [sendText_cons, hl', List.cons_append] at hl
      obtain ⟨rfl, -⟩ := List.cons.inj hl
      exact absurd hhex (by decide)

theorem startsHex_of_sendText {l : List Char} (h : StartsHex (sendText l)) : StartsHex l := by
  obtain ⟨c, k, rest, hl, hc, hk⟩ := h
  obtain ⟨l', rfl, hl'⟩ := head_sendText hc hl
  obtain ⟨l'', rfl, -⟩ := head_sendText hk hl'
  exact ⟨c, k, l'', rfl, hc, hk⟩

theorem legal_of_isHex {c : Char} (h : IsHex c) : legal c = true := by
  have halnum : c.isAlphanum = true := by
    simp only [IsHex, hexValue, Char.le_def] at h
    simp only [Char.isAlphanum, Char.isAlpha, Char.isUpper, Char.isLower, Char.isDigit,
      Bool.or_eq_true, Bool.and_eq_true, decide_eq_true_eq]
    split_ifs at h with h0 h1 h2
    · exact Or.inr h0
    · exact Or.inl (Or.inl ⟨h1.1, UInt32.le_trans h1.2 (by decide : 'F'.val ≤ 'Z'.val)⟩)
    · exact Or.inl (Or.inr ⟨h2.1, UInt32.le_trans h2.2 (by decide : 'f'.val ≤ 'z'.val)⟩)
    · cases h
  rw [legal, halnum, Bool.true_or]

/-! ## Texts without escapes -/

/-- There is no escape in the text. -/
def NoEscape (l : List Char) : Prop := ∀ h k, ['%', h, k] <:+: l → ¬ (IsHex h ∧ IsHex k)

theorem noEscape_nil : NoEscape [] := by
  intro h k hsub
  cases List.eq_nil_of_infix_nil hsub

theorem noEscape_cons {c : Char} (hc : c ≠ '%') {l : List Char} :
    NoEscape (c :: l) ↔ NoEscape l := by
  refine forall₂_congr fun h k => imp_congr_left ?_
  rw [List.infix_cons_iff]
  refine or_iff_right ?_
  intro hpre
  exact hc (List.cons_prefix_cons.1 hpre).1.symm

theorem noEscape_sign {l : List Char} : NoEscape ('%' :: l) ↔ ¬ StartsHex l ∧ NoEscape l := by
  constructor
  · intro hl
    refine ⟨?_, fun h k hsub => hl h k (List.infix_cons hsub)⟩
    rintro ⟨h, k, rest, rfl, hhex⟩
    exact hl h k (List.IsPrefix.isInfix (List.prefix_append ['%', h, k] rest)) hhex
  · rintro ⟨hstart, hl⟩ h k hsub hhex
    rcases List.infix_cons_iff.1 hsub with ⟨rest, hrest⟩ | hsub
    · obtain ⟨-, rfl⟩ := List.cons.inj hrest
      exact hstart ⟨h, k, rest, rfl, hhex⟩
    · exact hl h k hsub hhex

theorem utf8_cons (c : Char) (l : List Char) :
    utf8 (c :: l) = String.utf8EncodeChar c ++ utf8 l := List.flatMap_cons

theorem utf8_append (l l' : List Char) : utf8 (l ++ l') = utf8 l ++ utf8 l' :=
  List.flatMap_append

/-- What the decoder makes of a character that is not an escape. -/
def plusToSpace (c : Char) : Char := if c = '+' then ' ' else c

/-- A character other than a `+` or a sign is read back, whether it is legal or not. -/
theorem decodeText_sendChar {c : Char} (hplus : c ≠ '+') (hsign : c ≠ '%') (l : List Char) :
    decodeText (sendChar c ++ l) = String.utf8EncodeChar c ++ decodeText l := by
  by_cases hc : legal c = true
  · rw [sendChar_of_legal hc, List.singleton_append, decodeText_cons hplus hsign]
  · rw [sendChar_of_illegal hc, decodeText_flatMap_escape]

/-- **Without escapes only the `+` is lost.** -/
theorem decodeText_sendText {l : List Char} (hl : NoEscape l) :
    decodeText (sendText l) = utf8 (l.map plusToSpace) := by
  induction l with
  | nil => rfl
  | cons c l ih =>
    rw [List.map_cons, utf8_cons]
    by_cases hplus : c = '+'
    · subst hplus
      rw [sendText_cons_of_legal (by decide), decodeText_plus,
        ih ((noEscape_cons (by decide)).1 hl)]
      rfl
    · rw [plusToSpace, if_neg hplus]
      by_cases hsign : c = '%'
      · subst hsign
        obtain ⟨hstart, hrest⟩ := noEscape_sign.1 hl
        rw [sendText_cons_of_legal (by decide),
          decodeText_sign fun h => hstart (startsHex_of_sendText h), ih hrest]
        rfl
      · rw [sendText_cons, decodeText_sendChar hplus hsign, ih ((noEscape_cons hsign).1 hl)]

/-! ## Texts with escapes -/

/-- The text gets no longer when it is read back, and shorter if there is an escape in
it. -/
def Shrinks (l : List Char) : Prop :=
  (decodeText (sendText l)).length ≤ (utf8 l).length ∧
    (¬ NoEscape l → (decodeText (sendText l)).length < (utf8 l).length)

theorem shrinks_sign {l : List Char} (hstart : ¬ StartsHex l) (hl : Shrinks l) :
    Shrinks ('%' :: l) := by
  have hlength : (utf8 ('%' :: l)).length = (utf8 l).length + 1 := rfl
  rw [Shrinks, sendText_cons_of_legal (by decide),
    decodeText_sign fun h => hstart (startsHex_of_sendText h), List.length_cons, hlength,
    noEscape_sign]
  refine ⟨Nat.succ_le_succ hl.1, ?_⟩
  intro h
  exact Nat.succ_lt_succ (hl.2 fun hrest => h ⟨hstart, hrest⟩)

/-- **Every text is read back no longer than it was.** -/
theorem shrinks (l : List Char) : Shrinks l := by
  induction l using decodeText.induct with
  | case1 => exact ⟨le_refl _, fun h => absurd noEscape_nil h⟩
  | case2 l ih =>
    have hlength : (utf8 ('+' :: l)).length = (utf8 l).length + 1 := rfl
    rw [Shrinks, sendText_cons_of_legal (by decide), decodeText_plus, List.length_cons, hlength,
      noEscape_cons (by decide)]
    exact ⟨Nat.succ_le_succ ih.1, fun h => Nat.succ_lt_succ (ih.2 h)⟩
  | case3 h k rest a b hb ha _ ih =>
    have hh : IsHex h := by rw [IsHex, ha]; rfl
    have hk : IsHex k := by rw [IsHex, hb]; rfl
    have hlength : 1 + (utf8 rest).length < (utf8 ('%' :: h :: k :: rest)).length := by
      have hpos := String.length_utf8EncodeChar h ▸ h.utf8Size_pos
      have hsign : (String.utf8EncodeChar '%').length = 1 := rfl
      rw [utf8_cons, utf8_cons, utf8_cons, List.length_append, List.length_append,
        List.length_append]
      omega
    rw [Shrinks, sendText_cons_of_legal (by decide), sendText_cons_of_legal (legal_of_isHex hh),
      sendText_cons_of_legal (legal_of_isHex hk), decodeText_digits ha hb, List.length_cons]
    have hle := ih.1
    exact ⟨by omega, fun _ => by omega⟩
  | case4 h k rest hnot _ ih =>
    have hstart : ¬ StartsHex (h :: k :: rest) := by
      rintro ⟨h', k', rest', heq, hh, hk⟩
      cases heq
      obtain ⟨a, ha⟩ := Option.isSome_iff_exists.1 hh
      obtain ⟨b, hb⟩ := Option.isSome_iff_exists.1 hk
      exact hnot a b ha hb
    exact shrinks_sign hstart ih
  | case5 rest hnot _ ih =>
    have hstart : ¬ StartsHex rest := by
      rintro ⟨h, k, rest', heq, -⟩
      exact hnot h k rest' heq
    exact shrinks_sign hstart ih
  | case6 c l hplus hsign ih =>
    rw [Shrinks, sendText_cons, decodeText_sendChar hplus hsign, utf8_cons, List.length_append,
      List.length_append, noEscape_cons hsign]
    exact ⟨Nat.add_le_add_left ih.1 _, fun h => Nat.add_lt_add_left (ih.2 h) _⟩

/-! ## Texts that survive -/

/-- A text that can be put into a query as it is. -/
def Clean (l : List Char) : Prop := '&' ∉ l ∧ '#' ∉ l ∧ '+' ∉ l ∧ NoEscape l

/-- A name of letters, digits and underscores. -/
def IsName (name : String) : Prop :=
  name ≠ "" ∧ ∀ c ∈ name.toList, (c.isAlphanum || c = '_') = true

instance (name : String) : Decidable (IsName name) := inferInstanceAs (Decidable (_ ∧ _))

theorem fromUTF8_eq_some {bytes : List UInt8} {s : String} :
    fromUTF8 bytes = some s ↔ bytes = utf8 s.toList := by
  rw [← List.toByteArray_inj]
  have hs : (utf8 s.toList).toByteArray = s.toByteArray := String.utf8Encode_toList
  rw [hs, fromUTF8, String.fromUTF8?]
  constructor
  · intro h
    split at h
    · cases h
      rfl
    · cases h
  · intro h
    rw [h, dif_pos s.isValidUTF8]
    rfl

theorem fromUTF8_utf8 (s : String) : fromUTF8 (utf8 s.toList) = some s :=
  fromUTF8_eq_some.2 rfl

theorem utf8_injective {l l' : List Char} (h : utf8 l = utf8 l') : l = l' := by
  have hl := fromUTF8_utf8 (String.ofList l)
  have hl' := fromUTF8_utf8 (String.ofList l')
  rw [String.toList_ofList] at hl hl'
  rw [h, hl'] at hl
  have heq := congrArg String.toList (Option.some.inj hl)
  rw [String.toList_ofList, String.toList_ofList] at heq
  exact heq.symm

theorem plusToSpace_ne (c : Char) : plusToSpace c ≠ '+' := by
  rw [plusToSpace]
  split
  · decide
  · assumption

theorem map_plusToSpace {l : List Char} : l.map plusToSpace = l ↔ '+' ∉ l := by
  constructor
  · intro h hplus
    rw [← h] at hplus
    obtain ⟨c, -, hc⟩ := List.mem_map.1 hplus
    exact plusToSpace_ne c hc
  · intro h
    refine (List.map_congr_left ?_).trans (List.map_id l)
    intro c hc
    have hne : c ≠ '+' := by
      rintro rfl
      exact h hc
    exact if_neg hne

/-- **What is read back.**  A text is read back exactly when it has neither a `+` nor an
escape. -/
theorem decodeText_sendText_eq_iff {l : List Char} :
    decodeText (sendText l) = utf8 l ↔ '+' ∉ l ∧ NoEscape l := by
  constructor
  · intro h
    have hescape : NoEscape l := by
      by_contra hno
      have hlt := (shrinks l).2 hno
      rw [h] at hlt
      exact lt_irrefl _ hlt
    rw [decodeText_sendText hescape] at h
    exact ⟨map_plusToSpace.1 (utf8_injective h), hescape⟩
  · rintro ⟨hplus, hescape⟩
    rw [decodeText_sendText hescape, map_plusToSpace.2 hplus]

end FormUrlencoded
