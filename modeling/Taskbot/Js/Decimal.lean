import Mathlib

/-!
# Decimal texts and `parseInt`

Prices travel as decimal texts such as `"12.50"` and the JavaScript built-in
`parseInt` turns a text into a number.  This file has both, and what `parseInt`
makes of a decimal text.

* `Number` — the JavaScript numbers with no fraction, rounded as doubles are;
  `roundDouble_of_lt` — nothing is rounded below `2 ^ 53`.
* `parseInt` — the built-in: white space, a sign, an optional `0x`, then the
  longest run of digits.
* `Decimal` — a decimal text as data; `Decimal.text` writes it, `Decimal.value`
  is the rational number it stands for, `Decimal.Readable` says that nothing is
  lost when it is read.
* `parseInt_text` — `parseInt` of a decimal text is its whole part: everything
  after the point is dropped.
-/

namespace Js

/-! ## Whole numbers -/

/-- The quotient nearest to `a / u`, the even one of two equally near. -/
def roundHalfEven (a u : ℕ) : ℕ :=
  if 2 * (a % u) < u then a / u
  else if u < 2 * (a % u) then a / u + 1
  else a / u + (a / u) % 2

/-- The double nearest to a whole number: 53 binary digits are kept. -/
def roundDouble (n : ℤ) : ℤ :=
  let u := 2 ^ (n.natAbs.log2 + 1 - 53)
  n.sign * (roundHalfEven n.natAbs u * u : ℕ)

/-- Whole numbers below `2 ^ 53` are doubles. -/
theorem roundDouble_of_lt {n : ℤ} (h : n.natAbs < 2 ^ 53) : roundDouble n = n := by
  have hlog : n.natAbs.log2 + 1 - 53 = 0 := by
    by_cases h0 : n.natAbs = 0
    · rw [h0]
      rfl
    · have := (Nat.log2_lt h0).2 h
      omega
  have hround : roundHalfEven n.natAbs 1 = n.natAbs := by
    rw [roundHalfEven, Nat.mod_one, if_pos (by omega), Nat.div_one]
  rw [roundDouble, hlog, pow_zero, hround, mul_one, Int.sign_mul_natAbs]

/-- A JavaScript number with no fraction; `none` is `NaN`, and every number from
`10 ^ 21` on, which JavaScript writes with an exponent. -/
abbrev Number := Option ℤ

namespace Number

/-- The whole number `n`, rounded to a double. -/
def ofInt (n : ℤ) : Number := if n.natAbs < 10 ^ 21 then some (roundDouble n) else none

/-- `a + b`. -/
def add (a b : Number) : Number := a.bind fun x => b.bind fun y => ofInt (x + y)

/-- `a - b`. -/
def sub (a b : Number) : Number := a.bind fun x => b.bind fun y => ofInt (x - y)

/-- Is the whole number `n` a number of JavaScript, with nothing rounded? -/
def Exact (n : ℤ) : Prop := ofInt n = some n

instance (n : ℤ) : Decidable (Exact n) := by
  unfold Exact
  infer_instance

theorem exact_of_lt {n : ℤ} (h : n.natAbs < 2 ^ 53) : Exact n := by
  rw [Exact, ofInt, if_pos (by omega), roundDouble_of_lt h]

end Number

/-! ## `parseInt` -/

/-- The white space `parseInt` skips. -/
def isStrWhiteSpace (c : Char) : Bool :=
  c.toNat ∈ [9, 10, 11, 12, 13, 32, 0xA0, 0x1680, 0x2028, 0x2029, 0x202F, 0x205F, 0x3000, 0xFEFF]
    || (0x2000 ≤ c.toNat && c.toNat ≤ 0x200A)

/-- The value of a character as a digit, if it is one in the given radix. -/
def digitValue (radix : ℕ) (c : Char) : Option ℕ :=
  if 48 ≤ c.toNat ∧ c.toNat ≤ 57 ∧ c.toNat - 48 < radix then some (c.toNat - 48)
  else if 97 ≤ c.toNat ∧ c.toNat ≤ 122 ∧ c.toNat - 87 < radix then some (c.toNat - 87)
  else if 65 ≤ c.toNat ∧ c.toNat ≤ 90 ∧ c.toNat - 55 < radix then some (c.toNat - 55)
  else none

/-- The longest run of digits a text starts with, as their values. -/
def readDigits (radix : ℕ) : List Char → List ℕ
  | [] => []
  | c :: cs =>
    match digitValue radix c with
    | some d => d :: readDigits radix cs
    | none => []

/-- Take a sign off the front: is it a minus, and what is left. -/
def takeSign : List Char → Bool × List Char
  | [] => (false, [])
  | c :: cs => if c = '-' then (true, cs) else if c = '+' then (false, cs) else (false, c :: cs)

/-- Take `0x` or `0X` off the front: the radix, and what is left. -/
def takeRadix (cs : List Char) : ℕ × List Char :=
  if cs.take 2 = ['0', 'x'] ∨ cs.take 2 = ['0', 'X'] then (16, cs.drop 2) else (10, cs)

/-- `parseInt(text)` with no radix. -/
def parseInt (text : List Char) : Number :=
  let (neg, cs) := takeSign (text.dropWhile isStrWhiteSpace)
  let (radix, cs) := takeRadix cs
  match readDigits radix cs with
  | [] => none
  | d :: ds => .ofInt ((if neg then -1 else 1) * (Nat.ofDigits radix (d :: ds).reverse : ℕ))

/-! ## Decimal texts -/

/-- A decimal text: a sign, at least one digit, and the digits after the point
if there is one. -/
structure Decimal where
  /-- Is there a minus sign? -/
  neg : Bool
  /-- The digits before the point. -/
  whole : List (Fin 10)
  /-- There is at least one. -/
  whole_ne_nil : whole ≠ []
  /-- The digits after the point. -/
  frac : List (Fin 10)
  deriving DecidableEq

/-- The character that writes a digit. -/
def digitChar (d : Fin 10) : Char := Char.ofNat (48 + d.val)

theorem digitChar_toNat (d : Fin 10) : (digitChar d).toNat = 48 + d.val := by
  fin_cases d <;> rfl

theorem digitValue_digitChar (d : Fin 10) : digitValue 10 (digitChar d) = some d.val := by
  fin_cases d <;> rfl

theorem not_isStrWhiteSpace_digitChar (d : Fin 10) : isStrWhiteSpace (digitChar d) = false := by
  fin_cases d <;> rfl

theorem digitChar_ne {d : Fin 10} {c : Char} (h : c.toNat < 48 ∨ 57 < c.toNat) :
    digitChar d ≠ c := by
  rintro rfl
  rw [digitChar_toNat] at h
  omega

namespace Decimal

/-- The text of a decimal, as the server sends it. -/
def text (d : Decimal) : List Char :=
  (if d.neg then ['-'] else []) ++ d.whole.map digitChar ++
    (if d.frac = [] then [] else '.' :: d.frac.map digitChar)

/-- The number a run of digits stands for. -/
def digits (ds : List (Fin 10)) : ℕ := Nat.ofDigits 10 (ds.map Fin.val).reverse

/-- The sign of a decimal. -/
def sign (d : Decimal) : ℤ := if d.neg then -1 else 1

/-- The part before the point, with the sign. -/
def wholePart (d : Decimal) : ℤ := d.sign * digits d.whole

/-- The rational number a decimal text stands for. -/
def value (d : Decimal) : ℚ :=
  d.sign * (digits d.whole + digits d.frac / 10 ^ d.frac.length)

/-- A decimal with nothing but zeros after the point: `"12"` and `"12.00"`, not
`"12.50"`. -/
def IsWhole (d : Decimal) : Prop := d.value = d.wholePart

instance (d : Decimal) : Decidable d.IsWhole := by
  unfold IsWhole
  infer_instance

/-- A decimal `parseInt` reads with nothing lost. -/
def Readable (d : Decimal) : Prop := d.IsWhole ∧ Number.Exact d.wholePart

instance (d : Decimal) : Decidable d.Readable := by
  unfold Readable
  infer_instance

end Decimal

/-! ## What `parseInt` makes of a decimal text -/

theorem readDigits_append (ds : List (Fin 10)) {cs : List Char}
    (h : ∀ c ∈ cs.head?, digitValue 10 c = none) :
    readDigits 10 (ds.map digitChar ++ cs) = ds.map Fin.val := by
  induction ds with
  | nil =>
    cases cs with
    | nil => rfl
    | cons c cs => simp [readDigits, h c rfl]
  | cons d ds ih =>
    rw [List.map_cons, List.cons_append, readDigits, digitValue_digitChar, List.map_cons]
    simp only [ih]

/-- The part of a decimal text after the digits before the point. -/
theorem head_frac (ds : List (Fin 10)) :
    ∀ c ∈ (if ds = [] then [] else '.' :: ds.map digitChar).head?, c = '.' := by
  intro c hc
  split at hc
  · simp at hc
  · simpa using hc.symm

/-- A decimal text does not start with the mark of a hexadecimal number. -/
theorem takeRadix_digits {ds : List (Fin 10)} (hne : ds ≠ []) {cs : List Char}
    (h : ∀ c ∈ cs.head?, c = '.') :
    takeRadix (ds.map digitChar ++ cs) = (10, ds.map digitChar ++ cs) := by
  have key : ∀ x : Char, x = 'x' ∨ x = 'X' →
      (ds.map digitChar ++ cs).take 2 ≠ ['0', x] := by
    intro x hx heq
    match ds, hne with
    | [d], _ =>
      cases cs with
      | nil => simp at heq
      | cons c cs =>
        have hc : c = '.' := h c rfl
        rcases hx with rfl | rfl <;> simp [hc] at heq
    | d :: e :: es, _ =>
      simp only [List.map_cons, List.cons_append, List.take_succ_cons, List.take_zero,
        List.cons.injEq, and_true] at heq
      rcases hx with rfl | rfl
      · exact digitChar_ne (Or.inr (by decide)) heq.2
      · exact digitChar_ne (Or.inr (by decide)) heq.2
  rw [takeRadix, if_neg]
  rintro (heq | heq)
  · exact key 'x' (Or.inl rfl) heq
  · exact key 'X' (Or.inr rfl) heq

theorem takeSign_text (d : Decimal) :
    takeSign (d.text.dropWhile isStrWhiteSpace) =
      (d.neg, d.whole.map digitChar ++
        (if d.frac = [] then [] else '.' :: d.frac.map digitChar)) := by
  obtain ⟨neg, whole, hne, frac⟩ := d
  obtain ⟨w, ws, rfl⟩ := List.exists_cons_of_ne_nil hne
  cases neg with
  | true => simp [Decimal.text, takeSign, isStrWhiteSpace]
  | false =>
    simp only [Decimal.text, Bool.false_eq_true, if_false, List.nil_append, List.map_cons,
      List.cons_append]
    rw [List.dropWhile_cons_of_neg (by simp [not_isStrWhiteSpace_digitChar]), takeSign,
      if_neg (digitChar_ne (Or.inl (by decide))), if_neg (digitChar_ne (Or.inl (by decide)))]

/-- **`parseInt` drops the fraction.**  Of a decimal text it reads the part
before the point, and nothing else. -/
theorem parseInt_text (d : Decimal) : parseInt d.text = Number.ofInt d.wholePart := by
  have hfrac := head_frac d.frac
  rw [parseInt, takeSign_text]
  simp only [takeRadix_digits d.whole_ne_nil hfrac]
  rw [readDigits_append d.whole (fun c hc => by rw [hfrac c hc]; rfl)]
  obtain ⟨w, ws, hw⟩ := List.exists_cons_of_ne_nil d.whole_ne_nil
  simp only [hw, List.map_cons, Decimal.wholePart, Decimal.sign, Decimal.digits]

/-- Nothing is lost of a readable decimal. -/
theorem parseInt_of_readable {d : Decimal} (h : d.Readable) : parseInt d.text = some d.wholePart := by
  rw [parseInt_text]
  exact h.2

/-- The digits after the point are worth less than one. -/
theorem frac_lt_one (ds : List (Fin 10)) : (Decimal.digits ds : ℚ) / 10 ^ ds.length < 1 := by
  rw [div_lt_one (by positivity)]
  have h : Decimal.digits ds < 10 ^ (ds.map Fin.val).reverse.length :=
    Nat.ofDigits_lt_base_pow_length (by norm_num) (by simp)
  rw [List.length_reverse, List.length_map] at h
  exact_mod_cast h

/-- A decimal is worth a whole number only when there are just zeros after the
point. -/
theorem isWhole_of_value_eq {d : Decimal} {n : ℤ} (h : d.value = n) : d.IsWhole := by
  have hlt := frac_lt_one d.frac
  have hpos : (0 : ℚ) ≤ (Decimal.digits d.frac : ℚ) / 10 ^ d.frac.length := by positivity
  set x := (Decimal.digits d.frac : ℚ) / 10 ^ d.frac.length with hx
  have hval : d.value = d.sign * (Decimal.digits d.whole + x) := rfl
  have hwhole : (d.wholePart : ℚ) = d.sign * Decimal.digits d.whole := by
    rw [Decimal.wholePart]
    push_cast
    rfl
  have habs : |((n - d.wholePart : ℤ) : ℚ)| < 1 := by
    have hdiff : ((n - d.wholePart : ℤ) : ℚ) = d.sign * x := by
      push_cast
      rw [← h, hval, hwhole]
      ring
    have hsign : |(d.sign : ℚ)| = 1 := by
      rw [Decimal.sign]
      split <;> norm_num
    rw [hdiff, abs_mul, hsign, one_mul, abs_of_nonneg hpos]
    exact hlt
  have hzero : n - d.wholePart = 0 := by
    rw [← Int.abs_lt_one_iff]
    exact_mod_cast habs
  rw [Decimal.IsWhole, h, sub_eq_zero.1 hzero]

end Js
