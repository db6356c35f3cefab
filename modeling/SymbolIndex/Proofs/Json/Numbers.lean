import SymbolIndex.Proofs.Json.Reads
import SymbolIndex.Proofs.Number.Shortest

/-!
# Reading floating point numbers

A decimal is written with a point, with an exponent, or with both. The reader takes each of these
texts for the number nearest to the decimal (`readsNumber_decimalText`), so the text of a proper
number is read as that number (`Reads.float`).
-/

namespace SymbolIndex.Json

open Number Number.Binary64

variable {negative : Bool} {whole frac ds rest : List Char}

/-! ### Parts of a number -/

theorem fraction_append (hne : frac ≠ []) (hd : ∀ c ∈ frac, c.isDigit = true)
    (hr : EndsDigits rest) : fraction ('.' :: (frac ++ rest)) = (frac, rest) := by
  rw [fraction, digits_append hd hr, if_neg (by simpa using hne)]

theorem exponent?_append (negative : Bool) (hne : ds ≠ []) (hd : ∀ c ∈ ds, c.isDigit = true)
    (hr : EndsDigits rest) :
    exponent? ('e' :: (if negative then '-' else '+') :: (ds ++ rest)) =
      some (if negative then -(Nat.ofDigitChars 10 ds 0 : Int) else Nat.ofDigitChars 10 ds 0,
        rest) := by
  have hsigned : signed ((if negative then '-' else '+') :: (ds ++ rest)) =
      (negative, ds ++ rest) := by
    cases negative <;> rfl
  rw [exponent?, if_pos (.inl rfl), hsigned]
  dsimp only
  rw [digits_append hd hr]
  exact if_neg (by simpa using hne)

/-- A text that the reader takes for the whole part of a number. -/
def WholePart (whole : List Char) : Prop :=
  ∀ rest, EndsDigits rest → wholePart? (whole ++ rest) = some (whole, rest)

theorem wholePart_zero : WholePart ['0'] := fun _ _ => rfl

theorem wholePart_digits (hne : whole ≠ []) (hd : ∀ c ∈ whole, c.isDigit = true)
    (h0 : whole.head? ≠ some '0') : WholePart whole :=
  fun _ hr => wholePart?_append hne hd h0 hr

theorem endsDigits_cons {c : Char} (hc : c.isDigit = false) : EndsDigits (c :: rest) := by
  intro d hd
  obtain rfl : c = d := by simpa using hd
  exact hc

/-! ### Numbers with a point or an exponent -/

/-- The reader takes a text without a sign for a number and leaves what stands behind it. -/
def ReadsNumber (negative : Bool) (cs : List Char) (x : Binary64) : Prop :=
  ∀ rest, Ends rest → number? negative (cs ++ rest) = some (.ok (.float x, rest))

variable {n k : Nat} {e : Int}

theorem readsNumber_point (hw : WholePart whole) (hne : frac ≠ [])
    (hd : ∀ c ∈ frac, c.isDigit = true) (hn : Nat.ofDigitChars 10 (whole ++ frac) 0 = n)
    (he : e = -frac.length) :
    ReadsNumber negative (whole ++ '.' :: frac) (.ofDecimal negative n e) := by
  intro rest hr
  have hempty : frac.isEmpty = false := by simpa using hne
  unfold number?
  rw [List.append_assoc, List.cons_append, hw _ (endsDigits_cons (by decide))]
  simp only [Option.bind_eq_bind, Option.bind_some, fraction_append hne hd hr.endsDigits,
    hr.exponent?_eq, hempty, hn, he]
  rfl

/-- A point and digits, or nothing if there are no digits. -/
def fractionText (frac : List Char) : List Char := if frac = [] then [] else '.' :: frac

theorem fraction_fractionText (hd : ∀ c ∈ frac, c.isDigit = true) (rest : List Char) :
    fraction (fractionText frac ++ 'e' :: rest) = (frac, 'e' :: rest) := by
  unfold fractionText
  split
  · subst frac
    rfl
  · exact fraction_append ‹_› hd (endsDigits_cons (by decide))

theorem endsDigits_fractionText (frac rest : List Char) :
    EndsDigits (fractionText frac ++ 'e' :: rest) := by
  unfold fractionText
  split
  · exact endsDigits_cons (by decide)
  · exact endsDigits_cons (by decide)

theorem readsNumber_exponent (small : Bool) (hw : WholePart whole)
    (hfrac : ∀ c ∈ frac, c.isDigit = true) (hne : ds ≠ []) (hd : ∀ c ∈ ds, c.isDigit = true)
    (hn : Nat.ofDigitChars 10 (whole ++ frac) 0 = n)
    (he : e = (if small then -(Nat.ofDigitChars 10 ds 0 : Int) else Nat.ofDigitChars 10 ds 0) -
      frac.length) :
    ReadsNumber negative
      (whole ++ (fractionText frac ++ 'e' :: (if small then '-' else '+') :: ds))
      (.ofDecimal negative n e) := by
  intro rest hr
  unfold number?
  simp only [List.append_assoc, List.cons_append]
  rw [hw _ (endsDigits_fractionText _ _)]
  simp only [Option.bind_eq_bind, Option.bind_some, fraction_fractionText hfrac,
    exponent?_append small hne hd hr.endsDigits, hn, he]
  rfl

/-! ### Decimals -/

theorem isDigit_of_mem_replicate {n : Nat} : ∀ c ∈ List.replicate n '0', c.isDigit = true := by
  intro c hc
  rw [List.eq_of_mem_replicate hc]
  rfl

/-- Zeros in front of digits do not count. -/
theorem ofDigitChars_replicate_append (n : Nat) (ds : List Char) :
    Nat.ofDigitChars 10 (List.replicate n '0' ++ ds) 0 = Nat.ofDigitChars 10 ds 0 := by
  rw [Nat.ofDigitChars_append, Nat.ofDigitChars_replicate_zero, Nat.mul_zero]

theorem ofDigitChars_append_replicate (n : Nat) (ds : List Char) :
    Nat.ofDigitChars 10 (ds ++ List.replicate n '0') 0 = Nat.ofDigitChars 10 ds 0 * 10 ^ n := by
  rw [Nat.ofDigitChars_append, Nat.ofDigitChars_replicate_zero, Nat.mul_comm]

/-- The digits of a number above zero. -/
structure DigitsOf (n : Nat) (ds : List Char) : Prop where
  value : Nat.ofDigitChars 10 ds 0 = n
  digit : ∀ c ∈ ds, c.isDigit = true
  ne_nil : ds ≠ []
  head : ds.head? ≠ some '0'

theorem digitsOf_toDigits {n : Nat} (hpos : 0 < n) : DigitsOf n (Nat.toDigits 10 n) :=
  ⟨Nat.ofDigitChars_ten_toDigits, isDigit_of_mem_toDigits, Nat.toDigits_ne_nil,
    head_toDigits_ne_zero hpos⟩

/-- Only zeros in front of the digits. -/
theorem DigitsOf.readsNumber_zeros (h : DigitsOf n ds) (he : e = -((k + ds.length : Nat) : Int)) :
    ReadsNumber negative ('0' :: '.' :: List.replicate k '0' ++ ds) (.ofDecimal negative n e) := by
  show ReadsNumber negative (['0'] ++ '.' :: (List.replicate k '0' ++ ds)) _
  refine readsNumber_point wholePart_zero (by simp [h.ne_nil])
    (List.forall_mem_append.2 ⟨isDigit_of_mem_replicate, h.digit⟩) ?_ ?_
  · rw [show ['0'] = List.replicate 1 '0' from rfl, ofDigitChars_replicate_append,
      ofDigitChars_replicate_append, h.value]
  · rw [he, List.length_append, List.length_replicate]

/-- All digits in front of the point. -/
theorem DigitsOf.readsNumber_whole (h : DigitsOf n ds) (hpos : 0 < n) (he : e = k) :
    ReadsNumber negative (ds ++ List.replicate k '0' ++ ['.', '0']) (.ofDecimal negative n e) := by
  have hwhole : WholePart (ds ++ List.replicate k '0') := by
    refine wholePart_digits (by simp [h.ne_nil])
      (List.forall_mem_append.2 ⟨h.digit, isDigit_of_mem_replicate⟩) ?_
    obtain ⟨c, t, rfl⟩ := List.exists_cons_of_ne_nil h.ne_nil
    exact h.head
  have hvalue : Nat.ofDigitChars 10 (ds ++ List.replicate k '0' ++ ['0']) 0 = n * 10 ^ (k + 1) := by
    rw [show ['0'] = List.replicate 1 '0' from rfl, List.append_assoc,
      List.replicate_append_replicate, ofDigitChars_append_replicate, h.value]
  have hshift : ofDecimal negative n e = ofDecimal negative (n * 10 ^ (k + 1)) (-1) := by
    rw [ofDecimal_mul_pow negative hpos, he]
    congr 1
    omega
  rw [hshift]
  exact readsNumber_point hwhole (by decide) (List.forall_mem_singleton.2 rfl) hvalue rfl

/-- The point among the digits. -/
theorem DigitsOf.readsNumber_split (h : DigitsOf n ds) (hpos : 0 < k) (hlt : k < ds.length)
    (he : e = k - ds.length) :
    ReadsNumber negative (ds.take k ++ '.' :: ds.drop k) (.ofDecimal negative n e) := by
  have hwhole : WholePart (ds.take k) := by
    refine wholePart_digits ?_ (fun c hc => h.digit c (List.mem_of_mem_take hc)) ?_
    · rw [ne_eq, List.take_eq_nil_iff, not_or]
      exact ⟨Nat.ne_of_gt hpos, h.ne_nil⟩
    · rw [List.head?_take, if_neg (Nat.ne_of_gt hpos)]
      exact h.head
  refine readsNumber_point hwhole ?_ (fun c hc => h.digit c (List.mem_of_mem_drop hc)) ?_ ?_
  · rw [ne_eq, List.drop_eq_nil_iff]
    omega
  · rw [List.take_append_drop, h.value]
  · rw [he, List.length_drop]
    omega

/-- One digit in front of the point, and an exponent with zeros in front of its digits. -/
theorem DigitsOf.readsNumber_scientific {c : Char} (h : DigitsOf n (c :: frac)) {point : Int}
    (he : e = point - frac.length) :
    ReadsNumber negative
      (c :: fractionText frac ++ 'e' :: (if point < 0 then '-' else '+') ::
        (List.replicate k '0' ++ Nat.toDigits 10 point.natAbs))
      (.ofDecimal negative n e) := by
  have hwhole : WholePart [c] := wholePart_digits (List.cons_ne_nil c [])
    (fun d hd => h.digit d (List.mem_singleton.1 hd ▸ List.mem_cons_self)) h.head
  have hread : ReadsNumber negative ([c] ++ (fractionText frac ++ 'e' ::
      (if decide (point < 0) then '-' else '+') ::
        (List.replicate k '0' ++ Nat.toDigits 10 point.natAbs))) (.ofDecimal negative n e) := by
    refine readsNumber_exponent _ hwhole (fun d hd => h.digit d (List.mem_cons_of_mem c hd))
      (by simp) (List.forall_mem_append.2 ⟨isDigit_of_mem_replicate, isDigit_of_mem_toDigits⟩)
      h.value ?_
    rw [ofDigitChars_replicate_append, Nat.ofDigitChars_ten_toDigits, he]
    simp only [decide_eq_true_eq]
    split <;> omega
  simp only [decide_eq_true_eq] at hread
  exact hread

/-- The reader takes the text of a decimal for the nearest number. -/
theorem readsNumber_decimalText (negative : Bool) {d : Decimal} (hpos : 0 < d.digits) :
    ReadsNumber negative (decimalText d) (.ofDecimal negative d.digits d.exponent) := by
  have h := digitsOf_toDigits hpos
  unfold decimalText
  dsimp only
  generalize Nat.toDigits 10 d.digits = ds at h ⊢
  have hlength := List.length_pos_iff.2 h.ne_nil
  split
  · split
    · exact h.readsNumber_zeros (by omega)
    split
    · exact h.readsNumber_whole hpos (by omega)
    · exact h.readsNumber_split (by omega) (by omega) (by omega)
  · obtain ⟨c, frac, rfl⟩ := List.exists_cons_of_ne_nil h.ne_nil
    have hread : ∀ k, ReadsNumber negative (c :: fractionText frac ++ 'e' ::
        (if ((c :: frac).length + d.exponent - 1 : Int) < 0 then '-' else '+') ::
          (List.replicate k '0' ++ Nat.toDigits 10 ((c :: frac).length + d.exponent - 1).natAbs))
        (.ofDecimal negative d.digits d.exponent) :=
      fun k => h.readsNumber_scientific (by rw [List.length_cons]; omega)
    cases frac with
    | nil => exact hread _
    | cons c' frac => exact hread _

/-! ### Numbers -/

/-- A number is written with a digit first, but for its sign. -/
theorem exists_cons_of_readsNumber {cs : List Char} {x : Binary64}
    (h : ReadsNumber negative cs x) : ∃ c t, cs = c :: t ∧ c.isDigit = true := by
  have hread := h [] nofun
  unfold number? at hread
  obtain ⟨_, hwhole, -⟩ := Option.bind_eq_some_iff.1 hread
  rw [List.append_nil] at hwhole
  unfold wholePart? at hwhole
  split at hwhole
  · cases hwhole
  · exact ⟨_, _, rfl, rfl⟩
  · split at hwhole
    · exact ⟨_, _, rfl, ‹_›⟩
    · cases hwhole

theorem ReadsNumber.reads {cs : List Char} {x : Binary64} (h : ReadsNumber negative cs x) :
    Reads (.float x) (if negative then '-' :: cs else cs) := by
  obtain ⟨c, t, rfl, hc⟩ := exists_cons_of_readsNumber h
  intro fuel rest hf hr
  obtain ⟨n, rfl⟩ : ∃ n, fuel = n + 1 := ⟨fuel - 1, by
    cases negative <;> simp at hf <;> omega⟩
  have hread := h rest hr
  rw [List.cons_append] at hread
  cases negative with
  | true =>
    rw [if_pos rfl, List.cons_append, List.cons_append, value_scalar (by simp), scalar_minus hc,
      hread]
    rfl
  | false =>
    rw [if_neg (by decide), List.cons_append, value_scalar, scalar_digits hc, hread]
    · rfl
    · intro d hd
      obtain rfl : c = d := by simpa using hd
      refine ⟨?_, ?_, ?_⟩ <;> (rintro rfl; revert hc; decide)

theorem Reads.finite {m e : Nat} (h : Proper (.finite negative m e)) :
    Reads (.float (.finite negative m e)) (finiteText negative m e) := by
  unfold finiteText
  by_cases hm : m = 0
  · obtain rfl : e = 0 := by
      have hnormal := h.2.1
      omega
    subst m
    have hread : ReadsNumber negative ['0', '.', '0'] (.finite negative 0 0) :=
      readsNumber_point (e := -1) wholePart_zero (by decide) (List.forall_mem_singleton.2 rfl) rfl
        rfl
    exact hread.reads
  · rw [if_neg hm]
    obtain ⟨hpos, hread⟩ :=
      readsBack_trimZeros (readsBack_shortest h hm) (decimalLength (shortest m e).digits)
    have htext := readsNumber_decimalText negative hpos
    rw [hread] at htext
    exact htext.reads

end SymbolIndex.Json
