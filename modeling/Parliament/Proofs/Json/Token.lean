import Parliament.Json.Print
import Parliament.Json.Token
import Mathlib.Data.List.TakeWhile

/-! # Tokens of printed values

The characters of a printed number or text are read as one token, whatever follows a text, and
unless a character that belongs to a number follows a number.
-/

namespace Parliament.Json

/-! ## Reading from within a text -/

/-- The tokens that are still to come. -/
def tokensFrom : Scan → List Char → List Token
  | s, [] => scanEnd s
  | s, c :: cs => (scanChar c s).1 ++ tokensFrom (scanChar c s).2 cs

theorem tokens_eq_tokensFrom (cs : List Char) : tokens cs = tokensFrom .between cs := by
  have later : ∀ (out : List Token) (s : Scan),
      (cs.foldl scanStep (out, s)).1.reverse ++ scanEnd (cs.foldl scanStep (out, s)).2 =
        out.reverse ++ tokensFrom s cs := by
    induction cs with
    | nil => simp [tokensFrom]
    | cons c cs ih =>
      intro out s
      rw [List.foldl_cons, scanStep, ih]
      simp [tokensFrom]
  exact later [] .between

/-! ## Numbers -/

theorem digitsValue_toDigits (n : Nat) : digitsValue (Nat.toDigits 10 n) = n := by
  have value : Nat.ofDigitChars 10 (Nat.toDigits 10 n) 0 = n := Nat.ofDigitChars_ten_toDigits
  rwa [Nat.ofDigitChars_eq_foldl] at value

theorem isDigit_toDigits (n : Nat) : ∀ c ∈ Nat.toDigits 10 n, c.isDigit = true :=
  fun _ h => Nat.isDigit_of_mem_toDigits (by decide) (by decide) h

theorem head?_toDigits {n : Nat} (h : 0 < n) : (Nat.toDigits 10 n).head? ≠ some '0' := by
  induction n using Nat.strong_induction_on with
  | _ n ih =>
    by_cases small : n < 10
    · have nonzero : n ≠ 0 := by omega
      rw [Nat.toDigits_of_lt_base small]
      simp [Nat.digitChar_eq_zero, nonzero]
    · have front := ih (n / 10) (by omega) (by omega)
      rw [Nat.toDigits_of_base_le (by decide) (by omega), List.head?_append]
      rwa [Option.or_of_isSome (by simp [Nat.toDigits_ne_nil])]

theorem toDigits_sound (n : Nat) :
    ((Nat.toDigits 10 n).head? == some '0' && decide (1 < (Nat.toDigits 10 n).length)) = false := by
  by_cases h : n = 0
  · subst h
    rfl
  · simp [head?_toDigits (Nat.pos_of_ne_zero h)]

theorem splitSign_digits {cs : List Char} (digits : ∀ c ∈ cs, c.isDigit = true) :
    splitSign cs = (false, cs) := by
  unfold splitSign
  split
  · exact absurd (digits '-' List.mem_cons_self) (by decide)
  · rfl

theorem ofChars?_of_splitSign {cs : List Char} {negative : Bool} {n : Nat}
    (sign : splitSign cs = (negative, Nat.toDigits 10 n)) :
    Numeral.ofChars? cs = some ⟨negative, Nat.toDigits 10 n, none, none⟩ := by
  have all_digits : (Nat.toDigits 10 n).takeWhile Char.isDigit = Nat.toDigits 10 n :=
    List.takeWhile_eq_self_iff.2 (isDigit_toDigits n)
  have none_left : (Nat.toDigits 10 n).dropWhile Char.isDigit = [] :=
    List.dropWhile_eq_nil_iff.2 (isDigit_toDigits n)
  have filled : (Nat.toDigits 10 n).isEmpty = false := by
    simp [Nat.toDigits_ne_nil]
  simp [Numeral.ofChars?, sign, all_digits, none_left, splitFraction, splitExponent, filled,
    toDigits_sound]

/-! ## Their size -/

theorem le_foldl_digits (digits : List Char) (start : Nat) :
    start ≤ digits.foldl (fun n c => 10 * n + digitValue c) start := by
  induction digits generalizing start with
  | nil => exact Nat.le_refl start
  | cons c digits ih =>
    have later := ih (10 * start + digitValue c)
    rw [List.foldl_cons]
    omega

theorem appendDigits_eq {digits : List Char} {start : Nat}
    (short : digits.foldl (fun n c => 10 * n + digitValue c) start ≤ maxWord) :
    appendDigits start digits = (digits.foldl (fun n c => 10 * n + digitValue c) start, []) := by
  induction digits generalizing start with
  | nil => rfl
  | cons c digits ih =>
    have next := le_foldl_digits digits (10 * start + digitValue c)
    rw [List.foldl_cons] at short ⊢
    rw [appendDigits, if_pos (by omega), ih short]

theorem roundToDouble_le (n : Nat) : roundToDouble n ≤ 2 * n := by
  by_cases zero : n = 0
  · subst zero
    decide
  -- Rounding moves a number by at most one unit, and a unit is at most the number.
  have unit_le : 2 ^ (Nat.log2 n + 1 - 53) ≤ n :=
    calc 2 ^ (Nat.log2 n + 1 - 53)
      _ ≤ 2 ^ Nat.log2 n := Nat.pow_le_pow_right (by decide) (by omega)
      _ ≤ n := Nat.log2_self_le zero
  have low_le : n / 2 ^ (Nat.log2 n + 1 - 53) * 2 ^ (Nat.log2 n + 1 - 53) ≤ n :=
    Nat.div_mul_le_self n _
  unfold roundToDouble
  dsimp only [Nat.pow_eq]
  split
  · rw [Nat.add_mul, Nat.one_mul]
    omega
  · omega

theorem fitsDouble_word {n : Nat} (short : n ≤ maxWord) :
    Scaled.fitsDouble ⟨n, 0⟩ = true := by
  have rounded := roundToDouble_le n
  have one : roundToDouble 1 = 1 := by decide
  have bound : 2 * maxWord < overflowBound := by decide +kernel
  have fits : roundToDouble n * roundToDouble 1 < overflowBound := by
    rw [one]
    omega
  simp [Scaled.fitsDouble, fits]

theorem value_digits {n : Nat} {negative : Bool} (short : n ≤ maxWord)
    (signed : negative = true → n ≠ 0) :
    Numeral.value ⟨negative, Nat.toDigits 10 n, none, none⟩ =
      .int (if negative then -n else n) := by
  have whole : appendDigits 0 (Nat.toDigits 10 n) = (n, []) := by
    have value := digitsValue_toDigits n
    unfold digitsValue at value
    rw [appendDigits_eq (by rwa [value]), value]
  have scaled : Numeral.scaled ⟨negative, Nat.toDigits 10 n, none, none⟩ = ⟨n, 0⟩ := by
    simp [Numeral.scaled, whole, appendDigits, Numeral.exponentValue]
  simp only [Numeral.value, scaled, fitsDouble_word short, digitsValue_toDigits]
  cases negative with
  | false => rfl
  | true => simp [signed rfl]

theorem toList_toString_natCast (n : Nat) : (toString (n : Int)).toList = Nat.toDigits 10 n := by
  show (Nat.repr n).toList = _
  rw [Nat.toList_repr]

theorem toList_toString_negSucc (n : Nat) :
    (toString (Int.negSucc n)).toList = '-' :: Nat.toDigits 10 (n + 1) := by
  show ("-" ++ Nat.repr (n + 1)).toList = _
  rw [String.toList_append, Nat.toList_repr]
  rfl

theorem ofNumber_toString {n : Int} (short : n.natAbs ≤ maxWord) :
    Token.ofNumber (toString n).toList = .scalar (.int n) := by
  cases n with
  | ofNat n =>
    have sign := splitSign_digits (isDigit_toDigits n)
    have value : Numeral.value ⟨false, Nat.toDigits 10 n, none, none⟩ = .int n :=
      value_digits short (by simp)
    rw [Int.ofNat_eq_natCast, toList_toString_natCast, Token.ofNumber, ofChars?_of_splitSign sign]
    simp only [value]
  | negSucc n =>
    have sign : splitSign ('-' :: Nat.toDigits 10 (n + 1)) = (true, Nat.toDigits 10 (n + 1)) := rfl
    have value : Numeral.value ⟨true, Nat.toDigits 10 (n + 1), none, none⟩ = .int (Int.negSucc n) :=
      value_digits short (by simp)
    rw [toList_toString_negSucc, Token.ofNumber, ofChars?_of_splitSign sign]
    simp only [value]

theorem isNumberChar_toString (n : Int) : ∀ c ∈ (toString n).toList, isNumberChar c = true := by
  have digit : ∀ n, ∀ c ∈ Nat.toDigits 10 n, isNumberChar c = true := by
    intro n c hc
    simp [isNumberChar, isDigit_toDigits n c hc]
  cases n with
  | ofNat n =>
    rw [Int.ofNat_eq_natCast, toList_toString_natCast]
    exact digit n
  | negSucc n =>
    rw [toList_toString_negSucc, List.forall_mem_cons]
    exact ⟨by decide, digit (n + 1)⟩

/-- No character comes next that would belong to a number. -/
def Stops (rest : List Char) : Prop := ∀ c ∈ rest.head?, isNumberChar c = false

theorem stops_nil : Stops [] := nofun

theorem stops_cons {c : Char} {rest : List Char} (h : isNumberChar c = false) :
    Stops (c :: rest) := by
  intro d hd
  obtain rfl : c = d := Option.some.inj hd
  exact h

theorem tokensFrom_number {chars rest : List Char} {j : Json} (stops : Stops rest)
    (token : Token.ofNumber chars.reverse = .scalar j) :
    tokensFrom (.number chars) rest = .scalar j :: tokensFrom .between rest := by
  cases rest with
  | nil => simp [tokensFrom, scanEnd, token]
  | cons c rest =>
    have other : isNumberChar c = false := stops c rfl
    simp [tokensFrom, scanChar, other, token]

theorem tokensFrom_numberChars {chars cs rest : List Char}
    (number : ∀ c ∈ cs, isNumberChar c = true) :
    tokensFrom (.number chars) (cs ++ rest) = tokensFrom (.number (cs.reverse ++ chars)) rest := by
  induction cs generalizing chars with
  | nil => rfl
  | cons c cs ih =>
    obtain ⟨first, others⟩ := List.forall_mem_cons.1 number
    simp [tokensFrom, scanChar, first, ih others]

theorem scanBetween_digit {c : Char} (digit : c.isDigit = true) :
    scanBetween c = ([], .number [c]) := by
  have other : ∀ d : Char, d.isDigit = false → c ≠ d := by
    rintro d h rfl
    rw [digit] at h
    contradiction
  simp (disch := decide) [scanBetween, isBlank, digit, other]

theorem scanBetween_toString (n : Int) :
    ∃ c cs, (toString n).toList = c :: cs ∧ scanBetween c = ([], .number [c]) := by
  cases n with
  | ofNat n =>
    obtain ⟨c, cs, chars⟩ := List.exists_cons_of_ne_nil (Nat.toDigits_ne_nil (b := 10) (n := n))
    have digit := isDigit_toDigits n c (by simp [chars])
    exact ⟨c, cs, by rw [Int.ofNat_eq_natCast, toList_toString_natCast, chars],
      scanBetween_digit digit⟩
  | negSucc n => exact ⟨'-', _, toList_toString_negSucc n, rfl⟩

theorem tokensFrom_toString {n : Int} {rest : List Char} (short : n.natAbs ≤ maxWord)
    (stops : Stops rest) :
    tokensFrom .between ((toString n).toList ++ rest) =
      .scalar (.int n) :: tokensFrom .between rest := by
  have number := isNumberChar_toString n
  have token := ofNumber_toString short
  obtain ⟨c, cs, chars, start⟩ := scanBetween_toString n
  rw [chars] at number token ⊢
  rw [List.cons_append, tokensFrom, scanChar, start, List.nil_append]
  rw [tokensFrom_numberChars (List.forall_mem_cons.1 number).2]
  exact tokensFrom_number stops (by simpa using token)

/-! ## Texts -/

theorem not_surrogate (c : Char) :
    isHighSurrogate c.toNat = false ∧ isLowSurrogate c.toNat = false := by
  have valid : c.toNat.isValidChar := c.valid
  unfold Nat.isValidChar at valid
  unfold isHighSurrogate isLowSurrogate
  simp only [Bool.and_eq_false_imp, decide_eq_true_eq, decide_eq_false_iff_not]
  omega

theorem spellFrom_toNat (out cs : List Char) :
    spellFrom out none (cs.map Char.toNat) = some (out.reverse ++ cs) := by
  induction cs generalizing out with
  | nil => simp [spellFrom]
  | cons c cs ih =>
    obtain ⟨not_high, not_low⟩ := not_surrogate c
    simp [spellFrom, not_high, not_low, ih, Char.ofNat_toNat]

theorem spell_toNat (s : String) : spell (s.toList.map Char.toNat) = some s := by
  rw [spell, spellFrom_toNat]
  simp

theorem toList_hexDigits {n : Nat} (h : n < 32) :
    (hexDigits n).toList = ['0', '0', Nat.digitChar (n / 16), Nat.digitChar (n % 16)] := by
  unfold hexDigits
  by_cases small : n < 16
  · rw [Nat.toDigits_of_lt_base small, Nat.div_eq_of_lt small, Nat.mod_eq_of_lt small]
    simp
  · rw [Nat.toDigits_of_base_le (by decide) (by omega)]
    rw [Nat.toDigits_of_lt_base (b := 16) (n := n / 16) (by omega)]
    simp

theorem hexValue?_digitChar {d : Nat} (h : d < 16) : hexValue? (Nat.digitChar d) = some d := by
  revert h d
  decide

theorem tokensFrom_hexDigit (units : List Nat) (left value : Nat) {d : Nat} (h : d < 16)
    (rest : List Char) :
    tokensFrom (.hex units (left + 2) value) (Nat.digitChar d :: rest) =
      tokensFrom (.hex units (left + 1) (16 * value + d)) rest := by
  simp [tokensFrom, scanChar, hexValue?_digitChar h]

theorem tokensFrom_lastHexDigit (units : List Nat) (value : Nat) {d : Nat} (h : d < 16)
    (rest : List Char) :
    tokensFrom (.hex units 1 value) (Nat.digitChar d :: rest) =
      tokensFrom (.text ((16 * value + d) :: units)) rest := by
  simp [tokensFrom, scanChar, hexValue?_digitChar h]

theorem tokensFrom_escaped (units : List Nat) (c : Char) (rest : List Char) :
    tokensFrom (.text units) ((escaped c).toList ++ rest) =
      tokensFrom (.text (c.toNat :: units)) rest := by
  unfold escaped
  split
  case isTrue quote =>
    subst quote
    rfl
  case isFalse not_quote =>
    split
    case isTrue backslash =>
      subst backslash
      rfl
    case isFalse not_backslash =>
      split
      case isTrue control =>
        -- Four digits spell the unit, and below 32 the first two are zeros.
        rw [String.toList_append, toList_hexDigits control]
        show tokensFrom (.hex units 2 0) (_ :: _ :: rest) = _
        rw [tokensFrom_hexDigit units 0 0 (by omega), tokensFrom_lastHexDigit units _ (by omega)]
        rw [Nat.mul_zero, Nat.zero_add, Nat.div_add_mod]
      case isFalse printable =>
        simp [tokensFrom, scanChar, not_quote, not_backslash, printable]

theorem tokensFrom_escapes (units : List Nat) (cs rest : List Char) :
    tokensFrom (.text units) (cs.flatMap (fun c => (escaped c).toList) ++ rest) =
      tokensFrom (.text ((cs.map Char.toNat).reverse ++ units)) rest := by
  induction cs generalizing units with
  | nil => rfl
  | cons c cs ih =>
    rw [List.flatMap_cons, List.append_assoc, tokensFrom_escaped, ih]
    simp

theorem tokensFrom_text (s : String) (rest : List Char) :
    tokensFrom .between ('"' :: (s.toList.flatMap (fun c => (escaped c).toList) ++ '"' :: rest)) =
      .text (some s) :: tokensFrom .between rest := by
  show tokensFrom (.text []) _ = _
  rw [tokensFrom_escapes]
  show Token.text (spell _) :: tokensFrom .between rest = _
  simp [spell_toNat]

end Parliament.Json
