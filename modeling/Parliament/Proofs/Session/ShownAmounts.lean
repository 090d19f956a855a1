import Parliament.Proofs.Description
import Parliament.Proofs.Json.Token
import Parliament.Proofs.Session.Currencies
import Parliament.Proofs.Wording.Filling

/-! # Amounts in words

A change of currency is described by whom it pays and by an amount with a sign. Whoever reads the
text can tell the amount, and it is what a balance moves by each time it is paid. The exception is a
subtraction of less than nothing: the text shows a loss, and the balance rises.
-/

namespace Parliament

/-! ## Numbers in a text -/

theorem toList_toString (n : Int) : (toString n).toList =
    if 0 ≤ n then Nat.toDigits 10 n.toNat else '-' :: Nat.toDigits 10 (-n).toNat := by
  rw [Int.toString_eq_repr, Int.repr_eq_if]
  split <;> simp

theorem minus_not_mem_toDigits (n : Nat) : '-' ∉ Nat.toDigits 10 n := fun mem =>
  absurd (Json.isDigit_toDigits n _ mem) (by decide)

theorem blank_not_mem_toString (n : Int) : ' ' ∉ (toString n).toList := by
  have digits (k : Nat) : ' ' ∉ Nat.toDigits 10 k := fun mem =>
    absurd (Json.isDigit_toDigits k _ mem) (by decide)
  rw [toList_toString]
  split
  · exact digits _
  · simp [digits]

theorem toDigits_inj {m n : Nat} (h : Nat.toDigits 10 m = Nat.toDigits 10 n) : m = n := by
  rw [← Json.digitsValue_toDigits m, h, Json.digitsValue_toDigits]

theorem toString_inj {m n : Int} (h : toString m = toString n) : m = n := by
  have digits := congrArg String.toList h
  rw [toList_toString, toList_toString] at digits
  split at digits
  next positive =>
    split at digits
    next =>
      have same := toDigits_inj digits
      omega
    next => exact absurd (digits ▸ List.mem_cons_self) (minus_not_mem_toDigits m.toNat)
  next negative =>
    split at digits
    next => exact absurd (digits ▸ List.mem_cons_self) (minus_not_mem_toDigits n.toNat)
    next =>
      have same := toDigits_inj (List.tail_eq_of_cons_eq digits)
      omega

/-- The last word of the text is a sign and a number. A plus is followed by the amount, and a minus
by its opposite. -/
def Shows (text : String) (amount : Int) : Prop :=
  ∃ about word, text = about ++ " " ++ word ∧
    (word = "+" ++ toString amount ∨ word = "-" ++ toString (-amount))

theorem lastWord_unique {about other word last : String} (unspaced : ' ' ∉ word.toList)
    (unspaced' : ' ' ∉ last.toList) (same : about ++ " " ++ word = other ++ " " ++ last) :
    word = last := by
  have backwards := congrArg (fun text => text.toList.reverse) same
  simp only [String.toList_append, List.reverse_append, ← List.append_assoc] at backwards
  have begins : word.toList.reverse ++ [' '] <+:
      last.toList.reverse ++ ' ' :: other.toList.reverse :=
    ⟨about.toList.reverse, by simpa using backwards⟩
  have whole := Wording.eq_of_begins (by simpa using unspaced) (by simpa using unspaced') begins
  exact String.toList_inj.1 (List.reverse_inj.1 whole)

theorem Shows.unique {text : String} {m n : Int} (h : Shows text m) (k : Shows text n) :
    m = n := by
  obtain ⟨about, word, rfl, first⟩ := h
  obtain ⟨other, last, same, second⟩ := k
  have unspaced {word : String} {n : Int}
      (written : word = "+" ++ toString n ∨ word = "-" ++ toString (-n)) : ' ' ∉ word.toList := by
    rcases written with rfl | rfl
    · simpa using blank_not_mem_toString n
    · simpa using blank_not_mem_toString (-n)
  have signs (a b : String) : "+" ++ a ≠ "-" ++ b := fun same => by
    simpa using congrArg (fun text => text.toList.head?) same
  obtain rfl := lastWord_unique (unspaced first) (unspaced second) same
  rcases first with plus | minus
  · rcases second with plus' | minus'
    · exact toString_inj ((String.append_right_inj "+").1 (plus.symm.trans plus'))
    · exact absurd (plus.symm.trans minus') (signs _ _)
  · rcases second with plus' | minus'
    · exact absurd (plus'.symm.trans minus) (signs _ _)
    · have opposite := toString_inj ((String.append_right_inj "-").1 (minus.symm.trans minus'))
      omega

namespace Wording

variable {v : String × String}

theorem begins_of_begins_append {p l m : List Char} {c : Char} (free : c ∉ p)
    (begins : p <+: l ++ c :: m) : p <+: l := by
  rcases List.prefix_or_prefix_of_prefix begins (List.prefix_append l (c :: m)) with short | long
  · exact short
  · obtain ⟨k, rfl⟩ := long
    rw [List.prefix_append_right_inj] at begins
    cases k with
    | nil => simp
    | cons d k =>
      rw [List.cons_prefix_cons] at begins
      simp [begins.1] at free

theorem substituteFrom_append_blank (proper : Proper [v]) (unspaced : ' ' ∉ v.1.toList)
    (l m : List Char) : substituteFrom [v] 0 (l ++ ' ' :: m) =
      substituteFrom [v] 0 l ++ ' ' :: substituteFrom [v] 0 m := by
  have gap : ' ' ∉ (place v.1).toList := by simp [toList_place, unspaced]
  induction reading [v.1] l with
  | nil =>
    have unopened : ∀ u ∈ [v], ¬ (place u.1).toList <+: ' ' :: m := fun u _ begins =>
      absurd (eq_brace_of_begins begins) (by decide)
    exact substituteFrom_char unopened
  | @place name rest listed h ih =>
    obtain rfl := List.mem_singleton.1 listed
    have mem : v ∈ [v] := List.mem_singleton_self v
    rw [List.append_assoc, substituteFrom_place proper mem, substituteFrom_place proper mem, ih,
      List.append_assoc]
  | @char c rest free h ih =>
    have free := free v.1 (by simp)
    have whole : ¬ (place v.1).toList <+: c :: rest ++ ' ' :: m := fun begins =>
      free (begins_of_begins_append gap begins)
    rw [List.cons_append] at whole ⊢
    rw [substituteFrom_char (by simpa using whole), substituteFrom_char (by simpa using free), ih,
      List.cons_append]

theorem fill_pair (template : String) (u v : String × String) :
    fill template [u, v] = substitute (substitute template [u]) [v] := by
  have first := fill_concat template [] u
  have second := fill_concat template [u] v
  rw [List.nil_append] at first
  exact second.trans (congrArg (substitute · [v]) first)

theorem proper_singleton (plain : Plain v.1) : Proper [v] := ⟨by simpa using plain, by simp⟩

theorem fill_amount (about amount sign : String) (unbraced : '\x7b' ∉ sign.toList) :
    fill (place "targets" ++ " " ++ (sign ++ place "value"))
        [("targets", about), ("value", amount)] =
      substitute about [("value", amount)] ++ " " ++ (sign ++ amount) := by
  have targets : Proper [("targets", about)] := proper_singleton (show Plain "targets" by decide)
  have value : Proper [("value", amount)] := proper_singleton (show Plain "value" by decide)
  have unspaced : ' ' ∉ "value".toList := by decide
  have spaced : '\x7b' ∉ ' ' :: sign.toList := by simpa using unbraced
  have template : (place "targets" ++ " " ++ (sign ++ place "value")).toList =
      (place "targets").toList ++ (' ' :: sign.toList ++ ((place "value").toList ++ [])) := by simp
  have first : substituteFrom [("targets", about)] 0
      (place "targets" ++ " " ++ (sign ++ place "value")).toList =
      about.toList ++ ' ' :: (sign.toList ++ ((place "value").toList ++ [])) := by
    rw [template, substituteFrom_place targets (List.mem_singleton_self _),
      substituteFrom_append_of_not_mem spaced,
      substituteFrom_unlisted targets (by decide) (by simp), List.cons_append]
    rfl
  -- The text filled in for the targets may be changed once more, but nothing behind it.
  have second : substituteFrom [("value", amount)] 0
      (about.toList ++ ' ' :: (sign.toList ++ ((place "value").toList ++ []))) =
      substituteFrom [("value", amount)] 0 about.toList ++
        ' ' :: (sign.toList ++ amount.toList) := by
    rw [substituteFrom_append_blank value unspaced, substituteFrom_append_of_not_mem unbraced,
      substituteFrom_place value (List.mem_singleton_self _), substituteFrom, List.append_nil]
  rw [fill_pair, ← String.toList_inj, toList_substitute, toList_substitute, first, second]
  simp [toList_substitute]

theorem render_amount (key sign about amount : String)
    (there : english.get? key = some (place "targets" ++ " " ++ (sign ++ place "value")))
    (unbraced : '\x7b' ∉ sign.toList) :
    ∃ whom, english.render key [("targets", about), ("value", amount)] =
      .ok (whom ++ " " ++ (sign ++ amount)) := by
  rw [render_eq_ok there]
  exact ⟨_, congrArg Except.ok (fill_amount about amount sign unbraced)⟩

theorem covers_english {keys : List String} (needed : keys ⊆ neededKeys) : english.Covers keys :=
  fun key mem => check_eq_ok.1 check_english key (needed mem)

end Wording

/-! ## Shown amounts -/

/-- The amount that a description shows: a subtraction takes what it is worth without its sign. -/
def ProcedureEffect.shownAmount (e : ProcedureEffect) : Int :=
  match e.kind with
  | .currencySubtract => -e.value.toInt.natAbs
  | _ => e.value.toInt

theorem ProcedureEffect.describe_shows {e : ProcedureEffect} (currency : e.kind.isCurrency = true)
    (t : NameTable) : ∃ text, e.describe t .english = .ok text ∧ Shows text e.shownAmount := by
  obtain ⟨text, described⟩ :=
    (e.exists_describe_iff (t := t)).2 (Wording.covers_english e.keys_subset)
  refine ⟨text, described, ?_⟩
  obtain ⟨about, -, rendered⟩ := bind_eq_ok.1 described
  unfold shownValue at rendered
  unfold shownAmount
  cases kind : e.kind with
  | currencyAdd =>
    obtain ⟨whom, same⟩ := Wording.render_amount "effect.currency_add" "+" about
      (toString e.value.toInt) (by rw [Wording.get?_english]; decide +kernel) (by decide)
    rw [kind] at rendered
    obtain rfl := Except.ok.inj (same.symm.trans rendered)
    exact ⟨whom, _, rfl, .inl rfl⟩
  | currencySubtract =>
    obtain ⟨whom, same⟩ := Wording.render_amount "effect.currency_subtract" "-" about
      (toString e.value.toInt.natAbs) (by rw [Wording.get?_english]; decide +kernel) (by decide)
    rw [kind] at rendered
    obtain rfl := Except.ok.inj (same.symm.trans rendered)
    refine ⟨whom, _, rfl, .inr ?_⟩
    dsimp only
    rw [Int.neg_neg]
    rfl
  | _ => simp [kind, ProcedureEffectKind.isCurrency] at currency

theorem BallotEffect.describe_shows {e : BallotEffect} (currency : e.kind = .modifyCurrency)
    (t : NameTable) : ∃ text, e.describe t .english = .ok text ∧ Shows text e.value.toInt := by
  obtain ⟨text, described⟩ :=
    (e.exists_describe_iff (t := t)).2 (Wording.covers_english e.keys_subset)
  refine ⟨text, described, ?_⟩
  obtain ⟨about, -, rendered⟩ := bind_eq_ok.1 described
  obtain ⟨whom, same⟩ := Wording.render_amount "effect.modify_currency" "" about
    e.shownValue (by rw [Wording.get?_english]; decide +kernel) (by decide)
  rw [currency] at rendered
  obtain rfl := Except.ok.inj (same.symm.trans rendered)
  refine ⟨whom, _, rfl, ?_⟩
  unfold shownValue
  split
  next positive => exact .inl rfl
  next negative =>
    refine .inr ?_
    rw [String.empty_append, Int.toString_eq_repr, Int.toString_eq_repr, Int.repr_eq_if,
      Int.repr_eq_if, if_neg negative, if_pos (by omega)]

theorem ProcedureEffect.shownAmount_eq_change_iff {e : ProcedureEffect} :
    e.shownAmount = e.change ↔ ¬ (e.kind = .currencySubtract ∧ e.value.toInt < 0) := by
  have low := e.value.le_toInt
  have high := e.value.toInt_lt
  unfold shownAmount change
  cases e.kind with
  | currencySubtract =>
    dsimp only
    rw [and_iff_right rfl]
    omega
  | _ => simp

theorem ProcedureEffect.gain_shown_as_loss {e : ProcedureEffect}
    (differs : e.shownAmount ≠ e.change) : e.shownAmount < 0 ∧ 0 < e.change := by
  obtain ⟨kind, negative⟩ := not_not.1 (mt shownAmount_eq_change_iff.2 differs)
  unfold shownAmount change
  rw [kind]
  dsimp only
  omega

namespace Session

variable {γ α : Type} {s : Session γ α}

theorem exists_moved (delta : Int8) (c : Changes) {payees : List Ident}
    (kept : ∀ currency ∈ payees, s.house.balances.contains currency = true) :
    ∃ q, s.adjustBalances delta payees c = .ok q ∧
      Moved delta.toInt (fun currency => payees.count currency) (s, c) q := by
  obtain ⟨house, adjusted⟩ := House.exists_adjustBalances delta kept
  have paid : s.adjustBalances delta payees c = .ok _ := bind_eq_ok.2 ⟨house, adjusted, rfl⟩
  exact ⟨_, paid, moved_of_adjustBalances paid⟩

variable [Chance γ]

/-- The text of an effect on currencies shows one amount. Each time that the effect pays a currency
the balance moves by this amount, as far as it has room, unless a negative value is subtracted: then
the text shows a loss, and the balance gains. -/
theorem shown_amount_applied (t : NameTable) :
    (∀ e : ProcedureEffect, e.kind.isCurrency = true →
      (∃ text, e.describe t .english = .ok text ∧ ∀ n, Shows text n ↔ n = e.shownAmount) ∧
      (∀ (s : Session γ α) (c : Changes) (scope : Scope) (id : Ident) (payees : List Ident),
        scope.holdsBack = false → s.effectPayees scope e.targets = .ok payees →
        (∀ currency ∈ payees, s.house.balances.contains currency = true) →
        ∃ q, applyProcedureEffect scope s c id e = .ok q ∧
          Moved e.change (fun currency => payees.count currency) (s, c) q) ∧
      (e.shownAmount = e.change ↔ ¬ (e.kind = .currencySubtract ∧ e.value.toInt < 0)) ∧
      (e.shownAmount ≠ e.change → e.shownAmount < 0 ∧ 0 < e.change)) ∧
    (∀ e : BallotEffect, e.kind = .modifyCurrency →
      (∃ text, e.describe t .english = .ok text ∧ ∀ n, Shows text n ↔ n = e.value.toInt) ∧
      (∀ (s : Session γ α) (c : Changes) (payees : List Ident),
        s.house.allPayees s.rulebook e.targets = .ok payees →
        (∀ currency ∈ payees, s.house.balances.contains currency = true) →
        ∃ q, applyBallotEffect s c e = .ok q ∧
          Moved e.value.toInt (fun currency => payees.count currency) (s, c) q)) := by
  have only {text : String} {amount : Int} (shows : Shows text amount) (n : Int) :
      Shows text n ↔ n = amount := ⟨fun also => also.unique shows, fun same => same ▸ shows⟩
  constructor
  · intro e currency
    obtain ⟨text, described, shows⟩ := e.describe_shows currency t
    refine ⟨⟨text, described, only shows⟩, ?_, e.shownAmount_eq_change_iff, e.gain_shown_as_loss⟩
    intro s c scope id payees now found kept
    obtain ⟨q, adjusted, moved⟩ := exists_moved e.delta c kept
    rw [applyProcedureEffect_currency currency now, found, ok_bind]
    exact ⟨q, adjusted, e.toInt_delta ▸ moved⟩
  · intro e currency
    obtain ⟨text, described, shows⟩ := e.describe_shows currency t
    refine ⟨⟨text, described, only shows⟩, ?_⟩
    intro s c payees found kept
    obtain ⟨q, adjusted, moved⟩ := exists_moved e.value c kept
    unfold applyBallotEffect
    rw [currency]
    dsimp only
    rw [found, ok_bind]
    exact ⟨q, adjusted, moved⟩

theorem shown_amount_applied_levy :
    let s := levyMeets.after adaBegin
    let e : ProcedureEffect := ⟨.currencySubtract, [.stateFunds, ⟨1⟩], 2, rfl⟩
    (∃ text, e.describe s.names .english = .ok text ∧ ∀ n, Shows text n ↔ n = -2) ∧
      s.house.balances.get? ⟨1⟩ = some 5 ∧
      ∃ q, applyProcedureEffect (.declared ⟨1⟩) s {} ⟨8⟩ e = .ok q ∧
        q.1.house.balances.get? ⟨1⟩ = some (5 - 2 - 2) := by
  intro s e
  have before : s.house.balances.get? ⟨1⟩ = some 5 := by decide +kernel
  have payees : s.effectPayees (.declared ⟨1⟩) e.targets = .ok [⟨1⟩, ⟨1⟩] := by decide +kernel
  obtain ⟨described, applied, -⟩ :=
    (@shown_amount_applied DrawScript StatusQuo _ s.names).1 e rfl
  obtain ⟨q, applied, moved⟩ := applied s {} (.declared ⟨1⟩) ⟨8⟩ [⟨1⟩, ⟨1⟩] rfl payees
    (by decide +kernel)
  refine ⟨described, before, q, applied, ?_⟩
  rw [moved.balances, before]
  rfl

def rebate : Procedure :=
  ⟨⟨8⟩, "Rebate", .declared .always [] [], [⟨.currencySubtract, [⟨1⟩], -5, rfl⟩]⟩

def rebateParish : Rulebook := { parish with procedures := parish.procedures ++ [rebate] }

def rebateMeets : Session DrawScript StatusQuo := opening rebateParish (.constant 3) {}

theorem reachable_rebateMeets : Reachable rebateMeets :=
  .start (start_of_check (check_of_english rfl rfl) _ _)

/-- The text shows that five are taken, and five are given. -/
theorem rebate_shown_as_loss :
    let s := rebateMeets.after adaBegin
    let e : ProcedureEffect := ⟨.currencySubtract, [⟨1⟩], -5, rfl⟩
    Reachable s ∧ rebate ∈ s.rulebook.procedures ∧ e ∈ rebate.effects ∧
      e.describe s.names .english = .ok "Alms -5" ∧ Shows "Alms -5" (-5) ∧
      s.house.balances.get? ⟨1⟩ = some 5 ∧
      (s.perform (.declare ⟨1⟩ rebate.id)).map
          (fun o => (o.answer, o.session.house.balances.get? ⟨1⟩)) =
        .ok (.declared .confirmed, some 10) := by
  intro s e
  have described : e.describe s.names .english = .ok "Alms -5" := by
    rw [ProcedureEffect.describe]
    simp only [Wording.render_english]
    decide +kernel
  exact ⟨reachable_rebateMeets.after adaBegin, by decide +kernel, by decide, described,
    ⟨"Alms", "-5", rfl, .inr rfl⟩, by decide +kernel, by decide +kernel⟩

end Session

end Parliament
