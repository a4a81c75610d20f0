import ListenQuery.Json.Writer
import ListenQuery.Number.Literal
import ListenQuery.Proofs.Number.DecimalText

/-!
# Numbers as literals

A decimal is a literal that spells its double, as it has no mark of a base and no letter of
infinity. The text that a number has in data is a decimal, and so it is a literal that spells the
double of that number.
-/

namespace ListenQuery.Number

open Text

def IsNumberChar (c : Char) : Prop := isDigit c = true ∨ c ∈ ['-', '+', '.', 'e']

theorem IsNumberChar.not_blank {c : Char} (h : IsNumberChar c) : isBlank c = false := by
  rcases h with hdigit | hmark
  · have hrange := toNat_of_isDigit hdigit
    simp only [isBlank, Bool.or_eq_false_iff, Bool.and_eq_false_iff, decide_eq_false_iff_not]
    omega
  · have hnone : ['-', '+', '.', 'e'].all (! isBlank ·) = true := rfl
    simpa using List.all_eq_true.1 hnone c hmark

section

variable {t : DecimalText} {cs : List Char} {x : Double}

theorem DecimalText.IsProper.chars (h : t.IsProper) : ∀ c ∈ t.text, IsNumberChar c ∨ c = 'E' := by
  have hsign {sign : List Char} (hsign : IsSign sign) : ∀ c ∈ sign, IsNumberChar c ∨ c = 'E' := by
    obtain rfl | rfl | rfl := hsign <;> simp [IsNumberChar]
  have hdigits {ds : List Char} (hds : AreDigits ds) : ∀ c ∈ ds, IsNumberChar c ∨ c = 'E' :=
    fun c hc => .inl (.inl (hds c hc))
  obtain ⟨sign, whole, fraction, power⟩ := t
  simp only [text, unsignedText, List.forall_mem_append]
  refine ⟨hsign h.sign, hdigits h.whole, ?_, ?_⟩
  · cases fraction with
    | none => exact List.forall_mem_nil _
    | some ds =>
      exact List.forall_mem_cons.2 ⟨.inl (.inr (by simp)), hdigits (h.fraction ds rfl)⟩
  · cases power with
    | none => exact List.forall_mem_nil _
    | some e =>
      have he := h.power e rfl
      refine List.forall_mem_cons.2 ⟨he.letter.imp_left fun hletter => .inr ?_, ?_⟩
      · rw [hletter]
        simp
      · exact List.forall_mem_append.2 ⟨hsign he.sign, hdigits he.digits⟩

theorem DecimalText.IsProper.not_blank (h : t.IsProper) : ∀ c ∈ t.text, isBlank c = false := by
  intro c hc
  obtain hchar | rfl := h.chars c hc
  · exact hchar.not_blank
  · rfl

/-! ## Kinds of literals -/

/-- The letters behind the zero of a prefix, each with the number of bits in a digit. -/
def radixMarks : List (Char × Nat) :=
  [('x', 4), ('X', 4), ('o', 3), ('O', 3), ('b', 1), ('B', 1)]

theorem readTrimmed_mark {mark : Char} {width : Nat} (hmark : (mark, width) ∈ radixMarks)
    (digits : List Char) :
    readTrimmed ('0' :: mark :: digits) = readRadix (2 ^ width) digits := by
  simp only [radixMarks, List.mem_cons, Prod.mk.injEq, List.not_mem_nil, or_false] at hmark
  obtain ⟨rfl, rfl⟩ | ⟨rfl, rfl⟩ | ⟨rfl, rfl⟩ | ⟨rfl, rfl⟩ | ⟨rfl, rfl⟩ | ⟨rfl, rfl⟩ := hmark <;>
    rfl

theorem readInfinity_eq_some_iff : readInfinity cs = some x ↔
    ∃ sign, IsSign sign ∧ cs = sign ++ "Infinity".toList ∧
      x = .infinity (decide (sign = ['-'])) := by
  constructor
  · intro h
    unfold readInfinity at h
    split_ifs at h with hplus hminus
    · rw [Bool.or_eq_true, decide_eq_true_eq, decide_eq_true_eq] at hplus
      obtain hcs | hcs := hplus
      · exact ⟨[], .inl rfl, hcs, (Option.some.inj h).symm⟩
      · exact ⟨['+'], .inr (.inl rfl), hcs, (Option.some.inj h).symm⟩
    · exact ⟨['-'], .inr (.inr rfl), hminus, (Option.some.inj h).symm⟩
  · intro h
    obtain ⟨sign, rfl | rfl | rfl, rfl, rfl⟩ := h <;> rfl

theorem readTrimmed_eq (hne : cs ≠ [])
    (hmark : ∀ mark ∈ radixMarks, ∀ digits, cs ≠ '0' :: mark.1 :: digits) :
    readTrimmed cs = (readInfinity cs).or ((readDecimal cs).map Decimal.toDouble) := by
  unfold readTrimmed
  split
  · exact absurd rfl hne
  · exact absurd rfl (hmark ('x', 4) (by decide) _)
  · exact absurd rfl (hmark ('X', 4) (by decide) _)
  · exact absurd rfl (hmark ('o', 3) (by decide) _)
  · exact absurd rfl (hmark ('O', 3) (by decide) _)
  · exact absurd rfl (hmark ('b', 1) (by decide) _)
  · exact absurd rfl (hmark ('B', 1) (by decide) _)
  · cases readInfinity cs <;> rfl

theorem DecimalText.IsProper.readTrimmed_text (h : t.IsProper) :
    readTrimmed t.text = some t.decimal.toDouble := by
  have hother {c : Char} (hc : ¬ (IsNumberChar c ∨ c = 'E')) : c ∉ t.text := mt (h.chars c) hc
  have hne : t.text ≠ [] := by
    have hdigits := h.ne_nil
    obtain ⟨sign, whole, fraction, power⟩ := t
    cases fraction <;> simp_all [text, unsignedText, pointText, digits]
  have hmark : ∀ mark ∈ radixMarks, ∀ digits, t.text ≠ '0' :: mark.1 :: digits := by
    intro mark hmark digits heq
    have hletter : ∀ mark ∈ radixMarks, ¬ (IsNumberChar mark.1 ∨ mark.1 = 'E') := by
      simp [radixMarks, IsNumberChar, isDigit]
    exact hother (hletter mark hmark) (by simp [heq])
  have hinfinity : readInfinity t.text = none := by
    rw [Option.eq_none_iff_forall_ne_some]
    intro x hx
    obtain ⟨sign, -, heq, -⟩ := readInfinity_eq_some_iff.1 hx
    have hletter : ¬ (IsNumberChar 'I' ∨ 'I' = 'E') := by simp [IsNumberChar, isDigit]
    exact hother hletter (by simp [heq])
  rw [readTrimmed_eq hne hmark, hinfinity, readDecimal_text h]
  rfl

theorem DecimalText.IsProper.readNumber_text (h : t.IsProper) :
    readNumber (String.ofList t.text) = some t.decimal.toDouble := by
  rw [readNumber, String.toList_ofList, trim_of_not_blank h.not_blank, h.readTrimmed_text]

theorem DecimalText.IsProper.exists_signed (h : t.IsProper) (negative : Bool) :
    ∃ u : DecimalText, u.IsProper ∧ u.text = signed negative t.unsignedText ∧
      u.decimal = { t.decimal with negative := negative } := by
  cases negative with
  | true => exact ⟨{ t with sign := ['-'] }, { h with sign := .inr (.inr rfl) }, rfl, rfl⟩
  | false => exact ⟨{ t with sign := [] }, { h with sign := isSign_nil }, rfl, rfl⟩

end

/-! ## Numbers in data -/

theorem exists_decimalText_natText (negative : Bool) (n : Nat) :
    ∃ t : DecimalText, t.IsProper ∧ t.text = signed negative (natText n) ∧
      t.decimal = ⟨negative, n, 0⟩ := by
  have ht : (DecimalText.mk [] (natText n) none none).IsProper :=
    ⟨isSign_nil, areDigits_natText n, by simp, by simp [natText_ne_nil], by simp⟩
  obtain ⟨u, hu, htext, hdecimal⟩ := ht.exists_signed negative
  refine ⟨u, hu, ?_, ?_⟩
  · simpa [DecimalText.unsignedText] using htext
  · simpa [DecimalText.decimal, spelled_natText] using hdecimal

theorem readNumber_natText (negative : Bool) (n : Nat) :
    readNumber (String.ofList (signed negative (natText n))) = some (.ofRatio negative n 1) := by
  obtain ⟨t, ht, htext, hdecimal⟩ := exists_decimalText_natText negative n
  rw [← htext, ht.readNumber_text, hdecimal, Decimal.toDouble_whole]

def exponentPower (e : Int) : PowerText := ⟨'e', [if e < 0 then '-' else '+'], natText e.natAbs⟩

theorem value_exponentPower (e : Int) : (exponentPower e).value = e := by
  by_cases hneg : e < 0
  · simp [exponentPower, PowerText.value, hneg, spelled_natText, abs_of_neg hneg]
  · simp [exponentPower, PowerText.value, hneg, spelled_natText]
    omega

theorem isProper_exponentPower (e : Int) : (exponentPower e).IsProper := by
  refine ⟨.inl rfl, .inr ?_, areDigits_natText _, natText_ne_nil _⟩
  by_cases hneg : e < 0 <;> simp [exponentPower, hneg]

theorem Spells.exists_decimalText {text whole fraction : List Char} {e : Int}
    (h : Spells text whole fraction e) (hwhole : IsWhole whole) (hfraction : AreDigits fraction) :
    ∃ t : DecimalText, t.IsProper ∧ t.unsignedText = text ∧
      t.decimal = ⟨false, spelled (whole ++ fraction), e - fraction.length⟩ := by
  have hpower {e : Int} : ∀ p ∈ some (exponentPower e), p.IsProper := by
    rintro _ ⟨⟩
    exact isProper_exponentPower e
  have hne (ds : List Char) : whole ++ ds ≠ [] := by simp [hwhole.ne_nil]
  have hpoint : ∀ ds ∈ some fraction, AreDigits ds := by
    rintro _ ⟨⟩
    exact hfraction
  cases h with
  | fixed =>
    refine ⟨⟨[], whole, some fraction, none⟩, ⟨isSign_nil, hwhole.digits, hpoint, hne _, by simp⟩,
      ?_, rfl⟩
    simp [DecimalText.unsignedText]
  | power =>
    refine ⟨⟨[], whole, none, some (exponentPower e)⟩,
      ⟨isSign_nil, hwhole.digits, by simp, hne _, hpower⟩, rfl, ?_⟩
    simp [DecimalText.decimal, value_exponentPower]
  | scientific =>
    refine ⟨⟨[], whole, some fraction, some (exponentPower e)⟩,
      ⟨isSign_nil, hwhole.digits, hpoint, hne _, hpower⟩, rfl, ?_⟩
    simp [DecimalText.decimal, value_exponentPower]

theorem exists_decimalText_text (n : Numeral) :
    ∃ t : DecimalText, t.IsProper ∧ t.text = n.text ∧ t.decimal.toDouble = n.toDouble ∧
      ∀ k hk, n = .integer k hk → t.decimal = ⟨k < 0, k.natAbs, 0⟩ := by
  cases n with
  | integer k hk =>
    have hsigned : signed (k < 0) (natText k.natAbs) = Numeral.text (.integer k hk) := by
      by_cases hneg : k < 0 <;> simp [Numeral.text, intText, signed, hneg]
    obtain ⟨t, ht, htext, hdecimal⟩ := exists_decimalText_natText (k < 0) k.natAbs
    refine ⟨t, ht, htext.trans hsigned, ?_, ?_⟩
    · rw [hdecimal, ← Decimal.ofInt_eq_toDouble, Numeral.toDouble]
    · rintro _ _ ⟨⟩
      exact hdecimal
  | real x hx =>
    obtain ⟨text, whole, fraction, e, htext, hwhole, hfraction, hspells, hvalue⟩ :=
      exists_spells_dataText hx
    obtain ⟨t, ht, rfl, hdecimal⟩ := hspells.exists_decimalText hwhole hfraction
    obtain ⟨u, hu, hutext, hudecimal⟩ := ht.exists_signed x.negative
    refine ⟨u, hu, hutext.trans htext.symm, ?_, fun k hk heq => ?_⟩
    · rw [hudecimal, hdecimal, hvalue, Numeral.toDouble]
    · cases heq

theorem readNumber_text (n : Numeral) : readNumber (String.ofList n.text) = some n.toDouble := by
  obtain ⟨t, ht, htext, hvalue, -⟩ := exists_decimalText_text n
  rw [← htext, ht.readNumber_text, hvalue]

end ListenQuery.Number
