import ListenQuery.Proofs.Number.DataText
import ListenQuery.Proofs.Text.Trim

/-!
# Decimals as they are written

A decimal has digits before and after a point, at least one in all. The point may be missing, and so
may the sign in front and the exponent behind. A text is read as a decimal if and only if it is
written in this way.
-/

namespace ListenQuery.Number

open Text

def IsSign (cs : List Char) : Prop := cs = [] ∨ cs = ['+'] ∨ cs = ['-']

structure PowerText where
  letter : Char
  sign : List Char
  digits : List Char

namespace PowerText

def text (e : PowerText) : List Char := e.letter :: (e.sign ++ e.digits)

def value (e : PowerText) : Int :=
  if e.sign = ['-'] then -(spelled e.digits : Int) else spelled e.digits

structure IsProper (e : PowerText) : Prop where
  letter : e.letter = 'e' ∨ e.letter = 'E'
  sign : IsSign e.sign
  digits : AreDigits e.digits
  ne_nil : e.digits ≠ []

end PowerText

/-- A decimal in a text. Without a point there is no fraction. -/
structure DecimalText where
  sign : List Char
  whole : List Char
  fraction : Option (List Char)
  power : Option PowerText

namespace DecimalText

def digits (t : DecimalText) : List Char := t.whole ++ t.fraction.getD []

def pointText (t : DecimalText) : List Char :=
  match t.fraction with
  | none => []
  | some ds => '.' :: ds

def powerText (t : DecimalText) : List Char :=
  match t.power with
  | none => []
  | some e => e.text

def unsignedText (t : DecimalText) : List Char := t.whole ++ (t.pointText ++ t.powerText)

def text (t : DecimalText) : List Char := t.sign ++ t.unsignedText

def powerValue (t : DecimalText) : Int :=
  match t.power with
  | none => 0
  | some e => e.value

def decimal (t : DecimalText) : Decimal :=
  ⟨decide (t.sign = ['-']), spelled t.digits, t.powerValue - (t.fraction.getD []).length⟩

structure IsProper (t : DecimalText) : Prop where
  sign : IsSign t.sign
  whole : AreDigits t.whole
  fraction : ∀ ds ∈ t.fraction, AreDigits ds
  ne_nil : t.digits ≠ []
  power : ∀ e ∈ t.power, e.IsProper

section

variable {sign whole ds : List Char} {fraction : Option (List Char)} {power : Option PowerText}
  {e : PowerText}

@[simp] theorem digits_none : digits ⟨sign, whole, none, power⟩ = whole := List.append_nil whole

@[simp] theorem digits_some : digits ⟨sign, whole, some ds, power⟩ = whole ++ ds := rfl

@[simp] theorem pointText_none : pointText ⟨sign, whole, none, power⟩ = [] := rfl

@[simp] theorem pointText_some : pointText ⟨sign, whole, some ds, power⟩ = '.' :: ds := rfl

@[simp] theorem powerText_none : powerText ⟨sign, whole, fraction, none⟩ = [] := rfl

@[simp] theorem powerText_some : powerText ⟨sign, whole, fraction, some e⟩ = e.text := rfl

@[simp] theorem powerValue_none : powerValue ⟨sign, whole, fraction, none⟩ = 0 := rfl

@[simp] theorem powerValue_some : powerValue ⟨sign, whole, fraction, some e⟩ = e.value := rfl

end

end DecimalText

/-! ## Signs -/

section

variable {cs rest : List Char} {negative : Bool}

theorem isSign_nil : IsSign [] := .inl rfl

theorem exists_sign (cs : List Char) : ∃ sign, IsSign sign ∧ cs = sign ++ (readSign cs).2 ∧
    (readSign cs).1 = decide (sign = ['-']) := by
  unfold readSign
  split
  · exact ⟨['-'], .inr (.inr rfl), rfl, rfl⟩
  · exact ⟨['+'], .inr (.inl rfl), rfl, rfl⟩
  · exact ⟨[], isSign_nil, rfl, rfl⟩

theorem readSign_append {sign : List Char} (hsign : IsSign sign)
    (hrest : ∀ c ∈ rest.head?, c ≠ '-' ∧ c ≠ '+') :
    readSign (sign ++ rest) = (decide (sign = ['-']), rest) := by
  obtain rfl | rfl | rfl := hsign
  · cases rest with
    | nil => rfl
    | cons c rest =>
      obtain ⟨hminus, hplus⟩ := hrest c rfl
      simp [readSign, hminus, hplus]
  · rfl
  · rfl

theorem ne_sign_of_isDigit {c : Char} (hc : isDigit c = true) : c ≠ '-' ∧ c ≠ '+' := by
  constructor
  · rintro rfl
    cases hc
  · rintro rfl
    cases hc

/-! ## Exponents -/

theorem readExponent_eq_some_iff {n : Int} :
    readExponent cs = some n ↔ ∃ t : DecimalText, (∀ e ∈ t.power, e.IsProper) ∧
      cs = t.powerText ∧ n = t.powerValue := by
  constructor
  · intro h
    cases cs with
    | nil => exact ⟨⟨[], [], none, none⟩, by simp, rfl, (Option.some.inj h).symm⟩
    | cons c cs =>
      obtain ⟨sign, hsign, hcs, hnegative⟩ := exists_sign cs
      simp only [readExponent, hnegative, Option.ite_none_right_eq_some,
        Option.ite_none_left_eq_some, Option.some.injEq, Bool.or_eq_true, decide_eq_true_eq,
        Bool.not_eq_true', List.isEmpty_iff, List.all_eq_false, not_or, not_exists, not_and,
        not_not] at h
      obtain ⟨hletter, ⟨hne, hdigits⟩, rfl⟩ := h
      refine ⟨⟨[], [], none, some ⟨c, sign, (readSign cs).2⟩⟩, ?_, ?_, rfl⟩
      · rintro _ ⟨⟩
        exact ⟨hletter, hsign, hdigits, hne⟩
      · exact congrArg (c :: ·) hcs
  · intro h
    obtain ⟨⟨_, _, _, power⟩, hpower, rfl, rfl⟩ := h
    cases power with
    | none => rfl
    | some e =>
      obtain ⟨letter, sign, ds⟩ := e
      obtain ⟨hletter, hsign, hdigits, hne⟩ := hpower _ rfl
      have hstart : ∀ c ∈ ds.head?, c ≠ '-' ∧ c ≠ '+' :=
        fun c hc => ne_sign_of_isDigit (hdigits c (List.mem_of_mem_head? hc))
      have hall : ds.all isDigit = true := List.all_eq_true.2 hdigits
      obtain rfl | rfl := hletter <;>
        simp [readExponent, PowerText.text, PowerText.value, readSign_append hsign hstart, hne,
          hall]

/-! ## Decimals without a sign -/

theorem DecimalText.powerText_not_isDigit {t : DecimalText} (h : ∀ e ∈ t.power, e.IsProper) :
    ∀ c ∈ t.powerText.head?, isDigit c = false ∧ c ≠ '.' := by
  obtain ⟨_, _, _, power⟩ := t
  cases power with
  | none => simp [powerText]
  | some e =>
    rintro c ⟨⟩
    obtain hletter | hletter := (h e rfl).letter
    · rw [hletter]
      decide
    · rw [hletter]
      decide

theorem DecimalText.IsProper.not_isDigit {t : DecimalText} (h : t.IsProper) :
    ∀ c ∈ (t.pointText ++ t.powerText).head?, isDigit c = false := by
  intro c hc
  unfold pointText at hc
  split at hc
  · exact (powerText_not_isDigit h.power c hc).1
  · obtain ⟨⟩ := hc
    rfl

theorem readUnsigned_eq (negative : Bool) (cs : List Char) :
    ∃ whole fraction rest, AreDigits whole ∧ (∀ ds ∈ fraction, AreDigits ds) ∧
      cs = whole ++ (DecimalText.mk [] whole fraction none).pointText ++ rest ∧
      readUnsigned negative cs =
        if whole ++ fraction.getD [] = [] then none
        else (readExponent rest).map fun e =>
          ⟨negative, spelled (whole ++ fraction.getD []), e - (fraction.getD []).length⟩ := by
  have hwhole : AreDigits (cs.takeWhile isDigit) := fun _ => List.mem_takeWhile_imp
  have hcs := List.takeWhile_append_dropWhile (p := isDigit) (l := cs)
  unfold readUnsigned
  dsimp only
  generalize cs.takeWhile isDigit = whole at hwhole hcs
  generalize cs.dropWhile isDigit = rest at hcs
  subst hcs
  cases rest with
  | nil => exact ⟨whole, none, [], hwhole, by simp, by simp, by simp⟩
  | cons c rest =>
    by_cases hc : c = '.'
    · subst hc
      refine ⟨whole, some (rest.takeWhile isDigit), rest.dropWhile isDigit, hwhole, ?_, ?_, ?_⟩
      · rintro _ ⟨⟩
        exact fun _ => List.mem_takeWhile_imp
      · simp
      · simp
    · refine ⟨whole, none, c :: rest, hwhole, by simp, by simp, ?_⟩
      simp [hc]

theorem readUnsigned_text {t : DecimalText} (h : t.IsProper) (negative : Bool) :
    readUnsigned negative t.unsignedText =
      some ⟨negative, spelled t.digits, t.powerValue - (t.fraction.getD []).length⟩ := by
  have hend := DecimalText.powerText_not_isDigit h.power
  have hread : readExponent t.powerText = some t.powerValue :=
    readExponent_eq_some_iff.2 ⟨t, h.power, rfl, rfl⟩
  have hne := h.ne_nil
  rw [readUnsigned, DecimalText.unsignedText]
  simp only [takeWhile_append_stop h.whole h.not_isDigit,
    dropWhile_append_stop h.whole h.not_isDigit]
  unfold DecimalText.digits at hne ⊢
  unfold DecimalText.pointText
  cases hfraction : t.fraction with
  | none =>
    have hwhole : t.whole ≠ [] := by simpa [hfraction] using hne
    cases hpower : t.powerText with
    | nil => simp [hwhole, ← hread, hpower]
    | cons c rest =>
      have hc : c ≠ '.' := (hend c (by rw [hpower]; rfl)).2
      simp [hwhole, hc, ← hread, hpower]
  | some ds =>
    have hds := h.fraction ds hfraction
    have hstop : ∀ c ∈ t.powerText.head?, isDigit c = false := fun c hc => (hend c hc).1
    have hdigits : ¬ (t.whole = [] ∧ ds = []) := by simpa [hfraction] using hne
    simp [takeWhile_append_stop hds hstop, dropWhile_append_stop hds hstop, hdigits, hread]

theorem DecimalText.IsProper.head {t : DecimalText} (h : t.IsProper) :
    ∀ c ∈ t.unsignedText.head?, isDigit c = true ∨ c = '.' := by
  obtain ⟨sign, whole, fraction, power⟩ := t
  cases whole with
  | cons c whole =>
    rintro _ ⟨⟩
    exact .inl (h.whole c List.mem_cons_self)
  | nil =>
    cases fraction with
    | none => exact absurd rfl h.ne_nil
    | some ds =>
      rintro _ ⟨⟩
      exact .inr rfl

/-! ## Decimals -/

theorem readDecimal_text {t : DecimalText} (h : t.IsProper) :
    readDecimal t.text = some t.decimal := by
  have hstart : ∀ c ∈ t.unsignedText.head?, c ≠ '-' ∧ c ≠ '+' := by
    intro c hc
    obtain hdigit | rfl := h.head c hc
    · exact ne_sign_of_isDigit hdigit
    · decide
  rw [readDecimal, DecimalText.text, readSign_append h.sign hstart]
  exact readUnsigned_text h _

theorem readDecimal_eq_some_iff {d : Decimal} :
    readDecimal cs = some d ↔ ∃ t : DecimalText, t.IsProper ∧ cs = t.text ∧ d = t.decimal := by
  constructor
  · intro h
    obtain ⟨sign, hsign, hcs, hnegative⟩ := exists_sign cs
    change readUnsigned (readSign cs).1 (readSign cs).2 = some d at h
    rw [hnegative] at h
    obtain ⟨whole, fraction, rest, hwhole, hfraction, hrest, hread⟩ :=
      readUnsigned_eq (decide (sign = ['-'])) (readSign cs).2
    rw [hread, Option.ite_none_left_eq_some, Option.map_eq_some_iff] at h
    obtain ⟨hne, n, hn, rfl⟩ := h
    obtain ⟨⟨_, _, _, power⟩, hpower, rfl, rfl⟩ := readExponent_eq_some_iff.1 hn
    refine ⟨⟨sign, whole, fraction, power⟩, ⟨hsign, hwhole, hfraction, hne, hpower⟩, ?_, rfl⟩
    rw [hcs, hrest, List.append_assoc]
    rfl
  · intro h
    obtain ⟨t, ht, rfl, rfl⟩ := h
    exact readDecimal_text ht

end

end ListenQuery.Number
